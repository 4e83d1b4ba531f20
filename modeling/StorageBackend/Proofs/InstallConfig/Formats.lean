import StorageBackend.Proofs.InstallConfig.Choice
import StorageBackend.Proofs.InstallConfig.Documents
import StorageBackend.Proofs.Json.Tree
import StorageBackend.Proofs.Yaml.Tree

/-!
# Installation configurations in two formats

The same configuration may be written in JSON and in YAML, with its members in any order, with other
members between them, and with nulls for defaults. `json_and_yaml_agree` says that the format does
not matter: both texts of a document are decoded to the configuration that it holds, or both are
refused for the same field if a field is given twice.
-/

namespace StorageBackend.InstallConfig

open StorageBackend.Tree (Member Phrase Proper Repeats)

/-! ## Choosing the format -/

/-- A document in JSON begins with a brace. -/
theorem decode_json {block : List Member} {text : List Char}
    (h : Json.Writes (.block block) text) : decode (String.ofList text) = ofJson text := by
  cases h with
  | block _ members hmembers => exact decode_of_brace (List.dropWhile_cons_of_neg (by decide))

/-- A document in YAML begins with a key. -/
theorem decode_yaml {block : List Member} (h : Yaml.WritableMembers block) (hblock : block ≠ [])
    (newline : Bool) :
    decode (String.ofList (Yaml.documentText block newline)) =
      ofYaml (Yaml.documentText block newline) := by
  obtain ⟨c, rest, htext, hopens⟩ := Yaml.document_text_head h hblock newline
  obtain ⟨hblank, hbrace⟩ := Yaml.of_ascii
    (P := fun c => Yaml.opensLine c = true → Text.isBlank c = false ∧ c ≠ '\x7b') (by decide)
    (Yaml.ascii_of_opens_line hopens) hopens
  have htrim : Text.trimStart (c :: rest) = c :: rest :=
    List.dropWhile_cons_of_neg (by rw [hblank]; exact Bool.false_ne_true)
  rw [htext]
  exact decode_of_other htrim hbrace

/-! ## Both formats -/

/-- Both texts of a document are decoded to the configuration that it holds. If a field is given
twice, both are refused for the same field. -/
theorem json_and_yaml_agree {config : InstallConfig} {block : List Member}
    (h : IsDocument config block) {json : List Char} (hjson : Json.Writes (.block block) json)
    (newline : Bool) :
    ((∀ key, ¬ Repeats InstallConfig.shape (.block block) key) →
        decode (String.ofList json) = .ok config ∧
          decode (String.ofList (Yaml.documentText block newline)) = .ok config) ∧
      ((∃ key, Repeats InstallConfig.shape (.block block) key) →
        ∃ key place, Repeats InstallConfig.shape (.block block) key ∧
          decode (String.ofList json) = .error (.json (.shape (.duplicateField key))) ∧
          decode (String.ofList (Yaml.documentText block newline)) =
            .error (.yaml (.shape place (.duplicateField key)))) := by
  obtain ⟨result, hresult, hanswers⟩ := schema_reads.2 (.block block) h.fits
  obtain rfl : result = config := (Option.some.inj hresult).symm.trans h.holds
  have hfollows : Json.Reader.Follows 3 schema schema := schema_follows Json.correspondence
  obtain ⟨hjsonValue, hjsonError⟩ := Json.run_follows hfollows (by decide) hjson
  have hfollows : Yaml.Reader.Follows 3 schema schema := schema_follows Yaml.correspondence
  obtain ⟨hyamlValue, hyamlError⟩ :=
    Yaml.run_follows hfollows (by decide) h.writable h.nonempty newline
  rw [decode_json hjson, decode_yaml h.writable h.nonempty, ofJson, ofYaml]
  -- The result of reading the tree decides both formats at once.
  rcases hanswers with ⟨hread, hclean⟩ | ⟨key, hrepeats, hread⟩
  · refine ⟨fun _ => ?_, fun ⟨key, hrepeats⟩ => absurd hrepeats (hclean key)⟩
    rw [hjsonValue _ hread, hyamlValue _ hread]
    exact ⟨rfl, rfl⟩
  · refine ⟨fun hclean => absurd hrepeats (hclean key), fun _ => ?_⟩
    obtain ⟨place, hyaml⟩ := hyamlError key hread
    rw [hjsonError key hread, hyaml]
    exact ⟨key, place, hrepeats, rfl, rfl⟩

/-- A document with an unknown member, a plain text, an empty block and a null. -/
def sampleBlock : List Member :=
  [(⟨"notes".toList, false⟩, .text ⟨"say \"hi\"".toList, true⟩),
    (⟨"platform".toList, false⟩, .block
      [(⟨"aws".toList, false⟩, .block
        [(⟨"region".toList, true⟩, .text ⟨"us-east-1".toList, false⟩)]),
        (⟨"none".toList, false⟩, .block [])]),
    (⟨"metadata".toList, false⟩, .null .tilde)]

/-- The configuration that it holds. -/
def sample : InstallConfig :=
  { (default : InstallConfig) with
    platform := { (default : Platform) with aws := some ⟨"us-east-1"⟩, bare := some (.object []) } }

/-- No field of the sample is given twice. -/
theorem proper_sample : Proper InstallConfig.shape (.block sampleBlock) := by
  have haws : Proper AwsPlatform.shape
      (.block [(⟨"region".toList, true⟩, .text ⟨"us-east-1".toList, false⟩)]) := by
    refine Tree.proper_record (by decide) ?_
    rw [List.forall_mem_singleton]
    exact .inr ⟨.text, rfl, fun _ => Tree.proper_text _⟩
  have hplatform : Proper Platform.shape (.block
      [(⟨"aws".toList, false⟩, .block
        [(⟨"region".toList, true⟩, .text ⟨"us-east-1".toList, false⟩)]),
        (⟨"none".toList, false⟩, .block [])]) := by
    refine Tree.proper_record (by decide) ?_
    simp only [List.forall_mem_cons]
    exact ⟨.inr ⟨_, rfl, fun _ => haws⟩, .inr ⟨_, rfl, fun _ => Tree.proper_empty⟩, nofun⟩
  refine Tree.proper_record (by decide) ?_
  simp only [sampleBlock, List.forall_mem_cons]
  exact ⟨.inl ⟨rfl, rfl⟩, .inr ⟨_, rfl, fun _ => hplatform⟩, .inr ⟨_, rfl, nofun⟩, nofun⟩

/-- The sample can be written. -/
theorem writable_sample : Yaml.WritableMembers sampleBlock := by
  have hnotes : Yaml.WritableKey ⟨"notes".toList, false⟩ := Yaml.writable_key_of_is_key rfl
  have hregion : Yaml.WritableKey ⟨"region".toList, true⟩ := Yaml.writable_key_of_is_key rfl
  have hquoted : Yaml.WritablePhrase ⟨"say \"hi\"".toList, true⟩ :=
    ⟨List.all_eq_true.mp rfl, nofun⟩
  have hplain : Yaml.WritablePhrase ⟨"us-east-1".toList, false⟩ :=
    ⟨List.all_eq_true.mp rfl, fun _ => ⟨⟨_, _, rfl, rfl⟩, List.all_eq_true.mp rfl, rfl⟩⟩
  have hplatform : Yaml.WritableMembers
      [(⟨"aws".toList, false⟩, .block
        [(⟨"region".toList, true⟩, .text ⟨"us-east-1".toList, false⟩)]),
        (⟨"none".toList, false⟩, .block [])] :=
    ⟨writable_name (by decide), ⟨hregion, hplain, trivial⟩, writable_name (by decide), trivial,
      trivial⟩
  exact ⟨hnotes, hquoted, writable_name (by decide), hplatform, writable_name (by decide), trivial,
    trivial⟩

/-- The sample is read from its texts in both formats. -/
theorem sample_agrees :
    decode ("\x7b\"notes\":\"say \\\"hi\\\"\"," ++
        "\"platform\":\x7b\"aws\":\x7b\"region\":\"us-east-1\"\x7d,\"none\":\x7b\x7d\x7d," ++
        "\"metadata\":null\x7d") = .ok sample ∧
      decode ("notes: \"say \\\"hi\\\"\"\n" ++
        "platform:\n  aws:\n    \"region\": us-east-1\n  none: \x7b\x7d\n" ++
        "metadata: ~") = .ok sample := by
  have hproper := proper_sample
  have hdocument : IsDocument sample sampleBlock :=
    ⟨hproper.1, writable_sample, List.cons_ne_nil _ _, rfl⟩
  exact (json_and_yaml_agree hdocument (Json.writes_compact _) false).1 hproper.2

end StorageBackend.InstallConfig
