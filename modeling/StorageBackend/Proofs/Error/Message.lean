import StorageBackend.Error
import StorageBackend.Proofs.Duration

/-!
# What messages of errors tell

A message begins with fixed words, in front of the particulars of the error. Among these words none
is the beginning of another one but for the two errors of an entry in a secret, and there the words
behind the name of the secret differ. Names are quoted and durations exact, so the particulars can
be read back: errors with the same message are the same error (`same_message_iff`).
-/

namespace StorageBackend.Error

open Text (SelfDelimiting quoted quotedChars quoted_self_delimiting append_inj_of_span)

/-- Errors of which the message tells everything. What the cluster's interface says is passed on in
words of its own. A namespace ends where the name begins, so no slash may stand in it. -/
def Tellable : Error → Prop
  | .cluster _ => False
  | .configMapNotFound ns _ => '/' ∉ ns.toList
  | _ => True

/-! ## First words -/

/-- What an error is about, as far as the first words of its message tell. -/
inductive Topic where
  | cluster
  | client
  | configMap
  | configMapEntry
  | document
  | secretEntry
  | wait
  | platform
deriving DecidableEq

/-- The fixed words at the beginning of a message. -/
def Topic.words : Topic → String
  | .cluster => "kubernetes error: "
  | .client => "unable to configure cluster client: "
  | .configMap => "unable to read cluster install configuration: configmap "
  | .configMapEntry => "configmap "
  | .document => "unable to decode cluster install configuration: "
  | .secretEntry => "secret "
  | .wait => "timed out after "
  | .platform => "no registry storage mapping for platform "

/-- No first words are the beginning of others. -/
theorem words_self_delimiting : SelfDelimiting fun topic : Topic => topic.words.toList := by
  apply SelfDelimiting.of_prefix_free
  intro a b
  cases a <;> cases b <;> decide

/-- What an error is about. -/
def topic : Error → Topic
  | .cluster _ => .cluster
  | .clientConfig _ => .client
  | .configMapNotFound .. => .configMap
  | .missingConfigKey .. => .configMapEntry
  | .decode _ => .document
  | .missingSecretKey .. | .invalidSecretValue .. => .secretEntry
  | .timeout .. => .wait
  | .unsupportedPlatform _ => .platform

/-- What a message tells behind its first words. -/
def particulars : Error → List Char
  | .cluster failure => failure.text.toList
  | .clientConfig message | .decode message => message.toList
  | .configMapNotFound ns name => (objectPath ns name).toList ++ " not found".toList
  | .missingConfigKey object key | .missingSecretKey object key =>
    quotedChars object.toList ++
      (" does not contain required key ".toList ++ quotedChars key.toList)
  | .invalidSecretValue secret key =>
    quotedChars secret.toList ++
      (" key ".toList ++ (quotedChars key.toList ++ " is not valid UTF-8".toList))
  | .timeout operation waited => waited.text.toList ++ (" waiting for ".toList ++ operation.toList)
  | .unsupportedPlatform platform => quotedChars platform.toList

/-- A message begins with the words for its topic, and its particulars follow. -/
theorem message_eq (e : Error) : e.message.toList = e.topic.words.toList ++ e.particulars := by
  cases e with
  | cluster | clientConfig | decode => exact String.toList_append
  | configMapNotFound ns name =>
    show (Topic.configMap.words ++ objectPath ns name ++ " not found").toList = _
    simp only [topic, particulars, String.toList_append, List.append_assoc]
  | missingConfigKey configMap key =>
    show (Topic.configMapEntry.words ++ quoted configMap ++ " does not contain required key " ++
      quoted key).toList = _
    simp only [topic, particulars, quoted, String.toList_append, String.toList_ofList,
      List.append_assoc]
  | missingSecretKey secret key =>
    show (Topic.secretEntry.words ++ quoted secret ++ " does not contain required key " ++
      quoted key).toList = _
    simp only [topic, particulars, quoted, String.toList_append, String.toList_ofList,
      List.append_assoc]
  | invalidSecretValue secret key =>
    show (Topic.secretEntry.words ++ quoted secret ++ " key " ++ quoted key ++
      " is not valid UTF-8").toList = _
    simp only [topic, particulars, quoted, String.toList_append, String.toList_ofList,
      List.append_assoc]
  | timeout operation waited =>
    show (Topic.wait.words ++ waited.text ++ " waiting for " ++ operation).toList = _
    simp only [topic, particulars, String.toList_append, List.append_assoc]
  | unsupportedPlatform platform =>
    show (Topic.platform.words ++ quoted platform).toList = _
    simp only [topic, particulars, quoted, String.toList_append, String.toList_ofList]

/-- Messages that are the same are about the same, and tell the same of it. -/
theorem of_message_eq {e f : Error} (h : e.message = f.message) :
    e.topic = f.topic ∧ e.particulars = f.particulars := by
  have hlist : e.topic.words.toList ++ e.particulars = f.topic.words.toList ++ f.particulars := by
    rw [← message_eq, ← message_eq, h]
  exact words_self_delimiting hlist

/-! ## Particulars -/

/-- A place in the cluster can be read back if there is no slash in the namespace. -/
theorem object_path_inj {ns ns' name name' : String} (hns : '/' ∉ ns.toList)
    (hns' : '/' ∉ ns'.toList) (h : objectPath ns name = objectPath ns' name') :
    ns = ns' ∧ name = name' := by
  have hlist := congrArg String.toList h
  simp only [objectPath, String.toList_append, List.append_assoc] at hlist
  have hplain : ∀ {ns : String}, '/' ∉ ns.toList → ∀ c ∈ ns.toList, (c != '/') = true :=
    fun hns c hc => bne_iff_ne.mpr fun heq => hns (heq ▸ hc)
  have hslash : ∀ name : String, ∀ c ∈ ("/".toList ++ name.toList).head?, (c != '/') = false := by
    intro name c hc
    cases hc
    rfl
  obtain ⟨hsame, hrest⟩ :=
    append_inj_of_span (hplain hns) (hplain hns') (hslash name) (hslash name') hlist
  exact ⟨String.toList_inj.mp hsame, String.toList_inj.mp (List.append_cancel_left hrest)⟩

/-- Errors with the same message are the same error. -/
theorem eq_of_message_eq {e f : Error} (he : e.Tellable) (hf : f.Tellable)
    (h : e.message = f.message) : e = f := by
  obtain ⟨htopic, hrest⟩ := of_message_eq h
  cases e <;> cases f
  case cluster.cluster => exact he.elim
  case clientConfig.clientConfig | decode.decode =>
    rw [String.toList_inj.mp hrest]
  case configMapNotFound.configMapNotFound =>
    have hpath := String.toList_inj.mp (List.append_cancel_right hrest)
    obtain ⟨rfl, rfl⟩ := object_path_inj he hf hpath
    rfl
  case missingConfigKey.missingConfigKey | missingSecretKey.missingSecretKey =>
    obtain ⟨rfl, hkey⟩ := quoted_self_delimiting hrest
    rw [quoted_self_delimiting.injective (List.append_cancel_left hkey)]
  case missingSecretKey.invalidSecretValue | invalidSecretValue.missingSecretKey =>
    obtain ⟨-, hwords⟩ := quoted_self_delimiting hrest
    cases hwords
  case invalidSecretValue.invalidSecretValue =>
    obtain ⟨rfl, hkey⟩ := quoted_self_delimiting hrest
    rw [(quoted_self_delimiting (List.append_cancel_left hkey)).1]
  case timeout.timeout =>
    obtain ⟨rfl, hoperation⟩ := Duration.text_self_delimiting hrest
    rw [String.toList_inj.mp (List.append_cancel_left hoperation)]
  case unsupportedPlatform.unsupportedPlatform =>
    rw [quoted_self_delimiting.injective hrest]
  -- anywhere else the first words differ
  all_goals cases htopic

/-- The message of an error tells everything of it, unless it comes from the cluster's interface.
The time that a wait has lasted is told to the nanosecond. -/
theorem same_message_iff :
    (∀ e f : Error, e.Tellable → f.Tellable → (e.message = f.message ↔ e = f)) ∧
    ∀ operation waited, ∃ whole fraction places name,
      (places, name) ∈ [(9, "s"), (6, "ms"), (3, "µs"), (0, "ns")] ∧
      (Error.timeout operation waited).message = "timed out after " ++
        String.ofList (Duration.pointed whole fraction) ++ name ++ " waiting for " ++ operation ∧
      Duration.Exact whole fraction places waited.nanos := by
  refine ⟨fun e f he hf => ⟨eq_of_message_eq he hf, congrArg message⟩, fun operation waited => ?_⟩
  obtain ⟨whole, fraction, hdecimal, hexact⟩ :=
    Duration.decimal_exact waited.unit.1 waited.nanos
  refine ⟨whole, fraction, waited.unit.1, waited.unit.2, waited.unit_mem_units, ?_, hexact⟩
  show "timed out after " ++ waited.text ++ " waiting for " ++ operation = _
  rw [Duration.text, hdecimal, ← String.append_assoc]

/-- A secret whose name holds the words of a message is not taken for another one. -/
theorem crafted_name_told :
    (missingSecretKey "a\" does not contain required key \"b" "c").Tellable ∧
      (missingSecretKey "a" "b\" does not contain required key \"c").Tellable ∧
      (missingSecretKey "a\" does not contain required key \"b" "c").message ≠
        (missingSecretKey "a" "b\" does not contain required key \"c").message := by
  refine ⟨trivial, trivial, fun h => ?_⟩
  have hsame := (same_message_iff.1 (missingSecretKey "a\" does not contain required key \"b" "c")
    (missingSecretKey "a" "b\" does not contain required key \"c") trivial trivial).mp h
  exact absurd hsame (by decide)

end StorageBackend.Error
