import StorageBackend.Proofs.Activity
import StorageBackend.Proofs.Basic
import StorageBackend.Proofs.InstallConfig.Acceptance
import StorageBackend.Proofs.Json.Closing

/-!
# Documents that are cut short or go on

A configuration in braces is all of its document. The main statement is
`only_whole_documents_decoded`: of the beginnings of a document that is decoded, exactly those are
decoded that reach to the brace that closes it, and behind it there may be nothing but space.
-/

namespace StorageBackend

open Json (IsSpace Reader)
open Schema (Format)
open Schema.Format

/-! ## The description of configurations -/

section

variable {α σ : Type}

/-- A field looks no further than the reader of its value. -/
theorem field_steady {read : Reader α} (h : read.Steady) (key : String) (set : α → σ → σ) :
    (field key read set : Schema.Field Reader σ).read.Steady := Json.map_steady h set

/-- A reader with a default looks no further than the reader below it. -/
theorem defaulted_steady [Inhabited α] {read : Reader α} (h : read.Steady) :
    (defaulted read).Steady := Json.map_steady (Json.optional_steady h) _

/-- A text that may be left out is read no further than to its end. -/
theorem some_text_steady : (someText : Reader String).Steady := defaulted_steady Json.text_steady

end

/-- The metadata are read no further than to their end. -/
theorem InstallMetadata.schema_steady : (schema : Reader InstallMetadata).Steady := by
  refine Json.record_steady ?_ "InstallMetadata" default
  simp only [List.forall_mem_cons]
  exact ⟨field_steady some_text_steady _ _, nofun⟩

/-- So are the settings for AWS. -/
theorem AwsPlatform.schema_steady : (schema : Reader AwsPlatform).Steady := by
  refine Json.record_steady ?_ "AwsPlatform" default
  simp only [List.forall_mem_cons]
  exact ⟨field_steady some_text_steady _ _, nofun⟩

/-- So are the settings for Google's platform. -/
theorem GcpPlatform.schema_steady : (schema : Reader GcpPlatform).Steady := by
  refine Json.record_steady ?_ "GcpPlatform" default
  simp only [List.forall_mem_cons]
  exact ⟨field_steady some_text_steady _ _, field_steady some_text_steady _ _, nofun⟩

/-- So are the settings for Azure. -/
theorem AzurePlatform.schema_steady : (schema : Reader AzurePlatform).Steady := by
  refine Json.record_steady ?_ "AzurePlatform" default
  simp only [List.forall_mem_cons]
  exact ⟨field_steady some_text_steady _ _, nofun⟩

/-- So are the settings for OpenStack. -/
theorem OpenStackPlatform.schema_steady : (schema : Reader OpenStackPlatform).Steady := by
  refine Json.record_steady ?_ "OpenStackPlatform" default
  simp only [List.forall_mem_cons]
  exact ⟨field_steady some_text_steady _ _, field_steady some_text_steady _ _, nofun⟩

/-- A platform is read no further than to its end. -/
theorem Platform.schema_steady : (schema : Reader Platform).Steady := by
  have hfree : (optional free : Reader (Option Json.Value)).Steady :=
    Json.optional_steady Json.free_steady
  refine Json.record_steady ?_ "Platform" default
  simp only [List.forall_mem_cons]
  exact ⟨field_steady (Json.optional_steady AwsPlatform.schema_steady) _ _,
    field_steady (Json.optional_steady GcpPlatform.schema_steady) _ _,
    field_steady (Json.optional_steady AzurePlatform.schema_steady) _ _,
    field_steady (Json.optional_steady OpenStackPlatform.schema_steady) _ _,
    field_steady hfree _ _, field_steady hfree _ _, field_steady hfree _ _, nofun⟩

namespace InstallConfig

/-- A configuration in braces ends with its closing brace, whatever follows it. -/
theorem schema_closes {nesting : Nat} {text others rest : List Char} {config : InstallConfig}
    (hbrace : Json.skipSpace text = '\x7b' :: others)
    (h : (schema : Reader InstallConfig) nesting text = .ok (config, rest)) :
    '\x7d' :: rest <:+ text ∧ ∀ more,
      (schema : Reader InstallConfig) nesting (text ++ more) = .ok (config, rest ++ more) := by
  refine Json.record_closes ?_ "InstallConfig" default hbrace h
  simp only [List.forall_mem_cons]
  exact ⟨field_steady (defaulted_steady InstallMetadata.schema_steady) _ _,
    field_steady some_text_steady _ _,
    field_steady (defaulted_steady Platform.schema_steady) _ _, nofun⟩

/-! ## Whole documents -/

/-- A text is read as a whole if nothing but space is left of it. -/
theorem of_json_eq_ok_iff {text : List Char} {config : InstallConfig} :
    ofJson text = .ok config ↔
      ∃ rest, (schema : Reader InstallConfig) Json.maxNesting text = .ok (config, rest) ∧
        IsSpace rest := by
  rw [ofJson, map_error_eq_ok_iff]
  exact Json.run_eq_ok_iff

/-- What follows an object in braces counts: with space behind it the object is decoded, and with
anything else the text is not. -/
theorem decode_append {text others rest : List Char} {config : InstallConfig}
    (hbrace : Text.trimStart text = '\x7b' :: others)
    (h : (schema : Reader InstallConfig) Json.maxNesting ('\x7b' :: others) = .ok (config, rest))
    (more : List Char) (found : InstallConfig) :
    decode (String.ofList (text ++ more)) = .ok found ↔
      found = config ∧ IsSpace (rest ++ more) := by
  have hread := (schema_closes rfl h).2 more
  rw [decode_of_brace (trim_start_append hbrace more), of_json_eq_ok_iff, ← List.cons_append,
    hread]
  constructor
  · rintro ⟨left, ⟨⟩, hspace⟩
    exact ⟨rfl, hspace⟩
  · rintro ⟨rfl, hspace⟩
    exact ⟨_, rfl, hspace⟩

/-- A text in front of a brace that is not space, where the whole text begins with a brace, is not
decoded: what is decoded ends with a brace of its own, and then the other one is too much. -/
theorem decode_cut {part behind others : List Char} {config : InstallConfig}
    (hbrace : Text.trimStart (part ++ behind) = '\x7b' :: others) (hbehind : ¬ IsSpace behind)
    (h : decode (String.ofList (part ++ behind)) = .ok config) :
    ∃ error, decode (String.ofList part) = .error error := by
  cases hpart : decode (String.ofList part) with
  | error error => exact ⟨error, rfl⟩
  | ok found =>
    exfalso
    cases htrim : Text.trimStart part with
    | nil =>
      rw [decode, String.toList_ofList, htrim] at hpart
      cases hpart
    | cons c inner =>
      rw [trim_start_append htrim] at hbrace
      cases hbrace
      rw [decode_of_brace htrim, of_json_eq_ok_iff] at hpart
      obtain ⟨left, hread, -⟩ := hpart
      obtain ⟨-, hspace⟩ := (decode_append htrim hread behind config).mp h
      exact hbehind fun c hc => hspace c (List.mem_append_right left hc)

/-- A document in braces that is decoded is decoded as a whole. It ends with the brace that closes
it and space, and cut anywhere in front of this brace it is refused. More space may follow it, and
nothing else. -/
theorem only_whole_documents_decoded {text : String} {config : InstallConfig}
    (hbrace : (Text.trimStart text.toList).head? = some '\x7b') (h : decode text = .ok config) :
    (∃ before after, text.toList = before ++ '\x7d' :: after ∧ IsSpace after ∧
      ∀ part, part <+: before → ∃ error, decode (String.ofList part) = .error error) ∧
    (∀ more : String, IsSpace more.toList → decode (text ++ more) = .ok config) ∧
    ∀ (more : String) (c : Char), c ∈ more.toList → Json.isSpace c = false →
      ∃ error, decode (text ++ more) = .error error := by
  obtain ⟨others, hothers⟩ := List.head?_eq_some_iff.mp hbrace
  have hwhole : decode (String.ofList text.toList) = .ok config := by rwa [String.ofList_toList]
  have hdecoded := hwhole
  rw [decode_of_brace hothers, of_json_eq_ok_iff] at hdecoded
  obtain ⟨rest, hread, hrest⟩ := hdecoded
  have hmore : ∀ more : String, text ++ more = String.ofList (text.toList ++ more.toList) := by
    intro more
    rw [← String.toList_append, String.ofList_toList]
  refine ⟨?_, fun more hspace => ?_, fun more c hc hnot => ?_⟩
  · obtain ⟨hclose, -⟩ := schema_closes rfl hread
    rw [← hothers] at hclose
    obtain ⟨before, hbefore⟩ := hclose.trans (List.dropWhile_suffix Text.isBlank)
    refine ⟨before, rest, hbefore.symm, hrest, ?_⟩
    rintro part ⟨middle, rfl⟩
    rw [← hbefore, List.append_assoc] at hothers hwhole
    refine decode_cut hothers (fun hspace => ?_) hwhole
    have hend := hspace '\x7d' (List.mem_append_right middle List.mem_cons_self)
    cases hend
  · rw [hmore, decode_append hothers hread]
    refine ⟨rfl, fun c hc => ?_⟩
    rcases List.mem_append.mp hc with hc | hc
    · exact hrest c hc
    · exact hspace c hc
  · cases hlonger : decode (text ++ more) with
    | error error => exact ⟨error, rfl⟩
    | ok found =>
      rw [hmore, decode_append hothers hread] at hlonger
      have hspace := hlonger.2 c (List.mem_append_right rest hc)
      rw [hnot] at hspace
      cases hspace

/-- A document with an escape, a fraction, and parts that nobody asks for. -/
def wholeSample : String :=
  "\n \x7b\"platform\": \x7b\"aws\": \x7b\"region\": \"eu-\\u0031\"\x7d\x7d, " ++
    "\"x\": [1.5e3, \x7b\"y\": null\x7d]\x7d "

/-- The document is decoded, and with a line feed behind it; cut behind `1.5e` it is refused, and so
it is with a second brace. -/
theorem sample_decoded_as_a_whole :
    ∃ config, decode wholeSample = .ok config ∧ config.awsRegion = some "eu-1" ∧
      decode (wholeSample ++ "\n") = .ok config ∧
      (∃ error, decode (wholeSample ++ " \x7d") = .error error) ∧
      ∃ error, decode (String.ofList (wholeSample.toList.take 59)) = .error error := by
  have hregion : (decode wholeSample).toOption.map awsRegion = some (some "eu-1") := by
    decide +kernel
  obtain ⟨config, hconfig, hregion⟩ := Option.map_eq_some_iff.mp hregion
  have hdecoded := Activity.to_option_eq_some_iff.mp hconfig
  obtain ⟨⟨before, after, hsplit, hafter, hcut⟩, hspace, hmore⟩ :=
    only_whole_documents_decoded (by decide +kernel) hdecoded
  refine ⟨config, hdecoded, hregion, hspace "\n" (by simp [IsSpace, Json.isSpace]),
    hmore " \x7d" '\x7d' (by decide) (by decide), hcut _ ?_⟩
  -- the closing brace is further on, as a name still follows
  refine List.prefix_of_prefix_length_le (List.take_prefix 59 _) ⟨_, hsplit.symm⟩ ?_
  rw [List.length_take]
  refine (Nat.min_le_left 59 _).trans (Nat.not_lt.mp fun hshort => ?_)
  obtain ⟨steps, hsteps⟩ := Nat.exists_eq_add_of_lt hshort
  have hname : 'y' ∈ wholeSample.toList.drop 59 := by decide +kernel
  rw [hsplit, hsteps, Nat.add_assoc, List.drop_append, Nat.add_sub_cancel_left,
    List.drop_eq_nil_of_le (Nat.le_add_right _ _), List.nil_append, List.drop_succ_cons] at hname
  have hblank := hafter 'y' (List.mem_of_mem_drop hname)
  cases hblank

end InstallConfig

end StorageBackend
