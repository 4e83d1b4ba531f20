import StorageBackend.Proofs.Yaml.Steps
import StorageBackend.Yaml.Document

/-!
# Complete documents are read to the end

A text is a complete document only if the token of its end has been met, and this token is there
only if every character could be read. `allowed_of_document` says so: nothing behind a character
that YAML does not allow is passed over in silence.
-/

namespace StorageBackend.Yaml

section

variable {handles : Handles} {next after : List Expectation} {tokens rest : List Token}
  {event : Event (List Char)}

/-- What is left behind anchor and tag is some of the tokens. -/
theorem properties_subset (tokens : List Token) : (properties tokens).2 ⊆ tokens := by
  unfold properties
  grind

/-- What is left behind the first event of a node is some of the tokens. -/
theorem node_subset {block flat : Bool}
    (h : node handles block flat next tokens = some (event, after, rest)) : rest ⊆ tokens := by
  have hproperties := properties_subset tokens
  simp only [node, Option.bind_eq_bind] at h
  grind [Option.bind_eq_some_iff]

/-- So it is where there may be no node. -/
theorem node_or_empty_subset {block flat : Bool} {absent : List Token}
    (h : nodeOrEmpty handles block flat absent next tokens = some (event, after, rest)) :
    rest ⊆ tokens := by
  unfold nodeOrEmpty at h
  grind [→ node_subset]

/-- So it is behind an item of a flow sequence. -/
theorem flow_item_subset (h : flowItem handles next tokens = some (event, after, rest)) :
    rest ⊆ tokens := by
  unfold flowItem at h
  grind [→ node_subset]

/-- So it is behind a key of a flow mapping. -/
theorem flow_key_subset (h : flowKey handles next tokens = some (event, after, rest)) :
    rest ⊆ tokens := by
  unfold flowKey at h
  split at h
  · cases h
  · exact List.subset_cons_of_subset _ (node_or_empty_subset h)
  · cases h
    exact List.subset_cons_self ..
  · exact node_subset h

/-- Behind an event there are no other tokens than before it. -/
theorem step_subset {expectation : Expectation}
    (h : step handles expectation next tokens = some (event, after, rest)) : rest ⊆ tokens := by
  unfold step at h
  grind [→ node_subset, → node_or_empty_subset, → flow_item_subset, → flow_key_subset]

/-- Behind a document there are no other tokens than before it. -/
theorem events_subset {fuel : Nat} (h : (events handles fuel next tokens).2 = some rest) :
    rest ⊆ tokens := by
  induction fuel generalizing next tokens with
  | zero => cases h
  | succ fuel ih =>
    cases next with
    | nil =>
      cases h
      exact List.Subset.refl _
    | cons expectation next =>
      rw [events] at h
      split at h
      · cases h
      · next hstep => exact List.Subset.trans (ih h) (step_subset hstep)

/-- What is left behind directives is some of the tokens. -/
theorem directives_subset {versioned : Bool} {known : Handles} {found : Handles}
    (h : directives versioned known tokens = some (found, rest)) : rest ⊆ tokens := by
  fun_induction directives versioned known tokens with
  | case1 => cases h
  | case2 _ _ _ _ _ _ ih => exact List.subset_cons_of_subset _ (ih h)
  | case3 => cases h
  | case4 _ _ _ _ _ _ ih => exact List.subset_cons_of_subset _ (ih h)
  | case5 =>
    cases h
    exact List.Subset.refl _

/-- What is left behind the ends of documents is some of the tokens. -/
theorem drop_document_ends_subset (tokens : List Token) : dropDocumentEnds tokens ⊆ tokens := by
  fun_induction dropDocumentEnds tokens with
  | case1 _ ih => exact List.subset_cons_of_subset _ ih
  | case2 => exact List.Subset.refl _

/-- A text whose documents are all complete has been read to its end. -/
theorem end_of_documents {fuel : Nat} {first : Bool} {found : List RawDocument}
    (h : documentsFrom fuel first tokens = found) (hfuel : found.length < fuel)
    (hcomplete : ∀ document ∈ found, document.complete = true) : .streamEnd ∈ tokens := by
  induction fuel generalizing first tokens found with
  | zero => exact absurd hfuel (Nat.not_lt_zero _)
  | succ fuel ih =>
    have hbegun : (if first then tokens else dropDocumentEnds tokens) ⊆ tokens := by
      split
      · exact List.Subset.refl _
      · exact drop_document_ends_subset tokens
    have hbehind : ∀ {document : RawDocument} {others : List Token}, others ⊆ tokens →
        document :: documentsFrom fuel false others = found → .streamEnd ∈ tokens := by
      intro document others hothers hfound
      subst hfound
      exact hothers (ih rfl (Nat.lt_of_succ_lt_succ hfuel) fun other hother =>
        hcomplete other (List.mem_cons_of_mem _ hother))
    have hunfinished : ∀ events, [⟨events, false⟩] ≠ found := fun events hfound => by
      subst hfound
      cases hcomplete _ List.mem_cons_self
    rw [documentsFrom] at h
    generalize (if first then tokens else dropDocumentEnds tokens) = begun at h hbegun
    dsimp only at h
    split at h
    · exact absurd h (hunfinished [])
    · exact hbegun List.mem_cons_self
    · next token others _ =>
      split at h
      · exact absurd h (hunfinished [])
      · next handles expectation inner hstart =>
        have hinner : inner ⊆ tokens := by
          refine List.Subset.trans ?_ hbegun
          split at hstart
          · cases hstart
            exact List.Subset.refl _
          · split at hstart
            · next hdirectives =>
              cases hstart
              exact List.Subset.trans (List.subset_cons_self ..) (directives_subset hdirectives)
            · cases hstart
        split at h
        · next hevents =>
          have hrest := List.Subset.trans (events_subset (congrArg Prod.snd hevents)) hinner
          exact hbehind (List.Subset.trans (List.subset_cons_self ..) hrest) h
        · next hevents =>
          exact hbehind (List.Subset.trans (events_subset (congrArg Prod.snd hevents)) hinner) h
        · exact absurd h (hunfinished _)

end

/-! ## The end of a text -/

/-- A text that can be read to its end has allowed characters only. -/
theorem allowed_of_readable_from {done portion text : List Char} {size : Nat}
    (h : (readableFrom done portion size text).2 = true) : ∀ c ∈ text, isAllowed c = true := by
  induction text generalizing done portion size with
  | nil => exact fun _ hc => nomatch hc
  | cons c text ih =>
    rw [readableFrom] at h
    by_cases hc : isAllowed c = true
    · simp only [hc, if_true] at h
      split at h
      · exact List.forall_mem_cons.mpr ⟨hc, ih h⟩
      · exact List.forall_mem_cons.mpr ⟨hc, ih h⟩
    · simp only [hc, Bool.false_eq_true, if_false] at h
      split at h
      · cases h
      · cases h

/-- Only a text of allowed characters has an end. -/
theorem allowed_of_end {text : List Char} (h : .streamEnd ∈ tokens text) :
    ∀ c ∈ text, isAllowed c = true := by
  have hwhole := Scanner.whole_of_run h
  exact allowed_of_readable_from (hwhole.resolve_left nofun)

/-- A text that is one complete document has allowed characters only. -/
theorem allowed_of_document {text : List Char} {document : Document}
    (h : Document.ofText text = [document]) (hcomplete : document.complete = true) :
    ∀ c ∈ text, isAllowed c = true := by
  refine allowed_of_end ?_
  obtain ⟨raw, hdocuments, rfl⟩ := List.map_eq_singleton_iff.mp h
  have hraw : raw.complete = true := (Bool.and_eq_true_iff.mp hcomplete).2
  rw [documents] at hdocuments
  split at hdocuments
  · next hfound => exact end_of_documents hfound (Nat.zero_lt_succ _) nofun
  · refine end_of_documents hdocuments (by simp) fun other hother => ?_
    rw [List.mem_singleton.mp hother]
    exact hraw

end StorageBackend.Yaml
