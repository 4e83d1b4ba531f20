import StorageBackend.Proofs.Basic
import StorageBackend.Proofs.Yaml.Readable
import StorageBackend.Yaml.Reader

/-!
# Blank lines in front of a text

Blank lines in front of a text lead the scanner to the beginning of a line, where nothing has been
read yet. So the text has the same tokens as without them (`tokens_blank_lines`), and whatever is
read from it is the same (`run_blank_lines`).
-/

namespace StorageBackend.Yaml

/-- Spaces and line feeds, up to the end of a line. -/
structure AreBlankLines (lines : List Char) : Prop where
  blank : ∀ c ∈ lines, c = ' ' ∨ c = '\n'
  ended : ∀ c, lines.getLast? = some c → c = '\n'

/-- Blank lines may stand in a YAML text. -/
theorem AreBlankLines.allowed {lines : List Char} (h : AreBlankLines lines) :
    ∀ c ∈ lines, isAllowed c = true := by
  intro c hc
  rcases h.blank c hc with rfl | rfl
  · decide
  · decide

namespace Scanner

/-- Blank lines are passed over, up to some place further down. -/
theorem skip_space_blank {text : List Char} (h : ∀ c ∈ text, c = ' ' ∨ c = '\n')
    (rest : List Char) (mark : Mark) :
    ∃ last, skipSpace true false false mark (text ++ rest) =
      skipSpace true false false last rest := by
  induction text generalizing mark with
  | nil => exact ⟨mark, rfl⟩
  | cons c text ih =>
    have htext := ih fun d hd => h d (List.mem_cons_of_mem c hd)
    rcases h c List.mem_cons_self with rfl | rfl
    · obtain ⟨last, hlast⟩ := htext (mark.after 1)
      exact ⟨last, (skip_space_spaces true 1 mark (text ++ rest)).trans hlast⟩
    · obtain ⟨last, hlast⟩ := htext (mark.newLine 1)
      exact ⟨last, (skip_space_break true mark (text ++ rest)).trans hlast⟩

/-- Behind blank lines a text begins further down. -/
theorem skip_blank_lines {lines : List Char} (h : AreBlankLines lines) (rest : List Char) :
    ∃ shift, skipSpace true false false Mark.start (lines ++ rest) =
      skipSpace true false false (Mark.start.moved shift) rest := by
  rcases List.eq_nil_or_concat' lines with rfl | ⟨front, c, rfl⟩
  · exact ⟨⟨0, 0⟩, rfl⟩
  · obtain rfl := h.ended c List.getLast?_concat
    obtain ⟨last, hlast⟩ := skip_space_blank
      (fun d hd => h.blank d (List.mem_append_left _ hd)) ('\n' :: rest) Mark.start
    rw [skip_space_break] at hlast
    refine ⟨⟨last.offset + 1, last.line + 1⟩, ?_⟩
    rw [List.append_assoc]
    have hmark : last.newLine 1 = Mark.start.moved ⟨last.offset + 1, last.line + 1⟩ := by
      simp [Mark.newLine, Mark.moved, Mark.start]
    exact hmark ▸ hlast

/-- A step begins where the space in front of it ends. -/
theorem next_of_skip (s : Scanner) {cursor : Cursor}
    (h : skipSpace s.keyAllowed s.inFlow false cursor.mark cursor.text =
      skipSpace s.keyAllowed s.inFlow false s.cursor.mark s.cursor.text) :
    next { s with cursor := cursor } = s.next := by
  have hflow : inFlow { s with cursor := cursor } = s.inFlow := rfl
  unfold next
  simp only [hflow, h]

end Scanner

/-- Blank lines in front of a text that can be read add no tokens. -/
theorem tokens_blank_lines {lines rest : List Char} (h : AreBlankLines lines)
    (hallowed : ∀ c ∈ rest, isAllowed c = true) : tokens (lines ++ rest) = tokens rest := by
  obtain ⟨shift, hskip⟩ := Scanner.skip_blank_lines h rest
  have hnext : (Scanner.start (lines ++ rest) true).next =
      ((Scanner.start rest true).moved shift).next :=
    Scanner.next_of_skip ((Scanner.start rest true).moved shift) hskip
  have hrun : ∀ fuel, (Scanner.start (lines ++ rest) true).run (fuel + 1) =
      (Scanner.start rest true).run (fuel + 1) := by
    intro fuel
    rw [← Scanner.run_moved (Scanner.start rest true), Scanner.run, Scanner.run, hnext]
    rfl
  have hlength : (Scanner.start rest true).cursor.text.length < (lines ++ rest).length + 1 := by
    rw [List.length_append]
    exact Nat.lt_succ_of_le (Nat.le_add_left ..)
  unfold tokens
  rw [Scanner.readable_allowed hallowed,
    Scanner.readable_allowed (List.forall_mem_append.mpr ⟨h.allowed, hallowed⟩)]
  exact (hrun _).trans (Scanner.run_enough hlength (Nat.lt_succ_self _))

/-! ## Readers -/

section

variable {α : Type} {read : Reader α} {value : α}

/-- A document from which a value is read is complete. -/
theorem complete_of_run {document : Document} (h : read.runDocument document = .ok value) :
    document.complete = true := by
  obtain ⟨found, -, h⟩ := exists_of_bind_eq_ok h
  dsimp only at h
  split at h
  · next hcomplete => exact hcomplete
  · cases h

/-- What is read has allowed characters only. -/
theorem allowed_of_run {text : List Char} (h : read.run text = .ok value) :
    ∀ c ∈ text, isAllowed c = true := by
  rw [Reader.run] at h
  split at h
  · cases h
  · next document hdocument => exact allowed_of_document hdocument (complete_of_run h)
  · obtain ⟨first, -, h⟩ := exists_of_bind_eq_ok h
    cases h

/-- Blank lines in front of a text do not count. -/
theorem run_blank_lines {lines rest : List Char} (h : AreBlankLines lines) :
    read.run (lines ++ rest) = .ok value ↔ read.run rest = .ok value := by
  have heq : (∀ c ∈ rest, isAllowed c = true) → read.run (lines ++ rest) = read.run rest := by
    intro hallowed
    rw [Reader.run, Document.ofText, documents, tokens_blank_lines h hallowed]
    rfl
  constructor
  · intro hrun
    rw [← heq (List.forall_mem_append.mp (allowed_of_run hrun)).2]
    exact hrun
  · intro hrun
    rw [heq (allowed_of_run hrun)]
    exact hrun

end

end StorageBackend.Yaml
