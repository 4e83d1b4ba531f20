import Mathlib.Data.List.DropRight
import StorageBackend.Proofs.Activity
import StorageBackend.Proofs.Basic
import StorageBackend.Proofs.InstallConfig.Choice
import StorageBackend.Proofs.Yaml.BlankLines

/-!
# White space in front of a configuration in YAML

What is read as YAML is read without the white space in front of it. Blank lines do not count in
YAML, but indentation does, and only the first line loses its own. The main statement is
`first_line_unindented`: a text is decoded to what it says with its first line moved to the margin.
So a text is decoded to what it says if its first line is at the margin already, and may be decoded
to something else if it is not (`indentation_changes_config`).
-/

namespace StorageBackend.InstallConfig

variable {space rest : List Char} {c : Char} {config : InstallConfig}

/-- The white space in front of a text without the indentation of the first line. -/
def linesBefore (space : List Char) : List Char :=
  space.rdropWhile (· == ' ')

/-- The lines in front of the first one with something on it are blank. -/
theorem lines_before_blank (h : ∀ d ∈ space, d = ' ' ∨ d = '\n') :
    Yaml.AreBlankLines (linesBefore space) where
  blank := fun d hd => h d ((List.rdropWhile_prefix _ space).subset hd)
  ended := by
    intro d hd
    have hne : linesBefore space ≠ [] := by
      intro hnil
      rw [hnil] at hd
      cases hd
    have hlast : (linesBefore space).getLast hne = d :=
      Option.some.inj ((List.getLast?_eq_some_getLast hne).symm.trans hd)
    have hspace : ¬ (d == ' ') = true := hlast ▸ List.rdropWhile_last_not (· == ' ') space hne
    have hmem : d ∈ space :=
      (List.rdropWhile_prefix _ space).subset (List.mem_of_getLast? hd)
    exact (h d hmem).resolve_left fun heq => hspace (beq_iff_eq.mpr heq)

/-- A first line at the margin stays there. -/
theorem lines_before_at_margin (h : space.getLast? ≠ some ' ') : linesBefore space = space := by
  rw [linesBefore, List.rdropWhile_eq_self_iff]
  intro hne hlast
  refine h ((List.getLast?_eq_some_getLast hne).trans ?_)
  rw [eq_of_beq hlast]

/-- Blank lines in front of a configuration do not count. -/
theorem of_yaml_blank_lines {lines : List Char} (h : Yaml.AreBlankLines lines) :
    ofYaml (lines ++ rest) = .ok config ↔ ofYaml rest = .ok config := by
  rw [ofYaml, ofYaml, map_error_eq_ok_iff, map_error_eq_ok_iff]
  exact Yaml.run_blank_lines h

/-- A text is decoded to what it says with its first line moved to the margin, and to what it says
as it stands if its first line is there already. -/
theorem first_line_unindented (hspace : ∀ d ∈ space, d = ' ' ∨ d = '\n')
    (hc : Text.isBlank c = false) (hbrace : c ≠ '\x7b') :
    (decode (String.ofList (space ++ c :: rest)) = .ok config ↔
        ofYaml (linesBefore space ++ c :: rest) = .ok config) ∧
      (space.getLast? ≠ some ' ' →
        (decode (String.ofList (space ++ c :: rest)) = .ok config ↔
          ofYaml (space ++ c :: rest) = .ok config)) := by
  have hblank : ∀ d ∈ space, Text.isBlank d = true := by
    intro d hd
    rcases hspace d hd with rfl | rfl
    · decide
    · decide
  have hdecode : decode (String.ofList (space ++ c :: rest)) = .ok config ↔
      ofYaml (linesBefore space ++ c :: rest) = .ok config := by
    rw [decode_of_other (trim_start_of_blank hblank hc rest) hbrace]
    exact (of_yaml_blank_lines (lines_before_blank hspace)).symm
  refine ⟨hdecode, fun hmargin => ?_⟩
  rw [hdecode, lines_before_at_margin hmargin]

/-- A document behind blank lines, with its first line indented and at the margin. -/
theorem sample_decoded_at_margin :
    ∃ config, config.baseDomain = "example.com" ∧ config.awsRegion = some "eu-1" ∧
      decode "\n  \n    baseDomain: example.com\nplatform:\n  aws:\n    region: eu-1\n" =
        .ok config ∧
      decode "\n  \nbaseDomain: example.com\nplatform:\n  aws:\n    region: eu-1\n" =
        .ok config := by
  let rest := "aseDomain: example.com\nplatform:\n  aws:\n    region: eu-1\n".toList
  have hview : (ofYaml (['\n', ' ', ' ', '\n'] ++ 'b' :: rest)).toOption.map
      (fun config => (config.baseDomain, config.awsRegion)) =
        some ("example.com", some "eu-1") := by
    decide +kernel
  obtain ⟨config, hconfig, hview⟩ := Option.map_eq_some_iff.mp hview
  obtain ⟨hdomain, hregion⟩ := Prod.mk.inj hview
  have hread := Activity.to_option_eq_some_iff.mp hconfig
  have hindented := @first_line_unindented ['\n', ' ', ' ', '\n', ' ', ' ', ' ', ' '] rest 'b'
    config (by simp) (by decide) (by decide)
  have hmargin := @first_line_unindented ['\n', ' ', ' ', '\n'] rest 'b' config (by simp)
    (by decide) (by decide)
  exact ⟨config, hdomain, hregion, hindented.1.mpr hread, (hmargin.2 (by decide)).mpr hread⟩

/-- White space in front of a text can change what the text is decoded to: with the first line at
the margin, the lines below it become part of its value. -/
theorem indentation_changes_config :
    ¬ ∀ (space rest : List Char) (c : Char) (config : InstallConfig),
      (∀ d ∈ space, d = ' ' ∨ d = '\n') → Text.isBlank c = false → c ≠ '\x7b' →
      ofYaml (space ++ c :: rest) = .ok config →
      decode (String.ofList (space ++ c :: rest)) = .ok config := by
  intro hsame
  let rest := "etadata:\n  baseDomain: example.com\n".toList
  have hread : (ofYaml ([' ', ' '] ++ 'm' :: rest)).toOption.map baseDomain =
      some "example.com" := by decide +kernel
  have hdecoded : (decode (String.ofList ([' ', ' '] ++ 'm' :: rest))).toOption.map baseDomain =
      some "" := by decide +kernel
  obtain ⟨config, hconfig, hdomain⟩ := Option.map_eq_some_iff.mp hread
  have hkept := hsame [' ', ' '] rest 'm' config (by simp) (by decide) (by decide)
    (Activity.to_option_eq_some_iff.mp hconfig)
  rw [hkept] at hdecoded
  have hempty : config.baseDomain = "" := Option.some.inj hdecoded
  exact absurd (hdomain.symm.trans hempty) (by decide)

end StorageBackend.InstallConfig
