import StorageBackend.Proofs.Text.Layout
import StorageBackend.Storage.Config

/-!
# What a shown configuration discloses

A configuration is shown with its secret redacted. `shown_iff` says what this gives away: two
configurations are shown alike, on one line or on many, exactly if they are of the same kind, agree
in all that is public, and both or none of them has a secret.
-/

namespace StorageBackend

open Text (Layout SelfDelimiting quoted_injective)
open Text.Layout (Readable SameFrame inline_readable indented_readable)

/-- No label of a kind is the beginning of another one. -/
theorem StorageKind.label_self_delimiting :
    SelfDelimiting fun kind : StorageKind => kind.label.toList := by
  apply SelfDelimiting.of_prefix_free
  intro a b
  cases a <;> cases b <;> decide

/-- What is shown in place of a secret tells whether it is empty, and no more. -/
theorem redacted_eq_iff (secret other : String) :
    redacted secret = redacted other ↔ (secret = "" ↔ other = "") := by
  unfold redacted
  by_cases hsecret : secret = "" <;> by_cases hother : other = "" <;> simp [hsecret, hother]

namespace StorageConfig

/-- Configurations that agree in all but their secrets, and in whether they have one. -/
def SamePublicPart : StorageConfig → StorageConfig → Prop
  | .azure first, .azure second =>
    first.accountName = second.accountName ∧
      (first.accountKey = "" ↔ second.accountKey = "") ∧ first.container = second.container
  | .gcs first, .gcs second =>
    first.bucket = second.bucket ∧ (first.keyfileData = "" ↔ second.keyfileData = "")
  | .s3 first, .s3 second =>
    first.accessKey = second.accessKey ∧ (first.secretKey = "" ↔ second.secretKey = "") ∧
      first.bucket = second.bucket ∧ first.region = second.region
  | .emptyDir, .emptyDir | .filesystem, .filesystem | .swift, .swift => True
  | _, _ => False

/-- A configuration is shown under the name of its kind. -/
theorem heading_layout (config : StorageConfig) : config.layout.heading = config.kind.label := by
  cases config <;> rfl

/-- Configurations of the same kind are shown with the same frame. -/
theorem same_frame {first second : StorageConfig} (h : first.kind = second.kind) :
    SameFrame first.layout second.layout := by
  cases first <;> cases second
  case azure.azure =>
    exact .wrapped _ (.record _
      (.cons _ (.text _ _) (.cons _ (.text _ _) (.cons _ (.text _ _) .nil))))
  case gcs.gcs => exact .wrapped _ (.record _ (.cons _ (.text _ _) (.cons _ (.text _ _) .nil)))
  case s3.s3 =>
    exact .wrapped _ (.record _
      (.cons _ (.text _ _) (.cons _ (.text _ _) (.cons _ (.text _ _) (.cons _ (.text _ _) .nil)))))
  -- the kinds without credentials, and then two kinds that differ
  all_goals first | exact .atom _ | cases h

/-- Quoted texts are different if the texts are. -/
theorem layout_text_eq_iff (text other : String) :
    Layout.text text = Layout.text other ↔ text = other :=
  ⟨fun h => quoted_injective (Layout.atom.inj h), congrArg Layout.text⟩

/-- Configurations of different kinds are shown differently. -/
theorem kind_eq_of_layout_eq {first second : StorageConfig} (h : first.layout = second.layout) :
    first.kind = second.kind := by
  have hlabel : first.kind.label = second.kind.label := by
    rw [← heading_layout, ← heading_layout, h]
  exact StorageKind.label_self_delimiting.injective (congrArg String.toList hlabel)

/-- The layout holds the public part and nothing else. -/
theorem layout_eq_iff (first second : StorageConfig) :
    first.layout = second.layout ↔ first.SamePublicPart second := by
  cases first <;> cases second
  case azure.azure =>
    simp [layout, kind, AzureCredentials.layout, SamePublicPart, layout_text_eq_iff,
      redacted_eq_iff]
  case gcs.gcs =>
    simp [layout, kind, GcsCredentials.layout, SamePublicPart, layout_text_eq_iff, redacted_eq_iff]
  case s3.s3 =>
    simp [layout, kind, S3Credentials.layout, SamePublicPart, layout_text_eq_iff, redacted_eq_iff]
  -- the kinds without credentials, and then two kinds that differ
  all_goals
    first
    | exact ⟨fun _ => trivial, fun _ => rfl⟩
    | exact ⟨fun h => (nomatch kind_eq_of_layout_eq h), False.elim⟩

/-- Whatever stands behind it, what is written of a configuration tells its layout: first the kind,
and with it the frame. -/
theorem layout_eq_of_written {write : Layout → List Char} (hwrite : Readable write)
    {first second : StorageConfig} {s t : List Char}
    (h : write first.layout ++ s = write second.layout ++ t) : first.layout = second.layout := by
  obtain ⟨rest, hfirst⟩ := hwrite.begins first.layout
  obtain ⟨rest', hsecond⟩ := hwrite.begins second.layout
  have hlabels : first.kind.label.toList ++ (rest ++ s) =
      second.kind.label.toList ++ (rest' ++ t) := by
    rw [← heading_layout, ← heading_layout, ← List.append_assoc, ← List.append_assoc, ← hfirst,
      ← hsecond, h]
  have hkind := (StorageKind.label_self_delimiting hlabels).1
  exact (hwrite.inj (same_frame hkind) h).1

end StorageConfig

/-- Two configurations are shown alike, in either way and also as resolved configurations, exactly
if they have the same public part. -/
theorem StorageConfig.shown_iff (first second : StorageConfig) :
    (first.layout.line = second.layout.line ↔ first.SamePublicPart second) ∧
    (first.layout.block = second.layout.block ↔ first.SamePublicPart second) ∧
    ((ResolvedConfig.mk first).layout.line = (ResolvedConfig.mk second).layout.line ↔
      first.SamePublicPart second) ∧
    ((ResolvedConfig.mk first).layout.block = (ResolvedConfig.mk second).layout.block ↔
      first.SamePublicPart second) := by
  simp only [← layout_eq_iff, Layout.line, Layout.block, String.ofList_inj]
  refine ⟨⟨fun h => ?_, fun h => by rw [h]⟩, ⟨fun h => ?_, fun h => by rw [h]⟩,
    ⟨fun h => ?_, fun h => by rw [ResolvedConfig.layout, h]; rfl⟩,
    ⟨fun h => ?_, fun h => by rw [ResolvedConfig.layout, h]; rfl⟩⟩
  · exact layout_eq_of_written inline_readable (congrArg (· ++ []) h)
  · exact layout_eq_of_written (indented_readable 0) (congrArg (· ++ []) h)
  -- around a configuration that is resolved the words are always the same
  · simp only [ResolvedConfig.layout, Layout.inline, Layout.inlineFields, List.append_assoc,
      List.append_cancel_left_eq] at h
    exact layout_eq_of_written inline_readable h
  · simp only [ResolvedConfig.layout, Layout.indented, Layout.indentedAt, Layout.indentedFields,
      List.append_assoc, List.append_cancel_left_eq] at h
    exact layout_eq_of_written (indented_readable 1) h

end StorageBackend
