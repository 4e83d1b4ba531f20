import StorageBackend.Credentials
import StorageBackend.Proofs.Text.Utf8

/-!
# Credentials in a secret

Which entries of a secret can be used, and what is wrong with one that cannot. `of_secret_iff` says
that a secret gives credentials exactly if both entries are there and hold a text, and that
otherwise the first defect counts, in the order access key, secret key.
-/

namespace StorageBackend.Credentials

open Cluster (Secret)
open Text.Utf8 (encode)

/-- What is wrong with the entry under a key, as an error. -/
inductive Defect (secret : Secret) (ns name key : String) : Error → Prop where
  /-- There is no such entry. -/
  | absent (h : secret.entry? key = none) :
      Defect secret ns name key (.missingSecretKey (ns ++ "/" ++ name) key)
  /-- The bytes of the entry are not the encoding of any text. -/
  | malformed (bytes : List UInt8) (h : secret.entry? key = some bytes)
      (hbytes : ∀ text, encode text ≠ bytes) :
      Defect secret ns name key (.invalidSecretValue (ns ++ "/" ++ name) key)

/-- What the secret with the given namespace and name gives for two keys. -/
inductive Reading (secret : Secret) (ns name : String) (keys : CredentialKeys)
    (region : Option String) : Except Error S3Credentials → Prop where
  | complete (accessKey secretKey : String)
      (haccess : secret.entry? keys.access = some (encode accessKey))
      (hsecret : secret.entry? keys.secret = some (encode secretKey)) :
      Reading secret ns name keys region (.ok ⟨accessKey, secretKey, "", region.getD ""⟩)
  | noAccessKey (error : Error) (hdefect : Defect secret ns name keys.access error) :
      Reading secret ns name keys region (.error error)
  | noSecretKey (accessKey : String) (error : Error)
      (haccess : secret.entry? keys.access = some (encode accessKey))
      (hdefect : Defect secret ns name keys.secret error) :
      Reading secret ns name keys region (.error error)

variable {secret : Secret} {ns name key : String} {keys : CredentialKeys} {region : Option String}

/-- A key has a text exactly if the entry holds the bytes of this text. -/
theorem required_text_eq_ok_iff {text : String} :
    requiredText secret ns name key = .ok text ↔ secret.entry? key = some (encode text) := by
  unfold requiredText
  cases hentry : secret.entry? key with
  | none => simp
  | some bytes =>
    rw [Option.some_inj, eq_comm (a := bytes), ← Text.Utf8.decode_eq_ok_iff]
    cases hdecode : Text.Utf8.decode bytes with
    | ok text => simp [hdecode]
    | error malformed => simp [hdecode]

/-- A key without a text has a defect, and the error says which one. -/
theorem required_text_eq_error_iff {error : Error} :
    requiredText secret ns name key = .error error ↔ Defect secret ns name key error := by
  constructor
  · intro h
    unfold requiredText at h
    cases hentry : secret.entry? key with
    | none =>
      rw [hentry] at h
      cases h
      exact .absent hentry
    | some bytes =>
      rw [hentry] at h
      cases hdecode : Text.Utf8.decode bytes with
      | ok text =>
        simp only [hdecode] at h
        cases h
      | error malformed =>
        simp only [hdecode] at h
        cases h
        exact .malformed bytes hentry (Text.Utf8.decode_eq_error_iff.mp ⟨malformed, hdecode⟩)
  · intro h
    cases h with
    | absent hentry =>
      rw [requiredText, hentry]
      rfl
    | malformed bytes hentry hbytes =>
      obtain ⟨malformed, hdecode⟩ := Text.Utf8.decode_eq_error_iff.mpr hbytes
      simp only [requiredText, hentry, hdecode]
      rfl

/-- The rules for reading a secret say what is read from it. -/
theorem of_secret_iff {result : Except Error S3Credentials} :
    ofSecret secret ns name keys region = result ↔
      Reading secret ns name keys region result := by
  constructor
  · rintro rfl
    unfold ofSecret
    cases haccess : requiredText secret ns name keys.access with
    | error error => exact .noAccessKey error (required_text_eq_error_iff.mp haccess)
    | ok accessKey =>
      have hentry := required_text_eq_ok_iff.mp haccess
      cases hsecret : requiredText secret ns name keys.secret with
      | error error =>
        exact .noSecretKey accessKey error hentry (required_text_eq_error_iff.mp hsecret)
      | ok secretKey =>
        exact .complete accessKey secretKey hentry (required_text_eq_ok_iff.mp hsecret)
  · intro h
    unfold ofSecret
    cases h with
    | complete accessKey secretKey haccess hsecret =>
      rw [required_text_eq_ok_iff.mpr haccess, required_text_eq_ok_iff.mpr hsecret]
      rfl
    | noAccessKey error hdefect =>
      rw [required_text_eq_error_iff.mpr hdefect]
      rfl
    | noSecretKey accessKey error haccess hdefect =>
      rw [required_text_eq_ok_iff.mpr haccess, required_text_eq_error_iff.mpr hdefect]
      rfl

end StorageBackend.Credentials
