import StorageBackend.Storage.Config

/-!
# Summaries of storage configurations

A summary holds no secret, only whether all credentials are there. In JSON its members stand in a
fixed order, and what is not known is left out.
-/

namespace StorageBackend

open Text (Layout)

/-- What everybody may know of a storage configuration. -/
structure StorageSummary where
  kind : StorageKind
  region : Option String
  bucket : Option String
  container : Option String
  /-- Whether no credential of the kind is empty. -/
  hasCredentials : Bool
deriving DecidableEq

/-- The summary of a storage configuration. Kinds without credentials never have any. -/
def StorageConfig.summary (config : StorageConfig) : StorageSummary :=
  let bare : StorageSummary := ⟨config.kind, none, none, none, false⟩
  match config with
  | .azure c =>
    { bare with
      container := nonEmpty? c.container
      hasCredentials := !c.accountName.isEmpty && !c.accountKey.isEmpty }
  | .gcs c =>
    { bare with
      bucket := nonEmpty? c.bucket
      hasCredentials := !c.keyfileData.isEmpty }
  | .s3 c =>
    { bare with
      region := nonEmpty? c.region
      bucket := nonEmpty? c.bucket
      hasCredentials := !c.accessKey.isEmpty && !c.secretKey.isEmpty }
  | _ => bare

/-- The summary of a resolved configuration. -/
def ResolvedConfig.summary (resolved : ResolvedConfig) : StorageSummary := resolved.storage.summary

namespace StorageSummary

/-- A member for what is known. -/
def member? (key : String) (value : Option String) : List (String × Json.Value) :=
  value.toList.map fun text => (key, .string text)

/-- A summary as JSON. -/
def toJson (s : StorageSummary) : Json.Value :=
  .object <|
    [("type", s.kind.toJson)] ++ member? "region" s.region ++ member? "bucket" s.bucket ++
      member? "container" s.container ++ [("hasCredentials", .boolean s.hasCredentials)]

/-- A summary with all its parts. -/
def layout (s : StorageSummary) : Layout :=
  .record "StorageSummary"
    [("kind", .atom s.kind.label), ("region", .optional .text s.region),
      ("bucket", .optional .text s.bucket), ("container", .optional .text s.container),
      ("has_credentials", .atom (toString s.hasCredentials))]

end StorageSummary

end StorageBackend
