import StorageBackend.Json.Printer
import StorageBackend.Json.Reader

/-!
# Kinds of storage

A kind is named in three places: `name` is what it is called where it is shown, `ofName?` holds the
names that may be given as plain text, and in JSON a kind is called by its label in lower case. A
kind in JSON is this name as a string, or an object whose only key is the name and whose value is
null.
-/

namespace StorageBackend

/-- Where a registry can keep its images. -/
inductive StorageKind where
  | azure
  | gcs
  | s3
  /-- Storage that is lost together with the registry's pod. -/
  | emptyDir
  | filesystem
  | swift
deriving DecidableEq

namespace StorageKind

/-- All kinds. -/
def all : List StorageKind := [.azure, .gcs, .s3, .emptyDir, .filesystem, .swift]

/-- The name of a kind. -/
def name : StorageKind → String
  | .azure => "azure"
  | .gcs => "gcs"
  | .s3 => "s3"
  | .emptyDir => "emptydir"
  | .filesystem => "filesystem"
  | .swift => "swift"

instance : ToString StorageKind := ⟨name⟩

/-- How a kind is called where a value is shown with all its parts. -/
def label : StorageKind → String
  | .azure => "Azure"
  | .gcs => "Gcs"
  | .s3 => "S3"
  | .emptyDir => "EmptyDir"
  | .filesystem => "Filesystem"
  | .swift => "Swift"

/-- The kind with a name. -/
def ofName? : String → Option StorageKind
  | "azure" => some .azure
  | "gcs" => some .gcs
  | "s3" => some .s3
  | "emptydir" => some .emptyDir
  | "filesystem" => some .filesystem
  | "swift" => some .swift
  | _ => none

/-- The complaint about a name that no kind has. -/
def unknownName (name : String) : String := "unknown storage kind: " ++ name

/-- The kind with a name that is given as plain text. -/
def parse (name : String) : Except String StorageKind :=
  match ofName? name with
  | some kind => .ok kind
  | none => .error (unknownName name)

/-- The name of a kind in JSON. -/
def jsonName (kind : StorageKind) : String := kind.label.toLower

/-- A kind as JSON. -/
def toJson (kind : StorageKind) : Json.Value := .string kind.jsonName

/-- The kind with a name that stands in a JSON text. -/
def named (name : String) : Except Json.Error StorageKind :=
  match all.find? fun kind => kind.jsonName == name with
  | some kind => .ok kind
  | none => .error (.shape (.unknownVariant name (all.map jsonName)))

/-- Reads a kind that is written as an object, after its opening brace. -/
def scanObject : Json.Scan StorageKind := fun text => do
  let (name, text) ← Json.scanString "variant identifier" text
  let kind ← named name
  let text ← Json.colon text
  match Json.skipSpace text with
  | [] => .error .endOfValue
  | c :: rest =>
    if c = 'n' then do
      let text ← Json.nameTail ['u', 'l', 'l'] rest
      match Json.skipSpace text with
      | [] => .error .endOfObject
      | d :: rest => if d = '\x7d' then .ok (kind, rest) else .error .expectedValue
    else .error (Json.mismatch "unit" (c :: rest))

/-- Reads a kind. -/
def scan : Json.Scan StorageKind := fun text =>
  match Json.skipSpace text with
  | [] => .error .endOfValue
  | c :: rest =>
    if c = '"' then do
      let (name, text) ← Json.stringTail rest
      .ok (← named (String.ofList name), text)
    else if c = '\x7b' then scanObject rest
    else .error .expectedValue

/-- The kind that a JSON text stands for. -/
def ofJson (text : String) : Except Json.Error StorageKind :=
  Json.Reader.run (fun _ => scan) text.toList

end StorageKind

end StorageBackend
