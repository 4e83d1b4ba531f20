import StorageBackend.Cluster.Client
import StorageBackend.Json.Parts
import StorageBackend.Text.Base64
import StorageBackend.Text.Timestamp

/-!
# Objects in answers

The JSON form of config maps and secrets. Only the name, the namespace and the data are kept, but
every known part has to be of the right shape. The version and the kind may be left out; if they are
given they have to be the right ones. The bytes of a secret stand in Base64.
-/

namespace StorageBackend.Api

open Cluster (ConfigMap Secret)
open Json (Reader)
open Schema (Field Format)

/-- A field that is read but not kept. -/
def passed (key : String) (read : Reader α) : Field Reader σ :=
  Format.field key (Format.optional read) fun _ state => state

/-- A text. -/
def text : Reader String := Format.text

/-- Texts under keys. -/
def texts : Reader (Entries String) := Json.dictionary text

/-- A point in time. -/
def timestamp : Reader Unit :=
  Json.refined text fun value => if Text.Timestamp.isTimestamp value then some () else none

/-- Bytes in Base64; null stands for no bytes. -/
def bytes : Reader (List UInt8) :=
  Json.refined (Format.optional text) fun value =>
    match value with
    | none => some []
    | some value => Text.Base64.decode value

/-- A text that has to be the given one. -/
def exactly (expected : String) : Reader Unit :=
  Json.refined text fun value => if value = expected then some () else none

/-! ## Metadata -/

/-- Name and namespace of an object. -/
structure Metadata where
  name : Option String
  ns : Option String
deriving Inhabited

/-- A reference to the owner of an object. -/
def ownerReference : Reader Unit :=
  Json.lenientRecord "OwnerReference" ()
    [passed "apiVersion" text, passed "blockOwnerDeletion" Json.boolean,
      passed "controller" Json.boolean, passed "kind" text, passed "name" text, passed "uid" text]

/-- Who manages which fields of an object. -/
def managedFields : Reader Unit :=
  Json.lenientRecord "ManagedFieldsEntry" ()
    [passed "apiVersion" text, passed "fieldsType" text, passed "fieldsV1" Json.value,
      passed "manager" text, passed "operation" text, passed "subresource" text,
      passed "time" timestamp]

/-- The metadata of an object. -/
def metadata : Reader Metadata :=
  Json.lenientRecord "ObjectMeta" default
    [passed "annotations" texts, passed "creationTimestamp" timestamp,
      passed "deletionGracePeriodSeconds" Json.int64, passed "deletionTimestamp" timestamp,
      passed "finalizers" (Json.list text), passed "generateName" text,
      passed "generation" Json.int64, passed "labels" texts,
      passed "managedFields" (Json.list managedFields),
      Format.field "name" (Format.optional text) fun name m => { m with name := name },
      Format.field "namespace" (Format.optional text) fun ns m => { m with ns := ns },
      passed "ownerReferences" (Json.list ownerReference), passed "resourceVersion" text,
      passed "selfLink" text, passed "uid" text]

/-! ## Objects -/

/-- The version of all objects that are read. -/
def version : String := "v1"

/-- An object of a kind, with entries that `data` reads and further fields. -/
def object (kind : String) (data : Reader α) (others : List (Field Reader (Cluster.Object α))) :
    Reader (Cluster.Object α) :=
  Json.lenientRecord kind default <|
    [Format.field "apiVersion" (exactly version) fun _ o => o,
      Format.field "kind" (exactly kind) fun _ o => o,
      Format.field "metadata" (Format.defaulted metadata) fun m o =>
        { o with name := m.name, ns := m.ns },
      Format.field "data" (Format.optional (Json.dictionary data)) fun entries o =>
        { o with data := entries },
      passed "immutable" Json.boolean] ++ others

/-- A config map. -/
def configMap : Reader ConfigMap :=
  object "ConfigMap" text [passed "binaryData" (Json.dictionary bytes)]

/-- A secret. -/
def secret : Reader Secret :=
  object "Secret" bytes [passed "stringData" texts, passed "type" text]

end StorageBackend.Api
