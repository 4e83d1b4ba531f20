import StorageBackend.Text.Layout
import StorageBackend.Text.Utf8

/-!
# Failures of the cluster's interface

The cluster answers a request that it refuses with a status of its own. Other requests fail before
they are sent, on the way, or because the answer cannot be read.
-/

namespace StorageBackend.Api

open Text (Layout)

/-- The status with which the cluster refuses a request. Its code decides what is wrong. -/
structure Status where
  status : String
  message : String
  reason : String
  code : UInt16
deriving DecidableEq, Inhabited

namespace Status

/-- The code that says that an object does not exist. -/
def notFound : UInt16 := 404

/-- A status with all its fields. -/
def layout (s : Status) : Layout :=
  .record "ErrorResponse"
    [("status", .text s.status), ("message", .text s.message), ("reason", .text s.reason),
      ("code", .atom (toString s.code.toNat))]

/-- A status in words, its fields behind them. -/
def text (s : Status) : String :=
  "ApiError: " ++ s.message ++ ": " ++ s.reason ++ " (" ++ s.layout.line ++ ")"

end Status

/-- Why a request has no answer. -/
inductive Failure where
  /-- The cluster refuses the request. -/
  | refused (status : Status)
  /-- The transport fails. -/
  | transport (message : String)
  /-- The body of a refusal is no text. -/
  | notText (malformed : Text.Utf8.Malformed)
  /-- The body is not the object that is asked for. -/
  | unreadable
  /-- An object without a name is asked for. -/
  | unnamed
  /-- The address holds a character that may not stand there. -/
  | invalidAddress
  /-- The address is too long. -/
  | longAddress
deriving DecidableEq

namespace Failure

/-- The reasons below a failure, nearest first. -/
def below : Failure → List String
  | .refused status => [status.message ++ ": " ++ status.reason]
  | .transport message => [message]
  | .notText malformed => [malformed.message]
  | .unreadable => []
  | .unnamed => ["failed to validate request: A non-empty name is required"]
  | .invalidAddress => ["failed to build request: invalid uri character", "invalid uri character"]
  | .longAddress => ["failed to build request: uri too long", "uri too long"]

/-- What fails, in words, before the reason below is told. -/
def stage : Failure → String
  | .refused _ => "ApiError"
  | .transport _ => "ServiceError"
  | .notText _ => "UTF-8 Error"
  | .unreadable => "Error deserializing response"
  | .unnamed | .invalidAddress | .longAddress => "Failed to build request"

/-- The failure in words. -/
def text (failure : Failure) : String :=
  match failure with
  | .refused status => status.text
  | failure =>
    match failure.below with
    | [] => failure.stage
    | reason :: _ => failure.stage ++ ": " ++ reason

/-- A failure with all its fields. -/
def layout : Failure → Layout
  | .refused status => .wrapped "Api" status.layout
  | .transport message => .wrapped "Service" (.text message)
  | .notText malformed => .wrapped "FromUtf8" (.text malformed.message)
  | .unreadable => .atom "SerdeError"
  | .unnamed => .wrapped "BuildRequest" (.atom "Unnamed")
  | .invalidAddress => .wrapped "BuildRequest" (.atom "InvalidUri")
  | .longAddress => .wrapped "BuildRequest" (.atom "TooLong")

end Failure

end StorageBackend.Api
