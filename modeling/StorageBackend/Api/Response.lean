import StorageBackend.Api.Failure
import StorageBackend.Json.Parts
import StorageBackend.Text.Utf8

/-!
# Responses

A response with a code from 400 to 599 is a refusal, and its body tells why: the code in the body
counts, not the one of the response. A refusal whose body is something else is described by the
response itself. The body of any other response is the object that was asked for.
-/

namespace StorageBackend.Api

open Json (Reader)
open Schema (Format)

/-- A response. -/
structure Response where
  code : UInt16
  body : List UInt8
deriving DecidableEq

namespace Response

/-- Whether a response is a refusal. -/
def isRefusal (response : Response) : Bool := 400 ≤ response.code && response.code ≤ 599

/-- What refusals are called, by their codes. -/
def phrases : List (UInt16 × String) :=
  [(400, "Bad Request"), (401, "Unauthorized"), (402, "Payment Required"), (403, "Forbidden"),
    (404, "Not Found"), (405, "Method Not Allowed"), (406, "Not Acceptable"),
    (407, "Proxy Authentication Required"), (408, "Request Timeout"), (409, "Conflict"),
    (410, "Gone"), (411, "Length Required"), (412, "Precondition Failed"),
    (413, "Payload Too Large"), (414, "URI Too Long"), (415, "Unsupported Media Type"),
    (416, "Range Not Satisfiable"), (417, "Expectation Failed"), (418, "I'm a teapot"),
    (421, "Misdirected Request"), (422, "Unprocessable Entity"), (423, "Locked"),
    (424, "Failed Dependency"), (425, "Too Early"), (426, "Upgrade Required"),
    (428, "Precondition Required"), (429, "Too Many Requests"),
    (431, "Request Header Fields Too Large"), (451, "Unavailable For Legal Reasons"),
    (500, "Internal Server Error"), (501, "Not Implemented"), (502, "Bad Gateway"),
    (503, "Service Unavailable"), (504, "Gateway Timeout"), (505, "HTTP Version Not Supported"),
    (506, "Variant Also Negotiates"), (507, "Insufficient Storage"), (508, "Loop Detected"),
    (510, "Not Extended"), (511, "Network Authentication Required")]

/-- A code in words. -/
def codeText (code : UInt16) : String :=
  toString code.toNat ++ " " ++ (phrases.lookup code).getD "<unknown status code>"

end Response

/-! ## Statuses -/

namespace Status

/-- The parts of a status that have been read. -/
structure Draft where
  status : Option String
  message : String
  reason : String
  code : Option Int
deriving Inhabited

/-- The status of a draft in which nothing that is required is missing. -/
def ofDraft? (draft : Draft) : Option Status := do
  let status ← draft.status
  let code ← draft.code
  some ⟨status, draft.message, draft.reason, UInt16.ofNat code.toNat⟩

/-- A status. Message and reason may be left out. -/
def reader : Reader Status :=
  let draft : Reader Draft :=
    Json.record "ErrorResponse" default
      [Format.field "status" Format.text fun value d => { d with status := some value },
        Format.field "message" Format.text fun value d => { d with message := value },
        Format.field "reason" Format.text fun value d => { d with reason := value },
        Format.field "code" Json.uint16 fun value d => { d with code := some value }]
  Json.refined draft ofDraft?

/-- The status for a refusal whose body tells nothing. -/
def unexplained (code : UInt16) (body : String) : Status where
  status := Response.codeText code
  message := Text.quoted body
  reason := "Failed to parse error data"
  code := code

/-- The status of a refusal. -/
def ofRefusal (code : UInt16) (body : String) : Status :=
  match Json.Reader.run reader body.toList with
  | .ok status => status
  | .error _ => unexplained code body

end Status

/-- The object in a response. -/
def Response.decode (read : Reader α) (response : Response) : Except Failure α :=
  match Text.Utf8.decode response.body with
  | .error malformed => .error (.notText malformed)
  | .ok body =>
    if response.isRefusal then .error (.refused (.ofRefusal response.code body))
    else
      match Json.Reader.run read body.toList with
      | .ok object => .ok object
      | .error _ => .error .unreadable

end StorageBackend.Api
