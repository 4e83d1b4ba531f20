import StorageBackend.Api.Object
import StorageBackend.Api.Response
import StorageBackend.Api.Uri
import StorageBackend.Cluster.Client

/-!
# The cluster behind its interface

A client that sends a request for every read and reads the response. A refusal with the code for
"not found" means that the object does not exist, whatever the response looks like otherwise; every
other failure is an error. The transport is left open: it may follow a script or a table of routes.
-/

namespace StorageBackend.Api

open Cluster (Answer Client)

/-! ## Requests

The address of an object is built from its namespace and its name as they are. Some characters may
not stand in an address; a number sign and what follows it is not sent. -/

/-- The part of an address that tells the kind of an object. -/
def collection : ObjectKind → String
  | .configMap => "configmaps"
  | .secret => "secrets"

/-- The address of an object. -/
def address (object : ObjectRef) : String :=
  "/api/v1/namespaces/" ++ object.ns ++ "/" ++ collection object.kind ++ "/" ++ object.name

/-- The address under which an object is asked for. -/
def target (object : ObjectRef) : Except Failure String :=
  if object.name.isEmpty then .error .unnamed
  else
    let address := address object
    if Uri.longest < address.utf8ByteSize then .error .longAddress
    else
      match Uri.parse? address with
      | some uri => .ok uri.path
      | none => .error .invalidAddress

/-! ## Reads -/

/-- What comes back for a request: a response or the reason why there is none, how long that took,
and what the transport keeps. -/
structure Reply (σ : Type) where
  response : Except String Response
  took : Duration
  state : σ

/-- A way to the cluster. The reply to a request may depend on the instant at which it is sent. -/
structure Transport (σ : Type) where
  send : (target : String) → Instant → σ → Reply σ

/-- What a transport keeps, with all requests that have been sent, last one first. -/
structure Conversation (σ : Type) where
  state : σ
  sent : List String

/-- The object in an answer; not found is no failure. -/
def settled (notFound : Log.Event) : Except Failure α →
    Except StorageBackend.Error (Option α) × List Log.Event
  | .ok object => (.ok (some object), [])
  | .error (.refused status) =>
    if status.code = Status.notFound then (.ok none, [notFound])
    else (.error (.cluster (.refused status)), [])
  | .error failure => (.error (.cluster failure), [])

/-- Sends a request, if there is an address, and reads the response. Nothing takes time but the
reply. -/
def fetch (transport : Transport σ) (read : Json.Reader α) (object : ObjectRef) (now : Instant)
    (conversation : Conversation σ) : Except Failure α × Duration × Conversation σ :=
  match target object with
  | .error failure => (.error failure, ⟨0⟩, conversation)
  | .ok target =>
    let reply := transport.send target now conversation.state
    let conversation : Conversation σ := ⟨reply.state, target :: conversation.sent⟩
    match reply.response with
    | .error message => (.error (.transport message), reply.took, conversation)
    | .ok response => (response.decode read, reply.took, conversation)

/-- The answer to a read. -/
def answer (transport : Transport σ) (read : Json.Reader α) (object : ObjectRef)
    (notFound : Log.Event) (now : Instant) (conversation : Conversation σ) :
    Answer (Conversation σ) α :=
  let (result, took, conversation) := fetch transport read object now conversation
  let (result, log) := settled notFound result
  ⟨result, took, conversation, log⟩

/-- Read access to the cluster behind a transport. -/
def client (transport : Transport σ) : Client (Conversation σ) where
  configMap ns name :=
    answer transport configMap ⟨.configMap, ns, name⟩ (.configMapNotFound ns name)
  secret ns name := answer transport secret ⟨.secret, ns, name⟩ (.secretNotFound ns name)

/-! ## Transports -/

/-- A transport that follows a script of responses and failures, each with the time that it takes.
Behind the script every request fails at once. -/
def scripted : Transport (Script (Except String Response × Duration)) where
  send _ _ script :=
    match script.next? with
    | some ((response, took), script) => ⟨response, took, script⟩
    | none => ⟨.error "no more responses", ⟨0⟩, []⟩

/-- Responses by address, used in order; the last one of an address is used again. -/
abbrev Routes := List (String × List Response)

namespace Routes

/-- The response for an address that leads nowhere. -/
def nowhere : Response where
  code := Status.notFound
  body := Text.Utf8.encode <|
    "\x7b\"kind\":\"Status\",\"apiVersion\":\"v1\",\"metadata\":\x7b\x7d,\"status\":\"Failure\"," ++
      "\"message\":\"not found\",\"reason\":\"NotFound\",\"code\":404\x7d"

/-- The response for an address, and what is left. -/
def respond (routes : Routes) (target : String) : Response × Routes :=
  match routes with
  | [] => (nowhere, [])
  | (address, responses) :: rest =>
    if address = target then
      match responses with
      | [] => (nowhere, routes)
      | [response] => (response, routes)
      | response :: responses => (response, (address, responses) :: rest)
    else
      let (response, rest) := respond rest target
      (response, (address, responses) :: rest)

end Routes

/-- A transport over a table of routes, which responds at once. -/
def routed : Transport Routes where
  send target _ routes :=
    let (response, routes) := routes.respond target
    ⟨.ok response, ⟨0⟩, routes⟩

end StorageBackend.Api
