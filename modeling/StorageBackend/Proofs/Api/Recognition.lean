import StorageBackend.Api.Client
import StorageBackend.Proofs.Text.Utf8

/-!
# What replies tell

A read of an object that can be asked for is a single request, and the reply to it tells what
the read finds: the object, that there is none, or what has failed. `Told` lists the replies with
what they tell, and `client_asks` says that the client goes by this list for both kinds of objects.
Only a refusal that counts as "not found" tells that there is no object (`told_none_iff`).
-/

namespace StorageBackend.Api

open Cluster (Answer)
open Text.Utf8 (encode)

variable {σ α : Type}

/-! ## Addresses -/

/-- The characters of names in the cluster: lower-case letters, digits, hyphens and dots. -/
def isNameChar (c : Char) : Bool :=
  ('a' ≤ c && c ≤ 'z') || ('0' ≤ c && c ≤ '9') || c == '-' || c == '.'

/-- A name in the cluster. -/
structure IsName (name : String) : Prop where
  nonempty : name ≠ ""
  chars : ∀ c ∈ name.toList, isNameChar c = true

/-- An object with names of the cluster whose address is not too long. -/
structure Addressable (object : ObjectRef) : Prop where
  ns : IsName object.ns
  name : IsName object.name
  fits : (address object).utf8ByteSize ≤ Uri.longest

instance (name : String) : Decidable (IsName name) :=
  decidable_of_iff (name ≠ "" ∧ name.toList.all isNameChar = true)
    ⟨fun h => ⟨h.1, List.all_eq_true.mp h.2⟩, fun h => ⟨h.nonempty, List.all_eq_true.mpr h.chars⟩⟩

instance (object : ObjectRef) : Decidable (Addressable object) :=
  decidable_of_iff (IsName object.ns ∧ IsName object.name ∧
      (address object).utf8ByteSize ≤ Uri.longest)
    ⟨fun h => ⟨h.1, h.2.1, h.2.2⟩, fun h => ⟨h.ns, h.name, h.fits⟩⟩

/-- An object that can be asked for: its address may be sent. -/
structure Sendable (object : ObjectRef) : Prop where
  sent : ∃ path, target object = .ok path

/-- What is sent to ask for an object, if it can be asked for. -/
@[irreducible]
def path (object : ObjectRef) : String := (target object).toOption.getD ""

/-- The path of an object that can be asked for is what is sent. -/
theorem target_of_sendable {object : ObjectRef} (h : Sendable object) :
    target object = .ok (path object) := by
  obtain ⟨sent, hsent⟩ := h.sent
  rw [path, hsent]
  rfl

/-- The characters of names stand for themselves in a path. -/
theorem name_char_class {c : Char} (h : isNameChar c = true) :
    c ≠ '#' ∧ c ≠ '?' ∧ Uri.isPathChar c = true := by
  simp only [isNameChar, Bool.or_eq_true, Bool.and_eq_true, decide_eq_true_eq, beq_iff_eq,
    Char.le_def, UInt32.le_iff_toNat_le] at h
  rcases h with ((⟨hlow, hhigh⟩ | ⟨hlow, hhigh⟩) | rfl) | rfl
  · change 97 ≤ c.toNat at hlow
    change c.toNat ≤ 122 at hhigh
    refine ⟨?_, ?_, ?_⟩
    · rintro rfl
      simp at hlow
    · rintro rfl
      simp at hlow
    · simp [Uri.isPathChar, hlow, hhigh]
  · change 48 ≤ c.toNat at hlow
    change c.toNat ≤ 57 at hhigh
    refine ⟨?_, ?_, ?_⟩
    · rintro rfl
      simp at hlow
    · rintro rfl
      simp at hhigh
    · have hrange : 0x24 ≤ c.toNat ∧ c.toNat ≤ 0x3b := by omega
      simp [Uri.isPathChar, hrange]
  · decide
  · decide

/-- Names and the slashes between them are sent as they are. -/
theorem sent_part_plain {text : List Char} (h : ∀ c ∈ text, isNameChar c = true ∨ c = '/') :
    Uri.sentPart false text = some text := by
  induction text with
  | nil => rfl
  | cons c text ih =>
    have hrest := ih fun d hd => h d (List.mem_cons_of_mem c hd)
    obtain ⟨hmark, hquery, hpath⟩ : c ≠ '#' ∧ c ≠ '?' ∧ Uri.isPathChar c = true := by
      rcases h c List.mem_cons_self with hname | rfl
      · exact name_char_class hname
      · decide
    rw [Uri.sentPart, if_neg hmark]
    simp [hquery, hpath, hrest]

/-- The characters of an address, part by part. -/
theorem address_chars (object : ObjectRef) :
    (address object).toList = "/api/v1/namespaces/".toList ++ object.ns.toList ++ "/".toList ++
      (collection object.kind).toList ++ "/".toList ++ object.name.toList := by
  have happend : ∀ a b c d e f : String, (a ++ b ++ c ++ d ++ e ++ f).toList =
      a.toList ++ b.toList ++ c.toList ++ d.toList ++ e.toList ++ f.toList := fun _ _ _ _ _ _ => by
    simp only [String.toList_append]
  exact happend _ _ _ _ _ _

/-- What can be checked for characters holds for those of a text if it is checked for each. -/
theorem of_all_chars {P : Char → Prop} [DecidablePred P] {text : List Char}
    (h : text.all (fun c => decide (P c)) = true) : ∀ c ∈ text, P c :=
  fun c hc => of_decide_eq_true (List.all_eq_true.mp h c hc)

/-- An address is made of characters of names and slashes. -/
theorem address_char {object : ObjectRef} (hns : IsName object.ns) (hname : IsName object.name) :
    ∀ c ∈ (address object).toList, isNameChar c = true ∨ c = '/' := by
  have hfront : ∀ c ∈ "/api/v1/namespaces/".toList, isNameChar c = true ∨ c = '/' :=
    of_all_chars (by decide +kernel)
  have hslash : ∀ c ∈ "/".toList, isNameChar c = true ∨ c = '/' :=
    of_all_chars (by decide +kernel)
  have hkind : ∀ c ∈ (collection object.kind).toList, isNameChar c = true ∨ c = '/' := by
    cases object.kind with
    | configMap => exact of_all_chars (by decide +kernel)
    | secret => exact of_all_chars (by decide +kernel)
  rw [address_chars]
  simp only [List.forall_mem_append]
  exact ⟨⟨⟨⟨⟨hfront, fun c hc => .inl (hns.chars c hc)⟩, hslash⟩, hkind⟩, hslash⟩,
    fun c hc => .inl (hname.chars c hc)⟩

/-- The address of such an object is sent as it is. -/
theorem target_of_addressable {object : ObjectRef} (h : Addressable object) :
    target object = .ok (address object) := by
  have hshort : ¬ Uri.longest < (address object).utf8ByteSize := Nat.not_lt.mpr h.fits
  obtain ⟨rest, hrest⟩ : ∃ rest, (address object).toList = '/' :: rest := by
    have hslash : "/api/v1/namespaces/".toList = '/' :: "api/v1/namespaces/".toList := by
      decide +kernel
    rw [address_chars, hslash]
    exact ⟨_, rfl⟩
  have hparse : Uri.parse? (address object) = some ⟨"", "", address object⟩ := by
    rw [Uri.parse?, if_neg hshort, hrest, Uri.ofChars?, ← hrest,
      sent_part_plain (address_char h.ns h.name)]
    show some _ = _
    rw [String.ofList_toList]
  have hempty : ¬ object.name.isEmpty = true := by
    rw [String.isEmpty_iff]
    exact h.name.nonempty
  rw [target, if_neg hempty]
  simp only [if_neg hshort, hparse]

/-- Such an object can be asked for, and its address is what is sent. -/
theorem Addressable.sendable {object : ObjectRef} (h : Addressable object) :
    Sendable object ∧ path object = address object := by
  have htarget := target_of_addressable h
  refine ⟨⟨_, htarget⟩, ?_⟩
  rw [path, htarget]
  rfl

/-! ## Replies -/

/-- The code that counts for a refusal with a text: the one that the text states, and the one of the
response if the text is no status. -/
def apiCode (response : Response) (body : String) : UInt16 :=
  match Json.Reader.run Status.reader body.toList with
  | .ok status => status.code
  | .error _ => response.code

/-- A reply that says that there is no such object. -/
inductive IsNotFound : Except String Response → Prop where
  | refused (response : Response) (body : String) (hbody : response.body = encode body)
      (hrefusal : response.isRefusal = true) (hcode : apiCode response body = 404) :
      IsNotFound (.ok response)

/-- What a reply tells a read of an object. -/
inductive Told (read : Json.Reader α) :
    Except String Response → Except StorageBackend.Error (Option α) → Prop where
  /-- There is no response. -/
  | silence (message : String) : Told read (.error message) (.error (.cluster (.transport message)))
  /-- The response is no text. -/
  | notText (response : Response) (malformed : Text.Utf8.Malformed)
      (hbody : Text.Utf8.decode response.body = .error malformed) :
      Told read (.ok response) (.error (.cluster (.notText malformed)))
  /-- The request is refused as there is no such object. -/
  | notFound (response : Response) (h : IsNotFound (.ok response)) :
      Told read (.ok response) (.ok none)
  /-- The request is refused for another reason. -/
  | refused (response : Response) (body : String) (hbody : response.body = encode body)
      (hrefusal : response.isRefusal = true) (hcode : apiCode response body ≠ 404) :
      Told read (.ok response)
        (.error (.cluster (.refused (Status.ofRefusal response.code body))))
  /-- The object is there. -/
  | object (response : Response) (body : String) (object : α) (hbody : response.body = encode body)
      (hrefusal : response.isRefusal = false)
      (hread : Json.Reader.run read body.toList = .ok object) :
      Told read (.ok response) (.ok (some object))
  /-- The text is not the object. -/
  | unreadable (response : Response) (body : String) (error : Json.Error)
      (hbody : response.body = encode body) (hrefusal : response.isRefusal = false)
      (hread : Json.Reader.run read body.toList = .error error) :
      Told read (.ok response) (.error (.cluster .unreadable))

/-- The code of the status of a refusal is the one that counts. -/
theorem code_of_refusal (response : Response) (body : String) :
    (Status.ofRefusal response.code body).code = apiCode response body := by
  unfold Status.ofRefusal apiCode
  cases Json.Reader.run Status.reader body.toList with
  | ok status => rfl
  | error error => rfl

/-- A response is read as the list says. -/
theorem told_decode (read : Json.Reader α) (response : Response) (event : Log.Event) :
    Told read (.ok response) (settled event (response.decode read)).1 := by
  unfold Response.decode
  cases hdecode : Text.Utf8.decode response.body with
  | error malformed => exact .notText response malformed hdecode
  | ok body =>
    have hbody : response.body = encode body := (Text.Utf8.decode_eq_ok_iff.mp hdecode).symm
    cases hrefusal : response.isRefusal with
    | true =>
      by_cases hcode : apiCode response body = 404
      · have hstatus : (Status.ofRefusal response.code body).code = Status.notFound :=
          (code_of_refusal response body).trans hcode
        simp only [if_true, settled, if_pos hstatus]
        exact .notFound response ⟨response, body, hbody, hrefusal, hcode⟩
      · have hstatus : ¬ (Status.ofRefusal response.code body).code = Status.notFound := by
          rwa [code_of_refusal]
        simp only [if_true, settled, if_neg hstatus]
        exact .refused response body hbody hrefusal hcode
    | false =>
      simp only [Bool.false_eq_true, if_false]
      cases hread : Json.Reader.run read body.toList with
      | ok object => exact .object response body object hbody hrefusal hread
      | error error => exact .unreadable response body error hbody hrefusal hread

section

variable {read : Json.Reader α} {reply : Except String Response}
  {result : Except StorageBackend.Error (Option α)}

/-- The list says nothing else of a response than how it is read. -/
theorem eq_of_told {response : Response} (h : Told read (.ok response) result)
    (event : Log.Event) : result = (settled event (response.decode read)).1 := by
  unfold Response.decode
  cases h with
  | notText _ malformed hbody =>
    rw [hbody]
    rfl
  | notFound _ hnot =>
    cases hnot with
    | refused _ body hbody hrefusal hcode =>
      have hstatus : (Status.ofRefusal response.code body).code = Status.notFound :=
        (code_of_refusal response body).trans hcode
      rw [Text.Utf8.decode_eq_ok_iff.mpr hbody.symm]
      simp only [hrefusal, if_true, settled, if_pos hstatus]
  | refused _ body hbody hrefusal hcode =>
    have hstatus : ¬ (Status.ofRefusal response.code body).code = Status.notFound := by
      rwa [code_of_refusal]
    rw [Text.Utf8.decode_eq_ok_iff.mpr hbody.symm]
    simp only [hrefusal, if_true, settled, if_neg hstatus]
  | object _ body object hbody hrefusal hread =>
    rw [Text.Utf8.decode_eq_ok_iff.mpr hbody.symm]
    simp only [hrefusal, hread]
    rfl
  | unreadable _ body error hbody hrefusal hread =>
    rw [Text.Utf8.decode_eq_ok_iff.mpr hbody.symm]
    simp only [hrefusal, hread]
    rfl

/-- A reply tells one thing only. -/
theorem told_unique {other : Except StorageBackend.Error (Option α)} (h : Told read reply result)
    (hother : Told read reply other) : result = other := by
  cases reply with
  | error message =>
    cases h
    cases hother
    rfl
  | ok response =>
    exact (eq_of_told h (.userSecret "" "")).trans (eq_of_told hother (.userSecret "" "")).symm

/-- That there is no object is told by a refusal that counts as "not found", and by nothing else. -/
theorem told_none_iff (h : Told read reply result) : result = .ok none ↔ IsNotFound reply := by
  constructor
  · rintro rfl
    cases h with
    | notFound response hnot => exact hnot
  · intro hnot
    cases reply with
    | error message => cases hnot
    | ok response => exact told_unique h (.notFound response hnot)

/-- What fails is the way to the cluster. -/
theorem told_error {error : StorageBackend.Error} (h : Told read reply (.error error)) :
    ∃ failure, error = .cluster failure := by
  cases h with
  | silence message => exact ⟨_, rfl⟩
  | notText response malformed => exact ⟨_, rfl⟩
  | refused response body => exact ⟨_, rfl⟩
  | unreadable response body => exact ⟨_, rfl⟩

end

/-! ## Reads -/

/-- A turn in a conversation: the instant that has come, and what has been said before. -/
structure Turn (σ : Type) where
  now : Instant
  conversation : Conversation σ

namespace Turn

variable (transport : Transport σ) (turn : Turn σ) (object : ObjectRef)

/-- The reply to a request for an object that is sent now. -/
def reply : Reply σ := transport.send (path object) turn.now turn.conversation.state

/-- The turn at which the reply to a request for an object has come. -/
def ask : Turn σ where
  now := turn.now + (turn.reply transport object).took.nanos
  conversation := ⟨(turn.reply transport object).state, path object :: turn.conversation.sent⟩

end Turn

/-- A read of an object that asks for it once, takes as long as the reply, and finds what it
tells. -/
structure Asks (transport : Transport σ) (read : Json.Reader α) (object : ObjectRef) (turn : Turn σ)
    (found : Answer (Conversation σ) α) : Prop where
  state : found.state = (turn.ask transport object).conversation
  took : found.took = (turn.reply transport object).took
  told : Told read (turn.reply transport object).response found.result

/-- A request that can be sent is sent once, and what comes back is what its reply says. -/
theorem fetch_of_sendable (transport : Transport σ) (read : Json.Reader α) {object : ObjectRef}
    (h : Sendable object) (turn : Turn σ) :
    fetch transport read object turn.now turn.conversation =
      (match (turn.reply transport object).response with
        | .error message => .error (.transport message)
        | .ok response => response.decode read,
        (turn.reply transport object).took, (turn.ask transport object).conversation) := by
  rw [fetch, target_of_sendable h]
  show (match (turn.reply transport object).response with
    | .error message => _
    | .ok response => _) = _
  cases (turn.reply transport object).response with
  | error message => rfl
  | ok response => rfl

/-- The answer to a read of an object that can be asked for. -/
theorem answer_asks (transport : Transport σ) (read : Json.Reader α) {object : ObjectRef}
    (h : Sendable object) (event : Log.Event) (turn : Turn σ) :
    Asks transport read object turn
      (answer transport read object event turn.now turn.conversation) := by
  rw [answer, fetch_of_sendable transport read h turn]
  refine ⟨rfl, rfl, ?_⟩
  cases hreply : (turn.reply transport object).response with
  | error message => exact .silence message
  | ok response => exact told_decode read response event

/-- Config maps are asked for like this. -/
theorem config_map_asks (transport : Transport σ) {ns name : String}
    (h : Sendable ⟨.configMap, ns, name⟩) (turn : Turn σ) :
    Asks transport configMap ⟨.configMap, ns, name⟩ turn
      ((client transport).configMap ns name turn.now turn.conversation) :=
  answer_asks transport configMap h _ turn

/-- Secrets are asked for alike. -/
theorem secret_asks (transport : Transport σ) {ns name : String}
    (h : Sendable ⟨.secret, ns, name⟩) (turn : Turn σ) :
    Asks transport secret ⟨.secret, ns, name⟩ turn
      ((client transport).secret ns name turn.now turn.conversation) :=
  answer_asks transport secret h _ turn

namespace Routes

variable {routes : Routes} {target other : String} {response : Response}

/-- The only response for an address is given again and again. -/
theorem respond_cons_self :
    respond ((target, [response]) :: routes) target =
      (response, (target, [response]) :: routes) := by
  rw [respond, if_pos rfl]

/-- Routes for another address do not count. -/
theorem respond_cons_of_ne (h : other ≠ target) (responses : List Response)
    (hrest : routes.respond target = (response, routes)) :
    respond ((other, responses) :: routes) target =
      (response, (other, responses) :: routes) := by
  unfold respond
  rw [if_neg h, hrest]

end Routes

/-- Where an address always leads to the same response, a read gives what this response says, and
the routes stay as they are. -/
theorem routed_answer (read : Json.Reader α) {object : ObjectRef} (h : Sendable object)
    (event : Log.Event) {routes : Routes} {response : Response}
    (hresponse : routes.respond (path object) = (response, routes)) (now : Instant)
    (sent : List String) :
    answer routed read object event now ⟨routes, sent⟩ =
      ⟨(settled event (response.decode read)).1, ⟨0⟩, ⟨routes, path object :: sent⟩,
        (settled event (response.decode read)).2⟩ := by
  have hreply : Turn.reply routed ⟨now, ⟨routes, sent⟩⟩ object = ⟨.ok response, ⟨0⟩, routes⟩ := by
    simp only [Turn.reply, routed, hresponse]
  rw [answer, fetch_of_sendable routed read h ⟨now, ⟨routes, sent⟩⟩, Turn.ask, hreply]

end StorageBackend.Api
