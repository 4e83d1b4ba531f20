import StorageBackend.Proofs.Api.Waiting

/-!
# Not found, and nothing else

Of all replies only one lets a wait go on: the refusal of a request with the code for "not found",
which may stand in its body or be that of the response. `only_not_found_waited_for` says so for
reads of both kinds and for whole resolutions, over any transport. It needs addresses that can be
sent: a name may be too long for one (`long_names_not_asked_for`).
-/

namespace StorageBackend.Api

open Cluster (Answer)
open Credentials (searchReads secretRef)
open InstallConfig (Holds sourceRead sourceRef)
open Resolver (resolve)

variable {σ α : Type}

/-- A read that sends one request, takes "not found" and nothing else for the absence of the object,
and has no errors but those of the interface. -/
structure Recognises (transport : Transport σ) (read : Json.Reader α) (object : ObjectRef)
    (turn : Turn σ) (found : Answer (Conversation σ) α) : Prop
    extends Asks transport read object turn found where
  absent : found.result = .ok none ↔ IsNotFound (turn.reply transport object).response
  failed : ∀ error, found.result = .error error → ∃ failure, error = .cluster failure

/-- A read that goes by what the reply tells recognises "not found". -/
theorem Asks.recognises {transport : Transport σ} {read : Json.Reader α} {object : ObjectRef}
    {turn : Turn σ} {found : Answer (Conversation σ) α}
    (h : Asks transport read object turn found) :
    Recognises transport read object turn found := by
  refine ⟨h, told_none_iff h.told, fun error herror => ?_⟩
  have htold := h.told
  rw [herror] at htold
  exact told_error htold

/-- Objects with names of the cluster are asked for under their address, unless it is too long.
Reads of config maps and of secrets send one request, take as long as the reply to it, and recognise
"not found" in it by the code that counts. When a resolution on AWS has found the secret of a user
not to exist, it sends one request for the installer's secret after the other as long as this code
comes and there is time for another pause, and no more; the last reply ends it and gives its result:
what stands in the object, the error of the reply as it is, or at the deadline that it is over. A
resolution is not over before this, and with a pause and a deadline it comes to this. -/
theorem only_not_found_waited_for (transport : Transport σ) (start : Turn σ) :
    (∀ object, Addressable object → Sendable object ∧ path object = address object) ∧
    (∀ ns name, Sendable ⟨.configMap, ns, name⟩ →
      Recognises transport configMap ⟨.configMap, ns, name⟩ start
        ((client transport).configMap ns name start.now start.conversation)) ∧
    (∀ ns name, Sendable ⟨.secret, ns, name⟩ →
      Recognises transport secret ⟨.secret, ns, name⟩ start
        ((client transport).secret ns name start.now start.conversation)) ∧
    ∀ (settings : ResolverSettings) (config : InstallConfig), Reachable settings.sources →
      Holds (sourceRead (client transport) start.now start.conversation).result config →
      config.platformType = .aws →
      IsNotFound ((start.ask transport sourceRef).reply transport
        (secretRef settings.sources.ns settings.sources.userSecret)).response →
      (∀ n, IsLastCheck transport settings start n → ∀ budget,
        if n < budget then
          ∃ outcome found,
            resolve (client transport) settings budget start.now start.conversation =
              some outcome ∧
            outcome.now = (installerReplied transport settings start n).now ∧
            outcome.state = (installerReplied transport settings start n).conversation ∧
            outcome.state.sent =
              ((sourceRef :: searchReads settings.sources (n + 1)).map path).reverse ++
                start.conversation.sent ∧
            Told secret (installerReply transport settings start n) found ∧
            outcome.result = installerResult settings config
              ⟨outcome.now - waitStart transport settings start⟩ found
        else resolve (client transport) settings budget start.now start.conversation = none) ∧
      ((∀ k, GoesOn transport settings start k) → ∀ budget,
        resolve (client transport) settings budget start.now start.conversation = none) ∧
      (0 < settings.poll.interval.nanos →
        waitStart transport settings start + settings.poll.timeout.nanos < Clock.horizon →
        ∃ n ≤ settings.poll.timeout.nanos / settings.poll.interval.nanos,
          IsLastCheck transport settings start n) := by
  refine ⟨fun _ => Addressable.sendable,
    fun ns name h => (config_map_asks transport h start).recognises,
    fun ns name h => (secret_asks transport h start).recognises,
    fun settings config hreach hholds hplatform hnone =>
      ⟨fun n hlast budget => ?_, fun hnever => ?_, exists_last_check transport start hreach⟩⟩
  · exact resolve_of_last transport start hreach hholds hplatform hnone hlast budget
  · exact resolve_of_endless transport start hreach hholds hplatform hnone hnever

/-! ## An interface that refuses in several ways -/

/-- A refusal whose body states a code of its own. -/
def refuse (code : UInt16) (stated : String) : Response :=
  respond code ("\x7b\"status\":\"Failure\",\"code\":" ++ stated ++ "\x7d")

/-- A configuration for AWS, no secret of a user, and twice no secret of the installer, which the
code of the response tells or only the one in its body; then a refusal whose body does not say that
there is no such secret, although the code of the response does. Every response takes some time. -/
def refusals : Turn (Script (Except String Response × Duration)) where
  now := 0
  conversation :=
    { state :=
        [(1, .ok (respond 200 awsBody), ⟨200000000⟩),
          (1, .ok (respond 404 "no such page"), ⟨50000000⟩),
          (1, .ok (refuse 503 "404"), ⟨300000000⟩),
          (1, .ok (respond 404 ""), ⟨100500000⟩), (9, .ok (refuse 404 "403"), ⟨40000000⟩)]
      sent := [] }

/-- The wait ends with the last of these refusals, which is the result, after five requests and the
time that they and two pauses take. -/
theorem misleading_refusal_ends_wait :
    ∃ outcome,
      resolve (client scripted) default 3 refusals.now refusals.conversation = some outcome ∧
      outcome.now = 2691000000 ∧ outcome.state.sent.length = 5 ∧
      outcome.result = .error (.cluster (.refused ⟨"Failure", "", "", 403⟩)) := by
  obtain ⟨-, -, -, hresolve⟩ := only_not_found_waited_for scripted refusals
  obtain ⟨config, hholds, hplatform⟩ := aws_body_holds _ _
  have huser : IsNotFound ((refusals.ask scripted sourceRef).reply scripted
      (secretRef CredentialSources.default.ns CredentialSources.default.userSecret)).response :=
    ⟨respond 404 "no such page", _, rfl, rfl, by decide +kernel⟩
  have hfirst : installerReply scripted default refusals 0 = .ok (refuse 503 "404") := rfl
  have hsecond : installerReply scripted default refusals 1 = .ok (respond 404 "") := rfl
  have hthird : installerReply scripted default refusals 2 = .ok (refuse 404 "403") := rfl
  have hended : ∀ {result}, Told secret (.ok (refuse 404 "403")) result →
      result = .error (.cluster (.refused ⟨"Failure", "", "", 403⟩)) := by
    have hstatus : Status.ofRefusal 404 "\x7b\"status\":\"Failure\",\"code\":403\x7d" =
      ⟨"Failure", "", "", 403⟩ := by decide +kernel
    intro result htold
    rw [← hstatus]
    exact told_unique htold (.refused (refuse 404 "403") _ rfl rfl (by decide +kernel))
  have hlast : IsLastCheck scripted default refusals 2 := by
    refine ⟨fun k hk => ?_, fun hgoes => ?_⟩
    · have hcases : k = 0 ∨ k = 1 := by omega
      rcases hcases with rfl | rfl
      · refine ⟨?_, fun _ => by decide +kernel⟩
        exact hfirst ▸ ⟨refuse 503 "404", _, rfl, rfl, by decide +kernel⟩
      · refine ⟨?_, fun _ => by decide +kernel⟩
        exact hsecond ▸ ⟨respond 404 "", _, rfl, rfl, by decide +kernel⟩
    · have hnot : IsNotFound (.ok (refuse 404 "403")) := hthird ▸ hgoes.1
      cases hended (.notFound _ hnot)
  obtain ⟨hover, -, -⟩ := hresolve default config default_reachable hholds hplatform huser
  obtain ⟨outcome, found, houtcome, hnow, -, hsent, htold, hresult⟩ := hover 2 hlast 3
  have htold : Told secret (.ok (refuse 404 "403")) found := hthird ▸ htold
  rw [hended htold] at hresult
  refine ⟨outcome, houtcome, ?_, ?_, hresult⟩
  · rw [hnow]
    decide +kernel
  · rw [hsent, List.length_append, List.length_reverse, List.length_map]
    rfl

/-! ## Names that are too long -/

/-- A name of a number of letters. -/
def letters (n : Nat) : String := String.ofList (List.replicate n 'a')

/-- Every letter takes one byte. -/
theorem size_of_letters (n : Nat) : (letters n).utf8ByteSize = n := by
  have hletter : "a".utf8ByteSize = 1 := rfl
  unfold letters
  induction n with
  | zero => rfl
  | succ n ih =>
    rw [List.replicate_succ', String.ofList_append, String.utf8ByteSize_append, ih]
    exact congrArg (n + ·) hletter

/-- Letters are a name. -/
theorem letters_is_name {n : Nat} (h : 0 < n) : IsName (letters n) := by
  refine ⟨fun hempty => ?_, fun c hc => ?_⟩
  · have hsize := size_of_letters n
    rw [hempty] at hsize
    exact absurd hsize (Nat.ne_of_lt h)
  · rw [letters, String.toList_ofList] at hc
    rw [List.eq_of_mem_replicate hc]
    decide

/-- The address of an object with a name that is too long is not sent. -/
theorem target_of_long {object : ObjectRef} (hname : IsName object.name)
    (h : Uri.longest < object.name.utf8ByteSize) : target object = .error .longAddress := by
  obtain ⟨front, hfront⟩ : ∃ front, address object = front ++ object.name := ⟨_, rfl⟩
  have hlong : Uri.longest < (address object).utf8ByteSize := by
    rw [hfront, String.utf8ByteSize_append]
    exact Nat.lt_of_lt_of_le h (Nat.le_add_left _ _)
  have hempty : ¬ object.name.isEmpty = true := by
    rw [String.isEmpty_iff]
    exact hname.nonempty
  rw [target, if_neg hempty]
  exact if_pos hlong

/-- No request is sent for a name that is too long. -/
theorem sent_of_long (transport : Transport σ) (conversation : Conversation σ) (ns : String)
    {name : String} (hname : IsName name) (h : Uri.longest < name.utf8ByteSize) (now : Instant) :
    ((client transport).secret ns name now conversation).state = conversation := by
  have htarget : target ⟨.secret, ns, name⟩ = .error .longAddress := target_of_long hname h
  simp only [client, answer, fetch, htarget]

/-- Not every object with a proper name is asked for: with a name of seventy thousand letters no
request is sent, and so no reply is recognised. -/
theorem long_names_not_asked_for :
    ¬ ∀ (ns name : String) (response : Response), IsName ns → IsName name →
      IsNotFound (.ok response) →
      let found := (client scripted).secret ns name 0 ⟨[(1, .ok response, ⟨0⟩)], []⟩
      found.state.sent.length = 1 ∧ found.result = .ok none := by
  intro hclaim
  have hname : IsName (letters 70000) := letters_is_name (by decide)
  have hlong : Uri.longest < (letters 70000).utf8ByteSize := by
    rw [size_of_letters]
    decide
  obtain ⟨hsent, -⟩ := hclaim "ns" (letters 70000) (respond 404 "")
    (by decide +kernel) hname ⟨_, "", rfl, rfl, by decide +kernel⟩
  rw [sent_of_long scripted _ "ns" hname hlong] at hsent
  cases hsent

end StorageBackend.Api
