import Outbox.Proofs.Targets
import Outbox.Proofs.Trouble
import Outbox.Remote.Side

/-!
# Verdicts over HTTP

Whatever the provider of tokens and the server do, a delivery asks the server at most once, and the
one thing that its verdict depends on is the status that came back, if one did. A status confirms
the mutation, or refuses it for good, or, like every way of getting no status, asks for patience. A
request is authorized by the token, if there is one, and also by the user of the base address.

What follows for the queue is told by the same three cases, for a single answer at any time and in
any store, and for a whole pass. All cases of a delivery are split in one place (`Dispatch.judged`),
and everything else is read off that.
-/
namespace Outbox

open Table Time

namespace Remote

/-- The mutation has taken effect. -/
def Accepts (status : Nat) : Prop := 200 ≤ status ∧ status < 300

instance (status : Nat) : Decidable (Accepts status) :=
  inferInstanceAs (Decidable (_ ∧ _))

/-- The mutation is refused for good: no success, no server error, no time-out, no throttling. -/
def Refuses (status : Nat) : Prop :=
  ¬ Accepts status ∧ status < 500 ∧ status ≠ 408 ∧ status ≠ 429

instance (status : Nat) : Decidable (Refuses status) :=
  inferInstanceAs (Decidable (_ ∧ _ ∧ _ ∧ _))

theorem isSuccess_iff {status : Nat} : isSuccess status = true ↔ Accepts status := by
  simp [isSuccess, Accepts]

theorem isPassing_iff {status : Nat} (failed : ¬ Accepts status) :
    Failure.isPassing status = true ↔ ¬ Refuses status := by
  simp only [Failure.isPassing, Refuses, failed, Bool.or_eq_true, decide_eq_true_eq, beq_iff_eq,
    not_false_eq_true, true_and]
  omega

end Remote

/-- The base address is one of the web. -/
def Endpoint.IsWeb (e : Endpoint) : Prop :=
  e.base.scheme = "http".toList ∨ e.base.scheme = "https".toList

/-- The path changes from mutation to mutation; who is asked does not. -/
theorem Endpoint.target_authority (e : Endpoint) (m : Mutation) :
    (e.target m).2.authority = e.base.authority := by
  unfold Endpoint.target
  split <;> rfl

theorem Endpoint.target_scheme (e : Endpoint) (m : Mutation) :
    (e.target m).2.scheme = e.base.scheme := by
  unfold Endpoint.target
  split <;> rfl

/-- A mutation that is sent over HTTP: what the provider of tokens answers, what the server does
with a request, what is queued meanwhile, and when the answer is there. -/
structure Dispatch where
  mutation : Mutation
  token : Except Error (Option String)
  server : Remote.Request → Remote.Reply
  arrivals : List Arrival
  time : Instant

namespace Dispatch

open Remote

def delivery (d : Dispatch) (e : Endpoint) : Delivery := deliver e d.token d.server d.mutation

/-- If there is a token, it can stand in a header. -/
def Authorizable (d : Dispatch) : Prop := ∀ token, d.token = .ok (some token) → isHeaderText token

/-- The address of the mutation, as it is in a request: without a user that could be read. -/
def url (d : Dispatch) (e : Endpoint) : Url :=
  match credentials? e.base with
  | some _ => withoutUser (e.target d.mutation).2
  | none => (e.target d.mutation).2

/-- The request of the mutation, with the user of the base address and with a token. -/
def request (d : Dispatch) (e : Endpoint) (token : Option String) : Request where
  method := match d.mutation.operation with
    | .create => .post
    | .update => .patch
    | .delete => .delete
  url := d.url e
  authorization := (credentials? e.base).toList.map basic ++ token.toList.map bearer
  body := match d.mutation.operation with
    | .create | .update => some d.mutation.payload.text
    | .delete => none

/-- The server has answered the request with a status. -/
def Receives (d : Dispatch) (e : Endpoint) (status : Nat) : Prop :=
  isRequestable (d.url e) = true ∧
    ∃ token body, d.token = .ok token ∧ d.server (d.request e token) = .answered status body

def Accepted (d : Dispatch) (e : Endpoint) : Prop := ∃ status, d.Receives e status ∧ Accepts status

def Refused (d : Dispatch) (e : Endpoint) : Prop := ∃ status, d.Receives e status ∧ Refuses status

/-- No status has come back that settles the mutation. -/
def Unsettled (d : Dispatch) (e : Endpoint) : Prop :=
  ∀ status, d.Receives e status → ¬ Accepts status ∧ ¬ Refuses status

/-- What a delivery asks the server for, and what it makes of what comes back. -/
structure Judged (d : Dispatch) (e : Endpoint) (done : Delivery) : Prop where
  /-- Without an answer of the provider of tokens, no request is made. -/
  silent : ∀ fault, d.token = .error fault → done.request = none
  /-- Otherwise one request is made, unless the address is none that a request can be made for. -/
  asked : ∀ token, d.token = .ok token →
    done.request = if isRequestable (d.url e) then some (d.request e token) else none
  /-- Where the base address has no user, a request is authorized exactly when there is a token. -/
  authorized : credentials? e.base = none → ∀ r, done.request = some r →
    (r.authorization ≠ [] ↔ ∃ token, d.token = .ok (some token))
  confirmed : done.verdict = .ok () ↔ d.Accepted e
  refused : ∀ status, (∃ reason, done.verdict = .error (.permanent status reason)) ↔
    ∃ n, status = some n ∧ d.Receives e n ∧ Refuses n
  passing : (∃ reason, done.verdict = .error (.transient reason)) ↔ d.Unsettled e

variable {d : Dispatch} {e : Endpoint}

/-! ## Verdicts -/

/-- What base64 writes can stand in a header. -/
theorem all_isHeaderChar_encode (bytes : List UInt8) :
    ∀ c ∈ Text.Base64.encode bytes, isHeaderChar c = true := by
  have digit : ∀ n < 64, isHeaderChar (Text.Base64.digit n) = true := by decide
  have equals : isHeaderChar '=' = true := by decide
  have digits (n : Nat) : ∀ c ∈ Text.Base64.digits n, isHeaderChar c = true := by
    simp only [Text.Base64.digits, List.forall_mem_cons]
    exact ⟨digit _ (Nat.mod_lt _ (by decide)), digit _ (Nat.mod_lt _ (by decide)),
      digit _ (Nat.mod_lt _ (by decide)), digit _ (Nat.mod_lt _ (by decide)), nofun⟩
  have filled (n k : Nat) (rest : List Char) (fits : ∀ c ∈ rest, isHeaderChar c = true) :
      ∀ c ∈ (Text.Base64.digits n).take k ++ rest, isHeaderChar c = true :=
    List.forall_mem_append.mpr ⟨fun c member => digits n c (List.mem_of_mem_take member), fits⟩
  fun_induction Text.Base64.encode bytes with
  | case1 => exact nofun
  | case2 a =>
    exact filled _ 2 _ (List.forall_mem_cons.mpr ⟨equals, List.forall_mem_singleton.mpr equals⟩)
  | case3 a b => exact filled _ 3 _ (List.forall_mem_singleton.mpr equals)
  | case4 a b c rest ih => exact List.forall_mem_append.mpr ⟨digits _, ih⟩

theorem isHeaderText_basic (credentials : List UInt8) : isHeaderText
    (basic credentials) = true := by
  have written : (String.ofList (Text.Base64.encode credentials)).toList =
      Text.Base64.encode credentials := String.toList_ofList
  rw [isHeaderText, basic, String.toList_append, written, List.all_append]
  exact Bool.and_eq_true_iff.mpr
    ⟨by decide, List.all_eq_true.mpr (all_isHeaderChar_encode credentials)⟩

theorem isHeaderText_bearer {token : String} (fit : isHeaderText token = true) :
    isHeaderText (bearer token) = true := by
  rw [isHeaderText, bearer, String.toList_append, List.all_append]
  exact Bool.and_eq_true_iff.mpr ⟨by decide, fit⟩

theorem requestOf_eq (d : Dispatch) (e : Endpoint) (token : Option String) :
    requestOf e token d.mutation = d.request e token := by
  have named : credentials? (e.target d.mutation).2 = credentials? e.base := by
    rw [credentials?, e.target_authority, ← credentials?]
  have method : (e.target d.mutation).1 = (d.request e token).method := by
    cases operation : d.mutation.operation <;> simp only [request, operation] <;>
      exact congrArg Method.ofOperation operation
  have body : (if d.mutation.operation == .delete then none else some d.mutation.payload.text) =
      (d.request e token).body := by
    cases operation : d.mutation.operation <;> simp only [request, operation] <;> rfl
  unfold requestOf
  simp only [method, body, named, request, url]
  cases credentials? e.base <;> rfl

theorem url_scheme (d : Dispatch) (e : Endpoint) : (d.url e).scheme = e.base.scheme := by
  unfold url
  split <;> exact e.target_scheme d.mutation

/-- All values that authorize the request can stand in a header. -/
theorem all_isHeaderText (fit : d.Authorizable) {token : Option String}
    (given : d.token = .ok token) : (d.request e token).authorization.all isHeaderText = true := by
  rw [List.all_eq_true]
  intro value member
  rcases List.mem_append.mp member with user | bearing
  · obtain ⟨credentials, -, rfl⟩ := List.mem_map.mp user
    exact isHeaderText_basic credentials
  · obtain ⟨text, there, rfl⟩ := List.mem_map.mp bearing
    obtain rfl := Option.mem_toList.mp there
    exact isHeaderText_bearer (fit text given)

/-- For a base address of the web, only the address can be in the way of a request. -/
theorem requestFault?_eq (web : e.IsWeb) (fit : d.Authorizable) {token : Option String}
    (given : d.token = .ok token) :
    requestFault? (d.request e token) =
      if isRequestable (d.url e) then none
      else some ("builder error for url (" ++ (d.url e).text ++ ")") := by
  have address : (d.request e token).url = d.url e := rfl
  have known : (String.ofList e.base.scheme == "http" || String.ofList e.base.scheme == "https") =
      true := by
    rcases web with web | web <;> rw [web] <;> rfl
  rw [requestFault?, address, url_scheme, if_pos (all_isHeaderText fit given), known, Bool.true_and]

/-- At most one status comes back. -/
theorem Receives.unique {m n : Nat} (first : d.Receives e m) (second : d.Receives e n) : m = n := by
  obtain ⟨-, token, body, given, answered⟩ := first
  obtain ⟨-, token', body', given', answered'⟩ := second
  obtain rfl : token = token' := by simpa using given.symm.trans given'
  exact (Reply.answered.inj (answered.symm.trans answered')).1

/-- A delivery by its three cases. -/
theorem verdict_cases (web : e.IsWeb) (fit : d.Authorizable) :
    (d.Accepted e ∧ (d.delivery e).verdict = .ok ()) ∨
      (∃ status reason, d.Receives e status ∧ Refuses status ∧
        (d.delivery e).verdict = .error (.permanent (some status) reason)) ∨
      (d.Unsettled e ∧ ∃ reason, (d.delivery e).verdict = .error (.transient reason)) := by
  rcases given : d.token with fault | token
  · -- Nobody is asked, so nothing is received.
    refine .inr (.inr ⟨fun status ⟨_, _, _, given', _⟩ => ?_, ?_⟩)
    · rw [given] at given'
      cases given'
    · simp only [delivery, deliver, given]
      exact ⟨_, rfl⟩
  have fault := requestFault?_eq web fit given
  cases able : isRequestable (d.url e) with
  | false =>
    -- No request can be made for the address, so nothing is received either.
    refine .inr (.inr ⟨fun status ⟨able', _⟩ => ?_, ?_⟩)
    · rw [able] at able'
      cases able'
    · rw [able, if_neg Bool.false_ne_true] at fault
      simp only [delivery, deliver, given, requestOf_eq, fault]
      exact ⟨_, rfl⟩
  | true =>
    rw [able, if_pos rfl] at fault
    rcases answered : d.server (d.request e token) with _ | ⟨status, body⟩
    · refine .inr (.inr ⟨fun status ⟨_, _, _, given', answered'⟩ => ?_, ?_⟩)
      · obtain rfl : token = _ := by simpa using given.symm.trans given'
        rw [answered] at answered'
        cases answered'
      · simp only [delivery, deliver, given, requestOf_eq, fault, answered]
        exact ⟨_, rfl⟩
    · have received : d.Receives e status := ⟨able, token, body, given, answered⟩
      simp only [delivery, deliver, given, requestOf_eq, fault, answered]
      -- The status alone decides: success first, then whether it is worth another try.
      by_cases success : Accepts status
      · exact .inl ⟨⟨status, received, success⟩, by rw [if_pos (isSuccess_iff.mpr success)]⟩
      · rw [if_neg (mt isSuccess_iff.mp success), Failure.ofStatus]
        by_cases refused : Refuses status
        · rw [if_neg fun passing => (isPassing_iff success).mp passing refused]
          exact .inr (.inl ⟨status, _, received, refused, rfl⟩)
        · rw [if_pos ((isPassing_iff success).mpr refused)]
          refine .inr (.inr ⟨fun other received' => ?_, _, rfl⟩)
          obtain rfl := received.unique received'
          exact ⟨success, refused⟩

/-- A request is made once the provider of tokens has answered, if the address allows it. -/
theorem request_delivery (web : e.IsWeb) (fit : d.Authorizable) {token : Option String}
    (given : d.token = .ok token) :
    (d.delivery e).request =
      if isRequestable (d.url e) then some (d.request e token) else none := by
  have fault := requestFault?_eq web fit given
  cases able : isRequestable (d.url e) with
  | false =>
    rw [able, if_neg Bool.false_ne_true] at fault
    simp only [delivery, deliver, given, requestOf_eq, fault]
    rfl
  | true =>
    rw [able, if_pos rfl] at fault
    simp only [delivery, deliver, given, requestOf_eq, fault, if_true]
    cases d.server (d.request e token) with
    | unreachable => rfl
    | answered status body =>
      simp only
      split <;> rfl

/-- Where the base address has no user, only a token authorizes a request. -/
theorem authorization_iff (web : e.IsWeb) (fit : d.Authorizable)
    (nobody : credentials? e.base = none) {r : Request} (made : (d.delivery e).request = some r) :
    r.authorization ≠ [] ↔ ∃ token, d.token = .ok (some token) := by
  rcases given : d.token with fault | token
  · simp only [delivery, deliver, given, reduceCtorEq] at made
  · rw [request_delivery web fit given] at made
    obtain ⟨-, same⟩ := Option.ite_none_right_eq_some.mp made
    obtain rfl := Option.some.inj same
    rw [request, nobody]
    cases token <;> simp

theorem Accepted.not_refused (accepted : d.Accepted e) : ¬ d.Refused e := by
  rintro ⟨status, received, refuses⟩
  obtain ⟨other, received', accepts⟩ := accepted
  obtain rfl := received.unique received'
  exact refuses.1 accepts

theorem Unsettled.not_accepted (unsettled : d.Unsettled e) : ¬ d.Accepted e :=
  fun ⟨status, received, accepts⟩ => (unsettled status received).1 accepts

theorem Unsettled.not_refused (unsettled : d.Unsettled e) : ¬ d.Refused e :=
  fun ⟨status, received, refuses⟩ => (unsettled status received).2 refuses

theorem judged (web : e.IsWeb) (fit : d.Authorizable) : d.Judged e (d.delivery e) := by
  -- Each verdict is read off the three cases, which exclude one another.
  have verdict := verdict_cases web fit
  refine ⟨fun fault given => ?_, fun token given => request_delivery web fit given,
    fun nobody r made => authorization_iff web fit nobody made, ?_, fun status => ?_, ?_⟩
  · simp only [delivery, deliver, given]
  · rcases verdict with ⟨accepted, told⟩ | ⟨status, reason, received, refuses, told⟩ |
      ⟨unsettled, reason, told⟩
    · exact ⟨fun _ => accepted, fun _ => told⟩
    · simp only [told, reduceCtorEq, false_iff]
      exact fun accepted => accepted.not_refused ⟨status, received, refuses⟩
    · simp only [told, reduceCtorEq, false_iff]
      exact unsettled.not_accepted
  · rcases verdict with ⟨accepted, told⟩ | ⟨n, reason, received, refuses, told⟩ |
      ⟨unsettled, reason, told⟩
    · simp only [told, reduceCtorEq, exists_false, false_iff]
      exact fun ⟨n, _, received, refuses⟩ => accepted.not_refused ⟨n, received, refuses⟩
    · constructor
      · rintro ⟨reason', told'⟩
        rw [told] at told'
        cases told'
        exact ⟨n, rfl, received, refuses⟩
      · rintro ⟨n', rfl, received', -⟩
        obtain rfl := received.unique received'
        exact ⟨reason, told⟩
    · simp only [told, Except.error.injEq, reduceCtorEq, exists_false, false_iff]
      exact fun ⟨n, _, received, refuses⟩ => unsettled.not_refused ⟨n, received, refuses⟩
  · rcases verdict with ⟨accepted, told⟩ | ⟨n, reason, received, refuses, told⟩ |
      ⟨unsettled, reason, told⟩
    · simp only [told, reduceCtorEq, exists_false, false_iff]
      exact fun unsettled => unsettled.not_accepted accepted
    · simp only [told, Except.error.injEq, reduceCtorEq, exists_false, false_iff]
      exact fun unsettled => unsettled.not_refused ⟨n, received, refuses⟩
    · exact ⟨fun _ => unsettled, fun _ => ⟨reason, told⟩⟩

/-! ## What a verdict does to the store -/

/-- Why the mutation was not taken, if it was not. -/
def failure? (d : Dispatch) (e : Endpoint) : Option Failure :=
  match (d.delivery e).verdict with
  | .ok () => none
  | .error failure => some failure

/-- What happens to the mutation in a pass. -/
def exchange (d : Dispatch) (e : Endpoint) : Exchange :=
  ⟨d.mutation, d.arrivals, d.failure? e, d.time⟩

/-- The mutation as it is kept after a failure for a while. -/
def kept (d : Dispatch) (p : RetryPolicy) (reason : String) : Mutation :=
  { d.mutation with
    retries := min maxRetryCount (d.mutation.retries + 1)
    lastError := some (Failure.transient reason).message
    state := if p.maxRetries ≤ min maxRetryCount (d.mutation.retries + 1) then .exhausted
      else d.mutation.state }

/-- What the outcome of a delivery does to the queue and to the dead letters. -/
structure Decides (d : Dispatch) (e : Endpoint) (p : RetryPolicy) (before after : Database) :
    Prop where
  accepted : d.Accepted e →
    after.rowsOf .queue = without d.mutation.id (before.rowsOf .queue) ∧
      after.rowsOf .deadLetters = before.rowsOf .deadLetters
  refused : ∀ status, d.Receives e status → Refuses status →
    after.rowsOf .queue = without d.mutation.id (before.rowsOf .queue) ∧
      ∃ reason, after.rowsOf .deadLetters = upserted [6, 7, 8] d.mutation.id
        (DeadLetter.toRow ⟨d.mutation.recordFailure
          (Failure.permanent (some status) reason).message, d.time⟩) (before.rowsOf .deadLetters)
  unsettled : d.Unsettled e →
    (∃ reason, after.rowsOf .queue =
      replaced [6, 7, 8] d.mutation.id (d.kept p reason).toRow (before.rowsOf .queue)) ∧
      after.rowsOf .deadLetters = before.rowsOf .deadLetters

/-- What has become of a mutation when the pass is over. -/
structure Ends (d : Dispatch) (e : Endpoint) (p : RetryPolicy) (before after : View) : Prop where
  /-- The pass has got the answer that the remote side gives to its call. -/
  answered : ((Remote.http e d.token d.server).call d.mutation).2.1.answer = (d.exchange e).reply
  /-- Only a status that settles the mutation takes it out of the queue. -/
  gone : after.database.mutation? d.mutation.id = .ok none ↔ d.Accepted e ∨ d.Refused e
  /-- Only a status that refuses it makes a dead letter of it. -/
  lettered : .text d.mutation.id ∈ keysOf after.letterRows ↔
    .text d.mutation.id ∈ keysOf before.letterRows ∨ d.Refused e
  /-- Otherwise it stays, with one more failure. -/
  kept : d.Unsettled e →
    ∃ reason, after.database.mutation? d.mutation.id = .ok (some (d.kept p reason))

/-- The remote side gives the answer of the exchange to whoever calls it. -/
theorem answer_call (d : Dispatch) (e : Endpoint) :
    ((Remote.http e d.token d.server).call d.mutation).2.1.answer = (d.exchange e).reply := by
  show answerOf (d.delivery e).verdict = (d.exchange e).reply
  rw [Exchange.reply, exchange, failure?]
  cases (d.delivery e).verdict <;> rfl

/-- The exchange by its three cases. -/
theorem failure?_cases (web : e.IsWeb) (fit : d.Authorizable) :
    (d.Accepted e ∧ (d.exchange e).failure = none) ∨
      (∃ status reason, d.Receives e status ∧ Refuses status ∧
        (d.exchange e).failure = some (.permanent (some status) reason)) ∨
      (d.Unsettled e ∧ ∃ reason, (d.exchange e).failure = some (.transient reason)) := by
  simp only [exchange, failure?]
  rcases verdict_cases web fit with ⟨accepted, told⟩ | ⟨status, reason, received, refuses, told⟩ |
    ⟨unsettled, reason, told⟩
  · exact .inl ⟨accepted, by rw [told]⟩
  · exact .inr (.inl ⟨status, reason, received, refuses, by rw [told]⟩)
  · exact .inr (.inr ⟨unsettled, reason, by rw [told]⟩)

theorem retained_eq_kept (d : Dispatch) (p : RetryPolicy) (reason : String) :
    d.mutation.retained p (Failure.transient reason).message = d.kept p reason := by
  simp only [Mutation.retained, kept, Mutation.recordFailure]
  by_cases limit : p.maxRetries ≤ min maxRetryCount (d.mutation.retries + 1)
  · simp only [limit, if_true]
  · simp only [limit, if_false]

/-- What is left of the mutation, and whether it becomes a dead letter, by the three cases. -/
theorem outcome_cases (web : e.IsWeb) (fit : d.Authorizable) (p : RetryPolicy) :
    (d.Accepted e ∧ (d.exchange e).left? p = none ∧ (d.exchange e).letter? = none) ∨
      (d.Refused e ∧ (d.exchange e).left? p = none ∧ (d.exchange e).letter?.isSome = true) ∨
      (d.Unsettled e ∧ (∃ reason, (d.exchange e).left? p = some (d.kept p reason)) ∧
        (d.exchange e).letter? = none) := by
  rcases failure?_cases web fit with ⟨accepted, failed⟩ |
    ⟨status, reason, received, refuses, failed⟩ | ⟨unsettled, reason, failed⟩
  · refine .inl ⟨accepted, ?_, ?_⟩
    · rw [Exchange.left?, failed]
    · rw [Exchange.letter?, failed]
  · refine .inr (.inl ⟨⟨status, received, refuses⟩, ?_, ?_⟩)
    · rw [Exchange.left?, failed]
    · rw [Exchange.letter?, failed]
      rfl
  · refine .inr (.inr ⟨unsettled, ⟨reason, ?_⟩, ?_⟩)
    · rw [Exchange.left?_of_transient failed]
      exact congrArg some (retained_eq_kept d p reason)
    · rw [Exchange.letter?, failed]

/-- A write-back that goes through does what the outcome decides. -/
theorem decides_of_written (web : e.IsWeb) (fit : d.Authorizable) {p : RetryPolicy}
    {before after : Database} (written : Exchange.Written p (d.exchange e) before after) :
    d.Decides e p before after := by
  obtain ⟨queue, letters, -, -, -⟩ := written
  rcases failure?_cases web fit with ⟨accepted, failed⟩ |
    ⟨status, reason, received, refuses, failed⟩ | ⟨unsettled, reason, failed⟩
  · have gone : (d.exchange e).left? p = none := by rw [Exchange.left?, failed]
    have unlettered : (d.exchange e).letter? = none := by rw [Exchange.letter?, failed]
    rw [Exchange.filterMap_row?_of_none gone] at queue
    rw [unlettered] at letters
    exact {
      accepted := fun _ => ⟨queue, letters⟩
      refused := fun n received refuses => (accepted.not_refused ⟨n, received, refuses⟩).elim
      unsettled := fun unsettled => (unsettled.not_accepted accepted).elim }
  · have gone : (d.exchange e).left? p = none := by rw [Exchange.left?, failed]
    have letter : (d.exchange e).letter? = some ⟨d.mutation.recordFailure
        (Failure.permanent (some status) reason).message, d.time⟩ := by
      rw [Exchange.letter?, failed]
      rfl
    rw [Exchange.filterMap_row?_of_none gone] at queue
    rw [letter] at letters
    refine ⟨fun accepted => (accepted.not_refused ⟨status, received, refuses⟩).elim, ?_,
      fun unsettled => (unsettled.not_refused ⟨status, received, refuses⟩).elim⟩
    intro n received' _
    -- There is only one status to speak of.
    obtain rfl := received.unique received'
    exact ⟨queue, reason, letters⟩
  · have unlettered : (d.exchange e).letter? = none := by rw [Exchange.letter?, failed]
    rw [Exchange.filterMap_row?_of_transient failed] at queue
    rw [unlettered] at letters
    have sent : (d.exchange e).sent = d.mutation := rfl
    rw [sent, retained_eq_kept] at queue
    exact {
      accepted := fun accepted => (unsettled.not_accepted accepted).elim
      refused := fun n received refuses => (unsettled.not_refused ⟨n, received, refuses⟩).elim
      unsettled := fun _ => ⟨⟨reason, queue⟩, letters⟩ }

/-! ## Single answers -/

/-- In a store that is in order, no write-back is refused. -/
theorem written_of_healthy {db : Database} (healthy : db.Healthy) (p : RetryPolicy)
    (x : Exchange) : Exchange.Written p x db (x.writeBack p db).1 := by
  have queue : db.Unguarded .queue := healthy.table .queue rfl
  have letters : db.Unguarded .deadLetters := healthy.table .deadLetters rfl
  have free : x.isRefused p db = false := by
    rw [Exchange.isRefused_eq_barred queue.countable, Exchange.barred]
    split
    · exact queue.refusesId
    · exact queue.refusesId
    · rw [letters.refuses, letters.refusesId, queue.refusesId, healthy.notFull]
      rfl
  rcases Exchange.writeBack_cases queue.countable p x with run | ⟨db', run, written⟩
  · rw [Exchange.isRefused, run] at free
    cases free
  · rw [run]
    exact written

/-- The store after the answer is the store after the write-back. -/
theorem database_answer (d : Dispatch) (e : Endpoint) {engine : Engine}
    (isOpen : engine.view.link.isSome = true) {rest : List Mutation} {report : Report}
    (waits : engine.view.pass = some ⟨d.mutation, rest, report⟩) :
    (engine.answer ((Remote.http e d.token d.server).call d.mutation).2.1.answer
        d.time).1.view.database =
      ((d.exchange e).writeBack engine.policy engine.view.database).1 := by
  obtain ⟨e₁, run, became⟩ := Engine.answer_writesBack (x := d.exchange e) isOpen waits
  have stillOpen : e₁.view.link.isSome = true := became.view ▸ isOpen
  obtain ⟨e₂, goes, view⟩ := Engine.continuePass_yields stillOpen rest _ d.time
  rw [answer_call, show d.time = (d.exchange e).time from rfl, run]
  rw [show (d.exchange e).time = d.time from rfl, goes, view, View.continued_database, became.view]
  rfl

/-! ## Passes -/

end Dispatch

theorem Exchange.left?_id {p : RetryPolicy} {x : Exchange} {m : Mutation}
    (stays : x.left? p = some m) : m.id = x.sent.id := by
  unfold left? at stays
  split at stays
  · cases stays
    rfl
  · cases stays

theorem mem_keysOf_filed {letters : List DeadLetter} {rows : List Row} {c : Cell} :
    c ∈ keysOf (filed letters rows) ↔
      c ∈ keysOf rows ∨ ∃ l ∈ letters, c = .text l.mutation.id := by
  induction letters generalizing rows with
  | nil => simp [filed]
  | cons l letters ih =>
    have first : c ∈ keysOf (upserted [6, 7, 8] l.mutation.id l.toRow rows) ↔
        c ∈ keysOf rows ∨ c = .text l.mutation.id := mem_keysOf_upserted rfl rfl
    rw [filed, List.foldl_cons, ← filed, ih, first, or_assoc]
    simp only [List.mem_cons, exists_eq_or_imp]

/-- After a pass the queue holds of a mutation that was sent what its exchange leaves. -/
theorem mutation?_of_answered {db : Database} (healthy : db.Healthy) {p : RetryPolicy}
    {xs : List Exchange} {rows come : List Row}
    (queue : db.rowsOf .queue = answered p xs rows ++ come)
    (distinct : (xs.map (·.sent.id)).Nodup)
    (listed : (sortRows (rowLE [5]) rows).mapM Mutation.ofRow = .ok (xs.map (·.sent)))
    {x : Exchange} (member : x ∈ xs) (apart : .text x.sent.id ∉ keysOf come) :
    db.mutation? x.sent.id = .ok (x.left? p) := by
  have left := list_answered (p := p) distinct listed
  -- Of two exchanges with something left of the same id, both are the one in question.
  have only {y : Exchange} {m : Mutation} (there : y ∈ xs) (stays : y.left? p = some m)
      (same : m.id = x.sent.id) : y = x :=
    List.inj_on_of_nodup_map distinct there member ((Exchange.left?_id stays).symm.trans same)
  by_cases present : .text x.sent.id ∈ keysOf (answered p xs rows)
  · obtain ⟨r, there, found, key⟩ := find?_hasKey_of_present present
    obtain ⟨m, stays, read⟩ := ok_of_mem_mapM left ((sortRows_perm _ _).mem_iff.mpr there)
    obtain ⟨y, sent, leaves⟩ := List.mem_filterMap.mp stays
    have id : m.id = x.sent.id := by
      have carried := (Mutation.ofRow_eq_ok_iff.mp read).1.id
      rw [key] at carried
      exact (Cell.text.inj carried).symm
    obtain rfl := only sent leaves id
    rw [healthy.mutation?, queue, List.find?_append, found, Option.some_or, leaves]
    exact congrArg (Except.map some) read
  · have gone : x.left? p = none := by
      cases stays : x.left? p with
      | none => rfl
      | some m =>
        refine absurd ((mem_listed_iff left).mp ?_) present
        exact List.mem_map.mpr
          ⟨m, List.mem_filterMap.mpr ⟨x, member, stays⟩, Exchange.left?_id stays⟩
    rw [gone]
    refine healthy.mutation?_of_absent ?_
    rw [queue, keysOf_append, List.mem_append, not_or]
    exact ⟨present, apart⟩

/-- Where every mutation is sent once, a letter with its id is the letter of its own exchange. -/
theorem exists_letter_iff {xs : List Exchange} (sentOnce : (xs.map (·.sent.id)).Nodup)
    {x : Exchange}
    (member : x ∈ xs) :
    (∃ l ∈ xs.filterMap (·.letter?), Cell.text x.sent.id = .text l.mutation.id) ↔
      x.letter?.isSome = true := by
  constructor
  · rintro ⟨l, there, same⟩
    obtain ⟨y, taken, letter⟩ := List.mem_filterMap.mp there
    have id : y.sent.id = x.sent.id :=
      (Exchange.letter_id letter).symm.trans (Cell.text.inj same).symm
    rw [← List.inj_on_of_nodup_map sentOnce taken member id, letter]
    rfl
  · intro some
    obtain ⟨l, letter⟩ := Option.isSome_iff_exists.mp some
    exact ⟨l, List.mem_filterMap.mpr ⟨x, member, letter⟩,
      congrArg Cell.text (Exchange.letter_id letter).symm⟩

/-- A pass on an online, idle engine whose store is in order, by what it leaves. -/
theorem wholePass_holds {engine : Engine} (sound : engine.view.Sound)
    (online : engine.isOnline = true) (idle : engine.isProcessing = false) {xs : List Exchange}
    (listed : engine.database.mutations = .ok (xs.map (·.sent)))
    (distinct : (xs.map (·.sent.id) ++ Exchange.arrivalIds xs).Nodup) (now : Instant) :
    ∃ engine' report come, engine.wholePass now xs = (engine', some (.finished report)) ∧
      engine'.view.Holds engine.policy ⟨answered engine.policy xs engine.view.queueRows ++ come,
        filed (xs.filterMap (·.letter?)) engine.view.letterRows, none,
        engine.view.deliveries ++ xs.map (·.sent)⟩ ∧
      idsOf come = Exchange.arrivalIds xs := by
  have free : engine.view.pass = none := Engine.isProcessing_eq_false_iff.mp idle
  have rows : (sortRows (rowLE [5]) engine.view.queueRows).mapM Mutation.ofRow =
      .ok (xs.map (·.sent)) := sound.healthy.mutations ▸ listed
  obtain ⟨-, -, apart⟩ := List.nodup_append.mp distinct
  -- Whatever is queued is listed, so no arrival has the id of a row.
  have fresh : ∀ id ∈ Exchange.arrivalIds xs, .text id ∉ keysOf engine.view.queueRows := by
    intro id arrives taken
    rw [← mem_listed_iff rows, List.map_map] at taken
    exact apart id taken id arrives rfl
  obtain ⟨engine₁, begun, view⟩ := Engine.startPass_yields sound online free listed now
  have holds : engine₁.view.Holds engine.policy (Stock.continued
      ⟨engine.view.queueRows ++ [], engine.view.letterRows, none, engine.view.deliveries⟩
      (xs.map (·.sent)) .empty) := by
    rw [view, List.append_nil]
    refine ⟨sound.continued _ _, engine.view.continued_policy _ _, ?_⟩
    rw [View.stock_continued]
    exact (Stock.continued_of_pass _ none _ _).symm
  obtain ⟨engine', come, run, holds', cells⟩ := exchanges_hold holds
    (fun _ _ taken => by cases taken) (by rwa [List.append_nil]) distinct
  refine ⟨engine', _, come, by rw [Engine.wholePass, begun, run], holds', ?_⟩
  have arrived : come.map (·.cells) =
      (xs.flatMap (·.arrivals)).map fun a => a.mutation.toRow := by
    rw [cells, List.map_flatMap]
  rw [idsOf_of_cells arrived, Exchange.arrivalIds, List.map_flatMap]

namespace Dispatch

open Remote

/-- A pass over HTTP ends every mutation as its delivery has decided. -/
theorem ends_of_holds {ds : List Dispatch} {e : Endpoint} (web : e.IsWeb)
    (fit : ∀ d ∈ ds, d.Authorizable) {engine engine' : Engine} (sound : engine.view.Sound)
    (listed : engine.database.mutations = .ok (ds.map (·.mutation)))
    (distinct : (ds.map (·.mutation.id) ++ Exchange.arrivalIds (ds.map (·.exchange e))).Nodup)
    {come : List Row} {p : RetryPolicy} {deliveries : List Mutation}
    (holds : engine'.view.Holds p
      ⟨answered p (ds.map (·.exchange e)) engine.view.queueRows ++ come,
        filed ((ds.map (·.exchange e)).filterMap (·.letter?)) engine.view.letterRows, none,
        deliveries⟩)
    (arrived : idsOf come = Exchange.arrivalIds (ds.map (·.exchange e)))
    {d : Dispatch} (member : d ∈ ds) : d.Ends e p engine.view engine'.view := by
  obtain ⟨sentOnce, -, between⟩ := List.nodup_append.mp distinct
  have sent : (ds.map (·.exchange e)).map (·.sent) = ds.map (·.mutation) := List.map_map
  have ids : (ds.map (·.exchange e)).map (·.sent.id) = ds.map (·.mutation.id) := List.map_map
  -- What was queued during the pass has other ids, so it does not cover up what became of this one.
  have apart : .text d.mutation.id ∉ keysOf come := by
    rw [← mem_idsOf, arrived]
    exact fun late => between _ (List.mem_map_of_mem member) _ late rfl
  have rows : (sortRows (rowLE [5]) engine.view.queueRows).mapM Mutation.ofRow =
      .ok ((ds.map (·.exchange e)).map (·.sent)) := by
    rw [sent]
    exact sound.healthy.mutations ▸ listed
  have left : engine'.view.database.mutation? d.mutation.id = .ok ((d.exchange e).left? p) :=
    mutation?_of_answered holds.sound.healthy (congrArg Stock.queue holds.stock) (ids ▸ sentOnce)
      rows (List.mem_map_of_mem member) apart
  have letters : engine'.view.letterRows =
      filed ((ds.map (·.exchange e)).filterMap (·.letter?)) engine.view.letterRows :=
    congrArg Stock.letters holds.stock
  have lettered : (∃ l ∈ (ds.map (·.exchange e)).filterMap (·.letter?),
      Cell.text d.mutation.id = .text l.mutation.id) ↔ (d.exchange e).letter?.isSome = true :=
    exists_letter_iff (ids ▸ sentOnce) (List.mem_map_of_mem member)
  rcases outcome_cases web (fit d member) p with ⟨accepted, gone, unlettered⟩ |
    ⟨refused, gone, letter⟩ | ⟨unsettled, ⟨reason, stays⟩, unlettered⟩
  · constructor
    · exact answer_call d e
    · rw [left, gone]
      exact iff_of_true rfl (.inl accepted)
    · rw [letters, mem_keysOf_filed, lettered, unlettered]
      simp [accepted.not_refused]
    · exact fun unsettled => (unsettled.not_accepted accepted).elim
  · constructor
    · exact answer_call d e
    · rw [left, gone]
      exact iff_of_true rfl (.inr refused)
    · rw [letters, mem_keysOf_filed, lettered, letter]
      exact iff_of_true (.inr rfl) (.inr refused)
    · exact fun unsettled => (unsettled.not_refused refused).elim
  · constructor
    · exact answer_call d e
    · rw [left, stays]
      simp [unsettled.not_accepted, unsettled.not_refused]
    · rw [letters, mem_keysOf_filed, lettered, unlettered]
      simp [unsettled.not_refused]
    · exact fun _ => ⟨reason, by rw [left, stays]⟩

/-- The outcome of an HTTP exchange decides what becomes of a mutation, for every base address of
the web, every answer of the provider of tokens (a token can stand in a header) and everything that
a server may do.

A delivery makes no request if there is no answer about tokens and one request otherwise (unless no
request can be made for the address), with the method of the operation and the payload unless the
mutation is a removal. The request is authorized by the token, if there is one, and by the user of
the base address, if it names one. The delivery succeeds if a status of success has come back, fails
for good with every other status below 500 but 408 and 429, and for a while in all other cases.

Whenever a pass waits for such an answer, the answer takes the mutation out of the queue only in the
first two cases and makes a dead letter of it only in the second; in the third the mutation stays
with one more failure. A store that refuses the statements is left as it was, and one that is in
order never refuses. A whole pass ends all of its mutations like that, with whatever is queued
meanwhile. -/
theorem http_outcome_decides_fate {e : Endpoint} (web : e.IsWeb) :
    (∀ d : Dispatch, d.Authorizable → d.Judged e (d.delivery e)) ∧
    (∀ (engine : Engine) (d : Dispatch) (rest : List Mutation) (report : Report), d.Authorizable →
      engine.view.link.isSome = true → engine.view.pass = some ⟨d.mutation, rest, report⟩ →
      let after := (engine.answer
        ((Remote.http e d.token d.server).call d.mutation).2.1.answer d.time).1.view.database
      (after = engine.view.database ∨ d.Decides e engine.policy engine.view.database after) ∧
        (engine.view.database.Healthy →
          d.Decides e engine.policy engine.view.database after)) ∧
    (∀ (engine : Engine) (ds : List Dispatch) (now : Instant), (∀ d ∈ ds, d.Authorizable) →
      engine.view.Sound → engine.isOnline = true → engine.isProcessing = false →
      engine.database.mutations = .ok (ds.map (·.mutation)) →
      (ds.map (·.mutation.id) ++ Exchange.arrivalIds (ds.map (·.exchange e))).Nodup →
      ∃ engine' report,
        engine.wholePass now (ds.map (·.exchange e)) = (engine', some (.finished report)) ∧
        engine'.view.deliveries = engine.view.deliveries ++ ds.map (·.mutation) ∧
        ∀ d ∈ ds, d.Ends e engine.policy engine.view engine'.view) := by
  refine ⟨fun d fit => judged web fit, ?_, ?_⟩
  · intro engine d rest report fit isOpen waits
    simp only [database_answer d e isOpen waits]
    constructor
    · exact (Exchange.unchanged_or_written _ _ _).imp_right (decides_of_written web fit)
    · exact fun healthy => decides_of_written web fit (written_of_healthy healthy _ _)
  · intro engine ds now fit sound online idle listed distinct
    have sent : (ds.map (·.exchange e)).map (·.sent) = ds.map (·.mutation) := List.map_map
    have ids : (ds.map (·.exchange e)).map (·.sent.id) = ds.map (·.mutation.id) := List.map_map
    obtain ⟨engine', report, come, run, holds, arrived⟩ :=
      wholePass_holds sound online idle (sent ▸ listed) (ids ▸ distinct) now
    rw [sent] at holds
    exact ⟨engine', report, run, congrArg Stock.deliveries holds.stock, fun d member =>
      ends_of_holds web fit sound listed distinct holds arrived member⟩

/-- A service that wants a token, has no time for the second incident, and refuses the rest. -/
def sampleServer (id : String) (r : Request) : Reply :=
  if r.authorization.isEmpty then .answered 401 "" else if id = "m2" then .answered 408 "" else
    .answered 204 ""

/-- One mutation is sent with a token, one too late, as another is queued, and one without a
token. -/
def samples : List Dispatch :=
  [⟨Exchange.sampleMutation "m1", .ok (some "t0ken"), sampleServer "m1", [], .epoch⟩,
    ⟨Exchange.sampleMutation "m2", .ok (some "t0ken"), sampleServer "m2",
      [⟨Exchange.sampleMutation "m4", true, .epoch⟩], .epoch⟩,
    ⟨Exchange.sampleMutation "m3", .ok none, sampleServer "m3", [], .epoch⟩]

theorem sampleEngine_sound : Exchange.sampleEngine.view.Sound := by
  have holds : (Engine.inMemory ⟨2⟩ true).view.Holds ⟨2⟩ (Engine.inMemory ⟨2⟩ true).view.stock :=
    ⟨Engine.inMemory_sound ⟨2⟩ true, rfl, rfl⟩
  have fresh : ∀ a ∈ Exchange.sampleArrivals,
      .text a.mutation.id ∉ keysOf (Engine.inMemory ⟨2⟩ true).view.queueRows := by
    decide +kernel
  obtain ⟨_, arrived, -⟩ := Engine.arriveAll_holds holds fresh (by decide +kernel)
  exact arrived.sound

/-- The theorem at a pass over three mutations: the first one is gone, the second one stays with one
more failure, and the third one is a dead letter. -/
theorem three_statuses_decide :
    Endpoint.sampleEndpoint.IsWeb ∧
    ∃ engine' report, Exchange.sampleEngine.wholePass .epoch
        (samples.map (·.exchange Endpoint.sampleEndpoint)) = (engine', some (.finished report)) ∧
      engine'.view.database.mutation? "m1" = .ok none ∧
      .text "m1" ∉ keysOf engine'.view.letterRows ∧
      (∃ m, engine'.view.database.mutation? "m2" = .ok (some m) ∧ m.retries = 1) ∧
      engine'.view.database.mutation? "m3" = .ok none ∧
      .text "m3" ∈ keysOf engine'.view.letterRows := by
  have web : Endpoint.sampleEndpoint.IsWeb := .inl rfl
  have policy : Exchange.sampleEngine.policy = ⟨2⟩ := by decide +kernel
  have empty : Exchange.sampleEngine.view.letterRows = [] := by decide +kernel
  have fit : ∀ d ∈ samples, d.Authorizable := by
    intro d member token given
    simp only [samples, List.mem_cons, List.not_mem_nil, or_false] at member
    rcases member with rfl | rfl | rfl <;> cases given <;> decide
  obtain ⟨-, -, pass⟩ := http_outcome_decides_fate web
  obtain ⟨engine', report, run, -, ends⟩ := pass Exchange.sampleEngine samples .epoch fit
    sampleEngine_sound (by decide +kernel) (by decide +kernel) (by decide +kernel)
    (by decide +kernel)
  refine ⟨web, engine', report, run, ?_⟩
  have first := ends _ (.head _)
  have second := ends _ (.tail _ (.head _))
  have third := ends _ (.tail _ (.tail _ (.head _)))
  have accepted : (samples[0]).Accepted Endpoint.sampleEndpoint :=
    ⟨204, ⟨rfl, some "t0ken", "", rfl, rfl⟩, by decide⟩
  have refused : (samples[2]).Refused Endpoint.sampleEndpoint :=
    ⟨401, ⟨rfl, none, "", rfl, rfl⟩, by decide⟩
  have unsettled : (samples[1]).Unsettled Endpoint.sampleEndpoint := by
    intro status received
    obtain rfl := received.unique ⟨rfl, some "t0ken", "", rfl, rfl⟩
    decide
  obtain ⟨reason, stays⟩ := second.kept unsettled
  refine ⟨first.gone.mpr (.inl accepted), fun there => ?_, ⟨_, stays, rfl⟩,
    third.gone.mpr (.inr refused), third.lettered.mpr (.inr refused)⟩
  rcases first.lettered.mp there with before | refused
  · rw [empty] at before
    cases before
  · exact accepted.not_refused refused

/-- A base address that names a user. -/
def namedEndpoint : Endpoint where
  base := ⟨"http".toList,
    some ⟨"user".toList, some "pw".toList, some (.ipv6 [0, 0, 0, 0, 0, 0, 0, 1]), some 8080⟩,
    "/api".toList, none, none⟩
  base_canBeBase := rfl

/-- The values that authorize the request of a mutation to that address. -/
def namedHeaders (token : Option String) : Option (List String) :=
  ((delivery ⟨Exchange.sampleMutation "m1", .ok token, fun _ => .unreachable, [], .epoch⟩
    namedEndpoint).request).map (·.authorization)

/-- Without a token a request is authorized all the same, and with one it is authorized twice. -/
theorem authorized_without_token :
    Endpoint.ofText "http://user:pw@[::1]:8080/api" = .ok namedEndpoint ∧
      namedHeaders none = some ["Basic dXNlcjpwdw=="] ∧
      namedHeaders (some "t0ken") = some ["Basic dXNlcjpwdw==", "Bearer t0ken"] := by
  refine ⟨rfl, ?_, ?_⟩
  · decide +kernel
  · decide +kernel

end Dispatch

end Outbox
