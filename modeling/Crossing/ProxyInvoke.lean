import Crossing.InvokeOutcomes
import Crossing.ProxyAnswers
import Crossing.Replies

namespace Crossing

open Python
open Relational
open Relational.Transaction

/-!
# The proxy on the modelled `invoke`

A proxy whose session is a database that no one else writes to.  Arguments of
the types that `invoke` declares go to the modelled `invoke`.  What the driver
of the database does with others is taken from outside.
-/

/-- What one call of `invoke` takes from outside. -/
structure CallDraw where
  draw : InvokeDraw
  provider : Except String JsonText
  finish : FinishDraw

/-- `invoke` after its reservation. -/
def Attempt.complete (env : Env) (attempt : Attempt) (drawn : CallDraw) :
    Body InvokeResult := do
  match ← invokeMark attempt with
  | some result => pure result
  | none =>
      match drawn.provider with
      | .error error => invokeFail attempt error
      | .ok toolResult => invokeFinish env attempt toolResult drawn.finish

/-- `invoke` from its start to its answer, on a database of its own. -/
def invokeAlone (env : Env) (request : InvokeRequest) (drawn : CallDraw) :
    Body InvokeResult := do
  let db ← get
  match ← invokeBegin env (fun _ => db) request drawn.draw with
  | .answered result => pure result
  | .reserved attempt => attempt.complete env drawn

/-- The database of a proxy, and how many calls it has made. -/
structure ProxySession where
  db : Db
  calls : Nat

/-- What a proxy takes from outside, and how its results are written. -/
structure ProxyWorld where
  env : Env
  json : JsonLibrary
  draws : Nat → CallDraw
  reasonText : Reason → String
  resultDict : InvokeResult → Json
  exception : Raised → PythonError
  illTyped : ToolCall → ProxySession → Invoked × ProxySession

/-- `None` or a string. -/
def optionalText : Json → Option (Option String)
  | .null => some none
  | .string text => some (some text)
  | _ => none

/-- The request of a call whose arguments have the declared types. -/
def ToolCall.request? (json : JsonLibrary) (call : ToolCall) :
    Option InvokeRequest :=
  match call.tool, call.arguments, optionalText call.idempotencyKey,
      optionalText call.nonce with
  | .string tool, .object fields, some key, some nonce =>
      some
        { mandateId := call.mandateId
          tool := tool
          arguments := some (json.dumps (.object fields))
          idempotencyKey := key
          nonce := nonce }
  | _, _, _, _ => none

namespace ProxyWorld

/-- How an outcome of `invoke` comes back to the proxy. -/
def invoked (world : ProxyWorld) : Except Raised InvokeResult → Invoked
  | .ok result =>
      .returned
        { ok := result.ok
          reason := result.reason.map world.reasonText
          toDict := world.resultDict result }
  | .error (.policyDenied outcome) =>
      .policyDenied (world.reasonText outcome.reason) outcome.detail
  | .error other => .raised (world.exception other)

/-- The proxy of a mandate. -/
def proxy (world : ProxyWorld) (mandateId : Id) : Proxy ProxySession where
  mandateId := mandateId
  json := world.json
  invoke call session :=
    match call.request? world.json with
    | none => world.illTyped call session
    | some request =>
        let (outcome, db) :=
          exec (invokeAlone world.env request (world.draws session.calls))
            session.db
        (world.invoked outcome, ⟨db, session.calls + 1⟩)

end ProxyWorld

section Invoke

variable
  {env : Env}
  {db : Db}
  {request : InvokeRequest}
  {drawn : CallDraw}

/-- The same outcome as that of a call behind the route. -/
theorem Attempt.complete_eq_goOn {attempt : Attempt} :
    (exec (attempt.complete env drawn) db).1 =
      attempt.goOn env drawn.provider drawn.finish db := by
  unfold Attempt.complete Attempt.goOn
  rw [exec_bind]
  cases marked : exec (invokeMark attempt) db with
  | mk outcome after =>
      cases outcome with
      | error exception => rfl
      | ok answer =>
          cases answer with
          | some result => rfl
          | none => cases drawn.provider <;> rfl

/-- A denial is returned, with one event or none. -/
theorem exec_deny_returned
    (principalId : Option Id)
    (mandateId : Id)
    (outcome : Denied)
    (remaining : Option Cents)
    (key : Option String)
    (db : Db) :
    ∃ answer denials,
      exec (deny principalId mandateId outcome remaining key) db =
        (.ok answer, { db with ledgerEvents := db.ledgerEvents ++ denials }) ∧
        answer.ok = false ∧
        answer.reason = some outcome.reason := by
  cases principalId with
  | none =>
      refine
        ⟨{ ok := false
           reason := some outcome.reason
           detail := outcome.detail
           remainingCents := remaining
           idempotencyKey := key }, [], ?_, rfl, rfl⟩
      rw [List.append_nil]
      rfl
  | some principalId => exact ⟨_, [_], rfl, rfl, rfl⟩

/-- A call under a mandate that does not load as live returns a denial. -/
theorem exec_invokeAlone_dead
    {outcome : Denied}
    (dead :
      loadLiveMandate env (fun _ => db) drawn.draw.now request.mandateId =
        .error outcome) :
    ∃ answer denials,
      exec (invokeAlone env request drawn) db =
        (.ok answer, { db with ledgerEvents := db.ledgerEvents ++ denials }) ∧
        answer.ok = false ∧
        answer.reason = some outcome.reason := by
  have denied :
      gate env (fun _ => db) request drawn.draw =
        .denied ((db.mandates.find request.mandateId).map Mandate.principalId)
          request.mandateId outcome
          ((db.mandates.find request.mandateId).map
            Mandate.remainingCents) := by
    simp only [gate, dead]
  obtain ⟨answer, denials, ran, refused⟩ :=
    exec_deny_returned
      ((db.mandates.find request.mandateId).map Mandate.principalId)
      request.mandateId outcome
      ((db.mandates.find request.mandateId).map Mandate.remainingCents)
      request.idempotencyKey db
  refine ⟨answer, denials, ?_, refused⟩
  unfold invokeAlone
  rw [exec_bind, exec_get]
  dsimp only
  rw [invokeBegin_eq, denied]
  dsimp only
  rw [exec_bind, exec_map, ran]
  rfl

/-- The calls of a proxy are for its mandate. -/
theorem toolCall_mandateId
    {mandateId : Id}
    {params : Json}
    {call : ToolCall}
    (asked : toolCall mandateId params = some call) :
    call.mandateId = mandateId := by
  unfold toolCall at asked
  simp only [bind, Option.bind_eq_some_iff] at asked
  obtain ⟨_, _, _, _, _, _, _, _, _, _, built⟩ := asked
  cases built
  rfl

/-- A request is for the mandate of its call. -/
theorem ToolCall.request?_mandateId
    {json : JsonLibrary}
    {call : ToolCall}
    (typed : call.request? json = some request) :
    request.mandateId = call.mandateId := by
  unfold ToolCall.request? at typed
  split at typed
  · cases typed
    rfl
  · cases typed

end Invoke

/-! ## Calls that come back -/

/-- A request whose arguments, if it calls a tool, have the declared types. -/
def Typed (world : ProxyWorld) (mandateId : Id) (line : String) : Prop :=
  IsRequest world.json line ∧
    ∀ call, callOf (world.proxy mandateId) line = some call →
      (call.request? world.json).isSome = true

/--
In sessions of this kind every call with arguments of the declared types comes
back, and the session is of this kind again.
-/
def ComesBack
    (world : ProxyWorld)
    (mandateId : Id)
    (good : ProxySession → Prop) :
    Prop :=
  ∀ session request,
    good session →
      request.mandateId = mandateId →
        ∃ result db',
          exec
              (invokeAlone world.env request (world.draws session.calls))
              session.db =
            (.ok result, db') ∧
            good ⟨db', session.calls + 1⟩

section ComesBack

variable
  {world : ProxyWorld}
  {mandateId : Id}
  {good : ProxySession → Prop}
  {line : String}
  {lines : List String}
  {session : ProxySession}

/-- A call of a line is for the mandate of the proxy. -/
theorem callOf_mandateId
    {call : ToolCall}
    (asked : callOf (world.proxy mandateId) line = some call) :
    call.mandateId = mandateId := by
  unfold callOf at asked
  split at asked
  · cases asked
  · split at asked
    · exact toolCall_mandateId asked
    · cases asked

/-- A request of the right types is handled when its call comes back. -/
theorem ComesBack.handled
    (comesBack : ComesBack world mandateId good)
    (holds : good session)
    (typed : Typed world mandateId line) :
    Handled (world.proxy mandateId) line session ∧
      good (sessionAfter (world.proxy mandateId) line session) := by
  unfold sessionAfter
  cases asked : callOf (world.proxy mandateId) line with
  | none =>
      refine ⟨⟨typed.1, ?_⟩, holds⟩
      intro call _ isCall
      cases asked.symm.trans isCall
  | some call =>
      obtain ⟨request, isRequest⟩ :=
        Option.isSome_iff_exists.mp (typed.2 call asked)
      have sameMandate : request.mandateId = mandateId :=
        (ToolCall.request?_mandateId isRequest).trans (callOf_mandateId asked)
      obtain ⟨result, db', ran, holds'⟩ :=
        comesBack session request holds sameMandate
      have invoked :
          (world.proxy mandateId).invoke call session =
            (world.invoked (.ok result), ⟨db', session.calls + 1⟩) := by
        simp only [ProxyWorld.proxy, isRequest, ran]
      dsimp only
      rw [invoked]
      refine ⟨⟨typed.1, ?_⟩, holds'⟩
      intro called exception isCall raised
      cases asked.symm.trans isCall
      rw [invoked] at raised
      cases raised

/-- When all calls come back, every line of well-typed requests is answered. -/
theorem ComesBack.answersEveryLine
    (comesBack : ComesBack world mandateId good)
    (holds : good session)
    (typed : ∀ line ∈ lines, strip line ≠ "" → Typed world mandateId line) :
    AnswersEveryLine (world.proxy mandateId) lines session := by
  refine EveryLineHandled.answered ?_
  induction lines generalizing session with
  | nil => trivial
  | cons line rest inductionHypothesis =>
      obtain ⟨first, others⟩ := List.forall_mem_cons.mp typed
      rw [EveryLineHandled]
      by_cases blank : strip line = ""
      · rw [if_pos blank]
        exact inductionHypothesis holds others
      · rw [if_neg blank]
        obtain ⟨handled, holds'⟩ := comesBack.handled holds (first blank)
        exact ⟨handled, inductionHypothesis holds' others⟩

end ComesBack

/-! ## A mandate that is not live -/

section Dead

variable
  {world : ProxyWorld}
  {mandateId : Id}
  {lines : List String}
  {session : ProxySession}

/-- The mandate does not load as live at any time. -/
def Dead (env : Env) (db : Db) (mandateId : Id) : Prop :=
  ∀ now, ∃ outcome,
    loadLiveMandate env (fun _ => db) now mandateId = .error outcome

/-- Calls under a dead mandate come back, and the mandate stays dead. -/
theorem comesBack_of_dead (world : ProxyWorld) (mandateId : Id) :
    ComesBack world mandateId fun session =>
      Dead world.env session.db mandateId := by
  intro session request dead sameMandate
  obtain ⟨outcome, refused⟩ := dead (world.draws session.calls).draw.now
  rw [← sameMandate] at refused
  obtain ⟨answer, denials, ran, _⟩ := exec_invokeAlone_dead refused
  exact ⟨answer, _, ran, dead⟩

/-- Denied calls do not stop the loop: under a dead mandate all is answered. -/
theorem dead_mandate_answers_every_line
    (dead : Dead world.env session.db mandateId)
    (typed : ∀ line ∈ lines, strip line ≠ "" → Typed world mandateId line) :
    AnswersEveryLine (world.proxy mandateId) lines session :=
  (comesBack_of_dead world mandateId).answersEveryLine dead typed

end Dead

end Crossing
