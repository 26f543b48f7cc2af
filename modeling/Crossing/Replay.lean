import Crossing.Attempts
import Crossing.Runs
import Mathlib.Data.List.GetD

namespace Crossing

open Relational
open Relational.Transaction

/-!
# What a repeated request meets

A repeated request reads the claim of its logical operation before anything
else.  These are the answers that `invoke` gives from a claim, the claims that
stay in later states, and the states that the views of a later transaction
show.
-/

/-! ## The answer from a claim -/

section Answers

variable
  {env : Env}
  {views : Views}
  {request : InvokeRequest}
  {draw : InvokeDraw}
  {loaded : Mandate}
  {db view : Db}
  {principalId : Id}
  {key : Option String}
  {text requestHash : String}
  {record : IdempotencyRecord}

/-- A completed claim of the same request with a result is replayed. -/
theorem loadIdem_cached
    {stored : InvokeResult}
    (keyed : truthy key = some text)
    (found : view.idempotencyRecords.find (principalId, text) = some record)
    (sameHash : ∀ hash ∈ truthy record.requestHash, hash = requestHash)
    (completed : record.status = .completed)
    (isStored : record.resultJson = some stored) :
    loadIdem view principalId key requestHash =
      .ok (some (replayOf stored)) := by
  have noConflict :
      ¬ ∃ hash ∈ truthy record.requestHash, hash ≠ requestHash := by
    rintro ⟨hash, isHash, differs⟩
    exact differs (sameHash hash isHash)
  simp only [loadIdem, keyed, found]
  rw [if_neg noConflict]
  simp only [completed, isStored]

/-- A claim of the same request without a result is waited for. -/
theorem loadIdem_unstored
    (keyed : truthy key = some text)
    (found : view.idempotencyRecords.find (principalId, text) = some record)
    (sameHash : ∀ hash ∈ truthy record.requestHash, hash = requestHash)
    (unstored : record.resultJson = none) :
    loadIdem view principalId key requestHash =
      .error ⟨.inProgress, "wait-or-conflict"⟩ := by
  have noConflict :
      ¬ ∃ hash ∈ truthy record.requestHash, hash ≠ requestHash := by
    rintro ⟨hash, isHash, differs⟩
    exact differs (sameHash hash isHash)
  simp only [loadIdem, keyed, found]
  rw [if_neg noConflict]
  cases status : record.status <;> simp only [unstored]

/-- The claim of another request is a conflict. -/
theorem loadIdem_conflict
    {hash : String}
    (keyed : truthy key = some text)
    (found : view.idempotencyRecords.find (principalId, text) = some record)
    (isHash : truthy record.requestHash = some hash)
    (differs : hash ≠ requestHash) :
    loadIdem view principalId key requestHash =
      .error
        ⟨.idempotencyConflict, "same key, different request hash"⟩ := by
  simp only [loadIdem, keyed, found]
  rw [if_pos ⟨hash, isHash, differs⟩]

/-- `invoke` returns a cached answer and writes nothing. -/
theorem invokeBegin_cached
    {cached : InvokeResult}
    (live :
      loadLiveMandate env views draw.now request.mandateId = .ok loaded)
    (isCached :
      loadIdem (views 4) loaded.principalId request.idempotencyKey
          (requestFingerprint env request) =
        .ok (some cached)) :
    exec (invokeBegin env views request draw) db =
      (.ok (.answered cached), db) := by
  simp only [invokeBegin, live, isCached, exec_pure]

/-- `invoke` answers that the operation is in progress and writes nothing. -/
theorem invokeBegin_waits
    {detail : String}
    (live :
      loadLiveMandate env views draw.now request.mandateId = .ok loaded)
    (isWaiting :
      loadIdem (views 4) loaded.principalId request.idempotencyKey
          (requestFingerprint env request) =
        .error ⟨.inProgress, detail⟩) :
    exec (invokeBegin env views request draw) db =
      (.ok
        (.answered
          { ok := false
            reason := some .inProgress
            detail := detail
            remainingCents := some loaded.remainingCents
            idempotencyKey := request.idempotencyKey }),
        db) := by
  simp only [invokeBegin, live, isWaiting, ↓reduceIte, exec_pure]

variable (db) in
/-- `invoke` denies a request from its claim and writes its deny event only. -/
theorem invokeBegin_denies
    {outcome : Denied}
    (live :
      loadLiveMandate env views draw.now request.mandateId = .ok loaded)
    (isDenied :
      loadIdem (views 4) loaded.principalId request.idempotencyKey
          (requestFingerprint env request) =
        .error outcome)
    (conflicts : outcome.reason ≠ .inProgress) :
    ∃ denial event,
      exec (invokeBegin env views request draw) db =
          (.ok (.answered denial),
            { db with ledgerEvents := db.ledgerEvents ++ [event] }) ∧
        denial.ok = false ∧
        denial.reason = some outcome.reason ∧
        event.kind = .deny ∧
        event.amountCents = 0 := by
  have denies :
      exec (invokeBegin env views request draw) db =
        exec
          (.answered <$>
            deny (some loaded.principalId) loaded.id outcome
              (some loaded.remainingCents) request.idempotencyKey)
          db := by
    simp only [invokeBegin, live, isDenied, if_neg conflicts]
  exact ⟨_, _, denies.trans rfl, rfl, rfl, rfl, rfl⟩

variable {s : Sys} {ages : List Nat} {db' : Db} {result : InvokeResult}

/-- The step of a call that is answered in its first transaction. -/
theorem step_answered
    (monotone : Monotone ages)
    (answered :
      exec (invokeBegin env (s.views ages) request draw) s.db =
        (.ok (.answered result), db')) :
    step env s (.invoke ages request draw) =
      some (s.commit db' [.answered request result]) := by
  have committed := commit_eq_some.mpr answered
  simp only [step, monotone, ↓reduceIte, committed]

end Answers

/-! ## What later transactions see -/

/-- No view of a transaction on `s'` is older than the state `s`. -/
def Since (s s' : Sys) (ages : List Nat) : Prop :=
  ∀ age ∈ ages, s.past.length + age ≤ s'.past.length

/-- A step keeps the committed states and adds at most the new one. -/
theorem Stepped.states_eq
    {env : Env}
    {discipline : Discipline}
    {s s' : Sys}
    {action : Action}
    (stepped : Stepped env discipline s action s') :
    s'.states = s.states ∨ s'.states = s'.db :: s.states := by
  cases stepped <;> first
    | exact .inl rfl
    | exact .inr rfl

section Later

variable
  {env : Env}
  {allowed : Sys → Action → Prop}
  {discipline : Discipline}
  {s s' : Sys}

/-- The states after a run are those before it and those of the run. -/
theorem later_states
    (reachable : Reachable env allowed s)
    (later : Later env allowed s s') :
    ∃ recent,
      s'.states = recent ++ s.states ∧
        ∀ view ∈ recent, ∃ s₁, Later env allowed s s₁ ∧ view = s₁.db := by
  induction later with
  | refl => exact ⟨[], rfl, by simp⟩
  | @tail s₁ s₂ before taken inductionHypothesis =>
      obtain ⟨recent, shape, known⟩ := inductionHypothesis
      have isLater : Later env allowed s s₂ := before.tail taken
      obtain ⟨action, _, taken⟩ := taken
      have kept := reachable_kept (reachable.later before)
      have shape' := stepped kept (Discipline.free_allows action) taken
      rcases shape'.states_eq with same | grown
      · exact ⟨recent, same.trans shape, known⟩
      · refine ⟨s₂.db :: recent, ?_, ?_⟩
        · rw [grown, shape]
          rfl
        · intro view member
          rcases List.mem_cons.mp member with rfl | isOld
          · exact ⟨s₂, isLater, rfl⟩
          · exact known view isOld

/-- A view that is not older than a state shows a later one. -/
theorem view_since
    (reachable : Reachable env allowed s)
    (later : Later env allowed s s')
    {ages : List Nat}
    (since : Since s s' ages)
    (statement : Nat) :
    ∃ s₁, Later env allowed s s₁ ∧ s'.views ages statement = s₁.db := by
  obtain ⟨recent, shape, known⟩ := later_states reachable later
  have lengths : s'.past.length = recent.length + s.past.length := by
    have counted := congrArg List.length shape
    simp only [Sys.states, List.length_cons, List.length_append] at counted
    omega
  have young : ages.getD statement 0 ≤ recent.length := by
    rw [List.getD_eq_getElem?_getD]
    cases found : ages[statement]? with
    | none => exact Nat.zero_le _
    | some age =>
        have bound := since age (List.mem_of_getElem? found)
        simp only [Option.getD_some]
        omega
  unfold Sys.views
  rw [shape]
  rcases Nat.lt_or_eq_of_le young with isRecent | isFirst
  · rw [List.getD_append _ _ _ _ isRecent, List.getD_eq_getElem _ _ isRecent]
    exact known _ (List.getElem_mem isRecent)
  · refine ⟨s, .refl, ?_⟩
    rw [List.getD_append_right _ _ _ _ isFirst.ge, isFirst, Nat.sub_self]
    rfl

/-- A completed claim is found in every later state. -/
theorem later_claim
    (rule : discipline.defaultRelease)
    (keeps : ∀ s action, allowed s action → discipline.Allows action)
    (reachable : Reachable env allowed s)
    (later : Later env allowed s s')
    {at_ : Id × String}
    {claim : IdempotencyRecord}
    (found : s.db.idempotencyRecords.find at_ = some claim)
    (completed : claim.status = .completed) :
    s'.db.idempotencyRecords.find at_ = some claim := by
  refine Transition.later_invariant
    (fun s => s.db.idempotencyRecords.find at_ = some claim) ?_ reachable
    found later
  intro s s' isReachable isFound taken
  have law := reachable_attempts discipline rule keeps isReachable
  exact
    law.completed_stays (step_attempts rule keeps isReachable taken) isFound
      completed

/-- A completed claim of an earlier committed state is found. -/
theorem reachable_past_claim
    (rule : discipline.defaultRelease)
    (keeps : ∀ s action, allowed s action → discipline.Allows action)
    (reachable : Reachable env allowed s) :
    ∀ view ∈ s.states, ∀ at_ claim,
      view.idempotencyRecords.find at_ = some claim →
        claim.status = .completed →
          s.db.idempotencyRecords.find at_ = some claim := by
  apply reachable_invariant discipline
    (fun s =>
      ∀ view ∈ s.states, ∀ at_ claim,
        view.idempotencyRecords.find at_ = some claim →
          claim.status = .completed →
            s.db.idempotencyRecords.find at_ = some claim)
    keeps _ _ reachable
  · intro view member at_ claim found _
    rw [List.mem_singleton.mp member] at found
    exact found
  · intro s s' action isReachable past _ stepped view member at_ claim found
      completed
    rcases stepped.states_subset view member with rfl | isOld
    · exact found
    · obtain ⟨_, _, effect⟩ := stepped.effect
      have law := reachable_attempts discipline rule keeps isReachable
      exact law.completed_stays (effect.attempts rule law.noneOk)
        (past view isOld at_ claim found completed) completed

end Later

end Crossing
