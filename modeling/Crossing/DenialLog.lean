import Crossing.InvokeOutcomes
import Crossing.Runs

namespace Crossing

open Relational
open Relational.Transaction

/-!
# The log of denials

The gate of `invoke` writes one deny event for each denial, and so does
`reserve_and_commit` for a refused debit.  It writes none for a negative amount
and none for a claim of another request, which the gate would have logged.
-/

/-! ## What claims store -/

/-- The stored results are those of calls that succeeded. -/
def Db.StoresSuccesses (db : Db) : Prop :=
  ∀ at_ claim stored,
    db.idempotencyRecords.find at_ = some claim →
      claim.resultJson = some stored →
        stored.ok = true

/-- A change of one claim that stores a success, or nothing. -/
theorem Db.StoresSuccesses.changed
    {db db' : Db}
    {operation : Option (Id × String)}
    {value :
      Id × String → Option IdempotencyRecord → Option IdempotencyRecord}
    (stores : db.StoresSuccesses)
    (change :
      ClaimsChange operation value db.idempotencyRecords
        db'.idempotencyRecords)
    (success :
      ∀ at_ claim stored,
        value at_ (db.idempotencyRecords.find at_) = some claim →
          claim.resultJson = some stored →
            stored.ok = true) :
    db'.StoresSuccesses := by
  intro at_ claim stored found isStored
  by_cases isOperation : operation = some at_
  · rw [change.find_self isOperation] at found
    exact success at_ claim stored found isStored
  · rw [change.find_of_ne isOperation] at found
    exact stores at_ claim stored found isStored

/-- A completion stores the payload that it is given. -/
theorem completion_resultJson
    {invocation : Invocation}
    {payload : Option InvokeResult}
    {at_ : Id × String}
    {before : Option IdempotencyRecord}
    {claim : IdempotencyRecord}
    (completed : completion invocation payload at_ before = some claim) :
    claim.resultJson = payload := by
  cases completed
  unfold completedClaim
  split <;> rfl

/-- Attempts end in `invoke` and over the API. -/
def Discipline.storing : Discipline :=
  { Discipline.free with viaApi := True }

/-- What `invoke` stores is a success, and reconciliation stores nothing. -/
theorem SuccessVia.stores
    {env : Env}
    {origin : Origin}
    {callbacks : FinalizeCallbacks}
    {invocation : Invocation}
    {toStatus : InvocationStatus}
    {payload : Option Receipt → Option InvokeResult}
    {evidence : List ReconciliationEvent}
    (via :
      SuccessVia env .storing origin callbacks invocation toStatus payload
        evidence)
    (receipt : Option Receipt)
    {stored : InvokeResult}
    (isStored : payload receipt = some stored) :
    stored.ok = true := by
  cases via with
  | finalized _ stores _ =>
      obtain ⟨built, isResult, success⟩ := stores trivial
      unfold FinalizeCallbacks.payload at isStored
      rw [isResult] at isStored
      cases isStored
      exact success
  | reconciled _ _ _ _ stores =>
      rw [stores trivial] at isStored
      cases isStored

/-- Every effect keeps the stored results successes. -/
theorem Effect.storesSuccesses
    {env : Env}
    {origin : Origin}
    {db db' : Db}
    {entries : List Entry}
    (effect : Effect env .storing origin db entries db')
    (stores : db.StoresSuccesses) :
    db'.StoresSuccesses := by
  cases effect with
  | opened opening =>
      apply stores.changed opening.claimed
      intro at_ claim stored isOpen isStored
      cases isOpen
      cases isStored
  | settled settling via =>
      apply stores.changed settling.completed
      intro at_ claim stored completed isStored
      rw [completion_resultJson completed] at isStored
      exact via.stores _ isStored
  | resettled resettling via =>
      apply stores.changed resettling.completed
      intro at_ claim stored completed isStored
      rw [completion_resultJson completed] at isStored
      exact via.stores none isStored
  | released releasing =>
      apply stores.changed releasing.cleared
      intro at_ claim stored isNone
      cases isNone
  | _ => exact stores

/-- In a reachable state no committed state stores a failure. -/
theorem reachable_storesSuccesses
    {env : Env}
    {allowed : Sys → Action → Prop}
    {s : Sys}
    (keeps :
      ∀ s action, allowed s action → Discipline.storing.Allows action)
    (reachable : Reachable env allowed s) :
    ∀ view ∈ s.states, view.StoresSuccesses := by
  apply reachable_invariant .storing
    (fun s => ∀ view ∈ s.states, view.StoresSuccesses) keeps _ _ reachable
  · intro view member at_ claim stored found
    rw [List.mem_singleton.mp member] at found
    cases found
  · intro s s' action _ stores _ stepped view member
    rcases stepped.states_subset view member with rfl | isOld
    · obtain ⟨_, _, effect⟩ := stepped.effect
      exact effect.storesSuccesses (stores s.db List.mem_cons_self)
    · exact stores view isOld

/-- A replayed answer is a success where successes are stored. -/
theorem Replays.success
    {view : Db}
    {principalId : Id}
    {key : Option String}
    {requestHash : String}
    {result : InvokeResult}
    (replays : Replays view principalId key requestHash result)
    (stores : view.StoresSuccesses) :
    result.ok = true := by
  obtain ⟨_, _, stored, _, found, _, isStored, rfl, _⟩ := replays.claim
  exact stores _ _ stored found isStored

/-! ## Which denials are logged -/

/-- One deny event with its reason was appended, and nothing else was added. -/
structure LoggedOnce
    (mandateId : Id)
    (reason : Reason)
    (db db' : Db) :
    Prop where
  event :
    ∃ event,
      db'.ledgerEvents = db.ledgerEvents ++ [event] ∧
        event.kind = .deny ∧
        event.mandateId = mandateId ∧
        event.note = some (.reason reason)
  nothingElse :
    db'.reservations = db.reservations ∧
      db'.idempotencyRecords = db.idempotencyRecords ∧
      db'.invocations = db.invocations

/--
A step that answers a request with a policy reason, other than that its
operation is in progress, has logged that denial once.
-/
def DenialLoggedOnce (s s' : Sys) (request : InvokeRequest) : Prop :=
  ∀ result reason,
    s'.log = s.log ++ [.answered request result] →
      result.ok = false →
        result.reason = some reason →
          reason ≠ .inProgress →
            LoggedOnce request.mandateId reason s.db s'.db

/-- A taken key whose claim cannot be read, or is that of another request. -/
def ClaimConflicts
    (existing : Option IdempotencyRecord)
    (requestHash : Option String) :
    Prop :=
  ∀ record ∈ existing,
    ∃ stored ∈ truthy record.requestHash,
      ∃ requested ∈ truthy requestHash, stored ≠ requested

/--
The request passes the gate and is then refused for a claim that conflicts, or
with a free key for a negative price.
-/
def RefusedSilently
    (env : Env)
    (s : Sys)
    (ages : List Nat)
    (request : InvokeRequest)
    (draw : InvokeDraw) :
    Prop :=
  ∃ mandate price,
    gate env (s.views ages) request draw = .passes mandate price ∧
      match claimOf s.db mandate.principalId request.idempotencyKey with
      | some _ =>
          ClaimConflicts
            (claimOf (s.views ages 7) mandate.principalId
              request.idempotencyKey)
            (some (requestFingerprint env request))
      | none => price < 0

/-- A conflicting claim is denied as a conflict. -/
theorem existingClaim_conflict
    {existing : Option IdempotencyRecord}
    {requestHash : Option String}
    (conflicts : ClaimConflicts existing requestHash) :
    ∃ detail,
      existingClaim existing requestHash =
        denied ⟨.idempotencyConflict, detail⟩ := by
  unfold existingClaim
  cases existing with
  | none => exact ⟨_, rfl⟩
  | some record =>
      simp only
      rw [if_pos (conflicts record rfl)]
      exact ⟨_, rfl⟩

/-- A claim that does not conflict is replayed, or it is in progress. -/
theorem existingClaim_agrees
    {existing : Option IdempotencyRecord}
    {requestHash : Option String}
    (agrees : ¬ ClaimConflicts existing requestHash) :
    (∃ record stored,
      existing = some record ∧
        record.resultJson = some stored ∧
        existingClaim existing requestHash = .idempotencyReplay record) ∨
      existingClaim existing requestHash =
        denied ⟨.inProgress, "wait-or-conflict"⟩ := by
  unfold ClaimConflicts at agrees
  push Not at agrees
  obtain ⟨record, isRecord, same⟩ := agrees
  cases isRecord
  have noConflict :
      ¬ ∃ stored ∈ truthy record.requestHash,
        ∃ requested ∈ truthy requestHash, stored ≠ requested := by
    rintro ⟨stored, isStored, requested, isRequested, differs⟩
    exact differs (same stored isStored requested isRequested)
  simp only [existingClaim, if_neg noConflict]
  by_cases usable :
      record.status = .completed ∧ record.resultJson.isSome = true
  · rw [if_pos usable]
    obtain ⟨stored, isStored⟩ := Option.isSome_iff_exists.mp usable.2
    exact .inl ⟨record, stored, rfl, isStored, rfl⟩
  · rw [if_neg usable]
    exact .inr rfl

/-! ## One request -/

section Request

variable
  {env : Env}
  {views : Views}
  {request : InvokeRequest}
  {draw : InvokeDraw}
  {mandate row : Mandate}
  {price : Cents}
  {taskId : Id}
  {db db' booked : Db}

/-- A request that is refused silently writes no event. -/
theorem refusedSilently_unlogged
    {begun : Begun}
    (passed : Passed env views request draw mandate price)
    (stored : db.mandates.find mandate.id = some row)
    (silent :
      match claimOf db mandate.principalId request.idempotencyKey with
      | some _ =>
          ClaimConflicts
            (claimOf (views 7) mandate.principalId request.idempotencyKey)
            (some (requestFingerprint env request))
      | none => price < 0)
    (returned :
      exec (invokeBegin env views request draw) db = (.ok begun, db')) :
    ∃ result reason,
      begun = .answered result ∧
        result.ok = false ∧
        result.reason = some reason ∧
        reason ≠ .inProgress ∧
        db'.ledgerEvents = db.ledgerEvents := by
  rw [invokeBegin_eq, gate_passes_iff.mpr passed] at returned
  obtain ⟨taskId, booked, books, reserveRun⟩ := bookAndReserve_iff.mp returned
  have bookedRow : booked.mandates.find mandate.id = some row := by
    rw [books.others.1]
    exact stored
  rw [← books.claimOf] at silent
  cases taken :
      claimOf booked mandate.principalId request.idempotencyKey with
  | some record =>
      rw [taken] at silent
      obtain ⟨detail, isConflict⟩ := existingClaim_conflict silent
      rw [reserveOrAnswer_raised (reserveAndCommit_taken bookedRow taken),
        isConflict] at reserveRun
      cases reserveRun
      exact ⟨_, _, rfl, rfl, rfl, by simp, books.others.2.1⟩
  | none =>
      rw [taken] at silent
      rw [reserveOrAnswer_raised
        (reserveAndCommit_negative bookedRow taken silent)] at reserveRun
      cases reserveRun
      exact ⟨_, _, rfl, rfl, rfl, by simp [negativeAmount],
        books.others.2.1⟩

/-- What the gate answers: denials of the mandate, waits, and replays. -/
def GateAnswers
    (env : Env)
    (views : Views)
    (request : InvokeRequest) :
    Gate → Prop
  | .denied principalId mandateId _ _ =>
      mandateId = request.mandateId ∧
        (((views 0).mandates.find request.mandateId).isSome = true →
          principalId.isSome = true)
  | .waits _ outcome => outcome.reason = .inProgress
  | .cached result =>
      ∃ principalId,
        loadIdem (views 4) principalId request.idempotencyKey
            (requestFingerprint env request) =
          .ok (some result)
  | .passes _ _ => True

/-- The gate denies under the mandate, and waits for no other reason. -/
theorem gate_answers :
    GateAnswers env views request (gate env views request draw) := by
  unfold gate
  cases live : loadLiveMandate env views draw.now request.mandateId with
  | error outcome => simp [GateAnswers]
  | ok loaded =>
      have loadedId : loaded.id = request.mandateId :=
        Table.key_of_find (loadLiveMandate_ok live).1
      simp only
      cases cached :
          loadIdem (views 4) loaded.principalId request.idempotencyKey
            (requestFingerprint env request) with
      | error outcome =>
          simp only
          split
          · next waiting => exact waiting
          · exact ⟨loadedId, fun _ => rfl⟩
      | ok answer =>
          cases answer with
          | some result => exact ⟨_, cached⟩
          | none =>
              simp only
              split
              · exact ⟨loadedId, fun _ => rfl⟩
              · cases checkedPrice env (views 6) loaded request draw.quoted
                · exact ⟨loadedId, fun _ => rfl⟩
                · trivial

/-- A denial of the gate is logged. -/
theorem deny_logged
    {principalId : Option Id}
    {mandateId : Id}
    {outcome : Denied}
    {remaining : Option Cents}
    {key : Option String}
    {result : InvokeResult}
    {reason : Reason}
    (known : principalId.isSome = true)
    (isReason : result.reason = some reason)
    (returned :
      exec
          (Begun.answered <$>
            deny principalId mandateId outcome remaining key)
          db =
        (.ok (.answered result), db')) :
    LoggedOnce mandateId reason db db' := by
  obtain ⟨principal, rfl⟩ := Option.isSome_iff_exists.mp known
  cases returned
  cases isReason
  exact ⟨⟨_, rfl, rfl, rfl, rfl⟩, rfl, rfl, rfl⟩

/-- A failure answered for a taken key is a conflict, or is in progress. -/
theorem taken_failure
    {record : IdempotencyRecord}
    {result : InvokeResult}
    {reason : Reason}
    (stores : (views 7).StoresSuccesses)
    (stored : db.mandates.find mandate.id = some row)
    (taken :
      claimOf db mandate.principalId request.idempotencyKey = some record)
    (agrees :
      ¬ ClaimConflicts
        (claimOf (views 7) mandate.principalId request.idempotencyKey)
        (some (requestFingerprint env request)))
    (returned :
      exec
          (reserveOrAnswer (views 7) mandate price request
            (requestFingerprint env request) (some taskId) draw)
          db =
        (.ok (.answered result), db'))
    (failed : result.ok = false)
    (isReason : result.reason = some reason) :
    reason = .inProgress := by
  rw [reserveOrAnswer_raised (reserveAndCommit_taken stored taken)] at returned
  rcases existingClaim_agrees agrees with
    ⟨claim, saved, isClaim, isSaved, isReplay⟩ | waits
  · rw [isReplay] at returned
    obtain ⟨text, _, found⟩ := Option.bind_eq_some_iff.mp isClaim
    have success := stores _ _ _ found isSaved
    cases returned
    rw [isSaved] at failed
    exact (Bool.false_ne_true (failed.symm.trans success)).elim
  · rw [waits] at returned
    cases returned
    exact (Option.some.inj isReason).symm

/-- A failure answered for a free key and a price is a refused debit. -/
theorem free_failure
    {result : InvokeResult}
    {reason : Reason}
    (stored : db.mandates.find mandate.id = some row)
    (free : claimOf db mandate.principalId request.idempotencyKey = none)
    (nonnegative : 0 ≤ price)
    (returned :
      exec
          (reserveOrAnswer (views 7) mandate price request
            (requestFingerprint env request) (some taskId) draw)
          db =
        (.ok (.answered result), db'))
    (isReason : result.reason = some reason) :
    LoggedOnce mandate.id reason db db' := by
  cases passes : debitGuard draw.debitNow price row with
  | false =>
      rw [reserveOrAnswer_raised
        (reserveAndCommit_refused stored free nonnegative passes)] at returned
      cases returned
      cases isReason
      exact
        ⟨⟨_, rfl, rfl, Table.key_of_find stored, rfl⟩, rfl, rfl, rfl⟩
  | true =>
      obtain ⟨claims, added⟩ :=
        exists_claimAdded (some (requestFingerprint env request)) free
      rcases reserveOrAnswer_cases returned with
        ⟨exception, raised⟩ | ⟨reservation, invocation, debitedRow, opened⟩
      · have isRaised := raised
        rw [reserveAndCommit_debitable stored added nonnegative passes]
          at isRaised
        split at isRaised
        · cases isRaised
        · cases isRaised
          rw [reserveOrAnswer_raised raised] at returned
          cases returned
      · rw [reserveOrAnswer_opened opened] at returned
        cases returned

/-- What is logged in the state after the booking is logged before it. -/
theorem LoggedOnce.ofBooked
    {reason : Reason}
    {mandateId : Id}
    (logged : LoggedOnce mandateId reason booked db')
    (books : Booked request draw mandate db taskId booked) :
    LoggedOnce mandateId reason db db' := by
  obtain ⟨_, events, reservations, claims, invocations⟩ := books.others
  obtain ⟨event, sameReservations, sameClaims, sameInvocations⟩ := logged
  exact
    ⟨events ▸ event, sameReservations.trans reservations,
      sameClaims.trans claims, sameInvocations.trans invocations⟩

/-- A failure of a request that is not refused silently is logged. -/
theorem failure_logged
    {result : InvokeResult}
    {reason : Reason}
    (seen : Seen views db)
    (stores : ∀ statement, (views statement).StoresSuccesses)
    (known : ((views 0).mandates.find request.mandateId).isSome = true)
    (loud :
      ∀ mandate price,
        gate env views request draw = .passes mandate price →
          match claimOf db mandate.principalId request.idempotencyKey with
          | some _ =>
              ¬ ClaimConflicts
                (claimOf (views 7) mandate.principalId request.idempotencyKey)
                (some (requestFingerprint env request))
          | none => 0 ≤ price)
    (returned :
      exec (invokeBegin env views request draw) db =
        (.ok (.answered result), db'))
    (failed : result.ok = false)
    (isReason : result.reason = some reason)
    (notWaiting : reason ≠ .inProgress) :
    LoggedOnce request.mandateId reason db db' := by
  have answers : GateAnswers env views request (gate env views request draw) :=
    gate_answers
  rw [invokeBegin_eq] at returned
  cases gated : gate env views request draw with
  | denied principalId mandateId outcome remaining =>
      rw [gated] at answers returned
      obtain ⟨rfl, isKnown⟩ := answers
      exact deny_logged (isKnown known) isReason returned
  | waits waiting outcome =>
      rw [gated] at answers returned
      cases returned
      cases isReason
      exact (notWaiting answers).elim
  | cached replayed =>
      rw [gated] at answers returned
      obtain ⟨principalId, loaded⟩ := answers
      have success := (loadIdem_replays loaded).success (stores 4)
      cases returned
      exact (Bool.false_ne_true (failed.symm.trans success)).elim
  | passes mandate price =>
      have passed := gate_passes_iff.mp gated
      obtain ⟨row, stored, same⟩ := passed.stored seen
      have loudHere := loud mandate price gated
      rw [gated] at returned
      obtain ⟨taskId, booked, books, reserveRun⟩ :=
        bookAndReserve_iff.mp returned
      have bookedRow : booked.mandates.find mandate.id = some row := by
        rw [books.others.1]
        exact stored
      have loadedId : mandate.id = request.mandateId :=
        Table.key_of_find (loadLiveMandate_ok passed.live).1
      rw [← books.claimOf] at loudHere
      cases taken :
          claimOf booked mandate.principalId request.idempotencyKey with
      | some record =>
          rw [taken] at loudHere
          exact
            (notWaiting
              (taken_failure (stores 7) bookedRow taken loudHere reserveRun
                failed isReason)).elim
      | none =>
          rw [taken] at loudHere
          exact
            loadedId ▸
              (free_failure bookedRow taken loudHere reserveRun
                isReason).ofBooked books

end Request

/-! ## Every request -/

/--
A denial of a request on a visible mandate is logged once exactly when the
request is not refused silently.
-/
theorem denial_logged_iff
    {env : Env}
    {s s' : Sys}
    {ages : List Nat}
    {request : InvokeRequest}
    {draw : InvokeDraw}
    (reachable :
      Reachable env (fun _ action => Discipline.storing.Allows action) s)
    (known :
      ((s.views ages 0).mandates.find request.mandateId).isSome = true)
    (taken : step env s (.invoke ages request draw) = some s') :
    DenialLoggedOnce s s' request ↔
      ¬ RefusedSilently env s ages request draw := by
  have seen : Seen (s.views ages) s.db :=
    (reachable_kept reachable).seen ages
  have stores (statement : Nat) : (s.views ages statement).StoresSuccesses :=
    reachable_storesSuccesses (fun _ _ kept => kept) reachable _
      (s.views_mem ages statement)
  constructor
  · rintro logged ⟨mandate, price, gated, silent⟩
    have passed := gate_passes_iff.mp gated
    obtain ⟨row, stored, _⟩ := passed.stored seen
    rcases step_invoke taken with ⟨result, returned, log⟩ | ⟨_, returned, _⟩
    · obtain ⟨_, reason, isAnswer, failed, isReason, notWaiting, unlogged⟩ :=
        refusedSilently_unlogged passed stored silent returned
      cases isAnswer
      obtain ⟨event, appended, _⟩ :=
        (logged result reason log failed isReason notWaiting).event
      rw [unlogged] at appended
      simp at appended
    · obtain ⟨_, _, isAnswer, _⟩ :=
        refusedSilently_unlogged passed stored silent returned
      cases isAnswer
  · intro loud result reason log failed isReason notWaiting
    rcases step_invoke taken with
      ⟨answered, returned, isLog⟩ | ⟨_, _, isLog⟩
    · rw [isLog] at log
      cases List.append_cancel_left log
      refine failure_logged seen stores known ?_ returned failed isReason
        notWaiting
      intro mandate price gated
      cases claimed :
          claimOf s.db mandate.principalId request.idempotencyKey with
      | some record =>
          intro conflicts
          exact loud ⟨mandate, price, gated, by simpa [claimed] using conflicts⟩
      | none =>
          apply not_lt.mp
          intro negative
          exact loud ⟨mandate, price, gated, by simpa [claimed] using negative⟩
    · rw [isLog] at log
      cases List.append_cancel_left log

/-- A draw at a price that the mandate does not allow for one call. -/
def drawThousand : InvokeDraw :=
  { drawTen 1 with quoted := .ok 1000 }

/-- The gate denies. -/
def Gate.isDenied : Gate → Bool
  | .denied .. => true
  | _ => false

/-- A call above its cap is denied by the gate, and logged once. -/
theorem denial_logged_of_gate :
    ∃ s s',
      Reachable .plain (fun _ action => Discipline.storing.Allows action) s ∧
        step .plain s (.invoke [] call drawThousand) = some s' ∧
        DenialLoggedOnce s s' call := by
  have checked :
      (run .plain Sys.start deploy).any
          (fun s =>
            ((s.views [] 0).mandates.find call.mandateId).isSome &&
              (gate .plain (s.views []) call drawThousand).isDenied &&
              (step .plain s (.invoke [] call drawThousand)).isSome) =
        true := by
    decide
  obtain ⟨s, reachable, passes⟩ :=
    reachable_of_check (.routine (by decide) .storing _) checked
  simp only [Bool.and_eq_true] at passes
  obtain ⟨⟨known, isDenied⟩, isTaken⟩ := passes
  obtain ⟨s', taken⟩ := Option.isSome_iff_exists.mp isTaken
  refine ⟨s, s', reachable, taken,
    (denial_logged_iff reachable known taken).mpr ?_⟩
  rintro ⟨_, _, gated, _⟩
  rw [gated] at isDenied
  cases isDenied

/-- A draw at a negative price. -/
def drawNegative : InvokeDraw :=
  { drawTen 1 with quoted := .ok (-1) }

/-- The denial of a negative price. -/
def negativeAnswer : InvokeResult where
  ok := false
  reason := some .invalidAmount
  detail := "reserve amount must be >= 0"
  amountCents := -1
  remainingCents := some 100
  idempotencyKey := some "key"
  taskId := some 1

/-- A provider that quotes a negative price, and a denial that is not logged. -/
theorem negative_price_not_logged :
    ∃ s s',
      Reachable .plain (fun _ action => Discipline.storing.Allows action) s ∧
        ((s.views [] 0).mandates.find call.mandateId).isSome = true ∧
        step .plain s (.invoke [] call drawNegative) = some s' ∧
        ¬ DenialLoggedOnce s s' call := by
  have checked :
      (run .plain Sys.start deploy).any
          (fun s =>
            ((s.views [] 0).mandates.find call.mandateId).isSome &&
              (step .plain s (.invoke [] call drawNegative)).any fun s' =>
                s'.log = s.log ++ [.answered call negativeAnswer] &&
                  s'.db.ledgerEvents = s.db.ledgerEvents) =
        true := by
    decide
  obtain ⟨s, reachable, passes⟩ :=
    reachable_of_check (.routine (by decide) .storing _) checked
  simp only [Bool.and_eq_true, Option.any_eq_true, decide_eq_true_eq] at passes
  obtain ⟨known, s', taken, log, unlogged⟩ := passes
  refine ⟨s, s', reachable, known, taken, ?_⟩
  intro logged
  obtain ⟨event, appended, _⟩ :=
    (logged negativeAnswer .invalidAmount log rfl rfl (by simp)).event
  rw [unlogged] at appended
  simp at appended

end Crossing
