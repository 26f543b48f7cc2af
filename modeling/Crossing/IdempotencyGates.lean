import Crossing.Idempotency
import Crossing.InvokeOutcomes
import Crossing.Runs

namespace Crossing

open Relational
open Relational.Transaction

/-!
# The two idempotency gates

A claim is met by `_load_idem`, or, when it is committed after that, by
`_claim_idempotency`.  Both follow one table of verdicts.  The later gate is
reached with the nonce and the task of the request written, and it does not log
a conflict.
-/

/-! ## One table for both gates -/

/-- What a claim means for a request with its key. -/
inductive Verdict where
  | conflict
  | waits
  | replays (stored : InvokeResult)
  deriving Repr, DecidableEq

/-- The claim is that of a request with another hash. -/
def IdempotencyRecord.OfOther
    (record : IdempotencyRecord)
    (requestHash : String) :
    Prop :=
  ∃ stored ∈ truthy record.requestHash, stored ≠ requestHash

instance
    (record : IdempotencyRecord)
    (requestHash : String) :
    Decidable (record.OfOther requestHash) :=
  inferInstanceAs (Decidable (∃ stored ∈ truthy record.requestHash, _))

/-- The hash decides first, then whether there is a result. -/
def verdict (record : IdempotencyRecord) (requestHash : String) : Verdict :=
  if record.OfOther requestHash then
    .conflict
  else
    match record.status, record.resultJson with
    | .completed, some stored => .replays stored
    | _, _ => .waits

section Gates

variable
  {view : Db}
  {principalId : Id}
  {key : Option String}
  {record : IdempotencyRecord}
  {requestHash : String}

/-- A verdict is a conflict exactly for the claim of another request. -/
theorem verdict_eq_conflict :
    verdict record requestHash = .conflict ↔ record.OfOther requestHash := by
  unfold verdict
  split
  · next other => simp [other]
  · next same =>
      refine iff_of_false ?_ same
      split <;> simp

/-- What a verdict replays is the result of the claim. -/
theorem verdict_replays
    {stored : InvokeResult}
    (replays : verdict record requestHash = .replays stored) :
    record.resultJson = some stored := by
  unfold verdict at replays
  split at replays
  · cases replays
  · split at replays
    · next isStored =>
        cases replays
        exact isStored
    · cases replays

/-- The early gate follows the table. -/
theorem loadIdem_verdict
    (claimed : claimOf view principalId key = some record) :
    loadIdem view principalId key requestHash =
      match verdict record requestHash with
      | .conflict =>
          .error ⟨.idempotencyConflict, "same key, different request hash"⟩
      | .waits => .error ⟨.inProgress, "wait-or-conflict"⟩
      | .replays stored => .ok (some (replayOf stored)) := by
  obtain ⟨text, given, found⟩ := Option.bind_eq_some_iff.mp claimed
  simp only [loadIdem, given, found, verdict]
  by_cases other : record.OfOther requestHash
  · rw [if_pos other]
    exact if_pos other
  · rw [if_neg other]
    refine (if_neg other).trans ?_
    cases record.status <;> cases record.resultJson <;> rfl

/-- The late gate follows the table, for a hash that counts as given. -/
theorem existingClaim_verdict
    (hashed : truthy (some requestHash) = some requestHash) :
    existingClaim (some record) (some requestHash) =
      match verdict record requestHash with
      | .conflict =>
          denied
            ⟨.idempotencyConflict, "same key, different request hash"⟩
      | .waits => denied ⟨.inProgress, "wait-or-conflict"⟩
      | .replays _ => .idempotencyReplay record := by
  have sameTest :
      (∃ stored ∈ truthy record.requestHash,
          ∃ requested ∈ truthy (some requestHash), stored ≠ requested) ↔
        record.OfOther requestHash := by
    simp [hashed, IdempotencyRecord.OfOther]
  simp only [existingClaim, verdict, sameTest]
  by_cases other : record.OfOther requestHash
  · simp only [other, ↓reduceIte]
  · simp only [other, ↓reduceIte]
    cases record.status <;> cases record.resultJson <;> rfl

end Gates

/-- The answer that a verdict calls for. -/
def Verdict.Answers (verdict : Verdict) (answer : InvokeResult) : Prop :=
  match verdict with
  | .conflict =>
      answer.ok = false ∧
        answer.reason = some .idempotencyConflict ∧
        answer.replayed = false
  | .waits =>
      answer.ok = false ∧
        answer.reason = some .inProgress ∧
        answer.replayed = false
  | .replays stored => answer = replayOf stored

/-- Two answers agree on success and reason, and replay the same result. -/
structure AnswersAgree (one two : InvokeResult) : Prop where
  ok : one.ok = two.ok
  reason : one.reason = two.reason
  replayed : one.replayed = two.replayed
  result : one.replayed = true → one = two

/-- Answers to one verdict agree. -/
theorem Verdict.Answers.agree
    {verdict : Verdict}
    {one two : InvokeResult}
    (first : verdict.Answers one)
    (second : verdict.Answers two) :
    AnswersAgree one two := by
  cases verdict with
  | replays stored =>
      cases first
      cases second
      exact ⟨rfl, rfl, rfl, fun _ => rfl⟩
  | _ =>
      obtain ⟨ok, reason, replayed⟩ := first
      obtain ⟨ok', reason', replayed'⟩ := second
      refine ⟨ok.trans ok'.symm, reason.trans reason'.symm,
        replayed.trans replayed'.symm, ?_⟩
      intro isReplay
      rw [replayed] at isReplay
      cases isReplay

/-! ## What each gate leaves -/

section Outcomes

variable
  {env : Env}
  {views : Views}
  {request : InvokeRequest}
  {draw : InvokeDraw}
  {mandate row : Mandate}
  {price : Cents}
  {record : IdempotencyRecord}
  {taskId : Id}
  {db booked : Db}

/-- A denial answers with its reason and appends one event. -/
theorem exec_deny
    (principalId mandateId : Id)
    (outcome : Denied)
    (remaining : Option Cents)
    (key : Option String)
    (db : Db) :
    ∃ answer event,
      exec
          (Begun.answered <$>
            deny (some principalId) mandateId outcome remaining key)
          db =
        (.ok (.answered answer),
          { db with ledgerEvents := db.ledgerEvents ++ [event] }) ∧
        answer.ok = false ∧
        answer.reason = some outcome.reason ∧
        answer.replayed = false :=
  ⟨_, _, rfl, rfl, rfl, rfl⟩

/-- The early gate answers, and logs a conflict. -/
theorem early_outcome
    (live :
      loadLiveMandate env views draw.now request.mandateId = .ok mandate)
    (claimed :
      claimOf (views 4) mandate.principalId request.idempotencyKey =
        some record) :
    ∃ answer denials,
      (verdict record (requestFingerprint env request)).Answers answer ∧
        (denials = [] ↔
          ¬ record.OfOther (requestFingerprint env request)) ∧
        exec (invokeBegin env views request draw) db =
          (.ok (.answered answer),
            { db with ledgerEvents := db.ledgerEvents ++ denials }) := by
  have loaded :
      loadIdem (views 4) mandate.principalId request.idempotencyKey
          (requestFingerprint env request) =
        _ :=
    loadIdem_verdict claimed
  rw [← verdict_eq_conflict, invokeBegin_eq]
  cases given : verdict record (requestFingerprint env request) with
  | conflict =>
      rw [given] at loaded
      obtain ⟨answer, event, ran, answers⟩ :=
        exec_deny mandate.principalId mandate.id
          ⟨.idempotencyConflict, "same key, different request hash"⟩
          (some mandate.remainingCents) request.idempotencyKey db
      refine ⟨answer, [event], answers, by simp, ?_⟩
      simpa [gate, live, loaded] using ran
  | waits =>
      rw [given] at loaded
      refine
        ⟨waitingAnswer request mandate ⟨.inProgress, "wait-or-conflict"⟩, [],
          ⟨rfl, rfl, rfl⟩, by simp, ?_⟩
      simp [gate, live, loaded]
  | replays stored =>
      rw [given] at loaded
      refine ⟨replayOf stored, [], rfl, by simp, ?_⟩
      simp [gate, live, loaded]

/-- The late gate answers when the nonce and the task are booked. -/
theorem late_outcome
    (hashes : env.Hashes)
    (passed : Passed env views request draw mandate price)
    (books : Booked request draw mandate db taskId booked)
    (stored : booked.mandates.find mandate.id = some row)
    (taken :
      claimOf booked mandate.principalId request.idempotencyKey =
        some record)
    (claimed :
      claimOf (views 7) mandate.principalId request.idempotencyKey =
        some record) :
    ∃ answer,
      (verdict record (requestFingerprint env request)).Answers answer ∧
        exec (invokeBegin env views request draw) db =
          (.ok (.answered answer), booked) := by
  have decided :
      existingClaim (some record) (some (requestFingerprint env request)) =
        _ :=
    existingClaim_verdict (hashes.truthy request)
  have raised :=
    reserveOrAnswer_raised
      (reserveAndCommit_taken stored taken :
        exec
            (reserveAndCommit (views 7) draw.debitNow mandate price
              request.idempotencyKey request.nonce request.tool
              request.server (some (requestFingerprint env request))
              (some taskId) draw.newReservationId draw.newInvocationId)
            booked =
          _)
  rw [claimed, decided] at raised
  have answers (answer : InvokeResult)
      (reserves :
        exec
            (reserveOrAnswer (views 7) mandate price request
              (requestFingerprint env request) (some taskId) draw)
            booked =
          (.ok (.answered answer), booked)) :
      exec (invokeBegin env views request draw) db =
        (.ok (.answered answer), booked) := by
    rw [invokeBegin_eq, gate_passes_iff.mpr passed]
    exact bookAndReserve_iff.mpr ⟨taskId, booked, books, reserves⟩
  cases given : verdict record (requestFingerprint env request) with
  | conflict =>
      rw [given] at raised
      exact
        ⟨reserveDenial booked mandate price request (some taskId)
            ⟨.idempotencyConflict, "same key, different request hash"⟩,
          ⟨rfl, rfl, rfl⟩, answers _ raised⟩
  | waits =>
      rw [given] at raised
      exact
        ⟨reserveDenial booked mandate price request (some taskId)
            ⟨.inProgress, "wait-or-conflict"⟩,
          ⟨rfl, rfl, rfl⟩, answers _ raised⟩
  | replays result =>
      rw [given] at raised
      refine ⟨replayOf result, rfl, answers _ (raised.trans ?_)⟩
      simp [onReserveRaised, verdict_replays given]

/-- A booking leaves the database as it is when it has nothing to book. -/
theorem Booked.unchanged_iff
    (books : Booked request draw mandate db taskId booked) :
    booked = db ↔ truthy request.nonce = none ∧ request.taskId ≠ none := by
  obtain ⟨nonces, tasks, nonceAdded, taskAdded, rfl⟩ := books.shape
  constructor
  · intro same
    have sameNonces : nonces = db.usedNonces := congrArg Db.usedNonces same
    have sameTasks : tasks = db.tasks := congrArg Db.tasks same
    constructor
    · cases given : truthy request.nonce with
      | none => rfl
      | some text =>
          have rows := (Table.insert?_eq_some (nonceAdded.given text given)).2
          rw [sameNonces] at rows
          simp at rows
    · intro absent
      have rows := (Table.insert?_eq_some (taskAdded.none absent).2).2
      rw [sameTasks] at rows
      simp at rows
  · rintro ⟨absent, present⟩
    obtain ⟨id, isId⟩ := Option.ne_none_iff_exists'.mp present
    rw [nonceAdded.none absent, (taskAdded.given id isId).2]

end Outcomes

/-! ## The two gates on one claim -/

/--
Both gates have answered, the answers agree, and the databases that they leave
are the same.
-/
def GatesAgree (early late : Except Raised Begun × Db) : Prop :=
  ∃ one two,
    early.1 = .ok (.answered one) ∧
      late.1 = .ok (.answered two) ∧
      AnswersAgree one two ∧
      early.2 = late.2

/--
Of two runs of one request, the first sees the claim in `_load_idem`, and the
second meets it in `reserve_and_commit`.
-/
structure MeetsClaim
    (env : Env)
    (early late : Views)
    (request : InvokeRequest)
    (draw : InvokeDraw)
    (db : Db)
    (record : IdempotencyRecord) :
    Prop where
  seen : Seen early db ∧ Seen late db
  sees :
    ∃ mandate,
      loadLiveMandate env early draw.now request.mandateId = .ok mandate ∧
        claimOf (early 4) mandate.principalId request.idempotencyKey =
          some record
  meets :
    ∃ mandate price taskId booked,
      Passed env late request draw mandate price ∧
        Booked request draw mandate db taskId booked ∧
        claimOf db mandate.principalId request.idempotencyKey =
          some record ∧
        claimOf (late 7) mandate.principalId request.idempotencyKey =
          some record

/-- The answers of both gates always agree; what they leave may differ. -/
theorem MeetsClaim.outcomes
    {env : Env}
    {early late : Views}
    {request : InvokeRequest}
    {draw : InvokeDraw}
    {db : Db}
    {record : IdempotencyRecord}
    (hashes : env.Hashes)
    (meets : MeetsClaim env early late request draw db record) :
    ∃ one two denials mandate taskId booked,
      exec (invokeBegin env early request draw) db =
          (.ok (.answered one),
            { db with ledgerEvents := db.ledgerEvents ++ denials }) ∧
        exec (invokeBegin env late request draw) db =
          (.ok (.answered two), booked) ∧
        AnswersAgree one two ∧
        (denials = [] ↔
          ¬ record.OfOther (requestFingerprint env request)) ∧
        Booked request draw mandate db taskId booked := by
  obtain ⟨loaded, live, claimed⟩ := meets.sees
  obtain ⟨mandate, price, taskId, booked, passed, books, inDb, inView⟩ :=
    meets.meets
  obtain ⟨row, stored, _⟩ := passed.stored meets.seen.2
  obtain ⟨one, denials, answersOne, logged, ranEarly⟩ :=
    early_outcome live claimed
  have bookedRow : booked.mandates.find mandate.id = some row := by
    rw [books.others.1]
    exact stored
  rw [← books.claimOf] at inDb
  obtain ⟨two, answersTwo, ranLate⟩ :=
    late_outcome hashes passed books bookedRow inDb inView
  exact
    ⟨one, two, denials, mandate, taskId, booked, ranEarly, ranLate,
      answersOne.agree answersTwo, logged, books⟩

/--
The two gates agree exactly on a request without a nonce and with a task, whose
key is not that of another request.
-/
theorem idempotency_gates_agree_iff
    {env : Env}
    {early late : Views}
    {request : InvokeRequest}
    {draw : InvokeDraw}
    {db : Db}
    {record : IdempotencyRecord}
    (hashes : env.Hashes)
    (meets : MeetsClaim env early late request draw db record) :
    GatesAgree
        (exec (invokeBegin env early request draw) db)
        (exec (invokeBegin env late request draw) db) ↔
      truthy request.nonce = none ∧
        request.taskId ≠ none ∧
        ¬ record.OfOther (requestFingerprint env request) := by
  obtain ⟨one, two, denials, mandate, taskId, booked, ranEarly, ranLate,
    agree, logged, books⟩ := meets.outcomes hashes
  rw [ranEarly, ranLate]
  constructor
  · rintro ⟨_, _, _, _, _, same⟩
    have sameEvents :
        db.ledgerEvents ++ denials = booked.ledgerEvents :=
      congrArg Db.ledgerEvents same
    rw [books.others.2.1, List.append_right_eq_self] at sameEvents
    rw [sameEvents, List.append_nil] at same
    exact ⟨(books.unchanged_iff.mp same.symm).1,
      (books.unchanged_iff.mp same.symm).2, logged.mp sameEvents⟩
  · rintro ⟨noNonce, task, sameRequest⟩
    refine ⟨one, two, rfl, rfl, agree, ?_⟩
    rw [books.unchanged_iff.mpr ⟨noNonce, task⟩, logged.mpr sameRequest]
    simp

/-! ## A claim committed between the two gates -/

/-- `MeetsClaim` as a check, once the views are those of a transaction. -/
def meetsClaim
    (env : Env)
    (early late : Views)
    (request : InvokeRequest)
    (draw : InvokeDraw)
    (db : Db)
    (record : IdempotencyRecord) :
    Bool :=
  (match loadLiveMandate env early draw.now request.mandateId with
    | .ok mandate =>
        claimOf (early 4) mandate.principalId request.idempotencyKey =
          some record
    | .error _ => false) &&
  (match gate env late request draw with
    | .passes mandate _ =>
        claimOf db mandate.principalId request.idempotencyKey =
            some record &&
          claimOf (late 7) mandate.principalId request.idempotencyKey =
            some record
    | _ => false) &&
  (exec (invokeBegin env late request draw) db).1.isOk

/-- The check is sound. -/
theorem meetsClaim_sound
    {env : Env}
    {early late : Views}
    {request : InvokeRequest}
    {draw : InvokeDraw}
    {db : Db}
    {record : IdempotencyRecord}
    (seen : Seen early db ∧ Seen late db)
    (checked : meetsClaim env early late request draw db record = true) :
    MeetsClaim env early late request draw db record := by
  simp only [meetsClaim, Bool.and_eq_true] at checked
  obtain ⟨⟨sees, meets⟩, returns⟩ := checked
  refine ⟨seen, ?_, ?_⟩
  · split at sees
    · next mandate live => exact ⟨mandate, live, of_decide_eq_true sees⟩
    · cases sees
  · split at meets
    · next mandate price gated =>
        simp only [Bool.and_eq_true, decide_eq_true_eq] at meets
        cases ran : exec (invokeBegin env late request draw) db with
        | mk outcome db' =>
            cases outcome with
            | error exception =>
                rw [ran] at returns
                cases returns
            | ok begun =>
                rw [invokeBegin_eq, gated] at ran
                obtain ⟨taskId, booked, books, _⟩ :=
                  bookAndReserve_iff.mp ran
                exact
                  ⟨mandate, price, taskId, booked, gate_passes_iff.mp gated,
                    books, meets⟩
    · cases meets

/-- Views from before the last commit, up to the first write. -/
def beforeClaim : List Nat :=
  [1, 1, 1, 1, 1, 1, 1]

/-- The call with a task of its own. -/
def taskedCall : InvokeRequest :=
  { call with taskId := some 1 }

/-- A call without a nonce and with a task is answered alike by both gates. -/
theorem idempotency_gates_agree_example :
    ∃ s,
      Reachable .plain (fun _ _ => True) s ∧
        GatesAgree
          (exec (invokeBegin .plain (s.views []) taskedCall (drawTen 2)) s.db)
          (exec
            (invokeBegin .plain (s.views beforeClaim) taskedCall (drawTen 2))
            s.db) := by
  have checked :
      (run .plain Sys.start (deploy ++ [.invoke [] call (drawTen 1)])).any
          (fun s =>
            (claimOf s.db 1 taskedCall.idempotencyKey).any fun record =>
              meetsClaim .plain (s.views []) (s.views beforeClaim) taskedCall
                  (drawTen 2) s.db record &&
                !record.OfOther (requestFingerprint .plain taskedCall)) =
        true := by
    decide
  obtain ⟨s, reachable, passes⟩ :=
    reachable_of_check (.of_forall (fun _ _ _ => trivial) _) checked
  simp only [Option.any_eq_true, Bool.and_eq_true, Bool.not_eq_true',
    decide_eq_false_iff_not] at passes
  obtain ⟨record, _, isMet, sameRequest⟩ := passes
  have kept := reachable_kept reachable
  have meets := meetsClaim_sound ⟨kept.seen [], kept.seen beforeClaim⟩ isMet
  exact
    ⟨s, reachable,
      (idempotency_gates_agree_iff Env.plain_hashes meets).mpr
        ⟨rfl, by simp [taskedCall], sameRequest⟩⟩

/-- The call with a nonce. -/
def noncedCall : InvokeRequest :=
  { call with nonce := some "n" }

/-- A call with a nonce, which the early gate spares and the late one takes. -/
theorem gates_disagree_on_nonce :
    ∃ s record,
      Reachable .plain (fun _ _ => True) s ∧
        MeetsClaim .plain (s.views []) (s.views beforeClaim) noncedCall
          (drawTen 2) s.db record ∧
        ¬ GatesAgree
          (exec (invokeBegin .plain (s.views []) noncedCall (drawTen 2)) s.db)
          (exec
            (invokeBegin .plain (s.views beforeClaim) noncedCall (drawTen 2))
            s.db) := by
  have checked :
      (run .plain Sys.start (deploy ++ [.invoke [] call (drawTen 1)])).any
          (fun s =>
            (claimOf s.db 1 noncedCall.idempotencyKey).any fun record =>
              meetsClaim .plain (s.views []) (s.views beforeClaim) noncedCall
                  (drawTen 2) s.db record &&
                (exec
                      (invokeBegin .plain (s.views []) noncedCall (drawTen 2))
                      s.db).2.usedNonces.find (1, "n") ≠
                  (exec
                      (invokeBegin .plain (s.views beforeClaim) noncedCall
                        (drawTen 2))
                      s.db).2.usedNonces.find (1, "n")) =
        true := by
    decide
  obtain ⟨s, reachable, passes⟩ :=
    reachable_of_check (.of_forall (fun _ _ _ => trivial) _) checked
  simp only [Option.any_eq_true, Bool.and_eq_true, decide_eq_true_eq]
    at passes
  obtain ⟨record, _, isMet, differ⟩ := passes
  have kept := reachable_kept reachable
  refine
    ⟨s, record, reachable,
      meetsClaim_sound ⟨kept.seen [], kept.seen beforeClaim⟩ isMet, ?_⟩
  rintro ⟨_, _, _, _, _, same⟩
  exact differ (by rw [same])

end Crossing
