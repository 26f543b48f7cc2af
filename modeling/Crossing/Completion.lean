import Crossing.Idempotency
import Crossing.Pairing

namespace Crossing

open Relational

/-!
# Which completed operations replay

`finalize_success` completes a claim with the answer of its call, and
`reconcile_commit` over the API completes it without one.  Readers take a claim
without a result for one in progress, so a completed operation replays exactly
when its attempt was committed by its own call.
-/

/-- The claim of a completed attempt. -/
structure ClaimFor
    (claims : Table IdempotencyRecord)
    (row : Invocation)
    (at_ : Id × String)
    (claim : IdempotencyRecord) :
    Prop where
  found : claims.find at_ = some claim
  completed : claim.status = .completed
  sameHash :
    ∀ hash, truthy row.requestHash = some hash →
      claim.requestHash = some hash

/-- The claim of a committed attempt keeps its answer with its receipt. -/
structure Keeps
    (db : Db)
    (row : Invocation)
    (at_ : Id × String) :
    Prop where
  claim :
    ∃ claim stored receipt,
      ClaimFor db.idempotencyRecords row at_ claim ∧
        claim.resultJson = some stored ∧
        stored.ok = true ∧
        receipt ∈ db.receipts.rows ∧
        receipt.reservationId = row.reservationId ∧
        stored.receipt = some receipt.toDict

/-- The claim of an attempt that was reconciled over the API has no answer. -/
structure Forgets
    (db : Db)
    (row : Invocation)
    (at_ : Id × String) :
    Prop where
  claim :
    ∃ claim,
      ClaimFor db.idempotencyRecords row at_ claim ∧
        claim.resultJson = none

/-- What is known of the claim of one attempt. -/
structure AnswersFor (db : Db) (row : Invocation) : Prop where
  ofMandate :
    ∃ mandate,
      db.mandates.find row.mandateId = some mandate ∧
        mandate.principalId = row.principalId
  committed :
    row.status = .committed →
      ∀ at_, row.operation = some at_ → Keeps db row at_
  reconciled :
    row.status = .reconciledCommitted →
      ∀ at_, row.operation = some at_ → Forgets db row at_

/-- What the claims of completed attempts keep. -/
structure Db.Answers (env : Env) (db : Db) : Prop where
  shown :
    ∀ receipt ∈ db.receipts.rows,
      env.retainPayloads = false → receipt.bodyJson.result = none
  answers : ∀ row ∈ db.invocations.rows, AnswersFor db row

section Rows

variable {db db' : Db} {row : Invocation} {at_ : Id × String}

/-- A kept answer stays where completed claims and receipts stay. -/
theorem Keeps.later
    (keeps : Keeps db row at_)
    (claims :
      ∀ claim, db.idempotencyRecords.find at_ = some claim →
        claim.status = .completed →
          db'.idempotencyRecords.find at_ = some claim)
    (receipts :
      ∀ receipt ∈ db.receipts.rows, receipt ∈ db'.receipts.rows) :
    Keeps db' row at_ := by
  obtain ⟨claim, stored, receipt, claimFor, isStored, ok, isReceipt, rest⟩ :=
    keeps.claim
  exact ⟨claim, stored, receipt,
    { claimFor with found := claims claim claimFor.found claimFor.completed },
    isStored, ok, receipts receipt isReceipt, rest⟩

/-- A missing answer stays missing where completed claims stay. -/
theorem Forgets.later
    (forgets : Forgets db row at_)
    (claims :
      ∀ claim, db.idempotencyRecords.find at_ = some claim →
        claim.status = .completed →
          db'.idempotencyRecords.find at_ = some claim) :
    Forgets db' row at_ := by
  obtain ⟨claim, claimFor, unstored⟩ := forgets.claim
  exact ⟨claim,
    { claimFor with found := claims claim claimFor.found claimFor.completed },
    unstored⟩

/-- An attempt that is not completed needs its mandate only. -/
theorem AnswersFor.of_open
    (notCommitted : row.status ≠ .committed)
    (notReconciled : row.status ≠ .reconciledCommitted)
    (ofMandate :
      ∃ mandate,
        db.mandates.find row.mandateId = some mandate ∧
          mandate.principalId = row.principalId) :
    AnswersFor db row where
  ofMandate := ofMandate
  committed := fun status => (notCommitted status).elim
  reconciled := fun status => (notReconciled status).elim

/-- An attempt stays with its mandate. -/
theorem AnswersFor.ofMandate_later
    (answers : AnswersFor db row)
    (evolves : Evolves db db') :
    ∃ mandate,
      db'.mandates.find row.mandateId = some mandate ∧
        mandate.principalId = row.principalId := by
  obtain ⟨mandate, found, ofPrincipal⟩ := answers.ofMandate
  obtain ⟨mandate', found', sameTerms⟩ := evolves.mandates _ _ found
  refine ⟨mandate', found', ?_⟩
  rw [sameTerms.1]
  exact ofPrincipal

/-- What is known of a claim stays known. -/
theorem AnswersFor.later
    (answers : AnswersFor db row)
    (evolves : Evolves db db')
    (claims :
      ∀ at_ claim, db.idempotencyRecords.find at_ = some claim →
        claim.status = .completed →
          db'.idempotencyRecords.find at_ = some claim)
    (receipts :
      ∀ receipt ∈ db.receipts.rows, receipt ∈ db'.receipts.rows) :
    AnswersFor db' row where
  ofMandate := answers.ofMandate_later evolves
  committed := fun status at_ operation =>
    (answers.committed status at_ operation).later (claims at_) receipts
  reconciled := fun status at_ operation =>
    (answers.reconciled status at_ operation).later (claims at_)

/-- The claim that a completion leaves. -/
theorem completion_claimFor
    {claims claims' : Table IdempotencyRecord}
    {invocation : Invocation}
    {payload : Option InvokeResult}
    (toStatus : InvocationStatus)
    (completes :
      ClaimsChange invocation.operation (completion invocation payload)
        claims claims')
    (operation : invocation.operation = some at_) :
    ∃ claim,
      ClaimFor claims' { invocation with status := toStatus } at_ claim ∧
        claim.resultJson = payload := by
  refine ⟨_, ⟨completes.find_self operation, ?_, ?_⟩, ?_⟩
  · unfold completedClaim
    split <;> rfl
  · intro hash isHash
    have given : truthy invocation.requestHash = some hash := isHash
    unfold completedClaim
    split
    · exact (Option.filter_eq_some_iff.mp given).1
    · rw [given]
      rfl
  · unfold completedClaim
    split <;> rfl

end Rows

/-- Receipts that are issued show their result when payloads are retained. -/
theorem ReceiptStep.shown
    {env : Env}
    {callbacks : FinalizeCallbacks}
    {stored receipts : Table Receipt}
    {reservationId : Id}
    {receipt : Option Receipt}
    (step :
      ReceiptStep env callbacks stored reservationId receipts receipt)
    (shown :
      ∀ row ∈ stored.rows,
        env.retainPayloads = false → row.bodyJson.result = none) :
    ∀ row ∈ receipts.rows,
      env.retainPayloads = false → row.bodyJson.result = none := by
  cases step with
  | skipped => exact shown
  | known => exact shown
  | issued _ _ inserted =>
      intro row member hides
      rcases (Table.mem_insert inserted).mp member with inOld | rfl
      · exact shown row inOld hides
      · simp [issuedReceipt, receiptBody, hides]

/-- Receipts stay. -/
theorem ReceiptStep.keeps
    {env : Env}
    {callbacks : FinalizeCallbacks}
    {stored receipts : Table Receipt}
    {reservationId : Id}
    {receipt : Option Receipt}
    (step :
      ReceiptStep env callbacks stored reservationId receipts receipt) :
    ∀ row ∈ stored.rows, row ∈ receipts.rows := by
  cases step with
  | skipped => exact fun _ member => member
  | known => exact fun _ member => member
  | issued _ _ inserted =>
      exact fun row member => (Table.mem_insert inserted).mpr (.inl member)

/-- The receipt of a settlement is stored and made out to its reservation. -/
theorem ReceiptStep.ofAttempt
    {env : Env}
    {callbacks : FinalizeCallbacks}
    {stored receipts : Table Receipt}
    {invocation : Invocation}
    {reservationId : Id}
    {receipt : Option Receipt}
    (step :
      ReceiptStep env callbacks stored reservationId receipts receipt)
    (link : invocation.reservationId = some reservationId)
    (bills : Bills callbacks invocation) :
    ∃ row,
      receipt = some row ∧
        row ∈ receipts.rows ∧
        row.reservationId = invocation.reservationId := by
  obtain ⟨args, isReceiptFn, ofReservation, _⟩ := bills.receipt
  cases step with
  | skipped noReceipt =>
      rw [isReceiptFn] at noReceipt
      cases noReceipt
  | known member ofThis => exact ⟨_, rfl, member, ofThis.trans link.symm⟩
  | issued given _ inserted =>
      cases isReceiptFn.symm.trans given
      exact ⟨_, rfl, (Table.mem_insert inserted).mpr (.inr rfl),
        ofReservation⟩

/-- The receipt of a stored answer is shown as it is. -/
theorem resultPayload_shown
    {env : Env}
    {receipt : Receipt}
    (built : InvokeResult)
    (shown : env.retainPayloads = false → receipt.bodyJson.result = none) :
    (resultPayload env built (some receipt)).receipt =
      some receipt.toDict := by
  unfold resultPayload
  by_cases retains : env.retainPayloads = true
  · simp [retains]
  · have hides : env.retainPayloads = false := by simpa using retains
    have isNone := shown hides
    simp only [hides, Bool.false_eq_true, ↓reduceIte, Option.map_some,
      Option.some.injEq, Receipt.toDict]
    rw [← isNone]

/-- A settlement leaves the claim of its attempt as its status says. -/
theorem AnswersFor.settled
    {env : Env}
    {discipline : Discipline}
    {origin : Origin}
    {callbacks : FinalizeCallbacks}
    {payload : Option Receipt → Option InvokeResult}
    {db db' : Db}
    {reservation : Reservation}
    {invocation : Invocation}
    {toStatus : InvocationStatus}
    {receipt : Option Receipt}
    {outbox : Table Outbox}
    {accounts : Table Account}
    {evidence : List ReconciliationEvent}
    (settling :
      Settled env callbacks payload db reservation invocation receipt
        db'.receipts outbox accounts db'.idempotencyRecords)
    (via :
      SuccessVia env discipline origin callbacks invocation toStatus payload
        evidence)
    (viaApi : discipline.viaApi)
    (link : invocation.reservationId = some reservation.id)
    (bills : Bills callbacks invocation)
    (shown :
      ∀ row ∈ db'.receipts.rows,
        env.retainPayloads = false → row.bodyJson.result = none)
    (ofMandate :
      ∃ mandate,
        db'.mandates.find invocation.mandateId = some mandate ∧
          mandate.principalId = invocation.principalId) :
    AnswersFor db' { invocation with status := toStatus } := by
  cases via with
  | finalized _ stores =>
      obtain ⟨built, isResultFn, ok⟩ := stores viaApi
      obtain ⟨row, rfl, isReceipt, ofThis⟩ :=
        settling.receiptStep.ofAttempt link bills
      refine
        { ofMandate := ofMandate
          committed := ?_
          reconciled := ?_ }
      · intro _ at_ operation
        obtain ⟨claim, claimFor, isPayload⟩ :=
          completion_claimFor .committed settling.completed operation
        have isStored :
            callbacks.payload env (some row) =
              some (resultPayload env built (some row)) := by
          rw [FinalizeCallbacks.payload, isResultFn]
        exact ⟨claim, _, row, claimFor, isPayload.trans isStored, ok,
          isReceipt, ofThis, resultPayload_shown built (shown row isReceipt)⟩
      · intro impossible
        cases impossible
  | reconciled _ _ _ _ stores =>
      refine
        { ofMandate := ofMandate
          committed := ?_
          reconciled := ?_ }
      · intro impossible
        cases impossible
      · intro _ at_ operation
        obtain ⟨claim, claimFor, isPayload⟩ :=
          completion_claimFor .reconciledCommitted settling.completed
            operation
        exact ⟨claim, claimFor, isPayload.trans (stores viaApi)⟩

/-- Every effect of a run over the API keeps the law. -/
theorem Db.Answers.step
    {env : Env}
    {discipline : Discipline}
    {origin : Origin}
    {db db' : Db}
    {entries : List Entry}
    (law : db.Answers env)
    (pairs : db.Paired)
    (attempts : db.attempts.Law)
    (paired : discipline.paired)
    (metered : discipline.metered)
    (rule : discipline.defaultRelease)
    (viaApi : discipline.viaApi)
    (effect : Effect env discipline origin db entries db') :
    db'.Answers env := by
  have evolves := effect.evolves
  have claims :
      ∀ at_ claim, db.idempotencyRecords.find at_ = some claim →
        claim.status = .completed →
          db'.idempotencyRecords.find at_ = some claim :=
    fun at_ claim =>
      attempts.completed_stays (effect.attempts rule attempts.noneOk)
  have still
      (receipts :
        ∀ receipt ∈ db.receipts.rows, receipt ∈ db'.receipts.rows)
      {row : Invocation}
      (member : row ∈ db.invocations.rows) :
      AnswersFor db' row :=
    (law.answers row member).later evolves claims receipts
  cases effect with
  | opened opening =>
      refine { shown := law.shown, answers := ?_ }
      intro row member
      rcases (Table.mem_insert opening.inserted).mp member with inOld | rfl
      · exact still (fun _ isReceipt => isReceipt) inOld
      · have notCommitted : row.status ≠ .committed := by
          rw [opening.reserved]
          decide
        have notReconciled : row.status ≠ .reconciledCommitted := by
          rw [opening.reserved]
          decide
        obtain ⟨mandate, found, sameTerms⟩ :=
          evolves.mandates _ _ opening.debit.found
        apply AnswersFor.of_open notCommitted notReconciled
        rw [opening.ofMandate, opening.ofPrincipal]
        exact ⟨mandate, found, by rw [sameTerms.1]⟩
  | moved found move =>
      refine { shown := law.shown, answers := ?_ }
      intro row member
      rcases mem_moved member with rfl | ⟨inOld, _⟩
      · have isOld := law.answers _ (Table.mem_of_find found)
        exact .of_open move.notCommitted move.notEnd.2.2.1
          (isOld.ofMandate_later evolves)
      · exact still (fun _ isReceipt => isReceipt) inOld
  | settled settling via pairing metering =>
      have shown := settling.receiptStep.shown law.shown
      refine { shown := shown, answers := ?_ }
      intro row member
      rcases mem_moved member with rfl | ⟨inOld, _⟩
      · have isOld :=
          law.answers _ (Table.mem_of_find settling.invocationFound)
        exact .settled settling via viaApi (pairing paired).1
          (metering metered) shown (isOld.ofMandate_later evolves)
      · exact still settling.receiptStep.keeps inOld
  | resettled resettling via pairing =>
      exact (pairs.not_resettled resettling via (pairing paired)).elim
  | released releasing via =>
      refine { shown := law.shown, answers := ?_ }
      intro row member
      rcases mem_moved member with rfl | ⟨inOld, _⟩
      · have isOld :=
          law.answers _ (Table.mem_of_find releasing.invocationFound)
        have ofMandate := isOld.ofMandate_later evolves
        cases via with
        | finalized => exact .of_open (by simp) (by simp) ofMandate
        | reconciled => exact .of_open (by simp) (by simp) ofMandate
      · exact still (fun _ isReceipt => isReceipt) inOld
  | _ =>
      exact
        { shown := law.shown
          answers := fun _ member =>
            still (fun _ isReceipt => isReceipt) member }

/-- The empty tables keep no answers. -/
theorem Db.Answers.empty (env : Env) : Db.empty.Answers env where
  shown := by
    intro receipt member
    cases member
  answers := by
    intro row member
    cases member

/-- In every reachable state of a run over the API the law holds. -/
theorem reachable_answers
    {env : Env}
    {allowed : Sys → Action → Prop}
    {s : Sys}
    (discipline : Discipline)
    (paired : discipline.paired)
    (metered : discipline.metered)
    (rule : discipline.defaultRelease)
    (viaApi : discipline.viaApi)
    (keeps : ∀ s action, allowed s action → discipline.Allows action)
    (reachable : Reachable env allowed s) :
    s.db.Answers env := by
  apply reachable_db_invariant discipline (Db.Answers env) keeps (.empty env)
    _ reachable
  intro s origin entries db' isReachable effect law
  have pairs := reachable_paired discipline paired keeps isReachable
  have attempts := reachable_attempts discipline rule keeps isReachable
  exact law.step pairs attempts paired metered rule viaApi effect

/-! ## The exact condition of a replay -/

/-- The rules of runs whose attempts end in `invoke` and over the API. -/
def Discipline.api : Discipline :=
  { Discipline.free with
    paired := True
    metered := True
    defaultRelease := True
    viaApi := True }

/-- A repeated request is answered with the receipt of the attempt. -/
def ReplaysReceipt
    (env : Env)
    (s s' : Sys)
    (ages : List Nat)
    (again : InvokeRequest)
    (draw : InvokeDraw)
    (row : Invocation) :
    Prop :=
  ∃ replay,
    step env s' (.invoke ages again draw) =
        some (s'.commit s'.db [.answered again replay]) ∧
      replay.ok = true ∧
      replay.replayed = true ∧
      ∃ receipt ∈ s.db.receipts.rows,
        receipt.reservationId = row.reservationId ∧
          replay.receipt = some receipt.toDict

/-- A repeated request is told to wait, and nothing is written. -/
def ToldToWait
    (env : Env)
    (s' : Sys)
    (ages : List Nat)
    (again : InvokeRequest)
    (draw : InvokeDraw) :
    Prop :=
  ∃ answer,
    step env s' (.invoke ages again draw) =
        some (s'.commit s'.db [.answered again answer]) ∧
      answer.ok = false ∧
      answer.reason = some .inProgress

/-- A request that is told to wait is not replayed. -/
theorem ToldToWait.not_replays
    {env : Env}
    {s s' : Sys}
    {ages : List Nat}
    {again : InvokeRequest}
    {draw : InvokeDraw}
    {row : Invocation}
    (waits : ToldToWait env s' ages again draw) :
    ¬ ReplaysReceipt env s s' ages again draw row := by
  obtain ⟨answer, taken, failed, _⟩ := waits
  rintro ⟨replay, taken', ok, _⟩
  have sameState := Option.some.inj (taken.symm.trans taken')
  have sameLog := congrArg Sys.log sameState
  simp only [Sys.commit, List.append_cancel_left_eq, List.cons.injEq,
    Entry.answered.injEq, true_and, and_true] at sameLog
  rw [sameLog, ok] at failed
  cases failed

/-- A claim as a later repetition of the request reads it. -/
structure Reads
    (env : Env)
    (view : Db)
    (again : InvokeRequest)
    (loaded : Mandate)
    (claim : IdempotencyRecord) :
    Prop where
  found :
    ∃ key,
      truthy again.idempotencyKey = some key ∧
        view.idempotencyRecords.find (loaded.principalId, key) = some claim
  sameHash :
    ∀ hash ∈ truthy claim.requestHash, hash = requestFingerprint env again

section Repetition

variable
  {env : Env}
  {allowed : Sys → Action → Prop}
  {s s' : Sys}
  {row : Invocation}
  {at_ : Id × String}
  {ages : List Nat}
  {again : InvokeRequest}
  {draw : InvokeDraw}
  {loaded : Mandate}

/-- The mandate that a repetition loads has the principal of the attempt. -/
theorem LoadsLater.samePrincipal
    (loads : LoadsLater env s s' ages again draw loaded)
    (reachable : Reachable env allowed s)
    (later : Later env allowed s s')
    (answers : AnswersFor s.db row)
    (requested : Requested env row again) :
    row.principalId = loaded.principalId := by
  have kept := reachable_kept (reachable.later later)
  obtain ⟨mandate, found, ofLoaded⟩ := loads.ofPrincipal kept
  obtain ⟨mandate', found', ofRow⟩ :=
    answers.ofMandate_later (later_evolves reachable later)
  rw [requested.mandate] at found'
  cases found.symm.trans found'
  exact ofRow.symm.trans ofLoaded

/-- A repetition of the request of an attempt reads the claim of the attempt. -/
theorem ClaimFor.reads
    (discipline : Discipline)
    {claim : IdempotencyRecord}
    (claimFor : ClaimFor s.db.idempotencyRecords row at_ claim)
    (rule : discipline.defaultRelease)
    (keeps : ∀ s action, allowed s action → discipline.Allows action)
    (reachable : Reachable env allowed s)
    (later : Later env allowed s s')
    (hashes : env.Hashes)
    (operation : row.operation = some at_)
    (answers : AnswersFor s.db row)
    (loads : LoadsLater env s s' ages again draw loaded)
    (requested : Requested env row again)
    (statement : Nat) :
    Reads env (s'.views ages statement) again loaded claim := by
  have samePrincipal :=
    loads.samePrincipal reachable later answers requested
  have isHash :
      truthy row.requestHash = some (requestFingerprint env again) := by
    rw [requested.hash, hashes.truthy]
  refine { found := ?_, sameHash := ?_ }
  · obtain ⟨key, isKey, rfl⟩ := Option.map_eq_some_iff.mp operation
    obtain ⟨between, isBetween, isView⟩ :=
      view_since reachable later loads.since statement
    refine ⟨key, requested.key ▸ isKey, ?_⟩
    rw [isView, ← samePrincipal]
    exact later_claim rule keeps reachable isBetween claimFor.found
      claimFor.completed
  · intro hash isClaimHash
    rw [claimFor.sameHash _ isHash, hashes.truthy] at isClaimHash
    exact (Option.some.inj isClaimHash).symm

/-- A kept answer is replayed. -/
theorem Reads.replays
    {claim : IdempotencyRecord}
    {stored : InvokeResult}
    {receipt : Receipt}
    (reads : Reads env (s'.views ages 4) again loaded claim)
    (loads : LoadsLater env s s' ages again draw loaded)
    (completed : claim.status = .completed)
    (isStored : claim.resultJson = some stored)
    (ok : stored.ok = true)
    (isReceipt : receipt ∈ s.db.receipts.rows)
    (ofThis : receipt.reservationId = row.reservationId)
    (shown : stored.receipt = some receipt.toDict) :
    ReplaysReceipt env s s' ages again draw row := by
  obtain ⟨key, keyed, found⟩ := reads.found
  have cached :=
    loadIdem_cached keyed found reads.sameHash completed isStored
  exact ⟨replayOf stored,
    step_answered loads.monotone (invokeBegin_cached loads.live cached), ok,
    rfl, receipt, isReceipt, ofThis, shown⟩

/-- A claim without an answer is waited for. -/
theorem Reads.waits
    {claim : IdempotencyRecord}
    (reads : Reads env (s'.views ages 4) again loaded claim)
    (loads : LoadsLater env s s' ages again draw loaded)
    (unstored : claim.resultJson = none) :
    ToldToWait env s' ages again draw := by
  obtain ⟨key, keyed, found⟩ := reads.found
  have waiting := loadIdem_unstored keyed found reads.sameHash unstored
  exact ⟨_, step_answered loads.monotone (invokeBegin_waits loads.live waiting),
    rfl, rfl⟩

end Repetition

/--
In a later state a request that repeats a completed operation is replayed with
its receipt exactly when the attempt was committed by its own call; otherwise it
is told to wait.
-/
theorem completed_replays_iff_committed
    {env : Env}
    {s s' : Sys}
    {at_ : Id × String}
    {claim : IdempotencyRecord}
    (hashes : env.Hashes)
    (reachable :
      Reachable env (fun _ action => Discipline.api.Allows action) s)
    (later :
      Later env (fun _ action => Discipline.api.Allows action) s s')
    (found : s.db.idempotencyRecords.find at_ = some claim)
    (completed : claim.status = .completed) :
    ∃ row ∈ s.db.invocations.rows,
      row.operation = some at_ ∧
        row.status ∈
          [InvocationStatus.committed, .reconciledCommitted] ∧
        ∀ ages again draw loaded,
          LoadsLater env s s' ages again draw loaded →
            Requested env row again →
              (ReplaysReceipt env s s' ages again draw row ↔
                  row.status = .committed) ∧
                (ToldToWait env s' ages again draw ↔
                  row.status = .reconciledCommitted) := by
  have keeps :
      ∀ (s : Sys) action,
        Discipline.api.Allows action → Discipline.api.Allows action :=
    fun _ _ kept => kept
  have law := reachable_attempts .api trivial keeps reachable
  have answers :=
    (reachable_answers .api trivial trivial trivial trivial keeps
      reachable).answers
  obtain ⟨row, member, operation, live, status⟩ := law.owned at_ claim found
  rw [completed] at status
  have isEnd :=
    (InvocationStatus.claimStatus_iff live (law.noneOk row member)).2.mp
      status.symm
  refine ⟨row, member, operation, isEnd, ?_⟩
  intro ages again draw loaded loads requested
  have answersFor := answers row member
  simp only [List.mem_cons, List.not_mem_nil, or_false] at isEnd
  rcases isEnd with committed | reconciled
  · obtain ⟨kept, stored, receipt, claimFor, isStored, ok, isReceipt, ofThis,
      shown⟩ := (answersFor.committed committed at_ operation).claim
    have reads :=
      claimFor.reads .api trivial keeps reachable later hashes operation
        answersFor loads requested 4
    have replays : ReplaysReceipt env s s' ages again draw row :=
      reads.replays loads claimFor.completed isStored ok isReceipt ofThis
        shown
    refine ⟨⟨fun _ => committed, fun _ => replays⟩, ?_, ?_⟩
    · intro waits
      exact (waits.not_replays replays).elim
    · intro reconciled
      rw [committed] at reconciled
      cases reconciled
  · obtain ⟨claim, claimFor, unstored⟩ :=
      (answersFor.reconciled reconciled at_ operation).claim
    have reads :=
      claimFor.reads .api trivial keeps reachable later hashes operation
        answersFor loads requested 4
    have waits := reads.waits loads unstored
    refine ⟨⟨?_, ?_⟩, fun _ => reconciled, fun _ => waits⟩
    · intro replays
      exact (waits.not_replays replays).elim
    · intro committed
      rw [reconciled] at committed
      cases committed

/-- A state in which the call of the small deployment has been completed. -/
def completedCall (status : InvocationStatus) (s : Sys) : Bool :=
  (loadLiveMandate .plain (s.views []) noon 1).toOption.any fun loaded =>
    (s.db.idempotencyRecords.find (loaded.principalId, "key")).any fun claim =>
      claim.status = .completed &&
        s.db.invocations.rows.all fun row =>
          decide (Requested .plain row call) && row.status = status

/-- What the check of a completed call says. -/
theorem completedCall_iff
    {status : InvocationStatus}
    {s : Sys}
    (passes : completedCall status s = true) :
    ∃ loaded claim,
      LoadsLater .plain s s [] call (drawTen 2) loaded ∧
        s.db.idempotencyRecords.find (loaded.principalId, "key") =
          some claim ∧
        claim.status = .completed ∧
        ∀ row ∈ s.db.invocations.rows,
          Requested .plain row call ∧ row.status = status := by
  obtain ⟨loaded, isLoaded, passes⟩ := (Option.any_eq_true _ _).mp passes
  obtain ⟨claim, found, passes⟩ := (Option.any_eq_true _ _).mp passes
  obtain ⟨completed, rows⟩ := Bool.and_eq_true_iff.mp passes
  refine ⟨loaded, claim, ?_, found, of_decide_eq_true completed, ?_⟩
  · refine { monotone := .nil, since := by simp [Since], live := ?_ }
    cases live : loadLiveMandate .plain (s.views []) noon 1 with
    | error outcome =>
        rw [live] at isLoaded
        cases isLoaded
    | ok mandate =>
        rw [live] at isLoaded
        cases isLoaded
        exact live
  · intro row member
    obtain ⟨requested, isStatus⟩ :=
      Bool.and_eq_true_iff.mp (List.all_eq_true.mp rows row member)
    exact ⟨of_decide_eq_true requested, of_decide_eq_true isStatus⟩

/-- A settled call replays with its receipt. -/
theorem completed_replays_iff_committed_example :
    ∃ s row,
      Reachable .plain (fun _ action => Discipline.api.Allows action) s ∧
        row ∈ s.db.invocations.rows ∧
        ReplaysReceipt .plain s s [] call (drawTen 2) row := by
  have checked :
      (run .plain Sys.start (deploy ++ settle)).any
          (completedCall .committed) =
        true := by
    decide
  obtain ⟨s, reachable, passes⟩ :=
    reachable_of_check (.routine (by decide) .api _) checked
  obtain ⟨loaded, claim, loads, found, completed, rows⟩ :=
    completedCall_iff passes
  obtain ⟨row, member, _, _, exactly⟩ :=
    completed_replays_iff_committed Env.plain_hashes reachable .refl found
      completed
  obtain ⟨requested, committed⟩ := rows row member
  have iff_ := (exactly [] call (drawTen 2) loaded loads requested).1
  exact ⟨s, row, reachable, member, iff_.mpr committed⟩

/-- The call whose provider fails, and that is committed on evidence. -/
def confirmed : List Action :=
  [.invoke [] call (drawTen 1), .mark 1, .dispatch 1,
    .providerRaises 1 "down", .fail 1,
    .txn []
      (.postReconcile "operator" (fun _ => true) 1
        { outcome := "committed"
          evidenceRef := "ticket"
          evidenceKind := "did_execute" }
        (drawFinish 1))]

/-- A call that was committed over the API is told to wait for ever. -/
theorem reconciled_call_waits :
    ∃ s row loaded claim,
      Reachable .plain (fun _ action => Discipline.api.Allows action) s ∧
        s.db.idempotencyRecords.find (loaded.principalId, "key") =
          some claim ∧
        claim.status = .completed ∧
        row ∈ s.db.invocations.rows ∧
        row.status = .reconciledCommitted ∧
        Requested .plain row call ∧
        LoadsLater .plain s s [] call (drawTen 2) loaded ∧
        ToldToWait .plain s [] call (drawTen 2) ∧
        ¬ ReplaysReceipt .plain s s [] call (drawTen 2) row := by
  have checked :
      (run .plain Sys.start (deploy ++ confirmed)).any
          (fun s =>
            completedCall .reconciledCommitted s &&
              s.db.invocations.rows ≠ [] &&
              s.db.idempotencyRecords.rows.all fun claim =>
                claim.resultJson = none &&
                  claim.requestHash =
                    some (requestFingerprint .plain call)) =
        true := by
    decide
  obtain ⟨s, reachable, passes⟩ :=
    reachable_of_check (.routine (by decide) .api _) checked
  obtain ⟨passes, claims⟩ := Bool.and_eq_true_iff.mp passes
  obtain ⟨passes, nonempty⟩ := Bool.and_eq_true_iff.mp passes
  obtain ⟨loaded, claim, loads, found, completed, rows⟩ :=
    completedCall_iff passes
  obtain ⟨row, member⟩ :=
    List.exists_mem_of_ne_nil _ (of_decide_eq_true nonempty)
  obtain ⟨requested, reconciled⟩ := rows row member
  obtain ⟨unstored, hashed⟩ :=
    Bool.and_eq_true_iff.mp
      (List.all_eq_true.mp claims claim (Table.mem_of_find found))
  have reads : Reads .plain (s.views [] 4) call loaded claim := by
    refine { found := ⟨"key", rfl, found⟩, sameHash := ?_ }
    intro hash isHash
    rw [of_decide_eq_true hashed, Env.plain_hashes.truthy] at isHash
    exact (Option.some.inj isHash).symm
  have waits := reads.waits loads (of_decide_eq_true unstored)
  exact ⟨s, row, loaded, claim, reachable, found, completed, member,
    reconciled, requested, loads, waits, waits.not_replays⟩

end Crossing
