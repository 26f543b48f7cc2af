import Crossing.OutboxBacklog

namespace Crossing

open Relational

namespace OutboxSys

/-!
# What a requeue delivers

Whatever a requeue does, the drain after it charges the customer that the
payload names.  A payload that names nobody, or somebody else, can be turned
down by Stripe, so that the law of the backlog holds exactly for the rows whose
payload names the customer of their account.
-/

variable {s s' : OutboxSys} {id : Id}

/-! ## A drain that is turned down -/

/-- Where a worker is, what it finds stored, and that nobody is in its way. -/
structure At
    (s : OutboxSys)
    (w : Nat)
    (process : Process)
    (id : Id)
    (row : Outbox) :
    Prop where
  isProcess : s.processes w = process
  found : s.row id = some row
  unheld : ∀ p, p ≠ w → id ∉ (s.processes p).openRows
  sound : s.Sound anyStatus

section Refusal

variable
  {w : Nat}
  {process process' : Process}
  {row : Outbox}

/-- The worker takes a step. -/
theorem At.step
    {action : OutboxAction}
    {row' : Outbox}
    (stands : s.At w process id row)
    (taken : s.step action = some s')
    (isProcess : s'.processes w = process')
    (found : s'.row id = some row')
    (others : ∀ p, p ≠ w → s'.processes p = s.processes p) :
    s'.At w process' id row' where
  isProcess := isProcess
  found := found
  unheld p other := by
    rw [others p other]
    exact stands.unheld p other
  sound := stands.sound.step (step_took taken) flushes_any

/-- The worker takes a step that writes nothing. -/
theorem At.quiet
    {action : OutboxAction}
    (stands : s.At w process id row)
    (taken : s.step action = some (s.become w process')) :
    (s.become w process').At w process' id row :=
  stands.step taken become_self stands.found fun _ other => become_other other

/-- The row is free for the worker until the worker itself has written it. -/
theorem At.isFree
    (stands : s.At w process id row)
    (unwritten : id ∉ process.openRows) :
    s.locks.written id = none := by
  apply stands.sound.locks.written_eq_none
  intro p
  by_cases isW : p = w
  · rw [isW, stands.isProcess]
    exact unwritten
  · exact stands.unheld p isW

/-- The worker commits the version of the row that it has written. -/
theorem At.committed
    (stands : s.At w process id row)
    (written : id ∈ process.openRows) :
    ∃ new, process.Writes anyStatus row new ∧
      (s.locks.publish s.db.billingOutbox w).find id = some new := by
  rcases stands.sound.locks.published stands.found with
    ⟨notOpen, _⟩ | ⟨_, new, because, isNew⟩
  · rw [stands.isProcess] at notOpen
    exact (notOpen written).elim
  · rw [stands.isProcess] at because
    exact ⟨new, because, isNew⟩

/-- Whoever holds the row, and the worker itself, may stop. -/
theorem exists_idle
    (sound : s.Sound anyStatus)
    (found : s.row id = some row)
    (w : Nat) :
    ∃ s', Later Unrestricted s s' ∧
      s'.At w .idle id row ∧
      s'.log = s.log := by
  have holder : ∃ q, ∀ p, p ≠ q → id ∉ (s.processes p).openRows := by
    by_cases isHeld : ∃ q, id ∈ (s.processes q).openRows
    · obtain ⟨q, held⟩ := isHeld
      refine ⟨q, fun p other held' => ?_⟩
      exact other (sound.locks.holder_unique held' held)
    · exact ⟨w, fun p _ held => isHeld ⟨p, held⟩⟩
  obtain ⟨q, others⟩ := holder
  refine
    ⟨(((s.rollback q).become q .idle).rollback w).become w .idle, ?_, ?_, rfl⟩
  · exact
      .tail (.single ⟨.stop q, trivial, rfl⟩) ⟨.stop w, trivial, rfl⟩
  · refine ⟨become_self, found, ?_, ?_⟩
    · intro p other
      rw [become_other other]
      change id ∉ (((s.rollback q).become q .idle).processes p).openRows
      by_cases isQ : p = q
      · rw [isQ, become_self]
        simp [Process.openRows]
      · rw [become_other isQ]
        exact others p isQ
    · have stopped : ((s.rollback q).become q .idle).Sound anyStatus :=
        sound.rollback trivial rfl
      exact stopped.rollback trivial rfl

/-- The dead row with an id, as a requeue of it reads it. -/
theorem deadRows_some
    (found : s.row id = some row)
    (dead : row.status = .dead) :
    s.deadRows (some id) = [row] := by
  have isId : row.id = id := Table.key_of_find found
  have member : row ∈ s.db.billingOutbox.rows := Table.mem_of_find found
  have alone :
      (s.db.billingOutbox.rows.filter fun other =>
        other.status = .dead && (some id).all (· = other.id)) = [row] := by
    have same :
        ∀ other ∈ s.db.billingOutbox.rows,
          (decide (other.status = .dead) &&
              (some id).all (· = other.id)) =
            decide (other = row) := by
      intro other isOther
      rw [Bool.eq_iff_iff]
      simp only [Option.all_some, Bool.and_eq_true, decide_eq_true_eq]
      constructor
      · rintro ⟨_, sameId⟩
        exact Table.eq_of_key_eq isOther member (sameId.symm.trans isId.symm)
      · rintro rfl
        exact ⟨dead, isId.symm⟩
    have nodup : s.db.billingOutbox.rows.Nodup :=
      .of_map _ s.db.billingOutbox.keysNodup
    rw [List.filter_congr same, List.filter_eq,
      List.count_eq_one_of_mem nodup member]
    rfl
  unfold deadRows
  rw [alone]
  rfl

/-- A process that is idle requeues a dead row. -/
theorem At.requeue
    (stands : s.At w .idle id row)
    (dead : row.status = .dead) :
    ∃ s' row',
      Later Unrestricted s s' ∧
        Requeued id s s' ∧
        s'.At w .idle id row' ∧
        row'.payloadJson = row.payloadJson ∧
        claimable 0 (staleAt 0 30) row' = true := by
  have isId : row.id = id := Table.key_of_find stands.found
  have isDead : row.Dead := ⟨dead, stands.sound.row_fit stands.found⟩
  have selects :
      s.step (.selectDead w 0 (some id)) =
        some (s.become w (.flushing 0 [row] [])) := by
    simp [OutboxSys.step, stands.isProcess, loaded,
      deadRows_some stands.found dead]
  have selected := stands.quiet selects
  have startLog : (s.become w (.flushing 0 [row] [])).log = s.log := rfl
  generalize s.become w (.flushing 0 [row] []) = loaded
    at selects selected startLog
  have isFree := selected.isFree (by simp [Process.openRows])
  have answered :
      loaded.locks.update loaded.db.billingOutbox w row.id (fun _ => true)
          (requeuedRow 0 row) =
        .wrote row (requeuedRow 0 row row) := by
    rw [isId]
    exact Locks.update_of_free isFree selected.found rfl
  have flushes :
      loaded.step (.flush w) =
        some
          ((loaded.wrote w (requeuedRow 0 row row)).become w
            (.flushing 0 [] [row])) := by
    simp [OutboxSys.step, selected.isProcess, answered]
  have flushed :=
    selected.step flushes become_self selected.found fun _ other =>
      become_other other
  have sameLog :
      ((loaded.wrote w (requeuedRow 0 row row)).become w
          (.flushing 0 [] [row])).log =
        s.log :=
    startLog
  generalize
    (loaded.wrote w (requeuedRow 0 row row)).become w
      (.flushing 0 [] [row]) = written at flushes flushed sameLog
  have commits :
      written.step (.commitRequeue w) =
        some ((written.commit w [.requeued row.id]).become w .idle) := by
    simp [OutboxSys.step, flushed.isProcess]
  obtain ⟨new, because, isNew⟩ :=
    flushed.committed (by simp [Process.openRows, isId])
  have committed :=
    flushed.step commits become_self isNew fun _ other =>
      become_other other
  obtain ⟨held, isHeld, _, rfl, _⟩ := because
  obtain rfl : row = held := (List.mem_singleton.mp isHeld).symm
  refine ⟨_, _, ?_, ?_, committed, rfl, ?_⟩
  · exact
      .tail (.tail (.single ⟨_, trivial, selects⟩) ⟨_, trivial, flushes⟩)
        ⟨_, trivial, commits⟩
  · refine ⟨[.requeued row.id], ?_, ?_⟩
    · change written.log ++ _ = s.log ++ _
      rw [sameLog]
    · rw [isId]
      simp
  · rw [requeuedRow_dead isDead]
    rfl

/-- A request that is not for the customer may be turned down. -/
theorem postStripe_refused (payload : OutboxPayload) :
    ∃ error, postStripe true payload (.rejected 400) = .failed error := by
  unfold postStripe
  cases truthy payload.customerId with
  | none => exact ⟨_, rfl⟩
  | some customer => exact ⟨_, rfl⟩

/-- A worker that is idle takes a claimable row as its only job. -/
theorem At.take
    (stands : s.At w .idle id row)
    (isClaimable : claimable 0 (staleAt 0 30) row = true)
    (customer : String) :
    ∃ begun selected claim s',
      s.step (.begin w 0 none 1) = some begun ∧
        begun.step (.select w [id]) = some selected ∧
        Later (Accepting w customer) selected s' ∧
        s'.At w (.posting (Job.ofRow claim (claimedRow 0 row)) []) id
          (claimedRow 0 row) := by
  have begins :
      s.step (.begin w 0 none 1) =
        some (s.become w (.selecting 0 30 1)) := by
    simp [OutboxSys.step, stands.isProcess, leaseSeconds, defaultLeaseSeconds]
  have begun := stands.quiet begins
  generalize s.become w (.selecting 0 30 1) = ready at begins begun
  have selects :
      ready.step (.select w [id]) =
        some (ready.become w (.claiming 0 30 [id] [])) := by
    have isSelected : ready.Selects 0 30 1 [id] := by
      refine ⟨by simp, ?_, ?_⟩
      · simp [begun.found, isClaimable]
      · have member :
            row ∈ ready.db.billingOutbox.rows.filter
              (claimable 0 (staleAt 0 30)) :=
          List.mem_filter.mpr ⟨Table.mem_of_find begun.found, isClaimable⟩
        have positive := List.length_pos_of_mem member
        simp only [List.length_singleton]
        omega
    simp [OutboxSys.step, begun.isProcess, isSelected]
  have selected := begun.quiet selects
  generalize ready.become w (.claiming 0 30 [id] []) = batch
    at selects selected
  have isFree := selected.isFree (by simp [Process.openRows])
  have answered :
      batch.locks.update batch.db.billingOutbox w id
          (claimable 0 (staleAt 0 30)) (claimedRow 0) =
        .wrote row (claimedRow 0 row) :=
    Locks.update_of_free isFree selected.found isClaimable
  have claims :
      batch.step (.claim w) =
        some
          ((batch.wrote w (claimedRow 0 row)).become w
            (.claiming 0 30 [] [id])) := by
    simp [OutboxSys.step, selected.isProcess, answered]
  have claimed :=
    selected.step claims become_self selected.found fun _ other =>
      become_other other
  generalize
    (batch.wrote w (claimedRow 0 row)).become w (.claiming 0 30 [] [id]) =
      mine at claims claimed
  obtain ⟨old, isOld, _, isRead⟩ :=
    claimed.sound.claimed_read claimed.isProcess (List.mem_singleton_self id)
  cases isOld.symm.trans claimed.found
  have commits :
      mine.step (.commitClaims w) =
        some
          { (mine.commit w [.claimed id mine.claims 0 30]).become w
              (.posting (Job.ofRow mine.claims (claimedRow 0 row)) []) with
            claims := mine.claims + 1 } := by
    simp [OutboxSys.step, claimed.isProcess, isRead, Process.next]
  obtain ⟨_, ⟨_, rfl⟩, isNew⟩ :=
    claimed.committed (by simp [Process.openRows])
  have posting :=
    claimed.step commits become_self isNew fun _ other => become_other other
  refine ⟨ready, batch, mine.claims, _, begins, selects, ?_, posting⟩
  exact
    .tail (.single ⟨.claim w, rfl, claims⟩) ⟨.commitClaims w, rfl, commits⟩

/-- The request of its only job may be turned down. -/
theorem At.refused
    {customer : String}
    {job : Job}
    (posting : s.At w (.posting job []) id row)
    (sending : row.status = .sending)
    (isId : job.id = id)
    (isCached : job.cached = some row)
    (other : job.payload.customerId ≠ some customer) :
    ∃ s' row',
      Later (Accepting w customer) s s' ∧
        s'.processes w = .idle ∧
        s'.row id = some row' ∧
        row'.status ≠ .sent := by
  obtain ⟨error, isError⟩ := postStripe_refused job.payload
  have posts :
      s.step (.post w true (.rejected 400)) =
        some
          ((s.record (.posted job.id job.claim (.failed error))).become w
            (.loading job (.failed error) [])) := by
    simp [OutboxSys.step, posting.isProcess, isError]
  have loading :=
    posting.step posts become_self posting.found fun _ other =>
      become_other other
  generalize
    (s.record (.posted job.id job.claim (.failed error))).become w
      (.loading job (.failed error) []) = refused at posts loading
  have loads :
      refused.step (.load w) =
        some
          (refused.become w
            (.recording row job (.failed error) [])) := by
    simp [OutboxSys.step, loading.isProcess, isCached, sending]
  have recording := loading.quiet loads
  generalize
    refused.become w (.recording row job (.failed error) []) =
      seen at loads recording
  have isFree := recording.isFree (by simp [Process.openRows])
  have answered :
      seen.locks.update seen.db.billingOutbox w job.id
          (fun row => row.status = .sending)
          (terminalValues 0 (row.attempts + 1)
            (.failed error)) =
        .wrote row
          (terminalValues 0 (row.attempts + 1)
            (.failed error) row) := by
    rw [isId]
    exact Locks.update_of_free isFree recording.found (by simp [sending])
  have records :
      seen.step (.record w 0) =
        some
          ((seen.wrote w
              (terminalValues 0 (row.attempts + 1)
                (.failed error) row)).become w
            (.recorded job (.failed error) 0
              (row.attempts + 1) [])) := by
    simp [OutboxSys.step, recording.isProcess, answered]
  have recorded :=
    recording.step records become_self recording.found fun _ other =>
      become_other other
  generalize
    (seen.wrote w
        (terminalValues 0 (row.attempts + 1) (.failed error) row)).become w
      (.recorded job (.failed error) 0 (row.attempts + 1) []) = written
      at records recorded
  have commits :
      written.step (.commitRecord w) =
        some
          ((written.commit w
              [.recorded job.id job.claim 0 (row.attempts + 1)
                (terminalStatus (row.attempts + 1) (.failed error))]).become
            w .idle) := by
    simp [OutboxSys.step, recorded.isProcess, Process.afterJob, Process.next]
  obtain ⟨_, ⟨_, rfl⟩, isNew⟩ :=
    recorded.committed (by simp [Process.openRows, isId])
  have ended :=
    recorded.step commits become_self isNew fun _ other =>
      become_other other
  refine ⟨_, _, ?_, ended.isProcess, ended.found, ?_⟩
  · have accepting :
        Accepting w customer s (.post w true (.rejected 400)) := by
      refine ⟨rfl, rfl, ?_⟩
      rw [posting.isProcess]
      intro charged
      exact (other charged).elim
    exact
      .tail
        (.tail
          (.tail (.single ⟨_, accepting, posts⟩) ⟨.load w, rfl, loads⟩)
          ⟨.record w 0, rfl, records⟩)
        ⟨.commitRecord w, rfl, commits⟩
  · rw [terminalValues_status]
    unfold terminalStatus
    dsimp only
    split <;> decide

end Refusal

/--
A requeue and the drain after it deliver the charge exactly when the payload of
the row names the customer.
-/
theorem requeue_delivers_iff
    {allowed : OutboxSys → OutboxAction → Prop}
    {row : Outbox}
    {customer : String}
    (reachable : Reachable allowed s)
    (attached : s.Attached row customer)
    (w : Nat) :
    (∀ s₁ s₂,
        Later Unrestricted s s₁ →
          Requeued row.id s s₁ →
            Drained w row.id customer s₁ s₂ →
              (s₂.row row.id).map Outbox.status = some .sent) ↔
      row.payloadJson.customerId = some customer := by
  have sound := sound_of_reachable reachable
  constructor
  · intro delivers
    by_contra other
    obtain ⟨s₀, stopped, idle, sameLog⟩ := exists_idle sound attached.found w
    obtain ⟨s₁, row₁, requeues, requeued, ready, samePayload, isClaimable⟩ :=
      idle.requeue attached.dead
    obtain ⟨begun, selected, claim, s', begins, selects, run, posting⟩ :=
      ready.take isClaimable customer
    obtain ⟨s₂, row₂, run', isIdle, found, notSent⟩ :=
      posting.refused rfl (Table.key_of_find ready.found) rfl
        (by
          change row₁.payloadJson.customerId ≠ some customer
          rw [samePayload]
          exact other)
    have drained : Drained w row.id customer s₁ s₂ :=
      { unheld := ready.unheld
        selected :=
          ⟨0, none, 1, [row.id], begun, selected, begins, selects, by simp,
            run.trans run'⟩
        ended := isIdle }
    have sinceStart : Requeued row.id s s₁ := by
      obtain ⟨recent, isLog, isRequeued⟩ := requeued
      exact ⟨recent, sameLog ▸ isLog, isRequeued⟩
    have sent := delivers s₁ s₂ (stopped.trans requeues) sinceStart drained
    rw [found, Option.map_some] at sent
    exact notSent (Option.some.inj sent)
  · intro names s₁ s₂ run _ drained
    obtain ⟨row₁, found, samePayload⟩ := sound.payload_kept attached.found run
    exact drained.sent (sound.later run) attached.nonempty found
      (samePayload ▸ names)

/-! ## Two runs -/

/-- Whether an action is allowed can be computed. -/
instance decidableAccepting
    (w : Nat)
    (customer : String)
    (s : OutboxSys) :
    ∀ action, Decidable (Accepting w customer s action)
  | .claim p => inferInstanceAs (Decidable (p = w))
  | .commitClaims p => inferInstanceAs (Decidable (p = w))
  | .post p configured response =>
      inferInstanceAs
        (Decidable
          (p = w ∧ configured = true ∧
            ((s.processes w).charged = some customer →
              response = .accepted)))
  | .load p => inferInstanceAs (Decidable (p = w))
  | .record p _ => inferInstanceAs (Decidable (p = w))
  | .commitRecord p => inferInstanceAs (Decidable (p = w))
  | .txn _ => .isFalse fun never => never
  | .begin .. => .isFalse fun never => never
  | .select .. => .isFalse fun never => never
  | .view .. => .isFalse fun never => never
  | .selectDead .. => .isFalse fun never => never
  | .flush _ => .isFalse fun never => never
  | .commitRequeue _ => .isFalse fun never => never
  | .stop _ => .isFalse fun never => never

/-- The statements of a drain of row 1 after its read. -/
def drainRest (response : StripeResponse) (now : Int) : List OutboxAction :=
  [.claim 0, .commitClaims 0, .post 0 true response, .load 0, .record 0 now,
    .commitRecord 0]

/-- Eight drains of row 1, an hour apart. -/
def eightDrains (response : StripeResponse) : List OutboxAction :=
  (List.range 8).flatMap fun n =>
    let now := n * 3600 * microsPerSecond
    .begin 0 now none 1 :: .select 0 [1] :: drainRest response now

/-- The customer is attached when the row has died. -/
def attachedLate : List OutboxAction :=
  [.txn (.createPrincipal none none 1 1), .txn (.enqueue .plain 1 5 1 1)] ++
    eightDrains .accepted ++
      [.txn (.attachStripeCustomer 1 "cus_1")]

/-- The customer is attached from the start, and Stripe is down. -/
def attachedEarly : List OutboxAction :=
  [.txn (.createPrincipal none none 1 1),
      .txn (.attachStripeCustomer 1 "cus_1"),
      .txn (.enqueue .plain 1 5 1 1)] ++
    eightDrains (.rejected 500)

/-- What makes a state one of a dead row with a customer. -/
theorem attached_of_run
    {actions : List OutboxAction}
    (ends :
      (start.play Unrestricted actions).map (fun s =>
          ((s.row 1).map fun row =>
              (row.id, row.status, row.payloadJson.principalId),
            (accountForPrincipal s.db 1).map Account.stripeCustomerId)) =
        some (some (1, .dead, 1), some (some "cus_1"))) :
    ∃ s row, start.play Unrestricted actions = some s ∧
      row.id = 1 ∧
      s.Attached row "cus_1" := by
  obtain ⟨s, played, facts⟩ := Option.map_eq_some_iff.mp ends
  obtain ⟨isRow, isAccount⟩ := Prod.mk.injEq .. ▸ facts
  obtain ⟨row, found, shape⟩ := Option.map_eq_some_iff.mp isRow
  obtain ⟨account, isPrincipals, attached⟩ :=
    Option.map_eq_some_iff.mp isAccount
  simp only [Prod.mk.injEq] at shape
  obtain ⟨isId, dead, ofPrincipal⟩ := shape
  refine ⟨s, row, played, isId, ?_⟩
  exact
    { found := isId ▸ found
      dead := dead
      attached := ⟨account, ofPrincipal ▸ isPrincipals, attached⟩
      nonempty := by decide }

/-- A row that was enqueued with its customer is delivered in the end. -/
theorem requeue_delivers_attachedEarly :
    ∃ s, start.play Unrestricted attachedEarly = some s ∧
      ∀ s₁ s₂,
        Later Unrestricted s s₁ →
          Requeued 1 s s₁ →
            Drained 0 1 "cus_1" s₁ s₂ →
              (s₂.row 1).map Outbox.status = some .sent := by
  have ends :
      (start.play Unrestricted attachedEarly).map (fun s =>
          ((s.row 1).map fun row =>
              (row.id, row.status, row.payloadJson.principalId),
            (accountForPrincipal s.db 1).map Account.stripeCustomerId)) =
        some (some (1, .dead, 1), some (some "cus_1")) := by
    decide +kernel
  obtain ⟨s, row, played, isId, attached⟩ := attached_of_run ends
  have named :
      (start.play Unrestricted attachedEarly).map (fun s =>
          (s.row 1).map fun row => row.payloadJson.customerId) =
        some (some (some "cus_1")) := by
    decide +kernel
  refine ⟨s, played, ?_⟩
  have found := attached.found
  rw [isId] at found
  rw [played, Option.map_some, found] at named
  have names : row.payloadJson.customerId = some "cus_1" := by
    simpa using named
  have delivers :=
    (requeue_delivers_iff (reachable_of_play played) attached 0).mpr names
  rw [isId] at delivers
  exact delivers

/-- A requeue of row 1, and the first two statements of a drain. -/
def requeueRow : List OutboxAction :=
  [.selectDead 1 (9 * 3600 * microsPerSecond) (some 1), .flush 1,
    .commitRequeue 1]

/--
With the key set and every request accepted, the row that was enqueued before
its customer fails again.
-/
theorem requeue_does_not_deliver :
    ∃ s row s₁ s₂,
      Reachable Unrestricted s ∧
        s.Attached row "cus_1" ∧
        Later Unrestricted s s₁ ∧
        Requeued row.id s s₁ ∧
        Drained 0 row.id "cus_1" s₁ s₂ ∧
        (s₂.row row.id).map Outbox.status = some .failed := by
  have ends :
      (start.play Unrestricted attachedLate).map (fun s =>
          ((s.row 1).map fun row =>
              (row.id, row.status, row.payloadJson.principalId),
            (accountForPrincipal s.db 1).map Account.stripeCustomerId)) =
        some (some (1, .dead, 1), some (some "cus_1")) := by
    decide +kernel
  obtain ⟨s, row, played, isId, attached⟩ := attached_of_run ends
  have goesOn :
      ((start.play Unrestricted attachedLate).bind fun s =>
        (s.play Unrestricted requeueRow).bind fun s₁ =>
          (s₁.step (.begin 0 (9 * 3600 * microsPerSecond) none 1)).bind
            fun begun =>
              (begun.step (.select 0 [1])).bind fun selected =>
                (selected.play (Accepting 0 "cus_1")
                    (drainRest .accepted (9 * 3600 * microsPerSecond))).map
                  fun s₂ =>
                    (decide (s₁.log = s.log ++ [.requeued 1]),
                      decide (s₁.locks.written 1 = none),
                      decide (s₂.processes 0 = .idle),
                      (s₂.row 1).map Outbox.status)) =
        some (true, true, true, some .failed) := by
    decide +kernel
  rw [played, Option.bind_some] at goesOn
  obtain ⟨s₁, requeues, goesOn⟩ := Option.bind_eq_some_iff.mp goesOn
  obtain ⟨begun, begins, goesOn⟩ := Option.bind_eq_some_iff.mp goesOn
  obtain ⟨selected, selects, goesOn⟩ := Option.bind_eq_some_iff.mp goesOn
  obtain ⟨s₂, drains, facts⟩ := Option.map_eq_some_iff.mp goesOn
  simp only [Prod.mk.injEq, decide_eq_true_eq] at facts
  obtain ⟨isLog, isFree, isIdle, failed⟩ := facts
  have reachable := reachable_of_play played
  have later := later_of_play requeues
  refine ⟨s, row, s₁, s₂, reachable, attached, later, ?_, ?_, ?_⟩
  · rw [isId]
    exact ⟨_, isLog, List.mem_singleton_self _⟩
  · have sound := (sound_of_reachable reachable).later later
    exact
      { unheld := by
          intro p _ held
          obtain ⟨version, written⟩ := (sound.locks.holds p row.id).mp held
          rw [isId, isFree] at written
          cases written
        selected :=
          ⟨_, _, _, [1], begun, selected, begins, selects, by simp [isId],
            later_of_play drains⟩
        ended := isIdle }
  · rw [isId]
    exact failed

end OutboxSys

end Crossing
