import Crossing.OutboxClaims

namespace Crossing

open Relational

/-!
# The backlog of the outbox

A row that is not delivered stays within reach of a later drain.  A dead row
comes back through a requeue, and the drain after it posts the payload as
`enqueue` has frozen it, not the account as it is by then.
-/

/-! ## No row is lost -/

/-- A row that waits becomes claimable and stays so. -/
theorem Outbox.Fit.eventually_claimable
    {row : Outbox}
    (fit : row.Fit)
    (waits : row.status ∈ [OutboxStatus.pending, .failed, .sending])
    (lease : Int) :
    ∃ instant, ∀ now, instant ≤ now →
      claimable now (staleAt now lease) row = true := by
  have below := fit.retried waits
  by_cases sending : row.status = .sending
  · refine ⟨row.claimedAt.getD 0 + lease * microsPerSecond, ?_⟩
    intro now later
    unfold claimable staleAt
    cases isClaimed : row.claimedAt with
    | none => simp [sending]
    | some instant =>
        rw [isClaimed, Option.getD_some] at later
        simp only [sending, Bool.or_eq_true, Bool.and_eq_true,
          decide_eq_true_eq]
        right
        exact ⟨trivial, by omega⟩
  · have retryable : row.status ∈ [OutboxStatus.pending, .failed] := by
      simp only [List.mem_cons, List.not_mem_nil, or_false] at waits ⊢
      tauto
    refine ⟨row.nextAttemptAt.getD 0, ?_⟩
    intro now later
    unfold claimable
    cases isNext : row.nextAttemptAt with
    | none => simp [retryable, below]
    | some instant =>
        rw [isNext, Option.getD_some] at later
        simp [retryable, below, later]

namespace OutboxSys

variable {s s' : OutboxSys} {id : Id}

/--
Every row is delivered, dead with an exhausted counter, or claimable from some
time on.
-/
theorem no_row_lost
    {allowed : OutboxSys → OutboxAction → Prop}
    {row : Outbox}
    (reachable : Reachable allowed s)
    (found : s.row id = some row) :
    (row.status = .sent ∨
        row.status = .noop ∨
        (row.status = .dead ∧ row.attempts = maxAttempts) ∨
        (row.status ∈ [OutboxStatus.pending, .failed, .sending] ∧
          ∀ lease, ∃ instant, ∀ now, instant ≤ now →
            claimable now (staleAt now lease) row = true)) ∧
      (row.status ∈ [OutboxStatus.pending, .failed] →
        row.attempts < maxAttempts) := by
  have fit := (sound_of_reachable reachable).row_fit found
  constructor
  · cases status : row.status with
    | sent => simp
    | noop => simp
    | dead => simp [(fit.exhausted status).1]
    | pending | failed | sending =>
        right; right; right
        refine ⟨by simp, ?_⟩
        exact fit.eventually_claimable (by simp [status])
  · intro retryable
    apply fit.retried
    simp only [List.mem_cons, List.not_mem_nil, or_false] at retryable ⊢
    tauto

/-- A row that a worker has claimed and dropped is claimable again. -/
theorem no_row_lost_takeover :
    ∃ s row, start.play Unrestricted takeover = some s ∧
      s.row 1 = some row ∧
      row.status = .sending ∧
      ∃ instant, ∀ now, instant ≤ now →
        claimable now (staleAt now 30) row = true := by
  have rows :
      (start.play Unrestricted takeover).bind
          (fun s => (s.row 1).map Outbox.status) =
        some .sending := by
    decide
  obtain ⟨s, isState, isStatus⟩ := Option.bind_eq_some_iff.mp rows
  obtain ⟨row, found, sending⟩ := Option.map_eq_some_iff.mp isStatus
  refine ⟨s, row, isState, found, sending, ?_⟩
  have kept := (no_row_lost (reachable_of_play isState) found).1
  simp only [sending, reduceCtorEq, false_and, false_or] at kept
  exact kept.2 30

/-! ## A requeue and the drain after it -/

end OutboxSys

/-- The customer that the next request of a process charges. -/
def Process.charged : Process → Option String
  | .posting job _ => job.payload.customerId
  | _ => none

namespace OutboxSys

/-- The row is dead, and its account has the customer by now. -/
structure Attached (s : OutboxSys) (row : Outbox) (customer : String) :
    Prop where
  found : s.row row.id = some row
  dead : row.status = .dead
  attached :
    ∃ account,
      accountForPrincipal s.db row.payloadJson.principalId = some account ∧
        account.stripeCustomerId = some customer
  nonempty : customer ≠ ""

/-- The row has been requeued by somebody since a state. -/
def Requeued (id : Id) (s s' : OutboxSys) : Prop :=
  ∃ recent, s'.log = s.log ++ recent ∧ .requeued id ∈ recent

/--
The statements of a drain after its read.  The key is set, and Stripe accepts
every request for the customer.
-/
def Accepting (w : Nat) (customer : String) (s : OutboxSys) :
    OutboxAction → Prop
  | .claim p => p = w
  | .commitClaims p => p = w
  | .post p configured response =>
      p = w ∧ configured = true ∧
        ((s.processes w).charged = some customer → response = .accepted)
  | .load p => p = w
  | .record p _ => p = w
  | .commitRecord p => p = w
  | _ => False

/--
A whole call of `drain_outbox` by a worker whose batch has the row, while no
other transaction holds the row.
-/
structure Drained
    (w : Nat)
    (id : Id)
    (customer : String)
    (s s' : OutboxSys) :
    Prop where
  unheld : ∀ p, p ≠ w → id ∉ (s.processes p).openRows
  selected :
    ∃ now raw limit ids begun selected,
      s.step (.begin w now raw limit) = some begun ∧
        begun.step (.select w ids) = some selected ∧
        id ∈ ids ∧
        Later (Accepting w customer) selected s'
  ended : s'.processes w = .idle

end OutboxSys

/-- A job that is for the row names the customer. -/
def Job.Names (job : Job) (id : Id) (customer : String) : Prop :=
  job.id = id → job.payload.customerId = some customer

/-- The row is posted with success, or among the jobs that are left. -/
def Job.Carries
    (job : Job)
    (result : StripeResult)
    (rest : List Job)
    (id : Id)
    (customer : String) :
    Prop :=
  (job.id = id ∨ ∃ one ∈ rest, one.id = id) ∧
    (job.id = id → result = .ok) ∧
    ∀ one ∈ rest, one.Names id customer

/-- The worker has the row to claim, to post or to record as accepted. -/
def Process.Carries (id : Id) (customer : String) (row : Outbox) :
    Process → Prop
  | .claiming now lease left claimed =>
      id ∈ claimed ∨
        id ∈ left ∧ claimable now (staleAt now lease) row = true
  | .posting job rest =>
      row.status = .sending ∧
        (∃ one ∈ job :: rest, one.id = id) ∧
        ∀ one ∈ job :: rest, one.Names id customer
  | .loading job result rest =>
      row.status = .sending ∧ job.Carries result rest id customer
  | .recording _ job result rest =>
      row.status = .sending ∧ job.Carries result rest id customer
  | .recorded job result _ _ rest =>
      row.status = .sending ∧ job.Carries result rest id customer
  | _ => False

/-- The worker goes on with jobs of which one is for the row. -/
theorem Process.carries_next
    {id : Id}
    {customer : String}
    {row : Outbox}
    {jobs : List Job}
    (sending : row.status = .sending)
    (isLeft : ∃ one ∈ jobs, one.id = id)
    (names : ∀ one ∈ jobs, one.Names id customer) :
    (next jobs).Carries id customer row := by
  cases jobs with
  | nil => simp at isLeft
  | cons job rest => exact ⟨sending, isLeft, names⟩

/-- The worker goes on with another job than the one for the row. -/
theorem Process.carries_afterJob
    {id : Id}
    {customer : String}
    {row : Outbox}
    {job : Job}
    {result : StripeResult}
    {rest : List Job}
    (sending : row.status = .sending)
    (carries : job.Carries result rest id customer)
    (other : job.id ≠ id) :
    (afterJob rest).Carries id customer row := by
  obtain ⟨isLeft, _, names⟩ := carries
  apply Process.carries_next sending
  · obtain ⟨one, member, isId⟩ := isLeft.resolve_left other
    exact ⟨one.expired, List.mem_map_of_mem member, isId⟩
  · intro one member
    obtain ⟨before, isBefore, rfl⟩ := List.mem_map.mp member
    exact names before isBefore

namespace OutboxSys

variable {s s' : OutboxSys} {id : Id}

/-- A row that the worker is delivering, or has delivered. -/
structure Delivering
    (s : OutboxSys)
    (w : Nat)
    (id : Id)
    (customer : String) :
    Prop where
  unheld : ∀ p, p ≠ w → id ∉ (s.processes p).openRows
  carried :
    ∃ row, s.row id = some row ∧
      row.payloadJson.customerId = some customer ∧
      (row.status = .sent ∨ (s.processes w).Carries id customer row)

/-- Stripe accepts the request for the customer. -/
theorem postStripe_accepted
    {payload : OutboxPayload}
    {customer : String}
    (names : payload.customerId = some customer)
    (nonempty : customer ≠ "") :
    postStripe true payload .accepted = .ok := by
  simp [postStripe, names, truthy_some nonempty]

section Delivery

variable
  {w : Nat}
  {customer : String}
  {process : Process}

/-- The worker goes on without a change of the row. -/
theorem Delivering.become
    (delivering : s.Delivering w id customer)
    (carries :
      ∀ row, s.row id = some row →
        row.payloadJson.customerId = some customer →
          (s.processes w).Carries id customer row →
            row.status = .sent ∨ process.Carries id customer row) :
    (s.become w process).Delivering w id customer where
  unheld p other := by
    change id ∉ (Function.update s.processes w process p).openRows
    rw [Function.update_of_ne other]
    exact delivering.unheld p other
  carried := by
    obtain ⟨row, found, names, carried⟩ := delivering.carried
    refine ⟨row, found, names, ?_⟩
    rw [become_self]
    rcases carried with sent | carried
    · exact .inl sent
    · exact carries row found names carried

/-- The worker commits its rows. -/
theorem Delivering.commit
    (entries : List OutboxEntry)
    (delivering : s.Delivering w id customer)
    (sound : s.Sound anyStatus)
    (keeps :
      ∀ old new, (s.processes w).Writes anyStatus old new →
        new.payloadJson = old.payloadJson ∧ old.status ≠ .sent)
    (unheld :
      ∀ row, s.row id = some row →
        id ∉ (s.processes w).openRows →
          (s.processes w).Carries id customer row →
            process.Carries id customer row)
    (held :
      ∀ old new, s.row id = some old →
        id ∈ (s.processes w).openRows →
          (s.processes w).Writes anyStatus old new →
            (s.processes w).Carries id customer old →
              new.status = .sent ∨ process.Carries id customer new) :
    ((s.commit w entries).become w process).Delivering w id customer where
  unheld p other := by
    change id ∉ (Function.update s.processes w process p).openRows
    rw [Function.update_of_ne other]
    exact delivering.unheld p other
  carried := by
    obtain ⟨row, found, names, carried⟩ := delivering.carried
    rw [become_self]
    rcases sound.locks.published found with
      ⟨notOpen, kept⟩ | ⟨isOpen, new, because, isNew⟩
    · refine ⟨row, kept, names, ?_⟩
      rcases carried with sent | carried
      · exact .inl sent
      · exact .inr (unheld row found notOpen carried)
    · obtain ⟨samePayload, notSent⟩ := keeps row new because
      refine ⟨new, isNew, samePayload ▸ names, ?_⟩
      exact held row new found isOpen because
        (carried.resolve_left notSent)

/-- No transaction holds a row that the worker does not hold. -/
theorem Delivering.free
    (delivering : s.Delivering w id customer)
    (sound : s.Sound anyStatus)
    (unheld : id ∉ (s.processes w).openRows) :
    s.locks.written id = none := by
  apply sound.locks.written_eq_none
  intro p
  by_cases isW : p = w
  · rw [isW]
    exact unheld
  · exact delivering.unheld p isW

/-- A claim that misses is not one of the row. -/
theorem Delivering.claimMissed
    {now lease : Int}
    {head : Id}
    {left claimed : List Id}
    (delivering : s.Delivering w id customer)
    (sound : s.Sound anyStatus)
    (claiming : s.processes w = .claiming now lease (head :: left) claimed)
    (answered :
      s.locks.update s.db.billingOutbox w head
          (claimable now (staleAt now lease)) (claimedRow now) =
        .missed) :
    (s.become w (.claiming now lease left claimed)).Delivering w id
      customer := by
  apply delivering.become
  intro row found _ carries
  right
  rw [claiming] at carries
  obtain ⟨_, nodup⟩ := sound.process_fit claiming
  rcases carries with isClaimed | ⟨isLeft, isClaimable⟩
  · exact .inl isClaimed
  · rcases List.mem_cons.mp isLeft with rfl | isLeft
    · -- A row that is free and claimable is not missed.
      have notOpen : id ∉ (s.processes w).openRows := by
        rw [claiming]
        intro isOpen
        exact (List.nodup_cons.mp nodup).1 (List.mem_append_right _ isOpen)
      rw [Locks.update_of_free (delivering.free sound notOpen) found
        isClaimable] at answered
      cases answered
    · exact .inr ⟨isLeft, isClaimable⟩

/-- The row is claimed, or another one. -/
theorem Delivering.claimed
    {now lease : Int}
    {head : Id}
    {left claimed : List Id}
    {new : Outbox}
    (delivering : s.Delivering w id customer)
    (claiming : s.processes w = .claiming now lease (head :: left) claimed) :
    ((s.wrote w new).become w
      (.claiming now lease left (claimed ++ [head]))).Delivering w id
      customer := by
  have written : (s.wrote w new).Delivering w id customer :=
    ⟨delivering.unheld, delivering.carried⟩
  apply written.become
  intro row found _ carries
  right
  change (s.processes w).Carries id customer row at carries
  rw [claiming] at carries
  rcases carries with isClaimed | ⟨isLeft, isClaimable⟩
  · exact .inl (List.mem_append_left _ isClaimed)
  · rcases List.mem_cons.mp isLeft with rfl | isLeft
    · exact .inl (by simp)
    · exact .inr ⟨isLeft, isClaimable⟩

/-- The jobs of a batch with the row are for the customer. -/
theorem Delivering.claimsCommitted
    {now lease : Int}
    {claimed : List Id}
    (delivering : s.Delivering w id customer)
    (sound : s.Sound anyStatus)
    (claiming : s.processes w = .claiming now lease [] claimed) :
    ((s.commit w
        (claimed.map fun id => .claimed id s.claims now lease)).become w
      (.next
        ((claimed.filterMap
            (s.locks.read s.db.billingOutbox w)).map
          (Job.ofRow s.claims)))).Delivering w id customer := by
  apply delivering.commit _ sound
  · intro old new because
    rw [claiming] at because
    obtain ⟨isClaimable, rfl⟩ := because
    refine ⟨rfl, ?_⟩
    intro sent
    have status := claimable_status isClaimable
    simp [sent] at status
  · intro row found notOpen carries
    rw [claiming] at carries notOpen
    rcases carries with isClaimed | ⟨isLeft, _⟩
    · exact (notOpen isClaimed).elim
    · cases isLeft
  · intro old new found _ because carries
    rw [claiming] at because carries
    obtain ⟨_, rfl⟩ := because
    rcases carries with isClaimed | ⟨isLeft, _⟩
    · right
      obtain ⟨old', found', _, isRead⟩ :=
        sound.claimed_read claiming isClaimed
      cases found.symm.trans found'
      apply Process.carries_next rfl
      · refine ⟨Job.ofRow s.claims (claimedRow now old), ?_, ?_⟩
        · apply List.mem_map_of_mem
          exact List.mem_filterMap.mpr ⟨id, isClaimed, isRead⟩
        · exact Table.key_of_find found
      · intro job isJob isId
        obtain ⟨old', found', _, _, isOld⟩ :=
          sound.job_of_claim claiming isJob
        rw [isId] at found'
        cases found.symm.trans found'
        rw [isOld]
        obtain ⟨row, found'', names, _⟩ := delivering.carried
        cases found.symm.trans found''
        exact names
    · cases isLeft

/-- A request for the row is accepted. -/
theorem Delivering.posted
    {response : StripeResponse}
    {job : Job}
    {rest : List Job}
    (delivering : s.Delivering w id customer)
    (nonempty : customer ≠ "")
    (posting : s.processes w = .posting job rest)
    (accepts :
      job.payload.customerId = some customer → response = .accepted) :
    ((s.record
          (.posted job.id job.claim
            (postStripe true job.payload response))).become w
        (.loading job (postStripe true job.payload response)
          rest)).Delivering w id customer := by
  have logged :
      (s.record
          (.posted job.id job.claim
            (postStripe true job.payload response))).Delivering w id
        customer :=
    ⟨delivering.unheld, delivering.carried⟩
  apply logged.become
  intro row found _ carries
  right
  change (s.processes w).Carries id customer row at carries
  rw [posting] at carries
  obtain ⟨sending, isLeft, names⟩ := carries
  refine ⟨sending, ?_, ?_, ?_⟩
  · simpa using isLeft
  · intro isId
    have jobNames := names job (by simp) isId
    rw [accepts jobNames]
    exact postStripe_accepted jobNames nonempty
  · intro one member
    exact names one (List.mem_cons_of_mem _ member)

/-- A job that finds its row out of `sending` is not for the row. -/
theorem Delivering.passed
    {job : Job}
    {rest : List Job}
    {result : StripeResult}
    (delivering : s.Delivering w id customer)
    (sound : s.Sound anyStatus)
    (loading : s.processes w = .loading job result rest)
    (unseen :
      ∀ seen, job.cached.or (s.row job.id) = some seen →
        seen.status ≠ .sending) :
    (s.become w (.afterJob rest)).Delivering w id customer := by
  apply delivering.become
  intro row found _ carries
  right
  rw [loading] at carries
  obtain ⟨sending, carries⟩ := carries
  apply Process.carries_afterJob sending carries
  rintro rfl
  -- Neither the cached object nor the stored row has left `sending`.
  cases isCached : job.cached with
  | some held =>
      have fits := sound.process_fit loading
      have taken := fits job (by simp) held isCached
      exact unseen held (by simp [isCached]) taken.1
  | none => exact unseen row (by simp [isCached, found]) sending

/-- A terminal UPDATE that misses is not one of the row. -/
theorem Delivering.recordMissed
    {now : Int}
    {job : Job}
    {rest : List Job}
    {result : StripeResult}
    {seen : Outbox}
    (delivering : s.Delivering w id customer)
    (sound : s.Sound anyStatus)
    (recording : s.processes w = .recording seen job result rest)
    (answered :
      s.locks.update s.db.billingOutbox w job.id
          (fun row => row.status = .sending)
          (terminalValues now (seen.attempts + 1) result) =
        .missed) :
    (s.become w (.afterJob rest)).Delivering w id customer := by
  apply delivering.become
  intro row found _ carries
  right
  rw [recording] at carries
  obtain ⟨sending, carries⟩ := carries
  apply Process.carries_afterJob sending carries
  rintro rfl
  have notOpen : job.id ∉ (s.processes w).openRows := by
    simp [recording, Process.openRows]
  rw [Locks.update_of_free (delivering.free sound notOpen) found
    (by simp [sending])] at answered
  cases answered

/-- The accepted result of the row is committed, or another one. -/
theorem Delivering.recordCommitted
    {attemptsAfter : Nat}
    {now : Int}
    {job : Job}
    {rest : List Job}
    {result : StripeResult}
    (entries : List OutboxEntry)
    (delivering : s.Delivering w id customer)
    (sound : s.Sound anyStatus)
    (isRecorded :
      s.processes w = .recorded job result now attemptsAfter rest) :
    ((s.commit w entries).become w (.afterJob rest)).Delivering w id
      customer := by
  apply delivering.commit _ sound
  · intro old new because
    rw [isRecorded] at because
    obtain ⟨sending, rfl⟩ := because
    exact ⟨terminalValues_payloadJson .., by simp [sending]⟩
  · intro row found notOpen carries
    rw [isRecorded] at carries notOpen
    obtain ⟨sending, carries⟩ := carries
    apply Process.carries_afterJob sending carries
    rintro rfl
    exact notOpen (by simp [Process.openRows])
  · intro old new found isOpen because carries
    rw [isRecorded] at isOpen because carries
    obtain ⟨_, rfl⟩ := because
    have isJob : id = job.id := List.mem_singleton.mp isOpen
    left
    rw [terminalValues_status, carries.2.2.1 isJob.symm]
    rfl

/-- Every step of the drain brings the row closer to `sent`. -/
theorem Delivering.step
    {action : OutboxAction}
    (delivering : s.Delivering w id customer)
    (sound : s.Sound anyStatus)
    (nonempty : customer ≠ "")
    (accepting : s.Accepting w customer action)
    (took : s.Took action s') :
    s'.Delivering w id customer := by
  cases took with
  | claimMissed claiming answered =>
      obtain rfl := accepting
      exact delivering.claimMissed sound claiming answered
  | claimed claiming _ =>
      obtain rfl := accepting
      exact delivering.claimed claiming
  | claimsCommitted claiming =>
      obtain rfl := accepting
      have committed := delivering.claimsCommitted sound claiming
      exact ⟨committed.unheld, committed.carried⟩
  | posted posting isResult =>
      obtain ⟨rfl, rfl, accepts⟩ := accepting
      subst isResult
      rw [posting] at accepts
      exact delivering.posted nonempty posting accepts
  | loaded loading =>
      obtain rfl := accepting
      apply delivering.become
      intro row found _ carries
      right
      rw [loading] at carries
      exact carries
  | passed loading unseen =>
      obtain rfl := accepting
      exact delivering.passed sound loading unseen
  | recordMissed recording answered =>
      obtain rfl := accepting
      exact delivering.recordMissed sound recording answered
  | @recorded p now job rest result seen old new recording =>
      obtain rfl : p = w := accepting
      have written : (s.wrote p new).Delivering p id customer :=
        ⟨delivering.unheld, delivering.carried⟩
      apply written.become
      intro row found _ carries
      right
      change (s.processes p).Carries id customer row at carries
      rw [recording] at carries
      exact carries
  | recordCommitted isRecorded =>
      obtain rfl := accepting
      exact delivering.recordCommitted _ sound isRecorded
  | _ => exact accepting.elim

end Delivery

/-- A run keeps the invariant. -/
theorem Sound.later
    {allowed : OutboxSys → OutboxAction → Prop}
    (sound : s.Sound anyStatus)
    (run : Later allowed s s') :
    s'.Sound anyStatus := by
  induction run with
  | refl => exact sound
  | tail _ taken inductionHypothesis =>
      obtain ⟨action, _, taken⟩ := taken
      exact inductionHypothesis.step (step_took taken) flushes_any

/-- A row keeps its payload for ever. -/
theorem Sound.payload_kept
    {allowed : OutboxSys → OutboxAction → Prop}
    {row : Outbox}
    (sound : s.Sound anyStatus)
    (found : s.row id = some row)
    (run : Later allowed s s') :
    ∃ row', s'.row id = some row' ∧ row'.payloadJson = row.payloadJson := by
  induction run with
  | refl => exact ⟨row, found, rfl⟩
  | tail prior taken inductionHypothesis =>
      obtain ⟨row', found', same⟩ := inductionHypothesis
      obtain ⟨action, _, taken⟩ := taken
      obtain ⟨entries, step, _⟩ :=
        (sound.later prior).rowStep (step_took taken) id
      rw [found'] at step
      obtain ⟨row'', found'', same'⟩ := step.payload_kept
      exact ⟨row'', found'', same'.trans same⟩

/-- The batch of a drain is the worker's work to do. -/
theorem Drained.delivering
    {w : Nat}
    {customer : String}
    {row : Outbox}
    (drained : Drained w id customer s s')
    (found : s.row id = some row)
    (names : row.payloadJson.customerId = some customer) :
    ∃ selected,
      selected.Delivering w id customer ∧
        Later Unrestricted s selected ∧
        Later (Accepting w customer) selected s' := by
  obtain ⟨now, raw, limit, ids, begun, selected, begins, selects, isSelected,
    run⟩ := drained.selected
  refine ⟨selected, ?_, ?_, run⟩
  · cases step_took begins with
    | began idle =>
        cases step_took selects with
        | selected selecting selects =>
            rw [become_self] at selecting
            cases selecting
            refine ⟨?_, row, found, names, .inr ?_⟩
            · intro p other
              rw [become_other other, become_other other]
              exact drained.unheld p other
            · rw [become_self]
              refine .inr ⟨isSelected, ?_⟩
              have isClaimable := selects.2.1 id isSelected
              rw [become_row, found] at isClaimable
              exact isClaimable
  · exact .tail (.single ⟨_, trivial, begins⟩) ⟨_, trivial, selects⟩

/-- A row whose payload names the customer is delivered. -/
theorem Drained.sent
    {w : Nat}
    {customer : String}
    {row : Outbox}
    (drained : Drained w id customer s s')
    (sound : s.Sound anyStatus)
    (nonempty : customer ≠ "")
    (found : s.row id = some row)
    (names : row.payloadJson.customerId = some customer) :
    (s'.row id).map Outbox.status = some .sent := by
  obtain ⟨selected, delivering, begun, run⟩ := drained.delivering found names
  have sound := sound.later begun
  have delivered : s'.Delivering w id customer ∧ s'.Sound anyStatus := by
    have ended := drained.ended
    clear drained ended
    induction run with
    | refl => exact ⟨delivering, sound⟩
    | tail _ taken inductionHypothesis =>
        obtain ⟨delivering, sound⟩ := inductionHypothesis
        obtain ⟨action, accepting, taken⟩ := taken
        have took := step_took taken
        exact
          ⟨delivering.step sound nonempty accepting took,
            sound.step took flushes_any⟩
  obtain ⟨row', found', _, sent | carries⟩ := delivered.1.carried
  · simp [found', sent]
  · rw [drained.ended] at carries
    exact carries.elim

end OutboxSys

end Crossing
