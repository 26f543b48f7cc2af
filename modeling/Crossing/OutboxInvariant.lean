import Crossing.OutboxSteps

namespace Crossing

open Relational
open Relational.Transaction

/-!
# The invariant of the outbox

`OutboxSys.Sound` says what processes hold in memory, which rows they have
locked, and how each uncommitted version follows from the committed row.  Every
step keeps it.  `RowStep` lists what a step can do to one committed row, with
what it leaves in the log: the laws of the outbox are proved over its cases.
-/

/-! ## Processes and locks -/

namespace Process

/-- What a process holds in memory fits what it has read. -/
def Fit : Process → Prop
  | .selecting _ lease _ => 1 ≤ lease
  | .claiming _ lease left claimed =>
      1 ≤ lease ∧ (left ++ claimed).Nodup
  | .posting job rest => ∀ other ∈ job :: rest, other.Fit
  | .loading job _ rest => ∀ other ∈ job :: rest, other.Fit
  | .recording seen _ _ _ => seen.Taken
  | .recorded _ _ _ attemptsAfter _ =>
      1 ≤ attemptsAfter ∧ attemptsAfter ≤ maxAttempts
  | .viewing held => held.Dead
  | .flushing _ left flushed =>
      ((left ++ flushed).map Outbox.id).Nodup ∧
        ∀ row ∈ left ++ flushed, row.Dead
  | _ => True

/--
How the uncommitted versions of a process follow from the committed rows.
A requeue writes rows whose status `meets` what its flushes may find.
-/
def Writes (meets : OutboxStatus → Prop) : Process → Outbox → Outbox → Prop
  | .claiming now lease _ _, old, new =>
      claimable now (staleAt now lease) old = true ∧
        new = claimedRow now old
  | .recorded _ result now attemptsAfter _, old, new =>
      old.status = .sending ∧
        new = terminalValues now attemptsAfter result old
  | .flushing now _ flushed, old, new =>
      ∃ loaded ∈ flushed,
        loaded.id = old.id ∧
          new = requeuedRow now loaded old ∧
          meets old.status
  | _, _, _ => False

/-- A process that goes on with jobs that fit. -/
theorem fit_next
    {jobs : List Job}
    (fits : ∀ job ∈ jobs, job.Fit) :
    (next jobs).Fit := by
  cases jobs with
  | nil => trivial
  | cons job rest => exact fits

/-- Jobs whose objects have expired fit. -/
theorem fit_afterJob (rest : List Job) : (afterJob rest).Fit := by
  apply fit_next
  intro job member row isCached
  obtain ⟨before, _, rfl⟩ := List.mem_map.mp member
  cases isCached

/-- Between two jobs no row is written. -/
@[simp] theorem openRows_next (jobs : List Job) :
    (next jobs).openRows = [] := by
  cases jobs <;> rfl

@[simp] theorem openRows_afterJob (rest : List Job) :
    (afterJob rest).openRows = [] :=
  openRows_next _

end Process

/-- Nothing is asked of a status. -/
abbrev anyStatus (_ : OutboxStatus) : Prop := True

/-- The invariant of the outbox and its processes. -/
structure OutboxSys.Sound (meets : OutboxStatus → Prop) (s : OutboxSys) : Prop where
  rows : ∀ row ∈ s.db.billingOutbox.rows, row.Fit
  processes : ∀ p, (s.processes p).Fit
  locks :
    s.locks.Sound s.db.billingOutbox (fun p => (s.processes p).openRows)
      fun p => (s.processes p).Writes meets

/-! ## The invariant over a step -/

/-- A version that a process has written fits when the committed row does. -/
theorem Process.Writes.fit
    {meets : OutboxStatus → Prop}
    {process : Process}
    {old new : Outbox}
    (writes : process.Writes meets old new)
    (processFit : process.Fit)
    (fit : old.Fit) :
    new.Fit := by
  cases process with
  | claiming now lease left claimed =>
      obtain ⟨isClaimable, rfl⟩ := writes
      exact fit.claimed isClaimable
  | recorded job result now attemptsAfter rest =>
      obtain ⟨_, rfl⟩ := writes
      exact fit_terminalValues result processFit.2
  | flushing now left flushed =>
      obtain ⟨loaded, member, _, rfl, _⟩ := writes
      exact fit_requeuedRow
        (processFit.2 loaded (List.mem_append_right left member))
  | _ => exact writes.elim

namespace OutboxSys

section Sound

variable
  {meets : OutboxStatus → Prop}
  {s s' : OutboxSys}
  {p : Nat}
  {process : Process}

@[simp] theorem become_self : (s.become p process).processes p = process :=
  Function.update_self ..

/-- The other processes stay where they are. -/
theorem become_other
    {q : Nat}
    (other : q ≠ p) :
    (s.become p process).processes q = s.processes q :=
  Function.update_of_ne other ..

@[simp] theorem become_row (id : Id) :
    (s.become p process).row id = s.row id := rfl

@[simp] theorem wrote_row (new : Outbox) (id : Id) :
    (s.wrote p new).row id = s.row id := rfl

@[simp] theorem record_row (entry : OutboxEntry) (id : Id) :
    (s.record entry).row id = s.row id := rfl

@[simp] theorem rollback_row (id : Id) :
    (s.rollback p).row id = s.row id := rfl

/-- A committed row fits. -/
theorem Sound.row_fit
    {id : Id}
    {row : Outbox}
    (sound : s.Sound meets)
    (found : s.row id = some row) :
    row.Fit :=
  sound.rows row (Table.mem_of_find found)

/-- What a process holds in memory fits. -/
theorem Sound.process_fit
    (sound : s.Sound meets)
    (isProcess : s.processes p = process) :
    process.Fit :=
  isProcess ▸ sound.processes p

/-- Every process still fits after one of them has gone on. -/
theorem fit_update
    {processes : Nat → Process}
    (fits : ∀ q, (processes q).Fit)
    (fit : process.Fit) :
    ∀ q, (Function.update processes p process q).Fit := by
  intro q
  by_cases same : q = p
  · subst same
    rw [Function.update_self]
    exact fit
  · rw [Function.update_of_ne same]
    exact fits q

/-- The log is no part of the invariant. -/
theorem Sound.record
    (sound : s.Sound meets)
    (entry : OutboxEntry) :
    (s.record entry).Sound meets :=
  ⟨sound.rows, sound.processes, sound.locks⟩

/-- The number of claims is no part of the invariant. -/
theorem Sound.renumber
    (sound : s.Sound meets)
    (claims : Nat) :
    Sound meets { s with claims := claims } :=
  ⟨sound.rows, sound.processes, sound.locks⟩

/-- A process goes on without a write. -/
theorem Sound.become
    (sound : s.Sound meets)
    (fit : process.Fit)
    (same : process.openRows = (s.processes p).openRows)
    (writes :
      ∀ id ∈ (s.processes p).openRows, ∀ old new,
        (s.processes p).Writes meets old new → process.Writes meets old new) :
    (s.become p process).Sound meets where
  rows := sound.rows
  processes := fit_update sound.processes fit
  locks := by
    apply sound.locks.mono
    · intro q id
      by_cases isP : q = p
      · subst isP
        simp [OutboxSys.become, same]
      · simp [OutboxSys.become, isP]
    · intro q id old new member because
      by_cases isP : q = p
      · subst isP
        simpa [OutboxSys.become] using writes id member old new because
      · simpa [OutboxSys.become, isP] using because

/-- A process that holds no row goes on. -/
theorem Sound.move
    (sound : s.Sound meets)
    (fit : process.Fit)
    (unheld : (s.processes p).openRows = [])
    (unheld' : process.openRows = []) :
    (s.become p process).Sound meets := by
  apply sound.become fit (by rw [unheld, unheld'])
  intro id member
  simp [unheld] at member

/-- An UPDATE writes a row that the process does not hold yet. -/
theorem Sound.wrote
    {id : Id}
    {guard : Outbox → Bool}
    {change : Outbox → Outbox}
    {old new : Outbox}
    (sound : s.Sound meets)
    (answered :
      s.locks.update s.db.billingOutbox p id guard change = .wrote old new)
    (keepsKey : ∀ row, (change row).id = row.id)
    (fit : process.Fit)
    (notHeld : id ∉ (s.processes p).openRows)
    (grows :
      ∀ k, k ∈ process.openRows ↔ k ∈ (s.processes p).openRows ∨ k = id)
    (because :
      s.row id = some old → guard old = true →
        process.Writes meets old (change old))
    (implies :
      ∀ k ∈ (s.processes p).openRows, ∀ old new,
        (s.processes p).Writes meets old new → process.Writes meets old new) :
    s.row id = some old ∧ ((s.wrote p new).become p process).Sound meets := by
  have written :
      s.db.billingOutbox.find id = some old ∧
        (s.locks.write p new).Sound s.db.billingOutbox
          (fun q => (Function.update s.processes p process q).openRows)
          fun q => (Function.update s.processes p process q).Writes meets := by
    apply sound.locks.write answered keepsKey notHeld
    · intro q k
      by_cases isP : q = p
      · subst isP
        simp [grows]
      · simp [isP]
    · intro found passes
      simpa using because found passes
    · intro q k old new member reason
      by_cases isP : q = p
      · subst isP
        simpa using implies k member old new reason
      · simpa [isP] using reason
  exact
    ⟨written.1, sound.rows, fit_update sound.processes fit, written.2⟩

/-- The open rows of the other processes when one of them has ended. -/
theorem openRows_update
    {processes : Nat → Process}
    {q : Nat}
    (other : q ≠ p) :
    (Function.update processes p process q).openRows =
      (processes q).openRows := by
  rw [Function.update_of_ne other]

/-- A transaction is rolled back. -/
theorem Sound.rollback
    (sound : s.Sound meets)
    (fit : process.Fit)
    (ended : process.openRows = []) :
    ((s.rollback p).become p process).Sound meets where
  rows := sound.rows
  processes := fit_update sound.processes fit
  locks := by
    apply sound.locks.rollback
    · simpa [OutboxSys.become] using ended
    · intro q other
      exact openRows_update other
    · intro q old new other because
      simpa [OutboxSys.become, OutboxSys.rollback, other] using because

/-- A transaction is committed. -/
theorem Sound.commit
    (sound : s.Sound meets)
    (entries : List OutboxEntry)
    (fit : process.Fit)
    (ended : process.openRows = []) :
    ((s.commit p entries).become p process).Sound meets where
  rows := by
    intro row member
    obtain ⟨stored, isStored, rfl⟩ := List.mem_map.mp member
    have storedFit := sound.rows stored isStored
    cases version : s.locks.own p stored.id with
    | none =>
        exact storedFit
    | some new =>
        obtain ⟨old, found, because⟩ :=
          sound.locks.justified _ _ _ (Locks.own_eq_some.mp version)
        exact because.fit (sound.processes p) (sound.row_fit found)
  processes := fit_update sound.processes fit
  locks := by
    apply sound.locks.commit
    · simpa [OutboxSys.become] using ended
    · intro q other
      exact openRows_update other
    · intro q old new other because
      simpa [OutboxSys.become, OutboxSys.commit, other] using because

/-- The dead rows that a requeue loads. -/
theorem Sound.loaded_dead
    {outboxId : Option Id}
    {rows : List Outbox}
    (sound : s.Sound meets)
    (loads : s.loaded outboxId (s.processes p) = some rows) :
    (rows.map Outbox.id).Nodup ∧ ∀ row ∈ rows, row.Dead := by
  have fits := sound.processes p
  unfold loaded at loads
  split at loads
  · cases loads
    have sorted :=
      List.perm_insertionSort (fun first second => first.id ≤ second.id)
        (s.db.billingOutbox.rows.filter fun row =>
          row.status = .dead && outboxId.all (· = row.id))
    constructor
    · apply ((sorted.map Outbox.id).nodup_iff).mpr
      exact s.db.billingOutbox.keysNodup.sublist
        (List.filter_sublist.map Outbox.id)
    · intro row member
      have kept := List.mem_filter.mp (sorted.mem_iff.mp member)
      simp only [Bool.and_eq_true, decide_eq_true_eq] at kept
      exact ⟨kept.2.1, sound.rows row kept.1⟩
  · rename_i held viewing
    rw [viewing] at fits
    split at loads
    · cases loads
      refine ⟨by simp, ?_⟩
      intro row member
      obtain rfl := List.mem_singleton.mp member
      exact fits
    · cases loads
      simp
  · cases loads

/-- A requeue selects before it writes. -/
theorem openRows_of_loaded
    {outboxId : Option Id}
    {rows : List Outbox}
    (loads : s.loaded outboxId process = some rows) :
    process.openRows = [] := by
  cases process with
  | idle => rfl
  | viewing held => rfl
  | _ => cases loads

/-- The rows of a claim, as its transaction reads them. -/
theorem Sound.claimed_read
    {now lease : Int}
    {left claimed : List Id}
    {id : Id}
    (sound : s.Sound meets)
    (claiming : s.processes p = .claiming now lease left claimed)
    (isClaimed : id ∈ claimed) :
    ∃ old, s.row id = some old ∧
      claimable now (staleAt now lease) old = true ∧
      s.locks.read s.db.billingOutbox p id = some (claimedRow now old) := by
  have isOpen : id ∈ (s.processes p).openRows := by
    rw [claiming]
    exact isClaimed
  obtain ⟨version, written⟩ := (sound.locks.holds p id).mp isOpen
  obtain ⟨old, found, because⟩ := sound.locks.justified id p version written
  rw [claiming] at because
  obtain ⟨isClaimable, rfl⟩ := because
  refine ⟨old, found, isClaimable, ?_⟩
  unfold Locks.read
  rw [Locks.own_eq_some.mpr written]
  rfl

/-- The jobs of a claim are its rows. -/
theorem Sound.job_of_claim
    {now lease : Int}
    {left claimed : List Id}
    {job : Job}
    (sound : s.Sound meets)
    (claiming : s.processes p = .claiming now lease left claimed)
    (isJob :
      job ∈
        (claimed.filterMap (s.locks.read s.db.billingOutbox p)).map
          (Job.ofRow s.claims)) :
    ∃ old, s.row job.id = some old ∧
      job.id ∈ claimed ∧
      claimable now (staleAt now lease) old = true ∧
      job = Job.ofRow s.claims (claimedRow now old) := by
  obtain ⟨row, member, rfl⟩ := List.mem_map.mp isJob
  obtain ⟨id, isClaimed, isRead⟩ := List.mem_filterMap.mp member
  obtain ⟨old, found, isClaimable, isVersion⟩ :=
    sound.claimed_read claiming isClaimed
  cases isRead.symm.trans isVersion
  have sameId : old.id = id := Table.key_of_find found
  refine ⟨old, ?_, ?_, isClaimable, rfl⟩
  · change s.row old.id = some old
    rw [sameId]
    exact found
  · change old.id ∈ claimed
    rw [sameId]
    exact isClaimed

/-- The jobs of a claim fit. -/
theorem Sound.jobs_fit
    {now lease : Int}
    {left claimed : List Id}
    (sound : s.Sound meets)
    (claiming : s.processes p = .claiming now lease left claimed) :
    ∀ job ∈
        (claimed.filterMap (s.locks.read s.db.billingOutbox p)).map
          (Job.ofRow s.claims),
      job.Fit := by
  intro job isJob row isCached
  obtain ⟨old, found, _, isClaimable, isOld⟩ :=
    sound.job_of_claim claiming isJob
  rw [isOld] at isCached
  cases isCached
  have fit := sound.row_fit found
  exact ⟨rfl, fit.retried (claimable_status isClaimable)⟩

/-- What a flush finds stored meets a condition. -/
def Flushes (meets : OutboxStatus → Prop) (s : OutboxSys) :
    OutboxAction → Prop
  | .flush p =>
      ∀ id ∈ (s.processes p).flushes, ∀ row ∈ s.row id, meets row.status
  | _ => True

/-- The condition of a flush can be computed. -/
instance
    (meets : OutboxStatus → Prop)
    [DecidablePred meets]
    (s : OutboxSys) :
    ∀ action, Decidable (s.Flushes meets action)
  | .flush p =>
      inferInstanceAs
        (Decidable
          (∀ id ∈ (s.processes p).flushes, ∀ row ∈ s.row id,
            meets row.status))
  | .txn _ => .isTrue trivial
  | .begin .. => .isTrue trivial
  | .select .. => .isTrue trivial
  | .claim _ => .isTrue trivial
  | .commitClaims _ => .isTrue trivial
  | .post .. => .isTrue trivial
  | .load _ => .isTrue trivial
  | .record .. => .isTrue trivial
  | .commitRecord _ => .isTrue trivial
  | .view .. => .isTrue trivial
  | .selectDead .. => .isTrue trivial
  | .commitRequeue _ => .isTrue trivial
  | .stop _ => .isTrue trivial

/-- Every flush meets no condition. -/
theorem flushes_any {action : OutboxAction} : s.Flushes anyStatus action := by
  cases action with
  | flush p => exact fun _ _ _ _ => trivial
  | _ => trivial

/-- The invariant holds before the first step. -/
theorem sound_start : start.Sound meets where
  rows row member := by cases member
  processes _ := trivial
  locks := Locks.Sound.free fun _ => rfl

/-- What is moved from the head of one list to the end of another. -/
theorem perm_moved {α : Type} (one : α) (left done : List α) :
    (one :: left ++ done).Perm (left ++ (done ++ [one])) := by
  rw [List.cons_append, ← List.append_assoc]
  exact (List.perm_append_singleton one (left ++ done)).symm

/-- A transaction elsewhere adds a row at most. -/
theorem Sound.transacted
    {txn : BillingTxn}
    {db : Db}
    (sound : s.Sound meets)
    (ran : exec (txn.body s.db) s.db = (.ok (), db)) :
    ({ s with db := db } : OutboxSys).Sound meets := by
  rcases txn.outbox ran with
    same | ⟨env, account, receiptId, amountCents, principalId, newId, added⟩
  · exact
      { rows := by
          change ∀ row ∈ db.billingOutbox.rows, row.Fit
          rw [same]
          exact sound.rows
        processes := sound.processes
        locks := by
          change s.locks.Sound db.billingOutbox _ _
          rw [same]
          exact sound.locks }
  · refine ⟨?_, sound.processes, ?_⟩
    · intro row member
      rcases (Table.mem_insert added).mp member with isOld | rfl
      · exact sound.rows row isOld
      · exact pendingOutbox_fit _ _ _ _ _ _
    · apply sound.locks.extend
      intro id row found
      exact Table.find_insert_of_some added found

/-- A row is claimed. -/
theorem Sound.claimed
    {now lease : Int}
    {id : Id}
    {left claimed : List Id}
    {old new : Outbox}
    (sound : s.Sound meets)
    (claiming : s.processes p = .claiming now lease (id :: left) claimed)
    (answered :
      s.locks.update s.db.billingOutbox p id
          (claimable now (staleAt now lease)) (claimedRow now) =
        .wrote old new) :
    ((s.wrote p new).become p
      (.claiming now lease left (claimed ++ [id]))).Sound meets := by
  obtain ⟨leased, nodup⟩ := sound.process_fit claiming
  refine (sound.wrote answered (fun _ => rfl) ?_ ?_ ?_ ?_ ?_).2
  · exact ⟨leased, (perm_moved id left claimed).nodup_iff.mp nodup⟩
  · rw [claiming]
    intro held
    exact (List.nodup_cons.mp nodup).1 (List.mem_append_right _ held)
  · intro k
    rw [claiming]
    simp [Process.openRows]
  · intro _ passes
    exact ⟨passes, rfl⟩
  · intro k _ old new because
    rw [claiming] at because
    exact because

/-- The result of a request is recorded. -/
theorem Sound.recorded
    {now : Int}
    {job : Job}
    {rest : List Job}
    {result : StripeResult}
    {seen old new : Outbox}
    (sound : s.Sound meets)
    (recording : s.processes p = .recording seen job result rest)
    (answered :
      s.locks.update s.db.billingOutbox p job.id
          (fun row => row.status = .sending)
          (terminalValues now (seen.attempts + 1) result) =
        .wrote old new) :
    ((s.wrote p new).become p
      (.recorded job result now (seen.attempts + 1) rest)).Sound meets := by
  obtain ⟨_, below⟩ := sound.process_fit recording
  refine (sound.wrote answered (fun _ => terminalValues_key ..)
    ?_ ?_ ?_ ?_ ?_).2
  · exact ⟨Nat.le_add_left 1 _, below⟩
  · rw [recording]
    simp [Process.openRows]
  · intro k
    rw [recording]
    simp [Process.openRows]
  · intro _ passes
    exact ⟨of_decide_eq_true passes, rfl⟩
  · intro k held
    simp [recording, Process.openRows] at held

/-- Every step keeps the invariant. -/
theorem Sound.step
    {action : OutboxAction}
    (sound : s.Sound meets)
    (took : s.Took action s')
    (flushes : s.Flushes meets action) :
    s'.Sound meets := by
  cases took with
  | transacted ran => exact sound.transacted ran
  | began idle =>
      apply sound.move _ (by rw [idle]; rfl) rfl
      exact le_max_left ..
  | selected selecting selects =>
      have leased := sound.process_fit selecting
      apply sound.move _ (by rw [selecting]; rfl) rfl
      exact ⟨leased, by simpa using selects.1⟩
  | claimMissed claiming _ =>
      obtain ⟨leased, nodup⟩ := sound.process_fit claiming
      refine sound.become ?_ ?_ ?_
      · exact ⟨leased, nodup.sublist (by simp)⟩
      · rw [claiming]
        rfl
      · intro id _ old new because
        rw [claiming] at because
        exact because
  | claimed claiming answered => exact sound.claimed claiming answered
  | claimsCommitted claiming =>
      apply Sound.renumber
      exact sound.commit _ (Process.fit_next (sound.jobs_fit claiming))
        (Process.openRows_next _)
  | posted posting =>
      have fits := sound.process_fit posting
      refine (sound.record _).move ?_ ?_ rfl
      · exact fits
      · change (s.processes _).openRows = []
        rw [posting]
        rfl
  | @loaded p job rest result seen loading isSeen sending =>
      have fits := sound.process_fit loading
      apply sound.move _ (by rw [loading]; rfl) rfl
      cases isCached : job.cached with
      | some row =>
          rw [isCached] at isSeen
          cases isSeen
          exact fits job (by simp) seen isCached
      | none =>
          rw [isCached] at isSeen
          have fit : seen.Fit := sound.rows seen (Table.mem_of_find isSeen)
          exact ⟨sending, fit.retried (by simp [sending])⟩
  | passed loading _ =>
      apply sound.move (Process.fit_afterJob _) (by rw [loading]; rfl)
      exact Process.openRows_afterJob _
  | recordMissed recording _ =>
      apply sound.move (Process.fit_afterJob _) (by rw [recording]; rfl)
      exact Process.openRows_afterJob _
  | recorded recording answered => exact sound.recorded recording answered
  | recordCommitted isRecorded =>
      exact sound.commit _ (Process.fit_afterJob _)
        (Process.openRows_afterJob _)
  | viewed idle found dead =>
      apply sound.move _ (by rw [idle]; rfl) rfl
      exact ⟨dead, sound.row_fit found⟩
  | deadSelected loads =>
      obtain ⟨nodup, allDead⟩ := sound.loaded_dead loads
      apply sound.move
      · exact ⟨by simpa using nodup, by simpa using allDead⟩
      · exact openRows_of_loaded loads
      · rfl
  | flushMissed => exact sound.rollback trivial rfl
  | @flushed p now loaded old new left flushed flushing answered =>
      obtain ⟨nodup, allDead⟩ := sound.process_fit flushing
      have moved := perm_moved loaded left flushed
      refine (sound.wrote answered (fun _ => rfl) ?_ ?_ ?_ ?_ ?_).2
      · refine ⟨(moved.map Outbox.id).nodup_iff.mp nodup, ?_⟩
        intro row member
        exact allDead row (moved.mem_iff.mpr member)
      · rw [flushing]
        intro held
        rw [List.cons_append, List.map_cons, List.map_append] at nodup
        exact (List.nodup_cons.mp nodup).1 (List.mem_append_right _ held)
      · intro k
        rw [flushing]
        simp [Process.openRows, eq_comm]
      · intro found _
        refine ⟨loaded, by simp, ?_, rfl, ?_⟩
        · exact (Table.key_of_find found).symm
        · apply flushes loaded.id _ old found
          rw [flushing]
          rfl
      · intro k _ old new because
        rw [flushing] at because
        obtain ⟨row, member, rest⟩ := because
        exact ⟨row, List.mem_append_left _ member, rest⟩
  | requeueCommitted => exact sound.commit _ trivial rfl
  | stopped => exact sound.rollback trivial rfl

end Sound

end OutboxSys

/-! ## What a step does to one row -/

/--
What a step does to the committed row with an id, and the entries it leaves
about it.
-/
inductive RowStep (meets : OutboxStatus → Prop) (id : Id) :
    Option Outbox → Option Outbox → List OutboxEntry → Prop where
  | still (row : Option Outbox) : RowStep meets id row row []
  | added
      (env : Env)
      (account : Option Account)
      (receiptId : Id)
      (amountCents : Cents)
      (principalId : Id) :
      RowStep meets id none
        (some
          (pendingOutbox env account receiptId amountCents principalId id))
        []
  | claimed
      {old : Outbox}
      {now lease : Int}
      (claim : Nat)
      (leased : 1 ≤ lease)
      (isClaimable : claimable now (staleAt now lease) old = true) :
      RowStep meets id (some old) (some (claimedRow now old))
        [.claimed id claim now lease]
  | recorded
      {old : Outbox}
      {now : Int}
      {attemptsAfter : Nat}
      (claim : Nat)
      (result : StripeResult)
      (sending : old.status = .sending)
      (positive : 1 ≤ attemptsAfter)
      (bounded : attemptsAfter ≤ maxAttempts) :
      RowStep meets id (some old)
        (some (terminalValues now attemptsAfter result old))
        [.recorded id claim now attemptsAfter
          (terminalStatus attemptsAfter result)]
  | requeued
      {old loaded : Outbox}
      (now : Int)
      (dead : loaded.Dead)
      (isMet : meets old.status) :
      RowStep meets id (some old) (some (requeuedRow now loaded old))
        [.requeued id]

/-- No step changes the payload of a row. -/
theorem RowStep.payload_kept
    {meets : OutboxStatus → Prop}
    {id : Id}
    {old : Outbox}
    {row' : Option Outbox}
    {entries : List OutboxEntry}
    (step : RowStep meets id (some old) row' entries) :
    ∃ new, row' = some new ∧ new.payloadJson = old.payloadJson := by
  cases step with
  | still => exact ⟨_, rfl, rfl⟩
  | claimed => exact ⟨_, rfl, rfl⟩
  | recorded => exact ⟨_, rfl, terminalValues_payloadJson ..⟩
  | requeued => exact ⟨_, rfl, rfl⟩

/-- What committed transactions have left in the log about a row. -/
def rowHistory (id : Id) (log : List OutboxEntry) : List OutboxEntry :=
  log.filter fun entry => entry.row = id && !entry.isPost

@[simp] theorem rowHistory_append (id : Id) (log recent : List OutboxEntry) :
    rowHistory id (log ++ recent) =
      rowHistory id log ++ rowHistory id recent :=
  List.filter_append ..

/-- A transaction leaves one entry about each of its rows. -/
theorem rowHistory_map
    {id : Id}
    {ids : List Id}
    {entry : Id → OutboxEntry}
    (about : ∀ k, (entry k).row = k)
    (noPost : ∀ k, (entry k).isPost = false)
    (nodup : ids.Nodup) :
    rowHistory id (ids.map entry) =
      if id ∈ ids then [entry id] else [] := by
  induction ids with
  | nil => rfl
  | cons head rest inductionHypothesis =>
      obtain ⟨notIn, nodupRest⟩ := List.nodup_cons.mp nodup
      have restHistory := inductionHypothesis nodupRest
      unfold rowHistory at restHistory ⊢
      by_cases isHead : head = id
      · subst isHead
        simp [about, noPost, restHistory, notIn]
      · have different : id ≠ head := fun same => isHead same.symm
        simp [about, isHead, restHistory, different]

namespace OutboxSys

variable
  {meets : OutboxStatus → Prop}
  {s s' : OutboxSys}
  {p : Nat}

/-- What a commit does to one row. -/
theorem Sound.commit_rowStep
    (sound : s.Sound meets)
    (entry : Id → OutboxEntry)
    (about : ∀ k, (entry k).row = k)
    (noPost : ∀ k, (entry k).isPost = false)
    (nodup : (s.processes p).openRows.Nodup)
    (steps :
      ∀ id old new,
        s.row id = some old →
          (s.processes p).Writes meets old new →
            RowStep meets id (some old) (some new) [entry id])
    (id : Id) :
    ∃ entries,
      RowStep meets id (s.row id)
          ((s.locks.publish s.db.billingOutbox p).find id) entries ∧
        rowHistory id ((s.processes p).openRows.map entry) = entries := by
  rw [rowHistory_map about noPost nodup]
  cases found : s.row id with
  | none =>
      have unheld : id ∉ (s.processes p).openRows := by
        intro held
        obtain ⟨version, written⟩ := (sound.locks.holds p id).mp held
        obtain ⟨old, isOld, _⟩ := sound.locks.justified id p version written
        cases isOld.symm.trans found
      have missing : s.db.billingOutbox.find id = none := found
      rw [Locks.find_publish, missing, if_neg unheld]
      exact ⟨_, .still _, rfl⟩
  | some old =>
      rcases sound.locks.published found with
        ⟨unheld, kept⟩ | ⟨held, new, because, isNew⟩
      · rw [kept, if_neg unheld]
        exact ⟨_, .still _, rfl⟩
      · rw [isNew, if_pos held]
        exact ⟨_, steps id old new found because, rfl⟩

/-- What a step does to one row, and what it leaves in its history. -/
theorem Sound.rowStep
    {action : OutboxAction}
    (sound : s.Sound meets)
    (took : s.Took action s')
    (id : Id) :
    ∃ entries,
      RowStep meets id (s.row id) (s'.row id) entries ∧
        rowHistory id s'.log = rowHistory id s.log ++ entries := by
  have quiet :
      ∃ entries,
        RowStep meets id (s.row id) (s.row id) entries ∧
          rowHistory id s.log = rowHistory id s.log ++ entries :=
    ⟨[], .still _, (List.append_nil _).symm⟩
  cases took with
  | @transacted txn db ran =>
      change
        ∃ entries,
          RowStep meets id (s.row id) (db.billingOutbox.find id) entries ∧ _
      rcases txn.outbox ran with
        same | ⟨env, account, receiptId, amountCents, principalId, newId, added⟩
      · rw [same]
        exact quiet
      · rw [Table.find_insert added]
        split
        · rename_i isNew
          have isId : newId = id := isNew
          subst isId
          have missing : s.row newId = none := (Table.insert?_eq_some added).1
          rw [missing]
          exact ⟨[], .added .., (List.append_nil _).symm⟩
        · exact quiet
  | posted posting =>
      refine ⟨[], .still _, (rowHistory_append ..).trans ?_⟩
      simp [rowHistory, OutboxEntry.isPost]
  | @claimsCommitted p now lease claimed claiming =>
      obtain ⟨leased, nodup⟩ := sound.process_fit claiming
      obtain ⟨entries, moved, left⟩ :=
        sound.commit_rowStep
          (fun k => .claimed k s.claims now lease)
          (fun _ => rfl) (fun _ => rfl)
          (by
            rw [claiming]
            exact nodup)
          (by
            intro k old new found because
            rw [claiming] at because
            obtain ⟨isClaimable, rfl⟩ := because
            exact .claimed s.claims leased isClaimable)
          id
      rw [claiming] at left
      refine ⟨entries, moved, ?_⟩
      rw [← left]
      exact rowHistory_append ..
  | @recordCommitted p attemptsAfter now job rest result isRecorded =>
      obtain ⟨positive, bounded⟩ := sound.process_fit isRecorded
      obtain ⟨entries, moved, left⟩ :=
        sound.commit_rowStep
          (fun k =>
            .recorded k job.claim now attemptsAfter
              (terminalStatus attemptsAfter result))
          (fun _ => rfl) (fun _ => rfl)
          (by
            rw [isRecorded]
            exact List.nodup_singleton _)
          (by
            intro k old new found because
            rw [isRecorded] at because
            obtain ⟨sending, rfl⟩ := because
            exact .recorded job.claim result sending positive bounded)
          id
      rw [isRecorded] at left
      refine ⟨entries, moved, ?_⟩
      rw [← left]
      exact rowHistory_append ..
  | @requeueCommitted p now flushed flushing =>
      obtain ⟨nodup, allDead⟩ := sound.process_fit flushing
      obtain ⟨entries, moved, left⟩ :=
        sound.commit_rowStep .requeued (fun _ => rfl) (fun _ => rfl)
          (by
            rw [flushing]
            exact nodup)
          (by
            intro k old new found because
            rw [flushing] at because
            obtain ⟨loaded, member, _, rfl, isMet⟩ := because
            exact .requeued now (allDead loaded member) isMet)
          id
      rw [flushing] at left
      refine ⟨entries, moved, ?_⟩
      rw [← left, Process.openRows, List.map_map]
      exact rowHistory_append ..
  | _ => exact quiet

/-! ## Runs -/

/-- No action is excluded. -/
abbrev Unrestricted (_ : OutboxSys) (_ : OutboxAction) : Prop := True

/-- Along a run whose flushes meet the condition, the invariant holds. -/
theorem reachable_sound
    {allowed : OutboxSys → OutboxAction → Prop}
    (flushes :
      ∀ s action, allowed s action → s.Flushes meets action)
    (reachable : Reachable allowed s) :
    s.Sound meets := by
  apply Transition.Reachable.invariant _ _ reachable
  · rintro _ rfl
    exact sound_start
  · rintro s s' _ sound ⟨action, isAllowed, taken⟩
    exact sound.step (step_took taken) (flushes s action isAllowed)

/-- In every run whatever, the invariant holds for flushes of any row. -/
theorem sound_of_reachable
    {allowed : OutboxSys → OutboxAction → Prop}
    (reachable : Reachable allowed s) :
    s.Sound anyStatus :=
  reachable_sound (fun _ _ _ => flushes_any) reachable

/-- The state after a list of actions, when all are allowed and possible. -/
def play
    (allowed : OutboxSys → OutboxAction → Prop)
    [∀ s action, Decidable (allowed s action)] :
    OutboxSys → List OutboxAction → Option OutboxSys :=
  Transition.play step allowed

/-- A list of actions that is played is a run. -/
theorem later_of_play
    {allowed : OutboxSys → OutboxAction → Prop}
    [∀ s action, Decidable (allowed s action)]
    {actions : List OutboxAction}
    (played : s.play allowed actions = some s') :
    Later allowed s s' :=
  Transition.later_of_play played

/-- A run that is played from the start. -/
theorem reachable_of_play
    {allowed : OutboxSys → OutboxAction → Prop}
    [∀ s action, Decidable (allowed s action)]
    {actions : List OutboxAction}
    (played : start.play allowed actions = some s) :
    Reachable allowed s :=
  ⟨start, rfl, later_of_play played⟩

end OutboxSys

end Crossing
