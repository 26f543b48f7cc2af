import Crossing.OutboxRequeue

namespace Crossing

open Relational

/-!
# Requests and the results that are recorded

A worker makes one request under each claim and records what came of it by an
UPDATE that asks only whether the row is `sending`.  As long as each such
UPDATE comes from the worker that has claimed the row last, a row fails only
when the request of its latest claim has failed.
-/

/-! ## Claims and requests -/

/-- The claim of a row that an entry tells of. -/
def OutboxEntry.claimOf (id : Id) : OutboxEntry → Option Nat
  | .claimed id' claim _ _ => if id' = id then some claim else none
  | _ => none

/-- The number of the latest claim of a row. -/
def latestClaim (id : Id) (log : List OutboxEntry) : Option Nat :=
  (log.filterMap (OutboxEntry.claimOf id)).getLast?

namespace Process

/-- The requests, by row and claim, that a process has still to make. -/
def due : Process → List (Id × Nat)
  | .posting job rest => (job :: rest).map fun one => (one.id, one.claim)
  | .loading _ _ rest => rest.map fun one => (one.id, one.claim)
  | .recording _ _ _ rest => rest.map fun one => (one.id, one.claim)
  | .recorded _ _ _ _ rest => rest.map fun one => (one.id, one.claim)
  | _ => []

/-- The request that a process has made and not settled yet, and its result. -/
def made : Process → Option (Job × StripeResult)
  | .loading job result _ => some (job, result)
  | .recording _ job result _ => some (job, result)
  | .recorded job result _ _ _ => some (job, result)
  | _ => none

/-- The job whose result a process records next. -/
def records : Process → Option Job
  | .recording _ job _ _ => some job
  | _ => none

/-- The job whose result a process commits next. -/
def settles : Process → Option Job
  | .recorded job _ _ _ _ => some job
  | _ => none

@[simp] theorem due_next (jobs : List Job) :
    (next jobs).due = jobs.map fun one => (one.id, one.claim) := by
  cases jobs <;> rfl

@[simp] theorem due_afterJob (rest : List Job) :
    (afterJob rest).due = rest.map fun one => (one.id, one.claim) := by
  rw [afterJob, due_next, List.map_map]
  rfl

@[simp] theorem made_next (jobs : List Job) : (next jobs).made = none := by
  cases jobs <;> rfl

@[simp] theorem made_afterJob (rest : List Job) :
    (afterJob rest).made = none :=
  made_next _

@[simp] theorem settles_next (jobs : List Job) :
    (next jobs).settles = none := by
  cases jobs <;> rfl

@[simp] theorem settles_afterJob (rest : List Job) :
    (afterJob rest).settles = none :=
  settles_next _

end Process

namespace OutboxSys

variable {s s' : OutboxSys} {p : Nat}

/--
A terminal UPDATE that finds its row in `sending` comes from the worker that
has claimed the row last.
-/
def RecordsLatest (s : OutboxSys) : OutboxAction → Prop
  | .record p _ =>
      ∀ job ∈ (s.processes p).records, ∀ row ∈ s.row job.id,
        row.status = .sending → latestClaim job.id s.log = some job.claim
  | _ => True

/-- Each claim of a row makes one request, whose result is in the log. -/
structure PostsOnce (s : OutboxSys) : Prop where
  numbered :
    ∀ id claim result, .posted id claim result ∈ s.log → claim < s.claims
  due :
    ∀ p, ∀ request ∈ (s.processes p).due,
      request.2 < s.claims ∧
        ∀ result, .posted request.1 request.2 result ∉ s.log
  nodup : ∀ p, (s.processes p).due.Nodup
  apart :
    ∀ p q, p ≠ q → ∀ request ∈ (s.processes p).due,
      request ∉ (s.processes q).due
  once :
    ∀ id claim result result',
      .posted id claim result ∈ s.log →
        .posted id claim result' ∈ s.log → result = result'
  made :
    ∀ p job result, (s.processes p).made = some (job, result) →
      .posted job.id job.claim result ∈ s.log

/-- A step that makes no request and takes no job. -/
theorem PostsOnce.keep
    (posts : s.PostsOnce)
    (others : ∀ q, q ≠ p → s'.processes q = s.processes q)
    (shrinks : (s'.processes p).due.Sublist (s.processes p).due)
    (made :
      ∀ job result, (s'.processes p).made = some (job, result) →
        (s.processes p).made = some (job, result))
    (sameClaims : s'.claims = s.claims)
    (sameLog :
      ∀ id claim result,
        .posted id claim result ∈ s'.log ↔ .posted id claim result ∈ s.log) :
    s'.PostsOnce := by
  have subset : ∀ q, (s'.processes q).due.Sublist (s.processes q).due := by
    intro q
    by_cases isP : q = p
    · rw [isP]
      exact shrinks
    · rw [others q isP]
  constructor
  · intro id claim result isPosted
    rw [sameClaims]
    exact posts.numbered id claim result ((sameLog ..).mp isPosted)
  · intro q request isDue
    obtain ⟨below, unposted⟩ := posts.due q request ((subset q).subset isDue)
    refine ⟨sameClaims ▸ below, ?_⟩
    intro result isPosted
    exact unposted result ((sameLog ..).mp isPosted)
  · intro q
    exact (posts.nodup q).sublist (subset q)
  · intro q r different request isDue isDue'
    exact posts.apart q r different request ((subset q).subset isDue)
      ((subset r).subset isDue')
  · intro id claim result result' first second
    exact posts.once id claim result result' ((sameLog ..).mp first)
      ((sameLog ..).mp second)
  · intro q job result isMade
    rw [sameLog]
    apply posts.made q job result
    by_cases isP : q = p
    · rw [isP] at isMade ⊢
      exact made job result isMade
    · rw [← others q isP]
      exact isMade

/-- A process goes on with no more requests to make than before. -/
theorem PostsOnce.become
    {process : Process}
    (posts : s.PostsOnce)
    (shrinks : process.due.Sublist (s.processes p).due)
    (made :
      ∀ job result, process.made = some (job, result) →
        (s.processes p).made = some (job, result)) :
    (s.become p process).PostsOnce := by
  refine posts.keep (fun _ other => become_other other) ?_ ?_ rfl
    fun _ _ _ => Iff.rfl
  · rw [become_self]
    exact shrinks
  · rw [become_self]
    exact made

/-- A process goes on with no request. -/
theorem PostsOnce.quiet
    {process : Process}
    (posts : s.PostsOnce)
    (due : process.due = [])
    (made : process.made = none) :
    (s.become p process).PostsOnce := by
  apply posts.become
  · rw [due]
    exact List.nil_sublist _
  · rw [made]
    exact fun _ _ isMade => nomatch isMade

/-- A transaction is committed, which makes no request. -/
theorem PostsOnce.commit
    {process : Process}
    (posts : s.PostsOnce)
    (entries : List OutboxEntry)
    (noPost : ∀ id claim result, .posted id claim result ∉ entries)
    (shrinks : process.due.Sublist (s.processes p).due)
    (made : process.made = none) :
    ((s.commit p entries).become p process).PostsOnce := by
  refine posts.keep (fun _ other => become_other other) ?_ ?_ rfl ?_
  · rw [become_self]
    exact shrinks
  · rw [become_self, made]
    exact fun _ _ isMade => nomatch isMade
  · intro id claim result
    change .posted id claim result ∈ s.log ++ entries ↔ _
    simp [noPost]

/-- Before the first step no request is made. -/
theorem postsOnce_start : start.PostsOnce where
  numbered _ _ _ isPosted := by cases isPosted
  due _ _ isDue := by cases isDue
  nodup _ := .nil
  apart _ _ _ _ isDue := by cases isDue
  once _ _ _ _ isPosted := by cases isPosted
  made _ _ _ isMade := by cases isMade

/-- A worker makes the request that is due first. -/
theorem PostsOnce.post
    {job : Job}
    {rest : List Job}
    (posts : s.PostsOnce)
    (posting : s.processes p = .posting job rest)
    (result : StripeResult) :
    ((s.record (.posted job.id job.claim result)).become p
        (.loading job result rest)).PostsOnce := by
  have dueFirst : (job.id, job.claim) ∈ (s.processes p).due := by
    rw [posting]
    exact List.mem_cons_self
  obtain ⟨firstBelow, firstUnposted⟩ := posts.due p _ dueFirst
  have restDue :
      (s.processes p).due =
        (job.id, job.claim) :: rest.map fun one => (one.id, one.claim) := by
    rw [posting]
    rfl
  have notInRest :
      (job.id, job.claim) ∉ rest.map fun one => (one.id, one.claim) := by
    have nodup := posts.nodup p
    rw [restDue] at nodup
    exact (List.nodup_cons.mp nodup).1
  have isLogged :
      ∀ id claim result',
        .posted id claim result' ∈
            s.log ++ [.posted job.id job.claim result] ↔
          .posted id claim result' ∈ s.log ∨
            (id, claim) = (job.id, job.claim) ∧ result' = result := by
    intro id claim result'
    simp [and_assoc]
  have subset :
      ∀ q,
        (((s.record (.posted job.id job.claim result)).become p
            (.loading job result rest)).processes q).due.Sublist
          (s.processes q).due := by
    intro q
    by_cases isP : q = p
    · rw [isP, become_self, restDue]
      exact List.sublist_cons_self _ _
    · rw [become_other isP]
      exact .refl _
  constructor
  · intro id claim result' isPosted
    rcases (isLogged ..).mp isPosted with isOld | ⟨same, _⟩
    · exact posts.numbered id claim result' isOld
    · cases same
      exact firstBelow
  · intro q request isDue
    obtain ⟨below, unposted⟩ := posts.due q request ((subset q).subset isDue)
    refine ⟨below, ?_⟩
    intro result' isPosted
    rcases (isLogged ..).mp isPosted with isOld | ⟨same, _⟩
    · exact unposted result' isOld
    · -- The request that is made is due nowhere any more.
      have isFirst : request = (job.id, job.claim) := same
      by_cases isP : q = p
      · rw [isP, become_self, isFirst] at isDue
        exact notInRest isDue
      · apply posts.apart p q (Ne.symm isP) _ dueFirst
        rw [← isFirst]
        exact (subset q).subset isDue
  · intro q
    exact (posts.nodup q).sublist (subset q)
  · intro q r different request isDue isDue'
    exact posts.apart q r different request ((subset q).subset isDue)
      ((subset r).subset isDue')
  · intro id claim first second isFirst isSecond
    rcases (isLogged ..).mp isFirst with isOld | ⟨same, rfl⟩
    · rcases (isLogged ..).mp isSecond with isOld' | ⟨same', _⟩
      · exact posts.once id claim first second isOld isOld'
      · cases same'
        exact (firstUnposted _ isOld).elim
    · rcases (isLogged ..).mp isSecond with isOld' | ⟨_, rfl⟩
      · cases same
        exact (firstUnposted _ isOld').elim
      · rfl
  · intro q job' result' isMade
    apply (isLogged ..).mpr
    by_cases isP : q = p
    · rw [isP, become_self] at isMade
      cases isMade
      exact .inr ⟨rfl, rfl⟩
    · rw [become_other isP] at isMade
      exact .inl (posts.made q job' result' isMade)

/-- A claim brings new requests to make, under a new number. -/
theorem PostsOnce.take
    {rows : List Outbox}
    (posts : s.PostsOnce)
    (entries : List OutboxEntry)
    (noPost : ∀ id claim result, .posted id claim result ∉ entries)
    (nodup : (rows.map Outbox.id).Nodup) :
    PostsOnce
      { (s.commit p entries).become p
          (.next (rows.map (Job.ofRow s.claims))) with
        claims := s.claims + 1 } := by
  have isLogged :
      ∀ id claim result,
        .posted id claim result ∈ s.log ++ entries ↔
          .posted id claim result ∈ s.log := by
    intro id claim result
    simp [noPost]
  have newDue :
      (Process.next (rows.map (Job.ofRow s.claims))).due =
        rows.map fun row => (row.id, s.claims) := by
    rw [Process.due_next, List.map_map]
    rfl
  have isDue :
      ∀ q request,
        request ∈
            (((s.commit p entries).become p
              (.next (rows.map (Job.ofRow s.claims)))).processes q).due →
          (q = p ∧ request.2 = s.claims) ∨
            (q ≠ p ∧ request ∈ (s.processes q).due) := by
    intro q request member
    by_cases isP : q = p
    · rw [isP, become_self, newDue] at member
      obtain ⟨row, _, rfl⟩ := List.mem_map.mp member
      exact .inl ⟨isP, rfl⟩
    · rw [become_other isP] at member
      exact .inr ⟨isP, member⟩
  constructor
  · intro id claim result isPosted
    exact Nat.lt_succ_of_lt
      (posts.numbered id claim result ((isLogged ..).mp isPosted))
  · intro q request member
    rcases isDue q request member with ⟨_, isNew⟩ | ⟨_, isOld⟩
    · refine ⟨by rw [isNew]; exact Nat.lt_succ_self _, ?_⟩
      intro result isPosted
      have below := posts.numbered _ _ _ ((isLogged ..).mp isPosted)
      omega
    · obtain ⟨below, unposted⟩ := posts.due q request isOld
      refine ⟨Nat.lt_succ_of_lt below, ?_⟩
      intro result isPosted
      exact unposted result ((isLogged ..).mp isPosted)
  · intro q
    by_cases isP : q = p
    · rw [isP]
      change (((s.commit p entries).become p _).processes p).due.Nodup
      rw [become_self, newDue]
      refine List.Nodup.of_map Prod.fst ?_
      rw [List.map_map]
      exact nodup
    · change (((s.commit p entries).become p _).processes q).due.Nodup
      rw [become_other isP]
      exact posts.nodup q
  · intro q r different request member member'
    rcases isDue q request member with ⟨isP, isNew⟩ | ⟨_, isOld⟩
    · rcases isDue r request member' with ⟨isP', _⟩ | ⟨_, isOld'⟩
      · exact different (isP.trans isP'.symm)
      · have below := (posts.due r request isOld').1
        omega
    · rcases isDue r request member' with ⟨_, isNew'⟩ | ⟨_, isOld'⟩
      · have below := (posts.due q request isOld).1
        omega
      · exact posts.apart q r different request isOld isOld'
  · intro id claim first second isFirst isSecond
    exact posts.once id claim first second ((isLogged ..).mp isFirst)
      ((isLogged ..).mp isSecond)
  · intro q job result isMade
    apply (isLogged ..).mpr
    change
      (((s.commit p entries).become p _).processes q).made = _ at isMade
    by_cases isP : q = p
    · rw [isP, become_self, Process.made_next] at isMade
      cases isMade
    · rw [become_other isP] at isMade
      exact posts.made q job result isMade

/-- Every step keeps to one request for each claim. -/
theorem PostsOnce.step
    {meets : OutboxStatus → Prop}
    {action : OutboxAction}
    (posts : s.PostsOnce)
    (sound : s.Sound meets)
    (took : s.Took action s') :
    s'.PostsOnce := by
  have written (p : Nat) (new : Outbox) : (s.wrote p new).PostsOnce :=
    ⟨posts.numbered, posts.due, posts.nodup, posts.apart, posts.once,
      posts.made⟩
  have rolledBack (p : Nat) : (s.rollback p).PostsOnce :=
    ⟨posts.numbered, posts.due, posts.nodup, posts.apart, posts.once,
      posts.made⟩
  cases took with
  | transacted =>
      exact
        ⟨posts.numbered, posts.due, posts.nodup, posts.apart, posts.once,
          posts.made⟩
  | began => exact posts.quiet rfl rfl
  | selected => exact posts.quiet rfl rfl
  | claimMissed => exact posts.quiet rfl rfl
  | claimed => exact (written _ _).quiet rfl rfl
  | claimsCommitted claiming =>
      apply posts.take
      · simp
      · exact
          (Locks.keys_filterMap_read ..).nodup (sound.process_fit claiming).2
  | posted posting => exact posts.post posting _
  | loaded loading =>
      apply posts.become
      · rw [loading]
        exact .refl _
      · rw [loading]
        exact fun _ _ isMade => isMade
  | passed loading =>
      apply posts.become
      · rw [loading, Process.due_afterJob]
        exact .refl _
      · simp
  | recordMissed recording =>
      apply posts.become
      · rw [recording, Process.due_afterJob]
        exact .refl _
      · simp
  | @recorded p now job rest result seen old new recording =>
      apply (written p new).become
      · change List.Sublist _ (s.processes p).due
        rw [recording]
        exact .refl _
      · change ∀ _ _, _ → (s.processes p).made = _
        rw [recording]
        exact fun _ _ isMade => isMade
  | recordCommitted isRecorded =>
      apply posts.commit
      · simp
      · rw [isRecorded, Process.due_afterJob]
        exact .refl _
      · exact Process.made_afterJob _
  | viewed => exact posts.quiet rfl rfl
  | deadSelected => exact posts.quiet rfl rfl
  | flushMissed => exact (rolledBack _).quiet rfl rfl
  | flushed => exact (written _ _).quiet rfl rfl
  | requeueCommitted =>
      exact posts.commit _ (by simp) (List.nil_sublist _) rfl
  | stopped => exact (rolledBack _).quiet rfl rfl

/-- A worker that has written a result has the latest claim of the row. -/
def SettlesLatest (s : OutboxSys) : Prop :=
  ∀ p, ∀ job ∈ (s.processes p).settles,
    latestClaim job.id s.log = some job.claim

/-- Entries without a claim of the row leave its latest claim. -/
theorem latestClaim_append
    {id : Id}
    {log recent : List OutboxEntry}
    (unclaimed : ∀ entry ∈ recent, entry.claimOf id = none) :
    latestClaim id (log ++ recent) = latestClaim id log := by
  have nothing : recent.filterMap (OutboxEntry.claimOf id) = [] :=
    List.filterMap_eq_nil_iff.mpr unclaimed
  unfold latestClaim
  rw [List.filterMap_append, nothing, List.append_nil]

/-- A process goes on, and the rows that others settle are not claimed. -/
theorem SettlesLatest.keep
    {process : Process}
    {recent : List OutboxEntry}
    (settles : s.SettlesLatest)
    (isState : s'.processes = Function.update s.processes p process)
    (isLog : s'.log = s.log ++ recent)
    (unclaimed :
      ∀ q, q ≠ p → ∀ job ∈ (s.processes q).settles, ∀ entry ∈ recent,
        entry.claimOf job.id = none)
    (settled :
      ∀ job ∈ process.settles, latestClaim job.id s'.log = some job.claim) :
    s'.SettlesLatest := by
  intro q job isJob
  rw [isState] at isJob
  by_cases isP : q = p
  · rw [isP, Function.update_self] at isJob
    exact settled job isJob
  · rw [Function.update_of_ne isP] at isJob
    rw [isLog, latestClaim_append (unclaimed q isP job isJob)]
    exact settles q job isJob

/-- A process goes on and settles nothing next. -/
theorem SettlesLatest.become
    {process : Process}
    (settles : s.SettlesLatest)
    (unsettled : process.settles = none) :
    (s.become p process).SettlesLatest := by
  refine SettlesLatest.keep (p := p) settles rfl (List.append_nil _).symm ?_ ?_
  · simp
  · simp [unsettled]

/-- The row that a worker settles is the one that it holds. -/
theorem settles_open
    {process : Process}
    {job : Job}
    (isJob : job ∈ process.settles) :
    job.id ∈ process.openRows := by
  cases process with
  | recorded =>
      cases isJob
      exact List.mem_singleton_self _
  | _ => cases isJob

/-- Every step keeps the latest claim with the worker that settles the row. -/
theorem SettlesLatest.step
    {meets : OutboxStatus → Prop}
    {action : OutboxAction}
    (settles : s.SettlesLatest)
    (sound : s.Sound meets)
    (latest : s.RecordsLatest action)
    (took : s.Took action s') :
    s'.SettlesLatest := by
  have written (p : Nat) (new : Outbox) : (s.wrote p new).SettlesLatest :=
    settles
  have rolledBack (p : Nat) : (s.rollback p).SettlesLatest := settles
  cases took with
  | transacted => exact settles
  | claimed => exact (written _ _).become rfl
  | @claimsCommitted p now lease claimed claiming =>
      refine settles.keep rfl rfl ?_ (by simp)
      intro q other job isJob entry isEntry
      obtain ⟨id, isClaimed, rfl⟩ := List.mem_map.mp isEntry
      have different : id ≠ job.id := by
        rintro rfl
        -- Only one of the two workers can hold the row.
        apply other
        apply sound.locks.holder_unique (settles_open isJob)
        rw [claiming]
        exact isClaimed
      simp [OutboxEntry.claimOf, different]
  | posted =>
      refine settles.keep rfl rfl ?_ (by simp [Process.settles])
      simp [OutboxEntry.claimOf]
  | passed => exact settles.become (Process.settles_afterJob _)
  | recordMissed => exact settles.become (Process.settles_afterJob _)
  | @recorded p now job rest result seen old new recording answered =>
      obtain ⟨_, found, sending⟩ :=
        sound.locks.update_found answered (by
          rw [recording]
          simp [Process.openRows])
      have isLatest : latestClaim job.id s.log = some job.claim := by
        apply latest job _ old found (of_decide_eq_true sending)
        rw [recording]
        rfl
      refine (written p new).keep rfl (List.append_nil _).symm (by simp) ?_
      rintro _ ⟨⟩
      exact isLatest
  | recordCommitted =>
      refine settles.keep rfl rfl ?_ (by simp)
      simp [OutboxEntry.claimOf]
  | flushMissed => exact (rolledBack _).become rfl
  | flushed => exact (written _ _).become rfl
  | requeueCommitted =>
      refine settles.keep rfl rfl ?_ (by simp [Process.settles])
      intro q _ job _ entry isEntry
      obtain ⟨row, _, rfl⟩ := List.mem_map.mp isEntry
      rfl
  | stopped => exact (rolledBack _).become rfl
  | _ => exact settles.become rfl

/-- In every run, each claim of a row makes one request. -/
theorem postsOnce_of_reachable
    {allowed : OutboxSys → OutboxAction → Prop}
    (reachable : Reachable allowed s) :
    s.PostsOnce := by
  apply Transition.Reachable.invariant _ _ reachable
  · rintro _ rfl
    exact postsOnce_start
  · rintro s s' reachable posts ⟨action, _, taken⟩
    exact posts.step (sound_of_reachable reachable) (step_took taken)

/-- Where results are recorded under the latest claim, they are settled so. -/
theorem settlesLatest_of_reachable
    (reachable : Reachable RecordsLatest s) :
    s.SettlesLatest := by
  apply Transition.Reachable.invariant _ _ reachable
  · rintro _ rfl p job isJob
    cases isJob
  · rintro s s' reachable settles ⟨action, latest, taken⟩
    exact settles.step (sound_of_reachable reachable) latest (step_took taken)

/-- A row that leaves `sending` for a failure is settled by a worker. -/
theorem settled_of_failed
    {id : Id}
    {meets : OutboxStatus → Prop}
    {action : OutboxAction}
    {row row' : Outbox}
    (sound : s.Sound meets)
    (took : s.Took action s')
    (found : s.row id = some row)
    (found' : s'.row id = some row')
    (sending : row.status = .sending)
    (failed : row'.status ∈ [OutboxStatus.failed, .dead]) :
    ∃ p job result now attemptsAfter rest,
      action = .commitRecord p ∧
        s.processes p = .recorded job result now attemptsAfter rest ∧
        job.id = id ∧
        row'.status = terminalStatus attemptsAfter result := by
  have kept (same : s'.row id = s.row id) : False := by
    rw [same, found] at found'
    cases found'
    simp [sending] at failed
  cases took with
  | @transacted txn db ran =>
      refine (kept ?_).elim
      change db.billingOutbox.find id = s.row id
      rcases txn.outbox ran with same | ⟨_, _, _, _, _, _, added⟩
      · rw [same]
        rfl
      · rw [found]
        exact Table.find_insert_of_some added found
  | claimsCommitted claiming =>
      rcases sound.locks.published found with
        ⟨_, same⟩ | ⟨_, new, because, isNew⟩
      · exact (kept (same.trans found.symm)).elim
      · rw [claiming] at because
        obtain ⟨_, rfl⟩ := because
        cases isNew.symm.trans found'
        simp [claimedRow] at failed
  | @recordCommitted p attemptsAfter now job rest result isRecorded =>
      rcases sound.locks.published found with
        ⟨_, same⟩ | ⟨isOpen, new, because, isNew⟩
      · exact (kept (same.trans found.symm)).elim
      · rw [isRecorded] at isOpen because
        obtain ⟨_, rfl⟩ := because
        cases isNew.symm.trans found'
        have isJob : id = job.id := List.mem_singleton.mp isOpen
        exact
          ⟨p, job, result, now, attemptsAfter, rest, rfl, isRecorded,
            isJob.symm, terminalValues_status ..⟩
  | requeueCommitted flushing =>
      rcases sound.locks.published found with
        ⟨_, same⟩ | ⟨_, new, because, isNew⟩
      · exact (kept (same.trans found.symm)).elim
      · have fits := sound.process_fit flushing
        rw [flushing] at because
        obtain ⟨loaded, member, _, rfl, _⟩ := because
        cases isNew.symm.trans found'
        rw [requeuedRow_dead (fits.2 loaded member)] at failed
        simp at failed
  | _ => exact (kept rfl).elim

/--
Where results are recorded under the latest claim, a row fails only when the
request of its latest claim has failed, and a commit that changes the row comes
from the worker with the latest claim.
-/
theorem failed_by_latest_request
    {action : OutboxAction}
    (reachable : Reachable RecordsLatest s)
    (taken : s.step action = some s')
    (id : Id) :
    (∀ row row',
        s.row id = some row →
          s'.row id = some row' →
            row.status = .sending →
              row'.status ∈ [OutboxStatus.failed, .dead] →
                ∃ claim error,
                  latestClaim id s.log = some claim ∧
                    .posted id claim (.failed error) ∈ s.log ∧
                    ∀ result, .posted id claim result ∈ s.log →
                      result = .failed error) ∧
      ∀ p,
        action = .commitRecord p →
          s'.row id ≠ s.row id →
            ∃ job, job ∈ (s.processes p).settles ∧
              job.id = id ∧
              latestClaim id s.log = some job.claim := by
  have sound := sound_of_reachable reachable
  have posts := postsOnce_of_reachable reachable
  have settles := settlesLatest_of_reachable reachable
  have took := step_took taken
  constructor
  · intro row row' found found' sending failed
    obtain ⟨p, job, result, now, attemptsAfter, rest, _, isRecorded, rfl,
      isStatus⟩ := settled_of_failed sound took found found' sending failed
    have isLatest : latestClaim job.id s.log = some job.claim := by
      apply settles p job
      rw [isRecorded]
      rfl
    have isPosted : .posted job.id job.claim result ∈ s.log := by
      apply posts.made p job result
      rw [isRecorded]
      rfl
    rw [isStatus] at failed
    cases result with
    | noop => simp [terminalStatus] at failed
    | ok => simp [terminalStatus] at failed
    | failed error =>
        refine ⟨job.claim, error, isLatest, isPosted, ?_⟩
        intro result isOther
        exact posts.once _ _ _ _ isOther isPosted
  · rintro p rfl moved
    cases took with
    | @recordCommitted _ attemptsAfter now job rest result isRecorded =>
        have isJob : job ∈ (s.processes p).settles := by
          rw [isRecorded]
          rfl
        have isId : job.id = id := by
          by_contra other
          apply moved
          cases found : s.row id with
          | none =>
              have missing : s.db.billingOutbox.find id = none := found
              change (s.locks.publish s.db.billingOutbox p).find id = none
              rw [Locks.find_publish, missing]
              rfl
          | some row =>
              rcases sound.locks.published found with
                ⟨_, same⟩ | ⟨isOpen, _⟩
              · exact same
              · rw [isRecorded] at isOpen
                exact (other (List.mem_singleton.mp isOpen).symm).elim
        exact ⟨job, isJob, isId, isId ▸ settles p job isJob⟩

/-! ## Two runs -/

/-- The condition of a terminal UPDATE can be computed. -/
instance (s : OutboxSys) : ∀ action, Decidable (s.RecordsLatest action)
  | .record p _ =>
      inferInstanceAs
        (Decidable
          (∀ job ∈ (s.processes p).records, ∀ row ∈ s.row job.id,
            row.status = .sending →
              latestClaim job.id s.log = some job.claim))
  | .txn _ => .isTrue trivial
  | .begin .. => .isTrue trivial
  | .select .. => .isTrue trivial
  | .claim _ => .isTrue trivial
  | .commitClaims _ => .isTrue trivial
  | .post .. => .isTrue trivial
  | .load _ => .isTrue trivial
  | .commitRecord _ => .isTrue trivial
  | .view .. => .isTrue trivial
  | .selectDead .. => .isTrue trivial
  | .flush _ => .isTrue trivial
  | .commitRequeue _ => .isTrue trivial
  | .stop _ => .isTrue trivial

/--
The first worker waits for Stripe longer than its lease; the second one takes
the row over and is accepted.
-/
def slowRequest : List OutboxAction :=
  [.txn (.createPrincipal none none 1 1),
    .txn (.attachStripeCustomer 1 "cus_1"),
    .txn (.enqueue .plain 1 5 1 1)] ++
    takeover.drop 1 ++
      [.post 1 true .accepted, .post 0 true (.raised "ReadTimeout"), .load 0,
        .record 0 40000000]

/-- The late failure of the first worker is recorded over the accepted charge. -/
theorem accepted_charge_fails :
    ∃ s s',
      Reachable Unrestricted s ∧
        s.step (.commitRecord 0) = some s' ∧
        s.log =
          [.claimed 1 0 0 30, .claimed 1 1 40000000 30, .posted 1 1 .ok,
            .posted 1 0 (.failed "ReadTimeout")] ∧
        latestClaim 1 s.log = some 1 ∧
        (s.row 1).map Outbox.status = some .sending ∧
        (s'.row 1).map Outbox.status = some .failed := by
  have runs :
      ((start.play Unrestricted slowRequest).bind fun s =>
        (s.step (.commitRecord 0)).map fun s' =>
          (s.log, latestClaim 1 s.log, (s.row 1).map Outbox.status,
            (s'.row 1).map Outbox.status)) =
        some
          ([.claimed 1 0 0 30, .claimed 1 1 40000000 30, .posted 1 1 .ok,
              .posted 1 0 (.failed "ReadTimeout")],
            some 1, some .sending, some .failed) := by
    decide +kernel
  obtain ⟨s, played, goesOn⟩ := Option.bind_eq_some_iff.mp runs
  obtain ⟨s', commits, facts⟩ := Option.map_eq_some_iff.mp goesOn
  simp only [Prod.mk.injEq] at facts
  obtain ⟨isLog, isLatest, sending, failed⟩ := facts
  exact
    ⟨s, s', reachable_of_play played, commits, isLog, isLatest, sending,
      failed⟩

/-- A worker that is in time, and whose request times out. -/
def timedOut : List OutboxAction :=
  slowRequest.take 3 ++
    [.begin 0 0 none 1, .select 0 [1], .claim 0, .commitClaims 0,
      .post 0 true (.raised "ReadTimeout"), .load 0, .record 0 0]

/-- The row fails, and the request of its only claim has failed. -/
theorem failed_by_latest_request_timedOut :
    ∃ s s',
      start.play RecordsLatest timedOut = some s ∧
        s.step (.commitRecord 0) = some s' ∧
        (s'.row 1).map Outbox.status = some .failed ∧
        ∃ claim error,
          latestClaim 1 s.log = some claim ∧
            .posted 1 claim (.failed error) ∈ s.log := by
  have runs :
      ((start.play RecordsLatest timedOut).bind fun s =>
        (s.step (.commitRecord 0)).map fun s' =>
          ((s.row 1).map Outbox.status, (s'.row 1).map Outbox.status)) =
        some (some .sending, some .failed) := by
    decide +kernel
  obtain ⟨s, played, goesOn⟩ := Option.bind_eq_some_iff.mp runs
  obtain ⟨s', commits, facts⟩ := Option.map_eq_some_iff.mp goesOn
  simp only [Prod.mk.injEq] at facts
  obtain ⟨row, found, sending⟩ := Option.map_eq_some_iff.mp facts.1
  obtain ⟨row', found', failed⟩ := Option.map_eq_some_iff.mp facts.2
  obtain ⟨claim, error, isLatest, isPosted, _⟩ :=
    (failed_by_latest_request (reachable_of_play played) commits 1).1 row row'
      found found' sending (by simp [failed])
  exact ⟨s, s', played, commits, facts.2, claim, error, isLatest, isPosted⟩

end OutboxSys

end Crossing
