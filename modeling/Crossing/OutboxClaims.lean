import Crossing.OutboxInvariant
import Crossing.Runs

namespace Crossing

open Relational

/-!
# How claims of an outbox row follow each other

The history of a row lists the claims, results and requeues that were committed
for it.  Its last entry fixes the columns that the next claim tests, so that
consecutive entries keep the distance of `Follows`: a lease between two claims,
the backoff between a failure and the claim after it.  No clock is assumed to
be monotone, and each process may have its own lease.
-/

namespace OutboxEntry

/-- Does the entry end what a claim has begun? -/
def settles : OutboxEntry → Bool
  | .recorded .. => true
  | .requeued _ => true
  | _ => false

/-- Does the entry begin a new attempt? -/
def reopens : OutboxEntry → Bool
  | .claimed .. => true
  | .requeued _ => true
  | _ => false

/-- What the last entry about a row says about its columns. -/
def Describes : OutboxEntry → Outbox → Prop
  | .claimed _ _ claimedAt _, row =>
      row.status = .sending ∧ row.claimedAt = some claimedAt
  | .recorded _ _ recordedAt attempts status, row =>
      row.status = status ∧
        status ∉ [OutboxStatus.pending, .sending] ∧
        (status = .failed →
          row.nextAttemptAt =
            some
              (recordedAt +
                backoffMinutes attempts * 60 * microsPerSecond))
  | .requeued _, row => row.status = .pending
  | .posted .., _ => False

/-- How one entry about a row may follow another. -/
def Follows : OutboxEntry → OutboxEntry → Prop
  | .claimed _ _ claimedAt _, .claimed _ _ claimedAt' lease =>
      1 ≤ lease ∧ claimedAt + lease * microsPerSecond ≤ claimedAt'
  | .recorded _ _ recordedAt attempts status, .claimed _ _ claimedAt _ =>
      status = .failed ∧
        recordedAt + backoffMinutes attempts * 60 * microsPerSecond ≤
          claimedAt
  | .recorded .., .recorded .. => False
  | _, _ => True

end OutboxEntry

/-! ## One step -/

section OneStep

variable
  {meets : OutboxStatus → Prop}
  {id : Id}
  {row row' : Option Outbox}
  {entries : List OutboxEntry}
  {last : OutboxEntry}

/-- A recorded status is terminal or failed. -/
theorem terminalStatus_settled
    (attemptsAfter : Nat)
    (result : StripeResult) :
    terminalStatus attemptsAfter result ∉
      [OutboxStatus.pending, .sending] := by
  cases result with
  | failed error =>
      unfold terminalStatus
      dsimp only
      split <;> decide
  | _ => simp [terminalStatus]

/-- A recorded failure sets the instant of the next attempt. -/
theorem terminalValues_next
    {now : Int}
    {attemptsAfter : Nat}
    {result : StripeResult}
    {old : Outbox}
    (failed : terminalStatus attemptsAfter result = .failed) :
    (terminalValues now attemptsAfter result old).nextAttemptAt =
      some (now + backoffMinutes attemptsAfter * 60 * microsPerSecond) := by
  cases result with
  | failed error =>
      unfold terminalStatus at failed
      unfold terminalValues
      dsimp only at failed ⊢
      split at failed
      · cases failed
      · rename_i retries
        rw [if_neg retries]
  | _ => cases failed

/-- A recorded result is stamped with its instant. -/
@[simp] theorem terminalValues_claimedAt
    (now : Int)
    (attemptsAfter : Nat)
    (result : StripeResult)
    (old : Outbox) :
    (terminalValues now attemptsAfter result old).claimedAt = some now := by
  unfold terminalValues
  cases result with
  | failed error => dsimp only; split <;> rfl
  | _ => rfl

/-- A step that changes the history leaves one entry that describes the row. -/
theorem RowStep.describes
    (step : RowStep meets id row row' entries) :
    entries = [] ∧ (row' = row ∨ row = none) ∨
      ∃ entry new,
        entries = [entry] ∧ row' = some new ∧ entry.Describes new := by
  cases step with
  | still => exact .inl ⟨rfl, .inl rfl⟩
  | added => exact .inl ⟨rfl, .inr rfl⟩
  | claimed => exact .inr ⟨_, _, rfl, rfl, rfl, rfl⟩
  | recorded claim result sending =>
      refine .inr ⟨_, _, rfl, rfl, terminalValues_status .., ?_, ?_⟩
      · exact terminalStatus_settled _ _
      · exact terminalValues_next
  | requeued now dead =>
      refine .inr ⟨_, _, rfl, rfl, ?_⟩
      rw [requeuedRow_dead dead]
      rfl

/-- A claimed row was due, or its lease had run out. -/
theorem claimable_cases
    {now stale : Int}
    {old : Outbox}
    (isClaimable : claimable now stale old = true) :
    (old.status ∈ [OutboxStatus.pending, .failed] ∧
        ∀ instant, old.nextAttemptAt = some instant → instant ≤ now) ∨
      (old.status = .sending ∧
        ∀ instant, old.claimedAt = some instant → instant ≤ stale) := by
  unfold claimable at isClaimable
  simp only [Bool.or_eq_true, Bool.and_eq_true, decide_eq_true_eq]
    at isClaimable
  rcases isClaimable with ⟨⟨status, due⟩, _⟩ | ⟨status, expired⟩
  · refine .inl ⟨status, ?_⟩
    intro instant isNext
    simpa [isNext] using due
  · refine .inr ⟨status, ?_⟩
    intro instant isClaimed
    simpa [isClaimed] using expired

/-- A new entry follows the one that described the row before. -/
theorem RowStep.follows
    {entry : OutboxEntry}
    {old : Outbox}
    (step : RowStep meets id (some old) row' [entry])
    (describes : last.Describes old) :
    last.Follows entry := by
  cases step with
  | claimed claim leased isClaimable =>
      have tested := claimable_cases isClaimable
      cases last with
      | claimed _ _ claimedAt _ =>
          obtain ⟨sending, isClaimed⟩ := describes
          rcases tested with ⟨status, _⟩ | ⟨_, expired⟩
          · simp [sending] at status
          · have stale := expired claimedAt isClaimed
            unfold staleAt at stale
            exact ⟨leased, by omega⟩
      | recorded _ _ recordedAt attempts status =>
          obtain ⟨isStatus, settled, next⟩ := describes
          rcases tested with ⟨retryable, due⟩ | ⟨sending, _⟩
          · rw [isStatus] at retryable
            have failed : status = .failed := by
              simp at retryable settled
              tauto
            exact ⟨failed, due _ (next failed)⟩
          · simp [← isStatus, sending] at settled
      | _ => trivial
  | recorded claim result sending =>
      cases last with
      | recorded =>
          obtain ⟨isStatus, settled, _⟩ := describes
          simp [← isStatus, sending] at settled
      | _ => trivial
  | requeued => cases last <;> trivial

end OneStep

/-! ## Histories -/

/-- The history of a row keeps the distances, and its end describes the row. -/
structure OutboxSys.Ordered (s : OutboxSys) (id : Id) : Prop where
  chain : (rowHistory id s.log).IsChain OutboxEntry.Follows
  latest :
    ∀ last ∈ (rowHistory id s.log).getLast?,
      ∃ row, s.row id = some row ∧ last.Describes row

namespace OutboxSys

variable {s s' : OutboxSys} {id : Id}

/-- A step keeps the history of a row in order. -/
theorem Ordered.step
    {meets : OutboxStatus → Prop}
    {entries : List OutboxEntry}
    (ordered : s.Ordered id)
    (step : RowStep meets id (s.row id) (s'.row id) entries)
    (grown : rowHistory id s'.log = rowHistory id s.log ++ entries) :
    s'.Ordered id := by
  rcases step.describes with
    ⟨rfl, same | missing⟩ | ⟨entry, new, rfl, isNew, describes⟩
  · rw [List.append_nil] at grown
    refine ⟨grown ▸ ordered.chain, ?_⟩
    rw [grown, same]
    exact ordered.latest
  · rw [List.append_nil] at grown
    refine ⟨grown ▸ ordered.chain, ?_⟩
    rw [grown]
    intro last isLast
    obtain ⟨row, found, _⟩ := ordered.latest last isLast
    rw [missing] at found
    cases found
  · constructor
    · rw [grown, List.isChain_append]
      refine ⟨ordered.chain, .singleton _, ?_⟩
      intro last isLast next isNext
      obtain ⟨row, found, describesRow⟩ := ordered.latest last isLast
      cases isNext
      rw [found] at step
      exact step.follows describesRow
    · rw [grown]
      intro last isLast
      rw [List.getLast?_concat] at isLast
      cases isLast
      exact ⟨new, isNew, describes⟩

/-- In every run the history of every row is in order. -/
theorem ordered_of_reachable
    {allowed : OutboxSys → OutboxAction → Prop}
    (reachable : Reachable allowed s)
    (id : Id) :
    s.Ordered id := by
  apply Transition.Reachable.invariant _ _ reachable
  · rintro _ rfl
    exact ⟨.nil, by simp [start, rowHistory]⟩
  · rintro s s' reachable ordered ⟨action, _, taken⟩
    obtain ⟨entries, step, grown⟩ :=
      (sound_of_reachable reachable).rowStep (step_took taken) id
    exact ordered.step step grown

/-- The entries about a row that stand in a log between two others. -/
theorem Ordered.between
    {before between after : List OutboxEntry}
    {first second : OutboxEntry}
    (ordered : s.Ordered id)
    (isLog : s.log = before ++ first :: between ++ second :: after)
    (firstAbout : rowHistory id [first] = [first])
    (secondAbout : rowHistory id [second] = [second]) :
    (first :: rowHistory id between ++ [second]).IsChain
      OutboxEntry.Follows := by
  have chain := ordered.chain
  have parts :
      s.log = before ++ ([first] ++ between ++ [second]) ++ after := by
    simp [isLog]
  rw [parts] at chain
  simp only [rowHistory_append, firstAbout, secondAbout] at chain
  have inner := (List.isChain_append.mp (List.isChain_append.mp chain).1).2.1
  simpa using inner

/-- Claims that follow each other keep a lease from the first to the last. -/
theorem spaced_of_chain
    {id' : Id}
    {between : List OutboxEntry}
    {claim claim' : Nat}
    {claimedAt claimedAt' lease lease' : Int}
    (chain :
      (OutboxEntry.claimed id claim claimedAt lease ::
          (between ++
            [OutboxEntry.claimed id' claim' claimedAt' lease'])).IsChain
        OutboxEntry.Follows)
    (unsettled :
      ∀ entry ∈ between, entry.settles = false ∧ entry.isPost = false) :
    claimedAt + lease' * microsPerSecond ≤ claimedAt' := by
  induction between generalizing id claim claimedAt lease with
  | nil => exact (List.isChain_cons_cons.mp chain).1.2
  | cons head rest inductionHypothesis =>
      obtain ⟨follows, chainRest⟩ := List.isChain_cons_cons.mp chain
      have isClaim := unsettled head (by simp)
      cases head with
      | claimed _ _ middle lease'' =>
          obtain ⟨leased, later⟩ := follows
          have fromMiddle :=
            inductionHypothesis chainRest fun entry member =>
              unsettled entry (List.mem_cons_of_mem _ member)
          have positive : 0 ≤ lease'' * microsPerSecond := by
            unfold microsPerSecond
            omega
          omega
      | posted => simp [OutboxEntry.isPost] at isClaim
      | recorded => simp [OutboxEntry.settles] at isClaim
      | requeued => simp [OutboxEntry.settles] at isClaim

/-- Which entries about a row its history keeps. -/
theorem mem_rowHistory
    {entry : OutboxEntry}
    {log : List OutboxEntry} :
    entry ∈ rowHistory id log ↔
      entry ∈ log ∧ entry.row = id ∧ entry.isPost = false := by
  simp [rowHistory]

/-- The history of a single entry. -/
theorem rowHistory_singleton
    {entry : OutboxEntry}
    (about : entry.row = id)
    (noPost : entry.isPost = false) :
    rowHistory id [entry] = [entry] := by
  simp [rowHistory, about, noPost]

/-- `backoff_minutes`, for a counter that starts at one. -/
theorem backoffMinutes_eq (attempts : Nat) :
    backoffMinutes attempts = min 60 (2 ^ (attempts - 1)) := by
  unfold backoffMinutes
  congr 2
  omega

/-- What a step that claims a row finds and leaves. -/
theorem claimed_of_recent
    {action : OutboxAction}
    {recent : List OutboxEntry}
    {claim : Nat}
    {claimedAt lease : Int}
    {meets : OutboxStatus → Prop}
    (sound : s.Sound meets)
    (taken : s.step action = some s')
    (grown : s'.log = s.log ++ recent)
    (isNew : .claimed id claim claimedAt lease ∈ recent) :
    ∃ row, s.row id = some row ∧
      claimable claimedAt (staleAt claimedAt lease) row = true ∧
      s'.row id = some (claimedRow claimedAt row) := by
  obtain ⟨entries, step, histories⟩ := sound.rowStep (step_took taken) id
  rw [grown, rowHistory_append] at histories
  have member : .claimed id claim claimedAt lease ∈ entries := by
    rw [← List.append_cancel_left histories]
    exact mem_rowHistory.mpr ⟨isNew, rfl, rfl⟩
  generalize isRow : s.row id = row at step
  generalize isRow' : s'.row id = row' at step
  cases step with
  | still => cases member
  | added => cases member
  | @claimed old now lease' claim' leased isClaimable =>
      simp only [List.mem_singleton, OutboxEntry.claimed.injEq] at member
      obtain ⟨_, _, rfl, rfl⟩ := member
      exact ⟨old, rfl, isClaimable, rfl⟩
  | recorded => simp at member
  | requeued => simp at member

/-- A move to `sending` or `failed` is the end of the history. -/
theorem logged_of_moved
    {meets : OutboxStatus → Prop}
    {action : OutboxAction}
    {row : Outbox}
    (sound : s.Sound meets)
    (taken : s.step action = some s')
    (isRow : s'.row id = some row)
    (moved : s.row id ≠ some row) :
    (row.status = .sending →
        ∃ claim claimedAt lease,
          row.claimedAt = some claimedAt ∧
            rowHistory id s'.log =
              rowHistory id s.log ++ [.claimed id claim claimedAt lease]) ∧
      (row.status = .failed →
        ∃ claim recordedAt,
          row.claimedAt = some recordedAt ∧
            rowHistory id s'.log =
              rowHistory id s.log ++
                [.recorded id claim recordedAt row.attempts .failed]) := by
  obtain ⟨entries, step, histories⟩ := sound.rowStep (step_took taken) id
  rw [isRow] at step
  generalize s.row id = before at step moved
  cases step with
  | still => exact (moved rfl).elim
  | added => simp [pendingOutbox]
  | claimed claim =>
      refine ⟨fun _ => ⟨claim, _, _, rfl, histories⟩, ?_⟩
      intro failed
      cases failed
  | @recorded old now attemptsAfter claim result =>
      rw [terminalValues_status, terminalValues_attempts]
      refine ⟨?_, ?_⟩
      · intro sending
        have settled := terminalStatus_settled attemptsAfter result
        simp [sending] at settled
      · intro failed
        rw [failed] at histories
        exact ⟨claim, now, terminalValues_claimedAt .., histories⟩
  | requeued now dead =>
      rw [requeuedRow_dead dead]
      simp

/--
Claims keep a lease, or the backoff after a failure, and never take a row that
is sent, noop or dead.  Every claim and every failure is in the log.
-/
theorem claims_keep_distance
    {allowed : OutboxSys → OutboxAction → Prop}
    (reachable : Reachable allowed s)
    (id : Id) :
    -- Two claims with no result and no requeue between them.
    (∀ before between after claim claim' claimedAt claimedAt' lease lease',
        s.log =
            before ++ .claimed id claim claimedAt lease :: between ++
              .claimed id claim' claimedAt' lease' :: after →
          (∀ entry ∈ between, entry.row = id → entry.settles = false) →
            claimedAt + lease' * microsPerSecond ≤ claimedAt') ∧
      -- A recorded failure and the next claim, with no requeue between them.
      (∀ before between after claim claim' recordedAt attempts claimedAt lease,
        s.log =
            before ++ .recorded id claim recordedAt attempts .failed ::
                between ++
              .claimed id claim' claimedAt lease :: after →
          (∀ entry ∈ between, entry.row = id → entry.reopens = false) →
            recordedAt +
                (min 60 (2 ^ (attempts - 1)) : Nat) * 60 * microsPerSecond ≤
              claimedAt) ∧
      -- A step that claims the row.
      (∀ action s' recent claim claimedAt lease,
        s.step action = some s' →
          s'.log = s.log ++ recent →
            .claimed id claim claimedAt lease ∈ recent →
              ∃ row, s.row id = some row ∧
                row.status ∉ [OutboxStatus.sent, .noop, .dead] ∧
                s'.row id = some (claimedRow claimedAt row)) ∧
      -- A step that moves the row to `sending` or `failed`.
      ∀ action s' row,
        s.step action = some s' →
          s'.row id = some row →
            s.row id ≠ some row →
              (row.status = .sending →
                ∃ claim claimedAt lease,
                  row.claimedAt = some claimedAt ∧
                    rowHistory id s'.log =
                      rowHistory id s.log ++
                        [.claimed id claim claimedAt lease]) ∧
              (row.status = .failed →
                ∃ claim recordedAt,
                  row.claimedAt = some recordedAt ∧
                    rowHistory id s'.log =
                      rowHistory id s.log ++
                        [.recorded id claim recordedAt row.attempts
                          .failed]) := by
  have ordered := ordered_of_reachable reachable id
  have sound := sound_of_reachable reachable
  refine ⟨?_, ?_, ?_, ?_⟩
  · intro before between after claim claim' claimedAt claimedAt' lease lease'
      isLog unsettled
    have chain :=
      ordered.between isLog (rowHistory_singleton rfl rfl)
        (rowHistory_singleton rfl rfl)
    apply spaced_of_chain chain
    intro entry member
    obtain ⟨inLog, about, noPost⟩ := mem_rowHistory.mp member
    exact ⟨unsettled entry inLog about, noPost⟩
  · intro before between after claim claim' recordedAt attempts claimedAt lease
      isLog notReopened
    have chain :=
      ordered.between isLog (rowHistory_singleton rfl rfl)
        (rowHistory_singleton rfl rfl)
    rw [← backoffMinutes_eq]
    cases isBetween : rowHistory id between with
    | nil =>
        rw [isBetween] at chain
        exact (List.isChain_cons_cons.mp chain).1.2
    | cons head rest =>
        -- Nothing but a claim or a requeue follows a result.
        rw [isBetween] at chain
        have follows := (List.isChain_cons_cons.mp chain).1
        have member : head ∈ rowHistory id between := by simp [isBetween]
        obtain ⟨inLog, about, noPost⟩ := mem_rowHistory.mp member
        have notOpen := notReopened head inLog about
        cases head with
        | claimed => cases notOpen
        | posted => cases noPost
        | recorded => exact follows.elim
        | requeued => cases notOpen
  · intro action s' recent claim claimedAt lease taken grown isNew
    obtain ⟨row, found, isClaimable, isClaimed⟩ :=
      claimed_of_recent sound taken grown isNew
    refine ⟨row, found, ?_, isClaimed⟩
    have status := claimable_status isClaimable
    generalize row.status = value at status
    cases value <;> simp at status ⊢
  · intro action s' row taken isRow moved
    exact logged_of_moved sound taken isRow moved

/-- A row that a second worker takes over while the first one still posts. -/
def takeover : List OutboxAction :=
  [.txn (.enqueue .plain 1 5 1 1),
    .begin 0 0 none 1, .select 0 [1], .claim 0, .commitClaims 0,
    .begin 1 40000000 none 1, .select 1 [1], .claim 1, .commitClaims 1]

/-- The takeover waits for the lease of thirty seconds. -/
theorem claims_keep_distance_takeover :
    ∃ s, start.play Unrestricted takeover = some s ∧
      s.log = [.claimed 1 0 0 30, .claimed 1 1 40000000 30] ∧
      0 + 30 * microsPerSecond ≤ 40000000 := by
  have played : (start.play Unrestricted takeover).isSome = true := by decide
  obtain ⟨s, isState⟩ := Option.isSome_iff_exists.mp played
  have isLog : s.log = [.claimed 1 0 0 30, .claimed 1 1 40000000 30] := by
    have sameLog :
        (start.play Unrestricted takeover).map log =
          some [.claimed 1 0 0 30, .claimed 1 1 40000000 30] := by
      decide
    rw [isState] at sameLog
    exact Option.some.inj sameLog
  refine ⟨s, isState, isLog, ?_⟩
  exact (claims_keep_distance (reachable_of_play isState) 1).1 [] [] []
    0 1 0 40000000 30 30 isLog (by simp)

end OutboxSys

end Crossing
