import Crossing.Metering

namespace Crossing

open Relational
open Relational.Transaction

/-!
# The range of the fee counter

`accounts.fee_microcents` is an INTEGER column, which on Postgres has 32 bits.
The counter of an account is only ever increased, by the fee of every
invocation that is committed.
-/

/-- The largest value of an INTEGER column of Postgres. -/
def maxInteger : Int := 2147483647

/-- Every fee counter is a value of its column. -/
def Db.FeesFit (db : Db) : Prop :=
  ∀ account ∈ db.accounts.rows,
    -maxInteger - 1 ≤ account.feeMicrocents ∧
      account.feeMicrocents ≤ maxInteger

instance (db : Db) : Decidable db.FeesFit :=
  inferInstanceAs (Decidable (∀ account ∈ db.accounts.rows, _))

/--
A step on Postgres.  An UPDATE that sets a counter out of the range of its
column raises, and the transaction is undone.
-/
def stepPostgres (env : Env) (s : Sys) (action : Action) : Option Sys :=
  (step env s action).filter fun s' => s'.db.FeesFit

/-- The fee of what each account has spent is a value of the column. -/
def Sys.SpendsWithinRange (env : Env) (s : Sys) : Prop :=
  ∀ account ∈ s.db.accounts.rows,
    100 * env.feeBps * s.db.spent (ofAccount s.db.principals account) ≤
      maxInteger

/-! ## The counter only grows -/

/-- The counter is not decreased. -/
def Account.FeeGrows (old new : Account) : Prop :=
  old.feeMicrocents ≤ new.feeMicrocents

/-- A counter is not less than itself. -/
theorem Account.FeeGrows.refl (account : Account) : account.FeeGrows account :=
  le_refl account.feeMicrocents

/-- What grows twice grows. -/
theorem Account.FeeGrows.trans
    {first second third : Account}
    (one : first.FeeGrows second)
    (two : second.FeeGrows third) :
    first.FeeGrows third :=
  le_trans one two

section Growth

variable
  {env : Env}
  {discipline : Discipline}
  {db db' : Db}

/-- A platform fee is not negative. -/
theorem Charged.feeGrows
    {accounts charged : Table Account}
    (fee : Charged env accounts charged) :
    accounts.Extends Account.FeeGrows charged := by
  rcases fee with rfl | ⟨account, amountCents, rfl⟩
  · exact .refl .refl _
  · unfold feeCharged
    cases account with
    | none => exact .refl .refl _
    | some account =>
        by_cases free : feeMicrocentsFor env amountCents ≤ 0
        · simp only [free, ↓reduceIte]
          exact .refl .refl _
        · simp only [free, ↓reduceIte]
          refine .modify .refl ?_ ?_ _
          · intro row
            rfl
          · intro row
            exact le_add_of_nonneg_right (not_le.mp free).le

/-- No transaction decreases a counter. -/
theorem Effect.feeGrows
    {origin : Origin}
    {entries : List Entry}
    (effect : Effect env discipline origin db entries db') :
    db.accounts.Extends Account.FeeGrows db'.accounts := by
  cases effect with
  | registered opening =>
      rcases opening with rfl | ⟨account, _, _, opened⟩
      · exact .refl .refl _
      · exact .insert .refl opened
  | relinked _ _ found => exact .put .refl found (le_refl _)
  | settled settling => exact settling.billingStep.charged.feeGrows
  | resettled resettling => exact resettling.charged.feeGrows
  | _ => exact .refl .refl _

end Growth

section Runs

variable {env : Env} {s s' : Sys}

/-- What has been spent is not negative. -/
theorem spent_nonneg
    {allowed : Sys → Action → Prop}
    (reachable : Reachable env allowed s)
    (of : Id → Bool) :
    0 ≤ s.db.spent of := by
  apply List.sum_nonneg
  intro amount member
  obtain ⟨reservation, isRow, rfl⟩ := List.mem_map.mp member
  exact (reachable_balanced reachable).amounts reservation
    (List.mem_filter.mp isRow).1

/-- The runs whose finalizers bill what was reserved. -/
abbrev Billing : Sys → Action → Prop :=
  fun _ action => Discipline.coupled.Allows action

/-- A counter is the fee of what the account has spent. -/
theorem fee_eq
    (reachable : Reachable env Billing s)
    {account : Account}
    (member : account ∈ s.db.accounts.rows) :
    account.feeMicrocents =
        100 * env.feeBps * s.db.spent (ofAccount s.db.principals account) ∧
      0 ≤ account.feeMicrocents := by
  have isFee :=
    (reachable_billed .coupled trivial trivial (fun _ _ kept => kept)
      reachable).fees account member
  refine ⟨isFee, ?_⟩
  have spent := spent_nonneg reachable (ofAccount s.db.principals account)
  rw [isFee]
  positivity

/-- The counters of a state fit when what was spent is within range. -/
theorem feesFit_iff
    (reachable : Reachable env Billing s) :
    s.db.FeesFit ↔ s.SpendsWithinRange env := by
  constructor
  · intro fit account member
    rw [← (fee_eq reachable member).1]
    exact (fit account member).2
  · intro within account member
    obtain ⟨isFee, nonnegative⟩ := fee_eq reachable member
    have bounded := within account member
    rw [← isFee] at bounded
    refine ⟨?_, bounded⟩
    exact le_trans (by decide) nonnegative

/-- Since earlier states no counter has become smaller; none was negative. -/
structure Sys.FeesGrown (s : Sys) : Prop where
  grown :
    ∀ view ∈ s.states,
      view.accounts.Extends Account.FeeGrows s.db.accounts
  nonnegative :
    ∀ view ∈ s.states, ∀ account ∈ view.accounts.rows,
      0 ≤ account.feeMicrocents

/-- Counters grow along every run. -/
theorem reachable_feesGrown
    (reachable : Reachable env Billing s) :
    s.FeesGrown := by
  apply Transition.Reachable.invariant _ _ reachable
  · rintro _ rfl
    refine { grown := ?_, nonnegative := ?_ }
    · intro view member
      cases List.mem_singleton.mp member
      exact .refl .refl _
    · intro view member account isRow
      cases List.mem_singleton.mp member
      cases isRow
  · rintro s s' isReachable holds ⟨action, isAllowed, taken⟩
    have shape := stepped (reachable_kept isReachable) isAllowed taken
    refine { grown := ?_, nonnegative := ?_ }
    · intro view member
      rcases shape.states_subset view member with rfl | isOld
      · exact .refl .refl _
      · obtain ⟨_, _, effect⟩ := shape.effect
        exact .trans .trans (holds.grown view isOld) effect.feeGrows
    · intro view member account isRow
      rcases shape.states_subset view member with rfl | isOld
      · have isNext := isReachable.next ⟨action, isAllowed, taken⟩
        exact (fee_eq isNext isRow).2
      · exact holds.nonnegative view isOld account isRow

/-- The counters fit in all states of a run when they fit in the last. -/
theorem states_feesFit_iff
    (reachable : Reachable env Billing s) :
    (∀ view ∈ s.states, view.FeesFit) ↔ s.db.FeesFit := by
  constructor
  · intro fit
    exact fit s.db List.mem_cons_self
  · intro fit view member account isRow
    have law := reachable_feesGrown reachable
    obtain ⟨account', found, grows⟩ :=
      law.grown view member _ account (Table.find_of_mem isRow)
    have nonnegative := law.nonnegative view member account isRow
    have bounded := (fit account' (Table.mem_of_find found)).2
    exact ⟨le_trans (by decide) nonnegative, le_trans grows bounded⟩

/--
Fees fit in their column.  The counters of all states of a run are in range
when the fee of what each account has spent in it is, and a step, in particular
one that finalizes an invocation, goes through on Postgres when that holds
after it.
-/
theorem fees_fit_iff
    (reachable : Reachable env Billing s) :
    ((∀ view ∈ s.states, view.FeesFit) ↔ s.SpendsWithinRange env) ∧
      ∀ action s',
        Billing s action →
          step env s action = some s' →
            (stepPostgres env s action = some s' ↔
              s'.SpendsWithinRange env) := by
  refine ⟨(states_feesFit_iff reachable).trans (feesFit_iff reachable), ?_⟩
  intro action s' isAllowed taken
  rw [← feesFit_iff (reachable.next ⟨action, isAllowed, taken⟩)]
  unfold stepPostgres
  rw [taken]
  simp [Option.filter]

end Runs

/-- The counters of all states of the run fit. -/
def statesFit (s : Sys) : Bool :=
  s.states.all fun view => decide view.FeesFit

/-- What the check of the states of a run says. -/
theorem statesFit_iff
    {s : Sys} :
    statesFit s = true ↔ ∀ view ∈ s.states, view.FeesFit := by
  simp [statesFit, List.all_eq_true]

/-- A call of ten cents is settled at one percent. -/
theorem fees_fit_example :
    ∃ s,
      Reachable .plain Billing s ∧
        (∃ account ∈ s.db.accounts.rows, account.feeMicrocents = 100000) ∧
        s.SpendsWithinRange .plain := by
  have checked :
      (run .plain Sys.start (deploy ++ settle)).any
          (fun s =>
            (s.db.accounts.find 1).any (·.feeMicrocents = 100000) &&
              statesFit s) =
        true := by
    decide
  obtain ⟨s, reachable, passes⟩ :=
    reachable_of_check (.routine (by decide) .coupled _) checked
  obtain ⟨charged, fit⟩ := Bool.and_eq_true_iff.mp passes
  obtain ⟨account, found, fee⟩ := (Option.any_eq_true _ _).mp charged
  exact ⟨s, reachable,
    ⟨account, Table.mem_of_find found, of_decide_eq_true fee⟩,
    (fees_fit_iff reachable).1.mp (statesFit_iff.mp fit)⟩

/-! ## A fee that does not fit -/

/-- A mandate of three thousand dollars, and a call of it up to its return. -/
def dearCall : List Action :=
  [.txn [] (.createPrincipal none none 1 1),
    .txn [] (.createAgent 1 none 1),
    .txn []
      (.issueMandate noon noon
        { principalId := 1, agentId := 1, spendLimitCents := 300000 } 1 "n1"),
    .invoke [] call { drawTen 1 with quoted := .ok 214749 }, .mark 1,
    .dispatch 1, .providerReturns 1 "found"]

/-- The provider of the call has returned, and its finalization is due. -/
def Sys.Returned (s : Sys) (id : Id) : Prop :=
  ∃ attempt toolResult,
    s.calls.find id = some ⟨attempt, .returned toolResult⟩

/--
At one percent a call of $2147.49 has run, and Postgres refuses to finalize
it, though the database without a range would.
-/
theorem dear_call_is_not_finalized :
    ∃ s s',
      Reachable .plain Billing s ∧
        (∀ view ∈ s.states, view.FeesFit) ∧
        s.Returned 1 ∧
        step .plain s (.finish 1 (drawFinish 1)) = some s' ∧
        ¬ s'.db.FeesFit ∧
        stepPostgres .plain s (.finish 1 (drawFinish 1)) = none := by
  have checked :
      (run .plain Sys.start dearCall).any
          (fun s =>
            statesFit s &&
              (s.calls.find 1).any (·.state = .returned "found") &&
              (step .plain s (.finish 1 (drawFinish 1))).any
                (fun s' => !decide s'.db.FeesFit)) =
        true := by
    decide
  obtain ⟨s, reachable, passes⟩ :=
    reachable_of_check (.routine (by decide) .coupled _) checked
  obtain ⟨passes, outOfRange⟩ := Bool.and_eq_true_iff.mp passes
  obtain ⟨fit, isReturned⟩ := Bool.and_eq_true_iff.mp passes
  obtain ⟨⟨attempt, state⟩, found, hasReturned⟩ :=
    (Option.any_eq_true _ _).mp isReturned
  cases of_decide_eq_true hasReturned
  obtain ⟨s', finished, notFit⟩ := (Option.any_eq_true _ _).mp outOfRange
  have doesNotFit : ¬ s'.db.FeesFit := by simpa using notFit
  refine ⟨s, s', reachable, statesFit_iff.mp fit, ⟨attempt, "found", found⟩,
    finished, doesNotFit, ?_⟩
  unfold stepPostgres
  rw [finished]
  simp [Option.filter, doesNotFit]

end Crossing
