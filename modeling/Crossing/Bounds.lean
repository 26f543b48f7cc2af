import Crossing.Tenancy

namespace Crossing

open Relational

/-!
# Bounds along chains of delegation

A call is checked against its own mandate only.  Prices and expiries of the
mandates above it bind it all the same, since every issue was checked to stay
below its parent in both.  The cap on sub-agents is meant to bind the limits of
the children, and it does so unless a child names a cap of its own.
-/

/-! ## Price and expiry -/

/-- The child has no higher price and no later expiry than its parent. -/
structure Mandate.StaysBelow (child parent : Mandate) : Prop where
  maxCall : child.maxCallCents ≤ parent.maxCallCents
  expiry :
    ∀ limit ∈ parent.expiresAt,
      ∃ instant ∈ child.expiresAt,
        (asUtc instant).wall ≤ (asUtc limit).wall

/-- The mandate covers a call at this price and at this instant. -/
structure Mandate.Covers
    (mandate : Mandate)
    (amount : Cents)
    (now : Datetime) :
    Prop where
  price : amount ≤ mandate.maxCallCents
  inTime : ∀ expires ∈ mandate.expiresAt, (asUtc now).wall < (asUtc expires).wall

/-- What a child covers, its parent covers. -/
theorem Mandate.StaysBelow.covers
    {child parent : Mandate}
    {amount : Cents}
    {now : Datetime}
    (below : child.StaysBelow parent)
    (covers : child.Covers amount now) :
    parent.Covers amount now where
  price := covers.price.trans below.maxCall
  inTime := by
    intro limit isLimit
    obtain ⟨instant, isInstant, earlier⟩ := below.expiry limit isLimit
    exact (covers.inTime instant isInstant).trans_le earlier

/-- Prices and expiries are terms. -/
theorem staysBelow_onTerms : OnTerms Mandate.StaysBelow := by
  intro child child' parent parent' same sameParent below
  rw [same.1, sameParent.1]
  exact { maxCall := below.maxCall, expiry := below.expiry }

/-- What a mandate covers is told from its terms. -/
theorem Mandate.SameTerms.covers
    {old new : Mandate}
    {amount : Cents}
    {now : Datetime}
    (same : old.SameTerms new)
    (covers : old.Covers amount now) :
    new.Covers amount now := by
  rw [same.1]
  exact { price := covers.price, inTime := covers.inTime }

/-- An issued child stays below the parent that was checked. -/
theorem Attenuated.staysBelow
    {parent : Mandate}
    {args : IssueMandate}
    {newId : Id}
    {nonce signature pubkeyHex : String}
    (attenuated : Attenuated parent args) :
    (issuedMandate args newId nonce signature pubkeyHex).StaysBelow parent where
  maxCall := attenuated.underMaxCall
  expiry := by
    intro limit isLimit
    have inUtc : asUtc limit ∈ parent.expiresAt.map asUtc := by
      rw [Option.mem_def.mp isLimit]
      rfl
    obtain ⟨instant, isInstant, earlier⟩ := attenuated.expiry _ inUtc
    refine ⟨instant, isInstant, ?_⟩
    -- The stored expiry is in UTC already.
    obtain ⟨given, _, rfl⟩ := Option.map_eq_some_iff.mp isInstant
    simpa [asUtc] using earlier

section Steps

variable
  {env : Env}
  {discipline : Discipline}
  {s s' : Sys}

/-- A mandate that is issued stays below its parent. -/
theorem Issues.staysBelow
    {action : Action}
    {mandate : Mandate}
    {parentId : Id}
    (issues : Issues env s mandate action)
    (link : mandate.parentMandateId = some parentId) :
    ∃ parent, s.db.mandates.find parentId = some parent ∧
      mandate.StaysBelow parent := by
  obtain ⟨issued⟩ := issues
  obtain ⟨loaded, parent, checked, found, same, _⟩ :=
    issued.parentChecked link
  obtain ⟨nonce, signature, pubkeyHex, rfl⟩ := issued.isRow
  exact ⟨parent, found,
    staysBelow_onTerms _ _ _ _ (.refl _) same
      checked.attenuated.staysBelow⟩

/-- A reservation that an `invoke` makes is the one its call has opened. -/
theorem Stepped.reservation_of_invoke
    {ages : List Nat}
    {request : InvokeRequest}
    {draw : InvokeDraw}
    {reservation : Reservation}
    (stepped : Stepped env discipline s (.invoke ages request draw) s')
    (noLowLevel : discipline.paired)
    (member : reservation ∈ s'.db.reservations.rows)
    (isNew : s.db.reservations.find reservation.id = none) :
    ∃ loaded attempt,
      Begins env (s.views ages) request draw s.db loaded attempt ∧
        attempt.reservation = reservation := by
  cases stepped with
  | answered effect _ =>
      -- An answer leaves no entry, so it opens nothing.
      rcases effect.reservation_origin member with ⟨_, found⟩ | reservedNow
      · rw [isNew] at found
        cases found
      · obtain ⟨_, isEntry⟩ := reservedNow.opens noLowLevel
        cases isEntry
  | began begins _ _ _ reserved =>
      rcases (Table.mem_insert reserved).mp member with inOld | isOpened
      · cases isNew.symm.trans (Table.find_of_mem inOld)
      · exact ⟨_, _, begins, isOpened.symm⟩

/-- A call that begins is covered by the mandate it debits. -/
theorem Begins.covered
    {views : Views}
    {request : InvokeRequest}
    {draw : InvokeDraw}
    {db : Db}
    {loaded : Mandate}
    {attempt : Attempt}
    (begins : Begins env views request draw db loaded attempt)
    (seen : Seen views db) :
    0 ≤ attempt.reservation.amountCents ∧
      db.MandateHas
        (·.Covers attempt.reservation.amountCents draw.debitNow)
        attempt.reservation.mandateId := by
  obtain ⟨old, reservations, invocations, claims, opened, sameId, _,
    inTime⟩ := begins.opening
  obtain ⟨loadedFound, _, _⟩ := loadLiveMandate_ok begins.live
  obtain ⟨row, rowFound, same⟩ := (seen 0).mandates _ _ loadedFound
  have loadedId : loaded.id = request.mandateId :=
    Table.key_of_find loadedFound
  have isOld : row = old := by
    have oldFound := opened.debit.found
    rw [sameId, loadedId] at oldFound
    exact Option.some.inj (rowFound.symm.trans oldFound)
  subst isOld
  have amount : attempt.reservation.amountCents = attempt.price := by
    rw [← opened.sameAmount, begins.isInvocation]
    rfl
  refine ⟨opened.debit.nonnegative, row, ?_, ?_⟩
  · rw [opened.debit.ofMandate]
    exact opened.debit.found
  · rw [amount]
    refine { price := ?_, inTime := ?_ }
    · have price := (checkTool_ok begins.allowed).price
      rw [same.1]
      exact price
    · intro expires isExpiry
      unfold notExpired at inTime
      rw [Option.mem_def.mp isExpiry] at inTime
      simpa using inTime

end Steps

/-- Ledger calls get the objects of one attempt. -/
def Discipline.pairing : Discipline :=
  { Discipline.free with paired := True }

section Runs

variable {env : Env} {s s' : Sys}

/-- Every mandate stays below its parent. -/
theorem reachable_staysBelow
    {allowed : Sys → Action → Prop}
    (reachable : Reachable env allowed s) :
    s.db.Chained Mandate.StaysBelow := by
  apply reachable_chained Mandate.StaysBelow staysBelow_onTerms _ reachable
  intro s action mandate parentId _ _ issues link
  exact issues.staysBelow link

/--
Prices and expiries bind down every chain: what an `invoke` reserves is no
negative amount, and no mandate above it has a lower price or has expired at
the instant of the debit.
-/
theorem bounds_carry_down
    {ages : List Nat}
    {request : InvokeRequest}
    {draw : InvokeDraw}
    {reservation : Reservation}
    {ancestorId : Id}
    (reachable : Reachable env (fun _ _ => True) s)
    (taken : step env s (.invoke ages request draw) = some s')
    (member : reservation ∈ s'.db.reservations.rows)
    (isNew : s.db.reservations.find reservation.id = none)
    (above :
      Delegation.SelfOrAncestor s'.db.books.parentOf reservation.mandateId
        ancestorId) :
    0 ≤ reservation.amountCents ∧
      ∃ ancestor, s'.db.mandates.find ancestorId = some ancestor ∧
        ancestor.Covers reservation.amountCents draw.debitNow := by
  have kept := reachable_kept reachable
  have shape :
      Stepped env .pairing s (.invoke ages request draw) s' :=
    stepped kept trivial taken
  obtain ⟨loaded, attempt, begins, rfl⟩ :=
    shape.reservation_of_invoke trivial member isNew
  obtain ⟨nonnegative, mandate, found, covers⟩ :=
    begins.covered (kept.seen ages)
  refine ⟨nonnegative, ?_⟩
  obtain ⟨mandate', found', same⟩ := shape.evolves.mandates _ _ found
  have isReachable : Reachable env (fun _ _ => True) s' :=
    reachable.next ⟨_, trivial, taken⟩
  have ascends
      (child parent : Mandate)
      (below : child.StaysBelow parent)
      (childCovers :
        child.Covers attempt.reservation.amountCents draw.debitNow) :
      parent.Covers attempt.reservation.amountCents draw.debitNow :=
    below.covers childCovers
  exact (reachable_staysBelow isReachable).ascend ascends above
    ⟨mandate', found', same.covers covers⟩

end Runs

/-- A call under a delegated mandate is covered by the root of its chain. -/
theorem bounds_carry_down_example :
    ∃ s s' reservation ancestor,
      step .plain s
          (.invoke [] { call with mandateId := 2 } (drawTen 1)) =
        some s' ∧
        s'.db.reservations.find 1 = some reservation ∧
        reservation.mandateId = 2 ∧
        0 ≤ reservation.amountCents ∧
        s'.db.mandates.find 1 = some ancestor ∧
        ancestor.Covers reservation.amountCents noon := by
  have checked :
      (run .plain Sys.start delegate).any
          (fun s =>
            (step .plain s
              (.invoke [] { call with mandateId := 2 } (drawTen 1))).any
              fun s' =>
                (s.db.reservations.find 1).isNone &&
                  s'.db.books.parentOf 2 = some 1 &&
                  (s'.db.reservations.find 1).any (·.mandateId = 2)) =
        true := by
    decide
  obtain ⟨s, reachable, passes⟩ :=
    reachable_of_check (.of_forall (fun _ _ _ => trivial) _) checked
  obtain ⟨s', taken, passes⟩ := (Option.any_eq_true _ _).mp passes
  obtain ⟨passes, isReserved⟩ := Bool.and_eq_true_iff.mp passes
  obtain ⟨isNew, link⟩ := Bool.and_eq_true_iff.mp passes
  obtain ⟨reservation, found, under⟩ :=
    (Option.any_eq_true _ _).mp isReserved
  have ofChild := of_decide_eq_true under
  have isKey : reservation.id = 1 := Table.key_of_find found
  have fresh : s.db.reservations.find reservation.id = none := by
    rw [isKey]
    exact Option.isNone_iff_eq_none.mp isNew
  have above :
      Delegation.SelfOrAncestor s'.db.books.parentOf reservation.mandateId
        1 := by
    rw [ofChild]
    exact .step (of_decide_eq_true link) (.refl _ 1)
  obtain ⟨nonnegative, ancestor, ancestorFound, covers⟩ :=
    bounds_carry_down reachable taken (Table.mem_of_find found) fresh above
  exact ⟨s, s', reservation, ancestor, taken, found, ofChild, nonnegative,
    ancestorFound, covers⟩

/-! ## The cap on sub-agents -/

/--
The child names a cap of its own that the parent's cap admits, while its limit
is above the parent's cap.
-/
def Undercuts (own : Option Cents) (limit : Cents) (cap : Option Cents) : Prop :=
  ∃ named ∈ own, ∃ budget ∈ cap, named ≤ budget ∧ budget < limit

/-- No child undercuts the cap of its parent. -/
def CapBinds (s : Sys) : Action → Prop
  | .txn _ (.issueMandate _ _ args _ _) =>
      ∀ parentId ∈ args.parentMandateId,
        ∀ parent ∈ s.db.mandates.find parentId,
          ¬ Undercuts args.maxSubagentBudgetCents args.spendLimitCents
              parent.maxSubagentBudgetCents
  | _ => True

/-- The cap of the parent covers the limit of the child. -/
def Mandate.WithinCap (child parent : Mandate) : Prop :=
  ∀ budget ∈ parent.maxSubagentBudgetCents, child.spendLimitCents ≤ budget

/-- Limits and caps are terms. -/
theorem withinCap_onTerms : OnTerms Mandate.WithinCap := by
  intro child child' parent parent' same sameParent within
  rw [same.1, sameParent.1]
  exact within

/-- An attenuated child that does not undercut the cap is within it. -/
theorem Attenuated.withinCap
    {parent : Mandate}
    {args : IssueMandate}
    {newId : Id}
    {nonce signature pubkeyHex : String}
    (attenuated : Attenuated parent args)
    (binds :
      ¬ Undercuts args.maxSubagentBudgetCents args.spendLimitCents
          parent.maxSubagentBudgetCents) :
    (issuedMandate args newId nonce signature pubkeyHex).WithinCap
      parent := by
  intro budget isBudget
  have compared := attenuated.underBudget budget isBudget
  unfold IssueMandate.maxSubagentBudget at compared
  cases own : args.maxSubagentBudgetCents with
  | none =>
      -- Without a cap of its own the limit itself is compared.
      rw [own] at compared
      exact compared
  | some named =>
      rw [own] at compared
      by_contra exceeds
      exact binds
        ⟨named, own, budget, isBudget, compared, not_le.mp exceeds⟩

section Cap

variable {env : Env} {s : Sys}

/--
The cap binds what is delegated: when no child undercuts the cap of its parent,
every child of a mandate has a limit within its cap.
-/
theorem subagent_cap_binds
    {child parent : Mandate}
    {budget : Cents}
    (reachable : Reachable env CapBinds s)
    (childStored : child ∈ s.db.mandates.rows)
    (parentStored : parent ∈ s.db.mandates.rows)
    (link : child.parentMandateId = some parent.id)
    (capped : parent.maxSubagentBudgetCents = some budget) :
    child.spendLimitCents ≤ budget := by
  have chained : s.db.Chained Mandate.WithinCap := by
    apply reachable_chained Mandate.WithinCap withinCap_onTerms _ reachable
    rintro s action mandate parentId _ binds ⟨issued⟩ isParent
    obtain ⟨loaded, row, checked, found, same, _⟩ :=
      issued.parentChecked isParent
    obtain ⟨nonce, signature, pubkeyHex, rfl⟩ := issued.isRow
    have notUndercut := binds parentId isParent row found
    rw [same.1] at notUndercut
    exact ⟨row, found,
      withinCap_onTerms _ _ _ _ (.refl _) same
        (checked.attenuated.withinCap notUndercut)⟩
  obtain ⟨row, found, within⟩ := chained child childStored parent.id link
  cases found.symm.trans (Table.find_of_mem parentStored)
  exact within budget capped

end Cap

/-- A mandate whose sub-agents may get fifty cents, and a child of it. -/
def capFifty (own : Option Cents) (limit : Cents) : List Action :=
  [.txn [] (.createPrincipal none none 1 1),
    .txn [] (.createAgent 1 none 1),
    .txn []
      (.issueMandate noon noon
        { principalId := 1
          agentId := 1
          spendLimitCents := 100
          maxSubagentBudgetCents := some 50 }
        1 "n1"),
    .txn []
      (.issueMandate noon noon
        { principalId := 1
          agentId := 1
          spendLimitCents := limit
          maxSubagentBudgetCents := own
          parentMandateId := some 1 }
        2 "n2")]

/-- A mandate whose sub-agents may get fifty cents passes forty on. -/
theorem subagent_cap_binds_example :
    ∃ s child parent budget,
      Reachable .plain CapBinds s ∧
        child ∈ s.db.mandates.rows ∧
        parent ∈ s.db.mandates.rows ∧
        child.parentMandateId = some parent.id ∧
        parent.maxSubagentBudgetCents = some budget ∧
        child.spendLimitCents ≤ budget := by
  have permitted :
      Permitted .plain CapBinds Sys.start (capFifty none 40) := by
    apply Permitted.of_forall
    intro action member s
    simp only [capFifty, List.mem_cons, List.not_mem_nil,
      or_false] at member
    rcases member with rfl | rfl | rfl | rfl <;> simp [CapBinds, Undercuts]
  have checked :
      (run .plain Sys.start (capFifty none 40)).any
          (fun s =>
            (s.db.mandates.find 1).any
                (·.maxSubagentBudgetCents = some 50) &&
              (s.db.mandates.find 2).any (·.parentMandateId = some 1)) =
        true := by
    decide
  obtain ⟨s, reachable, passes⟩ := reachable_of_check permitted checked
  obtain ⟨isParent, isChild⟩ := Bool.and_eq_true_iff.mp passes
  obtain ⟨parent, parentFound, isCapped⟩ :=
    (Option.any_eq_true _ _).mp isParent
  obtain ⟨child, childFound, isLinked⟩ := (Option.any_eq_true _ _).mp isChild
  have parentKey : parent.id = 1 := Table.key_of_find parentFound
  have capped := of_decide_eq_true isCapped
  have link : child.parentMandateId = some parent.id := by
    rw [parentKey]
    exact of_decide_eq_true isLinked
  have childStored := Table.mem_of_find childFound
  have parentStored := Table.mem_of_find parentFound
  exact ⟨s, child, parent, 50, reachable, childStored, parentStored, link,
    capped,
    subagent_cap_binds reachable childStored parentStored link capped⟩

/-- A child that names a cap of zero gets a limit above its parent's cap. -/
theorem named_cap_escapes :
    ∃ s child parent budget,
      Reachable .plain (fun _ _ => True) s ∧
        child ∈ s.db.mandates.rows ∧
        parent ∈ s.db.mandates.rows ∧
        child.parentMandateId = some parent.id ∧
        parent.maxSubagentBudgetCents = some budget ∧
        budget < child.spendLimitCents := by
  have checked :
      (run .plain Sys.start (capFifty (some 0) 60)).any
          (fun s =>
            (s.db.mandates.find 1).any
                (·.maxSubagentBudgetCents = some 50) &&
              (s.db.mandates.find 2).any
                (fun row =>
                  row.parentMandateId = some 1 &&
                    row.spendLimitCents = 60)) =
        true := by
    decide
  obtain ⟨s, reachable, passes⟩ :=
    reachable_of_check (.of_forall (fun _ _ _ => trivial) _) checked
  obtain ⟨isParent, isChild⟩ := Bool.and_eq_true_iff.mp passes
  obtain ⟨parent, parentFound, isCapped⟩ :=
    (Option.any_eq_true _ _).mp isParent
  obtain ⟨child, childFound, passes⟩ := (Option.any_eq_true _ _).mp isChild
  obtain ⟨isLinked, isLimit⟩ := Bool.and_eq_true_iff.mp passes
  have parentKey : parent.id = 1 := Table.key_of_find parentFound
  refine ⟨s, child, parent, 50, reachable, Table.mem_of_find childFound,
    Table.mem_of_find parentFound, ?_, of_decide_eq_true isCapped, ?_⟩
  · rw [parentKey]
    exact of_decide_eq_true isLinked
  · rw [of_decide_eq_true isLimit]
    decide

end Crossing
