import Crossing.Books
import Crossing.Runs
import Mathlib.Tactic.Ring

namespace Crossing

open Relational

/-!
# Conservation

The books stay balanced: a mandate's limit is what remains of it, what its live
reservations hold, and what its children were given.  With the forest of
mandates this bounds the live amounts of every subtree by the limit of its
root.
-/

namespace Books

variable {books : Books}

/-! ## How the sums move -/

/-- A mandate that keeps its limit and its parent keeps all delegations. -/
theorem delegated_put
    {mandates : Table Mandate}
    {old : Mandate}
    (new : Mandate)
    (found : mandates.find new.id = some old)
    (sameLimit : new.spendLimitCents = old.spendLimitCents)
    (sameParent : new.parentMandateId = old.parentMandateId)
    (reservations reservations' : Table Reservation)
    (events events' : List LedgerEvent)
    (mandateId : Id) :
    (Books.mk (mandates.put new) reservations' events').delegated mandateId =
      (Books.mk mandates reservations events).delegated mandateId :=
  Table.sumWhere_put_of_share_eq found
    (by simp [Table.share, sameLimit, sameParent])

/-- A new mandate adds its limit to the delegations of its parent. -/
theorem delegated_insert
    {mandate : Mandate}
    {mandates : Table Mandate}
    (inserted : books.mandates.insert? mandate = some mandates)
    (reservations : Table Reservation)
    (events : List LedgerEvent)
    (mandateId : Id) :
    (Books.mk mandates reservations events).delegated mandateId =
      books.delegated mandateId +
        if mandate.parentMandateId = some mandateId then
          mandate.spendLimitCents
        else
          0 := by
  unfold delegated
  rw [Table.sumWhere_insert inserted]
  simp [Table.share]

/-- A mandate that does not exist yet has no live reservation. -/
theorem liveAmount_fresh
    (balanced : books.Balanced)
    {mandateId : Id}
    (fresh : books.mandates.find mandateId = none) :
    books.liveAmount mandateId = 0 := by
  apply Table.sumWhere_eq_zero
  intro row member
  have different : row.mandateId ≠ mandateId := by
    intro same
    obtain ⟨mandate, found⟩ := balanced.ofMandate row member
    rw [same, fresh] at found
    cases found
  simp [different]

/-- A mandate that does not exist yet has no child. -/
theorem delegated_fresh
    (balanced : books.Balanced)
    {mandateId : Id}
    (fresh : books.mandates.find mandateId = none) :
    books.delegated mandateId = 0 := by
  apply Table.sumWhere_eq_zero
  intro row member
  have notChild : row.parentMandateId ≠ some mandateId := by
    intro link
    obtain ⟨parent, found⟩ := balanced.ofParent row member mandateId link
    rw [fresh] at found
    cases found
  simp [notChild]

/-! ## The two ways a mandate's row changes -/

/--
A mandate whose remaining cents move against its live reservations leaves the
books balanced.
-/
theorem Balanced.repriced
    (balanced : books.Balanced)
    {old new : Mandate}
    {reservations : Table Reservation}
    {events : List LedgerEvent}
    (found : books.mandates.find new.id = some old)
    (sameLimit : new.spendLimitCents = old.spendLimitCents)
    (sameParent : new.parentMandateId = old.parentMandateId)
    (covered : 0 ≤ new.remainingCents)
    (live :
      ∀ mandateId,
        (Books.mk books.mandates reservations events).liveAmount mandateId =
          books.liveAmount mandateId +
            if mandateId = new.id then
              old.remainingCents - new.remainingCents
            else
              0)
    (amounts : ∀ row ∈ reservations.rows, 0 ≤ row.amountCents)
    (ofMandate :
      ∀ row ∈ reservations.rows,
        ∃ mandate, books.mandates.find row.mandateId = some mandate) :
    (Books.mk (books.mandates.put new) reservations events).Balanced := by
  have oldMember := Table.mem_of_find found
  have oldId : old.id = new.id := Table.key_of_find found
  have stillFound
      {mandateId : Id}
      (before : ∃ row, books.mandates.find mandateId = some row) :
      ∃ row, (books.mandates.put new).find mandateId = some row := by
    obtain ⟨row, rowFound⟩ := before
    rw [Table.find_put, rowFound]
    split
    · exact ⟨new, rfl⟩
    · exact ⟨row, rfl⟩
  have sameParents :
      (Books.mk (books.mandates.put new) reservations events).parentOf =
        books.parentOf := by
    funext mandateId
    simp only [parentOf, Table.find_put, key_mandate]
    by_cases isNew : new.id = mandateId
    · subst isNew
      simp [found, sameParent]
    · simp [isNew]
  refine
    { covered := ?_
      conserved := ?_
      limits := ?_
      amounts := amounts
      ofMandate := fun row member => stillFound (ofMandate row member)
      ofParent := ?_
      ranked := sameParents ▸ balanced.ranked }
  · intro row member
    rcases Table.mem_put member with rfl | ⟨inOld, _⟩
    · exact covered
    · exact balanced.covered row inOld
  · intro row member
    have delegatedRow :=
      delegated_put new found sameLimit sameParent books.reservations
        reservations books.events events row.id
    have liveRow :
        (Books.mk (books.mandates.put new) reservations events).liveAmount
            row.id =
          _ :=
      live row.id
    rw [liveRow, delegatedRow]
    rcases Table.mem_put member with rfl | ⟨inOld, notNew⟩
    · have law := balanced.conserved old oldMember
      rw [oldId] at law
      rw [if_pos rfl, sameLimit, law]
      ring
    · have different : row.id ≠ new.id := notNew
      rw [if_neg different, balanced.conserved row inOld]
      ring
  · intro row member
    rcases Table.mem_put member with rfl | ⟨inOld, _⟩
    · exact sameLimit ▸ balanced.limits old oldMember
    · exact balanced.limits row inOld
  · intro row member parentId link
    rcases Table.mem_put member with rfl | ⟨inOld, _⟩
    · exact stillFound
        (balanced.ofParent old oldMember parentId (sameParent ▸ link))
    · exact stillFound (balanced.ofParent row inOld parentId link)

/-- Reservations that keep the live amounts leave the books balanced. -/
theorem Balanced.transitioned
    (balanced : books.Balanced)
    {old new : Reservation}
    {events : List LedgerEvent}
    (found : books.reservations.find new.id = some old)
    (sameMandate : new.mandateId = old.mandateId)
    (sameAmount : new.amountCents = old.amountCents)
    (sameLive : new.isLive = old.isLive) :
    (Books.mk books.mandates (books.reservations.put new) events).Balanced :=
  { balanced with
    conserved := by
      intro row member
      have live :
          (books.reservations.put new).sumWhere
              (fun reservation =>
                reservation.mandateId = row.id && reservation.isLive)
              Reservation.amountCents =
            books.liveAmount row.id :=
        Table.sumWhere_put_of_share_eq found
          (by simp [Table.share, sameMandate, sameAmount, sameLive])
      have law := balanced.conserved row member
      simp only [liveAmount, delegated] at law live ⊢
      rw [live]
      exact law
    amounts := by
      intro row member
      rcases Table.mem_put member with rfl | ⟨inOld, _⟩
      · exact sameAmount ▸ balanced.amounts old (Table.mem_of_find found)
      · exact balanced.amounts row inOld
    ofMandate := by
      intro row member
      rcases Table.mem_put member with rfl | ⟨inOld, _⟩
      · exact sameMandate ▸
          balanced.ofMandate old (Table.mem_of_find found)
      · exact balanced.ofMandate row inOld }

/-! ## A new mandate -/

/-- The parent of every mandate once a new one is inserted. -/
theorem parentOf_insert
    {mandate : Mandate}
    {mandates : Table Mandate}
    (inserted : books.mandates.insert? mandate = some mandates)
    (reservations : Table Reservation)
    (events : List LedgerEvent)
    (mandateId : Id) :
    (Books.mk mandates reservations events).parentOf mandateId =
      if mandate.id = mandateId then
        mandate.parentMandateId
      else
        books.parentOf mandateId := by
  simp only [parentOf, Table.find_insert inserted, key_mandate]
  split <;> rfl

/-- The forest of mandates grows by leaves. -/
theorem Balanced.ranked_insert
    (balanced : books.Balanced)
    {mandate : Mandate}
    {mandates : Table Mandate}
    (inserted : books.mandates.insert? mandate = some mandates)
    (belowParent :
      ∀ parentId, mandate.parentMandateId = some parentId →
        ∃ parent, books.mandates.find parentId = some parent)
    (reservations : Table Reservation)
    (events : List LedgerEvent) :
    Delegation.Ranked (Books.mk mandates reservations events).parentOf := by
  have fresh : books.mandates.find mandate.id = none :=
    (Table.insert?_eq_some inserted).1
  have newParent := parentOf_insert inserted reservations events
  have childless (child : Id) : books.parentOf child ≠ some mandate.id := by
    intro link
    obtain ⟨row, found, isParent⟩ := Option.bind_eq_some_iff.mp link
    obtain ⟨parent, parentFound⟩ :=
      balanced.ofParent row (Table.mem_of_find found) _ isParent
    rw [fresh] at parentFound
    cases parentFound
  have notSelf :
      (Books.mk mandates reservations events).parentOf mandate.id ≠
        some mandate.id := by
    intro link
    rw [newParent, if_pos rfl] at link
    obtain ⟨parent, parentFound⟩ := belowParent _ link
    rw [fresh] at parentFound
    cases parentFound
  refine balanced.ranked.attach childless notSelf ?_
  intro node different
  rw [newParent, if_neg (Ne.symm different)]

/--
With a new mandate the books are balanced but for its limit, which its parent
owes.
-/
theorem Balanced.conserved_insert
    (balanced : books.Balanced)
    {mandate : Mandate}
    {mandates : Table Mandate}
    (inserted : books.mandates.insert? mandate = some mandates)
    (full : mandate.remainingCents = mandate.spendLimitCents)
    (notOwn : mandate.parentMandateId ≠ some mandate.id)
    (events : List LedgerEvent)
    {row : Mandate}
    (member : row ∈ mandates.rows) :
    (row.spendLimitCents +
        if mandate.parentMandateId = some row.id then
          mandate.spendLimitCents
        else
          0) =
      row.remainingCents + books.liveAmount row.id +
        (Books.mk mandates books.reservations events).delegated row.id := by
  rw [delegated_insert inserted]
  rcases (Table.mem_insert inserted).mp member with inOld | rfl
  · rw [balanced.conserved row inOld]
    ring
  · have fresh : books.mandates.find row.id = none :=
      (Table.insert?_eq_some inserted).1
    rw [if_neg notOwn, full, liveAmount_fresh balanced fresh,
      delegated_fresh balanced fresh]
    ring

/-- A root mandate leaves the books balanced. -/
theorem Balanced.issuedRoot
    (balanced : books.Balanced)
    {mandate : Mandate}
    {mandates : Table Mandate}
    (inserted : books.mandates.insert? mandate = some mandates)
    (full : mandate.remainingCents = mandate.spendLimitCents)
    (nonnegative : 0 ≤ mandate.spendLimitCents)
    (root : mandate.parentMandateId = none) :
    ({ books with mandates := mandates } : Books).Balanced := by
  have isRow {row : Mandate} (member : row ∈ mandates.rows) :
      row ∈ books.mandates.rows ∨ row = mandate :=
    (Table.mem_insert inserted).mp member
  refine
    { covered := ?_
      conserved := ?_
      limits := ?_
      amounts := balanced.amounts
      ofMandate := ?_
      ofParent := ?_
      ranked := balanced.ranked_insert inserted (by simp [root]) _ _ }
  · intro row member
    rcases isRow member with inOld | rfl
    · exact balanced.covered row inOld
    · exact full ▸ nonnegative
  · intro row member
    have law :=
      balanced.conserved_insert inserted full (by simp [root]) books.events
        member
    rw [root, if_neg (by simp), add_zero] at law
    exact law
  · intro row member
    rcases isRow member with inOld | rfl
    · exact balanced.limits row inOld
    · exact nonnegative
  · intro row member
    obtain ⟨found, isFound⟩ := balanced.ofMandate row member
    exact ⟨found, Table.find_insert_of_some inserted isFound⟩
  · intro row member parentId link
    rcases isRow member with inOld | rfl
    · obtain ⟨parent, found⟩ := balanced.ofParent row inOld parentId link
      exact ⟨parent, Table.find_insert_of_some inserted found⟩
    · rw [root] at link
      cases link

/-- A child mandate whose limit its parent pays leaves the books balanced. -/
theorem Balanced.issuedChild
    (balanced : books.Balanced)
    {mandate parent : Mandate}
    {mandates : Table Mandate}
    (inserted : books.mandates.insert? mandate = some mandates)
    (full : mandate.remainingCents = mandate.spendLimitCents)
    (nonnegative : 0 ≤ mandate.spendLimitCents)
    (parentFound : books.mandates.find parent.id = some parent)
    (link : mandate.parentMandateId = some parent.id)
    (covered : mandate.spendLimitCents ≤ parent.remainingCents)
    (events : List LedgerEvent) :
    (Books.mk (mandates.put (escrowed mandate.spendLimitCents parent))
      books.reservations events).Balanced := by
  have stillFound : mandates.find parent.id = some parent :=
    Table.find_insert_of_some inserted parentFound
  have different : parent.id ≠ mandate.id := by
    intro same
    have fresh : books.mandates.find mandate.id = none :=
      (Table.insert?_eq_some inserted).1
    rw [same, fresh] at parentFound
    cases parentFound
  have notOwn : mandate.parentMandateId ≠ some mandate.id := by
    rw [link]
    exact fun same => different (Option.some.inj same)
  -- A stored row is the charged parent, an older row or the new mandate.
  have isRow
      {row : Mandate}
      (member :
        row ∈
          (mandates.put
            (escrowed mandate.spendLimitCents parent)).rows) :
      row = escrowed mandate.spendLimitCents parent ∨
        row ∈ mandates.rows ∧ row.id ≠ parent.id ∧
          (row ∈ books.mandates.rows ∨ row = mandate) := by
    rcases Table.mem_put member with isParent | ⟨inNew, notParent⟩
    · exact .inl isParent
    · exact .inr ⟨inNew, notParent, (Table.mem_insert inserted).mp inNew⟩
  have findable
      {mandateId : Id}
      (before : ∃ row, books.mandates.find mandateId = some row) :
      ∃ row,
        (mandates.put (escrowed mandate.spendLimitCents parent)).find
            mandateId =
          some row := by
    obtain ⟨row, found⟩ := before
    rw [Table.find_put, Table.find_insert_of_some inserted found]
    split
    · exact ⟨_, rfl⟩
    · exact ⟨row, rfl⟩
  have sameParents :
      (Books.mk (mandates.put (escrowed mandate.spendLimitCents parent))
          books.reservations events).parentOf =
        (Books.mk mandates books.reservations events).parentOf := by
    funext mandateId
    simp only [parentOf, Table.find_put, key_mandate, escrowed]
    by_cases isParent : parent.id = mandateId
    · subst isParent
      simp [stillFound]
    · simp [isParent]
  refine
    { covered := ?_
      conserved := ?_
      limits := ?_
      amounts := balanced.amounts
      ofMandate := fun row member =>
        findable (balanced.ofMandate row member)
      ofParent := ?_
      ranked := sameParents ▸ balanced.ranked_insert inserted ?_ _ _ }
  · intro row member
    rcases isRow member with rfl | ⟨_, _, inOld | rfl⟩
    · simp only [escrowed]
      linarith
    · exact balanced.covered row inOld
    · exact full ▸ nonnegative
  · intro row member
    have sameDelegated :
        (Books.mk (mandates.put (escrowed mandate.spendLimitCents parent))
            books.reservations events).delegated row.id =
          (Books.mk mandates books.reservations events).delegated row.id :=
      delegated_put (escrowed mandate.spendLimitCents parent) stillFound
        rfl rfl _ _ _ _ row.id
    rw [sameDelegated]
    rcases isRow member with rfl | ⟨inNew, notParent, _⟩
    · have law :=
        balanced.conserved_insert inserted full notOwn events
          (Table.mem_of_find stillFound)
      rw [if_pos link] at law
      change
        parent.spendLimitCents =
          parent.remainingCents - mandate.spendLimitCents +
              books.liveAmount parent.id +
            (Books.mk mandates books.reservations events).delegated
              parent.id
      linarith
    · have law :=
        balanced.conserved_insert inserted full notOwn events inNew
      have notChild : mandate.parentMandateId ≠ some row.id := by
        rw [link]
        exact fun same => notParent (Option.some.inj same).symm
      rw [if_neg notChild, add_zero] at law
      exact law
  · intro row member
    rcases isRow member with rfl | ⟨_, _, inOld | rfl⟩
    · exact balanced.limits parent (Table.mem_of_find parentFound)
    · exact balanced.limits row inOld
    · exact nonnegative
  · intro row member parentId isParent
    rcases isRow member with rfl | ⟨_, _, inOld | rfl⟩
    · exact findable
        (balanced.ofParent parent (Table.mem_of_find parentFound) parentId
          isParent)
    · exact findable (balanced.ofParent row inOld parentId isParent)
    · rw [link] at isParent
      cases isParent
      exact findable ⟨parent, parentFound⟩
  · intro parentId isParent
    rw [link] at isParent
    cases isParent
    exact ⟨parent, parentFound⟩

/-! ## Every step -/

/-- The books stay balanced. -/
theorem Balanced.step
    {books' : Books}
    (balanced : books.Balanced)
    (step : BookStep books books') :
    books'.Balanced := by
  cases step with
  | still => exact balanced
  | denied => exact { balanced with }
  | flagged mandateId =>
      unfold Table.modify
      cases found : books.mandates.find mandateId with
      | none => exact balanced
      | some row =>
          have stored : books.mandates.find row.id = some row :=
            Table.find_of_mem (Table.mem_of_find found)
          refine balanced.repriced stored rfl rfl ?_ ?_
            balanced.amounts balanced.ofMandate
          · exact balanced.covered row (Table.mem_of_find found)
          · intro mandateId
            simp [liveAmount]
  | issuedRoot inserted full nonnegative root =>
      exact balanced.issuedRoot inserted full nonnegative root
  | issuedChild inserted full nonnegative parentFound link covered =>
      exact balanced.issuedChild inserted full nonnegative parentFound link
        covered _
  | @debited old reservation reservations event found covered nonnegative
      ofMandate held inserted =>
      refine balanced.repriced found rfl rfl ?_ ?_ ?_ ?_
      · simp only [Crossing.debited]
        linarith
      · intro mandateId
        simp only [liveAmount, Table.sumWhere_insert inserted, Table.share,
          Crossing.debited, ofMandate, Reservation.isLive, held]
        by_cases isOld : mandateId = old.id
        · simp [isOld]
        · simp [isOld, Ne.symm isOld]
      · intro row member
        rcases (Table.mem_insert inserted).mp member with inOld | rfl
        · exact balanced.amounts row inOld
        · exact nonnegative
      · intro row member
        rcases (Table.mem_insert inserted).mp member with inOld | rfl
        · exact balanced.ofMandate row inOld
        · exact ⟨old, ofMandate ▸ found⟩
  | @settled reservation event found held =>
      exact balanced.transitioned found rfl rfl
        (by simp [Reservation.isLive, held])
  | @refunded reservation event found held =>
      have member := Table.mem_of_find found
      obtain ⟨row, rowFound⟩ := balanced.ofMandate reservation member
      have isMandate : row.id = reservation.mandateId :=
        Table.key_of_find rowFound
      have stored : books.mandates.find row.id = some row :=
        isMandate ▸ rowFound
      rw [refundedMandates, Table.modify_of_find rowFound]
      refine balanced.repriced stored rfl rfl ?_ ?_ ?_ ?_
      · have covered := balanced.covered row (Table.mem_of_find rowFound)
        have nonnegative := balanced.amounts reservation member
        exact add_nonneg covered nonnegative
      · intro mandateId
        have stillFound :
            books.reservations.find
                (Keyed.key
                  ({ reservation with status := .released } :
                    Reservation)) =
              some reservation :=
          found
        have exchange :=
          Table.sumWhere_put stillFound
            (fun row => row.mandateId = mandateId && row.isLive)
            Reservation.amountCents
        simp only [Table.share, Reservation.isLive, held] at exchange
        simp only [liveAmount, Crossing.refunded, Reservation.isLive]
        by_cases isOld : mandateId = row.id
        · simp [isOld, isMandate] at exchange ⊢
          linarith
        · have different : reservation.mandateId ≠ mandateId :=
            fun same => isOld (isMandate.trans same).symm
          simpa [isOld, different] using exchange
      · intro stored' isStored
        rcases Table.mem_put isStored with rfl | ⟨inOld, _⟩
        · exact balanced.amounts reservation member
        · exact balanced.amounts stored' inOld
      · intro stored' isStored
        rcases Table.mem_put isStored with rfl | ⟨inOld, _⟩
        · exact ⟨row, rowFound⟩
        · exact balanced.ofMandate stored' inOld

/-- Before the first transaction the books are balanced. -/
theorem Balanced.empty : Db.empty.books.Balanced where
  covered := by
    intro row member
    cases member
  conserved := by
    intro row member
    cases member
  limits := by
    intro row member
    cases member
  amounts := by
    intro row member
    cases member
  ofMandate := by
    intro row member
    cases member
  ofParent := by
    intro row member
    cases member
  ranked := .of_none fun _ => rfl

/-! ## Subtrees -/

open scoped Classical in
/-- The live amounts of a subtree are those of its mandates together. -/
theorem Balanced.subtreeAmount_eq_sum
    (balanced : books.Balanced)
    (root : Id) :
    books.subtreeAmount root =
      ∑ mandateId ∈ books.mandates.keys with
          Delegation.SelfOrAncestor books.parentOf mandateId root,
        books.liveAmount mandateId := by
  unfold subtreeAmount liveAmount
  rw [Table.sum_sumWhere_fiber]
  apply Table.sumWhere_congr
  intro row member
  have isKey : row.mandateId ∈ books.mandates.keys :=
    Table.mem_keys.mpr (balanced.ofMandate row member)
  simp [Table.share, isKey]

/-- The children's limits, summed over their ids. -/
theorem delegated_eq_sum (books : Books) (mandateId : Id) :
    books.delegated mandateId =
      ∑ childId ∈ books.mandates.keys with
          books.parentOf childId = some mandateId,
        ((books.mandates.find childId).map Mandate.spendLimitCents).getD
          0 := by
  unfold delegated
  rw [Table.sumWhere_eq_sum_keys]
  apply Finset.sum_congr
  · ext childId
    rw [Finset.mem_filter, Finset.mem_filter]
    simp only [parentOf]
    cases books.mandates.find childId <;> simp
  · intro childId _
    rfl

/-- The live amounts of a subtree fit in the limit of its root. -/
theorem Balanced.subtreeAmount_le
    (balanced : books.Balanced)
    {root : Mandate}
    (member : root ∈ books.mandates.rows) :
    books.subtreeAmount root.id ≤ root.spendLimitCents := by
  classical
  have rootFound : books.mandates.find root.id = some root :=
    Table.find_of_mem member
  rw [balanced.subtreeAmount_eq_sum]
  have bound :=
    Delegation.subtree_spent_le_limit balanced.ranked books.mandates.keys
      ?closed
      (fun mandateId =>
        ((books.mandates.find mandateId).map
          Mandate.spendLimitCents).getD 0)
      books.liveAmount ?fits (Table.mem_keys.mpr ⟨root, rootFound⟩)
  case closed =>
    intro child _ up link
    obtain ⟨row, found, isParent⟩ := Option.bind_eq_some_iff.mp link
    exact Table.mem_keys.mpr
      (balanced.ofParent row (Table.mem_of_find found) up isParent)
  case fits =>
    intro mandateId isKey
    obtain ⟨row, found⟩ := Table.mem_keys.mp isKey
    have rowMember := Table.mem_of_find found
    have isRow : row.id = mandateId := Table.key_of_find found
    have law := balanced.conserved row rowMember
    have covered := balanced.covered row rowMember
    rw [isRow, delegated_eq_sum] at law
    simp only [found, Option.map_some, Option.getD_some]
    linarith
  simpa [rootFound] using bound

end Books

/-! ## Every run -/

/-- In every reachable state of every run the books are balanced. -/
theorem reachable_balanced
    {env : Env}
    {allowed : Sys → Action → Prop}
    {s : Sys}
    (reachable : Reachable env allowed s) :
    s.db.books.Balanced := by
  apply reachable_db_invariant .free (fun db => db.books.Balanced) _ _ _
    reachable
  · intro s action _
    exact Discipline.free_allows action
  · exact .empty
  · intro s origin entries db' _ effect balanced
    exact balanced.step effect.books

/--
Budgets are conserved over the forest of mandates: nothing remaining is
negative, every limit is split into what remains, what is held or committed
and what was handed to children, and a subtree never holds and commits more
than the limit of its root.
-/
theorem budgets_conserved
    {env : Env}
    {s : Sys}
    {mandate : Mandate}
    (reachable : Reachable env (fun _ _ => True) s)
    (member : mandate ∈ s.db.mandates.rows) :
    0 ≤ mandate.remainingCents ∧
      mandate.spendLimitCents =
        mandate.remainingCents + s.db.books.liveAmount mandate.id +
          s.db.books.delegated mandate.id ∧
      s.db.books.subtreeAmount mandate.id ≤ mandate.spendLimitCents := by
  have balanced := reachable_balanced reachable
  exact ⟨balanced.covered mandate member,
    balanced.conserved mandate member,
    balanced.subtreeAmount_le member⟩

/-- The law for a mandate that has paid a call and funded a child. -/
theorem budgets_conserved_example :
    ∃ s mandate,
      Reachable .plain (fun _ _ => True) s ∧
        mandate ∈ s.db.mandates.rows ∧
        0 ≤ mandate.remainingCents ∧
        mandate.spendLimitCents =
          mandate.remainingCents + s.db.books.liveAmount mandate.id +
            s.db.books.delegated mandate.id ∧
        s.db.books.subtreeAmount mandate.id ≤ mandate.spendLimitCents := by
  have checked :
      (run .plain Sys.start
          (deploy ++ settle ++
            [.txn []
              (.issueMandate noon noon
                { principalId := 1
                  agentId := 1
                  spendLimitCents := 40
                  parentMandateId := some 1 }
                2 "n2")])).any
          (fun s => (s.db.mandates.find 1).any (·.remainingCents = 50)) =
        true := by
    decide
  obtain ⟨s, reachable, passes⟩ :=
    reachable_of_check (.of_forall (fun _ _ _ => trivial) _) checked
  obtain ⟨mandate, found, _⟩ := (Option.any_eq_true _ _).mp passes
  have member := Table.mem_of_find found
  exact ⟨s, mandate, reachable, member, budgets_conserved reachable member⟩

end Crossing
