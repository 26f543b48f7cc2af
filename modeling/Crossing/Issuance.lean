import Crossing.Books

namespace Crossing

open Relational
open Relational.Transaction

/-!
# Issuance

Every stored mandate was inserted by a call of `issue_mandate`, whose checks
were made on rows that keep their terms.  What the checks say of a child and of
the parent they have read therefore holds of the stored rows, in every later
state and along every chain of delegation.
-/

/-! ## The change of one issue -/

section Change

variable {db db' : Db} {mandate row : Mandate}

/-- After an issue a mandate is an earlier one or the one that was issued. -/
theorem IssueChange.mandate_origin
    (change : IssueChange db mandate db')
    (member : row ∈ db'.mandates.rows) :
    (∃ before, db.mandates.find row.id = some before) ∨ row = mandate := by
  have ofInsert
      {mandates : Table Mandate}
      (inserted : db.mandates.insert? mandate = some mandates)
      (inNew : row ∈ mandates.rows) :
      (∃ before, db.mandates.find row.id = some before) ∨ row = mandate := by
    rcases (Table.mem_insert inserted).mp inNew with inOld | isMandate
    · exact .inl ⟨row, Table.find_of_mem inOld⟩
    · exact .inr isMandate
  cases change with
  | root inserted _ =>
      exact ofInsert inserted member
  | child inserted parentFound _ _ _ =>
      rcases Table.mem_put member with rfl | ⟨inNew, _⟩
      · exact .inl ⟨_, parentFound⟩
      · exact ofInsert inserted inNew

/-- The mandate that was issued is stored. -/
theorem IssueChange.stored
    (change : IssueChange db mandate db') :
    mandate ∈ db'.mandates.rows := by
  cases change with
  | root inserted _ =>
      exact (Table.mem_insert inserted).mpr (.inr rfl)
  | @child parent mandates _ _ inserted parentFound _ _ _ =>
      have isNew : mandate ∈ mandates.rows :=
        (Table.mem_insert inserted).mpr (.inr rfl)
      refine Table.mem_put_of_ne isNew ?_
      -- The parent was there before, so it is another row.
      intro same
      have fresh := (Table.insert?_eq_some inserted).1
      have notFresh : db.mandates.find (Keyed.key mandate) = some parent := by
        rw [same]
        exact parentFound
      cases fresh.symm.trans notFresh

/-- An issue writes no mandate but the one it inserts and its parent. -/
theorem IssueChange.find_other
    (change : IssueChange db mandate db')
    (found : db.mandates.find row.id = some row)
    (notParent : mandate.parentMandateId ≠ some row.id) :
    db'.mandates.find row.id = some row := by
  cases change with
  | root inserted _ =>
      exact Table.find_insert_of_some inserted found
  | @child parent mandates _ _ inserted _ link _ _ =>
      have different : parent.id ≠ row.id := by
        intro same
        exact notParent (same ▸ link)
      have notWritten :
          Keyed.key (escrowed mandate.spendLimitCents parent) ≠ row.id :=
        different
      exact (Table.find_put_of_ne notWritten).trans
        (Table.find_insert_of_some inserted found)

end Change

/-! ## The steps that issue -/

/-- The action is an `issue_mandate` call that has checked the mandate. -/
inductive Issues (env : Env) (s : Sys) (mandate : Mandate) : Action → Prop where
  | intro
      {ages : List Nat}
      {now debitNow : Datetime}
      {args : IssueMandate}
      {newId : Id}
      {freshNonce : String}
      (issued :
        IssuedBy env (s.views ages) s.db now debitNow args newId mandate) :
      Issues env s mandate
        (.txn ages (.issueMandate now debitNow args newId freshNonce))

/-- The parent that was checked is an earlier version of the stored one. -/
theorem IssuedBy.parentChecked
    {env : Env}
    {views : Views}
    {db : Db}
    {now debitNow : Datetime}
    {args : IssueMandate}
    {newId parentId : Id}
    {mandate : Mandate}
    (issued : IssuedBy env views db now debitNow args newId mandate)
    (link : mandate.parentMandateId = some parentId) :
    ∃ loaded parent,
      ParentChecked env (views.after 2) now args loaded ∧
        db.mandates.find parentId = some parent ∧
        loaded.SameTerms parent ∧
        parent.revoked = false ∧
        notExpired debitNow parent = true := by
  obtain ⟨nonce, signature, pubkeyHex, isRow⟩ := issued.isRow
  rw [isRow] at link
  obtain ⟨loaded, parent, _, checked, found, same, live, inTime⟩ :=
    issued.ofParent parentId link
  exact ⟨loaded, parent, checked, found, same, live, inTime⟩

section Steps

variable
  {env : Env}
  {discipline : Discipline}
  {s s' : Sys}
  {action : Action}

/-- A committed `issue_mandate` has checked a mandate and inserted it. -/
theorem Stepped.issued
    {ages : List Nat}
    {now debitNow : Datetime}
    {args : IssueMandate}
    {newId : Id}
    {freshNonce : String}
    (stepped :
      Stepped env discipline s
        (.txn ages (.issueMandate now debitNow args newId freshNonce)) s')
    (kept : s.Kept env) :
    ∃ mandate,
      IssuedBy env (s.views ages) s.db now debitNow args newId mandate ∧
        IssueChange s.db mandate s'.db := by
  cases stepped with
  | txn ran _ =>
      obtain ⟨mandate, run, _⟩ := map_ok ran
      exact ⟨mandate, issueMandate_ok (kept.seen ages) run⟩

/-- A mandate was stored before a step, or the step issues it. -/
theorem Stepped.mandate_origin
    {mandate : Mandate}
    (stepped : Stepped env discipline s action s')
    (kept : s.Kept env)
    (member : mandate ∈ s'.db.mandates.rows) :
    (∃ before, s.db.mandates.find mandate.id = some before) ∨
      Issues env s mandate action := by
  obtain ⟨origin, entries, ofAction, effect⟩ := stepped.effect_origin
  rcases effect.mandate_origin member with isOld | issuedNow
  · exact .inl isOld
  · obtain ⟨now, debitNow, args, newId, freshNonce, isIssue, _⟩ :=
      issuedNow.asked
    obtain ⟨ages, rfl⟩ := ofAction _ isIssue
    obtain ⟨issuedRow, issued, change⟩ := stepped.issued kept
    rcases change.mandate_origin member with isOld | rfl
    · exact .inl isOld
    · exact .inr (.intro issued)

end Steps

/-! ## What an issue relates along a chain -/

/-- Every mandate with a parent is related to it. -/
def Db.Chained (Related : Mandate → Mandate → Prop) (db : Db) : Prop :=
  ∀ child ∈ db.mandates.rows, ∀ parentId,
    child.parentMandateId = some parentId →
      ∃ parent, db.mandates.find parentId = some parent ∧
        Related child parent

/-- The mandate is stored and has the property. -/
def Db.MandateHas
    (db : Db)
    (Property : Mandate → Prop)
    (mandateId : Id) :
    Prop :=
  ∃ mandate, db.mandates.find mandateId = some mandate ∧ Property mandate

/-- The relation depends on the terms of its mandates only. -/
def OnTerms (Related : Mandate → Mandate → Prop) : Prop :=
  ∀ child child' parent parent' : Mandate,
    child.SameTerms child' →
    parent.SameTerms parent' →
    Related child parent →
    Related child' parent'

section Chains

variable
  {env : Env}
  {allowed : Sys → Action → Prop}
  {s : Sys}

/--
Chain rule: a relation on terms that every allowed issue establishes between
its mandate and the stored parent holds along all chains of every reachable
state.
-/
theorem reachable_chained
    (Related : Mandate → Mandate → Prop)
    (onTerms : OnTerms Related)
    (established :
      ∀ s action mandate parentId,
        Reachable env allowed s →
        allowed s action →
        Issues env s mandate action →
        mandate.parentMandateId = some parentId →
        ∃ parent, s.db.mandates.find parentId = some parent ∧
          Related mandate parent)
    (reachable : Reachable env allowed s) :
    s.db.Chained Related := by
  apply reachable_invariant .free (fun s => s.db.Chained Related) _ _ _
    reachable
  · intro s action _
    exact Discipline.free_allows action
  · intro child member
    cases member
  · intro s s' action isReachable chained isAllowed stepped child member
      parentId link
    have evolves := stepped.evolves
    rcases stepped.mandate_origin (reachable_kept isReachable) member with
      ⟨before, found⟩ | issues
    · have same : before.SameTerms child :=
        evolves.mandates.related found (Table.find_of_mem member)
      rw [same.parentMandateId] at link
      obtain ⟨parent, parentFound, related⟩ :=
        chained before (Table.mem_of_find found) parentId link
      obtain ⟨parent', parentFound', sameParent⟩ :=
        evolves.mandates _ _ parentFound
      exact ⟨parent', parentFound',
        onTerms _ _ _ _ same sameParent related⟩
    · obtain ⟨parent, parentFound, related⟩ :=
        established s action child parentId isReachable isAllowed issues link
      obtain ⟨parent', parentFound', sameParent⟩ :=
        evolves.mandates _ _ parentFound
      exact ⟨parent', parentFound',
        onTerms _ _ _ _ (.refl child) sameParent related⟩

/-- What parents pass on to their mandates reaches up a whole chain. -/
theorem Db.Chained.ascend
    {db : Db}
    {Related : Mandate → Mandate → Prop}
    {Property : Mandate → Prop}
    (chained : db.Chained Related)
    (passes :
      ∀ child parent,
        Related child parent → Property child → Property parent)
    {mandateId ancestorId : Id}
    (above :
      Delegation.SelfOrAncestor db.books.parentOf mandateId ancestorId)
    (holds : db.MandateHas Property mandateId) :
    db.MandateHas Property ancestorId := by
  refine above.ascend ?_ holds
  rintro childId parentId link ⟨child, childFound, ofChild⟩
  obtain ⟨row, rowFound, isParent⟩ := Option.bind_eq_some_iff.mp link
  cases childFound.symm.trans rowFound
  obtain ⟨parent, parentFound, related⟩ :=
    chained child (Table.mem_of_find childFound) parentId isParent
  exact ⟨parent, parentFound, passes _ _ related ofChild⟩

end Chains

end Crossing
