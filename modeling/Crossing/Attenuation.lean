import Crossing.Conservation
import Crossing.Issuance
import Mathlib.Data.Fintype.EquivFin
import Mathlib.Data.Set.Finite.List

namespace Crossing

open Relational

/-!
# Attenuation of tools and servers

An absent list permits every name and an empty list permits none.  A call is
checked against the lists of its own mandate only, so a chain of mandates is as
narrow as its root when every link was narrowed at issue.  `subset` compares
two lists at issue; it lets one pair through that it should not.
-/

/-! ## Lists of names -/

/-- The list, where there is one, has the name. -/
def Permits (names : Option (List String)) (name : String) : Prop :=
  ∀ listed ∈ names, name ∈ listed

/-- The child permits nothing that the parent does not permit. -/
def Within (child parent : Option (List String)) : Prop :=
  ∀ name, Permits child name → Permits parent name

/-- No list at all, under a list that permits nothing. -/
def Escapes (child parent : Option (List String)) : Prop :=
  child = none ∧ parent = some []

section Lists

variable {child parent : Option (List String)}

/-- No list names everything. -/
theorem exists_unlisted (listed : List String) : ∃ name, name ∉ listed := by
  obtain ⟨name, unlisted⟩ := Infinite.exists_notMem_finset listed.toFinset
  exact ⟨name, by simpa using unlisted⟩

/-- An absent list is within an absent list only. -/
theorem within_of_none : Within none parent ↔ parent = none := by
  constructor
  · intro within
    cases parent with
    | none => rfl
    | some listed =>
        obtain ⟨name, unlisted⟩ := exists_unlisted listed
        have permitted : Permits (some listed) name :=
          within name (by simp [Permits])
        exact (unlisted (permitted listed rfl)).elim
  · rintro rfl name _ listed isListed
    cases isListed

/-- A list is within another one when its names are on it. -/
theorem within_of_some {names listed : List String} :
    Within (some names) (some listed) ↔
      names.all (listed.contains ·) = true := by
  simp [Within, Permits]

/-- `subset` accepts what is within the parent's list, and what escapes it. -/
theorem subset_iff :
    subset child parent = true ↔
      Within child parent ∨ Escapes child parent := by
  cases parent with
  | none =>
      simp [subset, Within, Permits]
  | some listed =>
      cases child with
      | none =>
          cases listed <;> simp [subset, within_of_none, Escapes]
      | some names =>
          rw [within_of_some]
          cases listed <;> simp [subset, Escapes]

/-- What `subset` accepts is within the parent's list unless it escapes. -/
theorem within_iff_of_subset
    (accepted : subset child parent = true) :
    Within child parent ↔ ¬ Escapes child parent := by
  constructor
  · rintro within ⟨rfl, rfl⟩
    cases within_of_none.mp within
  · exact (subset_iff.mp accepted).resolve_right

end Lists

/-! ## Mandates -/

/-- The lists of the mandate permit the tool and the server. -/
structure Mandate.Allows
    (mandate : Mandate)
    (tool server : String) :
    Prop where
  tool : Permits mandate.toolsList tool
  server : Permits mandate.serversList server

/-- A call that passes `check_tool` is allowed by the mandate. -/
theorem checkTool_allows
    {mandate : Mandate}
    {tool server : String}
    {priceCents : Cents}
    (passed : checkTool mandate tool server priceCents = .ok ()) :
    mandate.Allows tool server := by
  have checked := checkTool_ok passed
  exact { tool := checked.tool, server := checked.server }

/-- The lists of the child are within the lists of the parent. -/
structure Mandate.Narrows (child parent : Mandate) : Prop where
  tools : Within child.toolsList parent.toolsList
  servers : Within child.serversList parent.serversList

/-- What a narrower mandate allows, the wider one allows. -/
theorem Mandate.Narrows.allows
    {child parent : Mandate}
    {tool server : String}
    (narrows : child.Narrows parent)
    (allows : child.Allows tool server) :
    parent.Allows tool server where
  tool := narrows.tools tool allows.tool
  server := narrows.servers server allows.server

namespace Mandate.SameTerms

variable {old new : Mandate}

/-- What a mandate allows does not change. -/
theorem allows
    {tool server : String}
    (same : old.SameTerms new)
    (allows : old.Allows tool server) :
    new.Allows tool server where
  tool := same.toolsList ▸ allows.tool
  server := same.serversList ▸ allows.server

/-- A narrower mandate stays narrower. -/
theorem narrows
    {parent parent' : Mandate}
    (same : old.SameTerms new)
    (sameParent : parent.SameTerms parent')
    (narrows : old.Narrows parent) :
    new.Narrows parent' where
  tools := by
    rw [same.toolsList, sameParent.toolsList]
    exact narrows.tools
  servers := by
    rw [same.serversList, sameParent.serversList]
    exact narrows.servers

end Mandate.SameTerms

/-! ## The forest of mandates -/

/-- Every mandate with a parent is narrower than it. -/
def Db.Narrowed (db : Db) : Prop :=
  ∀ child ∈ db.mandates.rows, ∀ parentId,
    child.parentMandateId = some parentId →
      ∃ parent, db.mandates.find parentId = some parent ∧
        child.Narrows parent

/-- The mandate under the id allows the tool and the server. -/
def Db.Allows
    (db : Db)
    (tool server : String)
    (mandateId : Id) :
    Prop :=
  ∃ mandate, db.mandates.find mandateId = some mandate ∧
    mandate.Allows tool server

/-- What is allowed stays allowed. -/
theorem Db.Allows.evolves
    {db db' : Db}
    {tool server : String}
    {mandateId : Id}
    (allows : db.Allows tool server mandateId)
    (evolves : Evolves db db') :
    db'.Allows tool server mandateId := by
  obtain ⟨mandate, found, isAllowed⟩ := allows
  obtain ⟨mandate', found', same⟩ := evolves.mandates _ _ found
  exact ⟨mandate', found', same.allows isAllowed⟩

/-- What a mandate allows, every mandate above it allows. -/
theorem Db.Narrowed.ancestor_allows
    {db : Db}
    {tool server : String}
    {mandateId ancestorId : Id}
    (narrowed : db.Narrowed)
    (above :
      Delegation.SelfOrAncestor db.books.parentOf mandateId ancestorId)
    (allows : db.Allows tool server mandateId) :
    db.Allows tool server ancestorId := by
  have chained : db.Chained Mandate.Narrows := narrowed
  exact chained.ascend (fun _ _ narrows => narrows.allows) above allows

/-- No list is left out where the parent of a new mandate has an empty one. -/
def Attenuates (s : Sys) : Action → Prop
  | .txn _ (.issueMandate _ _ args _ _) =>
      ∀ parentId ∈ args.parentMandateId,
        ∀ parent ∈ s.db.mandates.find parentId,
          ¬ Escapes args.tools parent.toolsList ∧
            ¬ Escapes args.servers parent.serversList
  | _ => True

/-- A mandate that is issued without an escape narrows its parent. -/
theorem Issues.narrows
    {env : Env}
    {s : Sys}
    {action : Action}
    {mandate : Mandate}
    {parentId : Id}
    (issues : Issues env s mandate action)
    (attenuates : Attenuates s action)
    (link : mandate.parentMandateId = some parentId) :
    ∃ parent, s.db.mandates.find parentId = some parent ∧
      mandate.Narrows parent := by
  obtain ⟨issued⟩ := issues
  obtain ⟨loaded, parent, checked, found, same, _⟩ :=
    issued.parentChecked link
  obtain ⟨nonce, signature, pubkeyHex, rfl⟩ := issued.isRow
  obtain ⟨toolsKept, serversKept⟩ := attenuates parentId link parent found
  have tools := checked.attenuated.tools
  have servers := checked.attenuated.servers
  rw [← same.toolsList] at tools
  rw [← same.serversList] at servers
  exact ⟨parent, found,
    { tools := (within_iff_of_subset tools).mpr toolsKept
      servers := (within_iff_of_subset servers).mpr serversKept }⟩

section Runs

variable
  {env : Env}
  {allowed : Sys → Action → Prop}
  {s : Sys}

/-- When every issue attenuates, the forest is narrowed. -/
theorem reachable_narrowed
    (attenuates : ∀ s action, allowed s action → Attenuates s action)
    (reachable : Reachable env allowed s) :
    s.db.Narrowed := by
  refine reachable_chained Mandate.Narrows ?_ ?_ reachable
  · intro _ _ _ _ sameChild sameParent narrows
    exact sameChild.narrows sameParent narrows
  · intro s action mandate parentId _ isAllowed issues link
    exact issues.narrows (attenuates s action isAllowed) link

/-- The mandate of a call allows its tool and its server. -/
def Db.AllowsCall (db : Db) (call : InvokeCall) : Prop :=
  db.Allows call.attempt.invocation.tool call.attempt.invocation.server
    call.attempt.invocation.mandateId

/-- A call that begins is allowed by the mandate it has loaded. -/
theorem Begins.allowsCall
    {views : Views}
    {request : InvokeRequest}
    {draw : InvokeDraw}
    {db db' : Db}
    {loaded : Mandate}
    {call : InvokeCall}
    (begins : Begins env views request draw db loaded call.attempt)
    (stored : call.attempt.Stored env db') :
    (views 0).AllowsCall call := by
  obtain ⟨found, _, _⟩ := loadLiveMandate_ok begins.live
  have requested := stored.requested
  rw [begins.isRequest] at requested
  unfold Db.AllowsCall
  rw [requested.mandate, requested.tool, requested.server]
  exact ⟨loaded, found, checkTool_allows begins.allowed⟩

/-- Every call is allowed by its own mandate. -/
theorem reachable_allowsCall
    (reachable : Reachable env allowed s) :
    ∀ call ∈ s.calls.rows, s.db.AllowsCall call := by
  apply reachable_invariant .free
    (fun s => ∀ call ∈ s.calls.rows, s.db.AllowsCall call) _ _ _ reachable
  · intro s action _
    exact Discipline.free_allows action
  · intro call member
    cases member
  · intro s s' action isReachable holds _ stepped call member
    rcases stepped.call_origin call member with
      ⟨before, inOld, same⟩ |
      ⟨ages, request, draw, loaded, _, begins, stored⟩
    · have allows := (holds before inOld).evolves stepped.evolves
      rw [same] at allows
      exact allows
    · have seen := (reachable_kept isReachable).seen ages 0
      exact (begins.allowsCall stored).evolves (seen.trans stepped.evolves)

/--
Delegation never widens the lists: when no list is left out under an empty one,
every call is allowed by its mandate and by every mandate above it.
-/
theorem delegation_never_widens
    {call : InvokeCall}
    {ancestorId : Id}
    (reachable : Reachable env Attenuates s)
    (member : call ∈ s.calls.rows)
    (above :
      Delegation.SelfOrAncestor s.db.books.parentOf
        call.attempt.invocation.mandateId ancestorId) :
    ∃ ancestor, s.db.mandates.find ancestorId = some ancestor ∧
      ancestor.Allows call.attempt.invocation.tool
        call.attempt.invocation.server := by
  have narrowed := reachable_narrowed (fun _ _ kept => kept) reachable
  exact narrowed.ancestor_allows above
    (reachable_allowsCall reachable call member)

end Runs

/-- A child that names its tool and its server, and its call. -/
def narrowedCall : List Action :=
  deploy ++
    [.txn []
        (.issueMandate noon noon
          { principalId := 1
            agentId := 1
            spendLimitCents := 40
            tools := some ["search"]
            servers := some ["mock"]
            parentMandateId := some 1 }
          2 "n2"),
      .invoke [] { call with mandateId := 2 } (drawTen 1)]

/-- The call of a child is allowed by the root of its chain. -/
theorem delegation_never_widens_example :
    ∃ s call ancestor,
      Reachable .plain Attenuates s ∧
        call ∈ s.calls.rows ∧
        call.attempt.invocation.mandateId = 2 ∧
        s.db.mandates.find 1 = some ancestor ∧
        ancestor.Allows call.attempt.invocation.tool
          call.attempt.invocation.server := by
  have checked :
      (run .plain Sys.start narrowedCall).any
          (fun s =>
            (s.calls.find 1).any
                (·.attempt.invocation.mandateId = 2) &&
              s.db.books.parentOf 2 = some 1) =
        true := by
    decide
  have permitted : Permitted .plain Attenuates Sys.start narrowedCall := by
    apply Permitted.of_forall
    intro action member s
    simp only [narrowedCall, deploy, List.cons_append, List.nil_append,
      List.mem_cons, List.not_mem_nil, or_false] at member
    rcases member with rfl | rfl | rfl | rfl | rfl <;>
      simp [Attenuates, Escapes]
  obtain ⟨s, reachable, passes⟩ := reachable_of_check permitted checked
  obtain ⟨passes, link⟩ := Bool.and_eq_true_iff.mp passes
  obtain ⟨call, found, isChild⟩ := (Option.any_eq_true _ _).mp passes
  have member := Table.mem_of_find found
  have isSecond := of_decide_eq_true isChild
  have above :
      Delegation.SelfOrAncestor s.db.books.parentOf
        call.attempt.invocation.mandateId 1 := by
    rw [isSecond]
    exact .step (of_decide_eq_true link) (.refl _ 1)
  obtain ⟨ancestor, ancestorFound, allows⟩ :=
    delegation_never_widens reachable member above
  exact ⟨s, call, ancestor, reachable, member, isSecond, ancestorFound, allows⟩

/-- A child without lists under a mandate that permits no tool, and its call. -/
def widenedCall : List Action :=
  deploy ++
    [.txn []
        (.issueMandate noon noon
          { principalId := 1
            agentId := 1
            spendLimitCents := 40
            tools := some []
            parentMandateId := some 1 }
          2 "n2"),
      .txn []
        (.issueMandate noon noon
          { principalId := 1
            agentId := 1
            spendLimitCents := 20
            parentMandateId := some 2 }
          3 "n3"),
      .invoke [] { call with mandateId := 3 } (drawTen 1)]

/-- A child without lists calls a tool that its parent does not allow. -/
theorem empty_list_escapes :
    ∃ s call ancestor,
      Reachable .plain (fun _ _ => True) s ∧
        call ∈ s.calls.rows ∧
        Delegation.SelfOrAncestor s.db.books.parentOf
          call.attempt.invocation.mandateId 2 ∧
        s.db.mandates.find 2 = some ancestor ∧
        ¬ ancestor.Allows call.attempt.invocation.tool
            call.attempt.invocation.server := by
  have checked :
      (run .plain Sys.start widenedCall).any
          (fun s =>
            (s.calls.find 1).any
                (·.attempt.invocation.mandateId = 3) &&
              s.db.books.parentOf 3 = some 2 &&
              (s.db.mandates.find 2).any (·.toolsList = some [])) =
        true := by
    decide
  obtain ⟨s, reachable, passes⟩ :=
    reachable_of_check (.of_forall (fun _ _ _ => trivial) _) checked
  obtain ⟨passes, isEmpty⟩ := Bool.and_eq_true_iff.mp passes
  obtain ⟨passes, link⟩ := Bool.and_eq_true_iff.mp passes
  obtain ⟨call, found, isChild⟩ := (Option.any_eq_true _ _).mp passes
  obtain ⟨ancestor, ancestorFound, noTools⟩ :=
    (Option.any_eq_true _ _).mp isEmpty
  refine ⟨s, call, ancestor, reachable, Table.mem_of_find found, ?_,
    ancestorFound, ?_⟩
  · rw [of_decide_eq_true isChild]
    exact .step (of_decide_eq_true link) (.refl _ 2)
  · intro allows
    have listed := allows.tool [] (of_decide_eq_true noTools)
    cases listed

end Crossing
