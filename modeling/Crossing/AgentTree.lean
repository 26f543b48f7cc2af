import Crossing.SharedRows

namespace Crossing

open Relational
open Relational.Transaction

/-!
# The tree of agents

`revoke_agent` walks down the tree of agents and remembers nothing, so it ends
only because agents form a forest.  `is_self_or_descendant` walks up and
remembers what it has visited, so it ends on every graph.
-/

/-! ## Agents form a forest -/

section Forest

variable
  {env : Env}
  {s s' : Sys}
  {action : Action}
  {agents : Table Agent}

/-- Agents are created below stored agents, and flags do not move them. -/
theorem AgentsMove.forest
    (move : AgentsMove s action agents)
    (kept : s.Kept env)
    (unmixed : s.db.Unmixed)
    (forest : Delegation.Ranked s.db.agentParent) :
    Delegation.Ranked ({ s.db with agents := agents } : Db).agentParent := by
  cases move with
  | still => exact forest
  | @created ages principalId newId parentId agent _ inserted ofParent
      parentLive =>
      have fresh : s.db.agents.find agent.id = none :=
        (Table.insert?_eq_some inserted).1
      have added (id : Id) :
          agents.find id =
            if agent.id = id then some agent else s.db.agents.find id :=
        Table.find_insert inserted id
      have childless (childId : Id) :
          s.db.agentParent childId ≠ some agent.id := by
        intro link
        obtain ⟨child, found, isParent⟩ := Option.bind_eq_some_iff.mp link
        obtain ⟨parent, stored, _⟩ :=
          unmixed.ofParent child (Table.mem_of_find found) _ isParent
        cases fresh.symm.trans stored
      have notSelf : agent.parentId ≠ some agent.id := by
        intro isOwn
        obtain ⟨parent, found, _⟩ :=
          parentLive _ (ofParent.symm.trans isOwn)
        obtain ⟨row, stored, _⟩ := (kept.seen ages 0).agents _ _ found
        cases fresh.symm.trans stored
      refine forest.attach childless ?_ ?_
      · unfold Db.agentParent
        rw [added, if_pos rfl]
        exact notSelf
      · intro id isOld
        unfold Db.agentParent
        rw [added, if_neg (Ne.symm isOld)]
  | @revoked _ _ agentId _ visited =>
      have same :
          (s.db.flagging (agentId :: visited)).agentParent =
            s.db.agentParent :=
        funext fun _ => agentParent_flagging
      exact same ▸ forest

/-- In every reachable state agents form a forest. -/
theorem reachable_forest
    {allowed : Sys → Action → Prop}
    (reachable : Reachable env allowed s) :
    Delegation.Ranked s.db.agentParent := by
  apply reachable_invariant .free
    (fun s => Delegation.Ranked s.db.agentParent) _ _ _ reachable
  · intro s action _
    exact Discipline.free_allows action
  · exact .of_none fun _ => rfl
  · intro s s' action isReachable forest _ stepped
    exact stepped.agents.forest (reachable_kept isReachable)
      (reachable_unmixed isReachable) forest

end Forest

/-! ## The walk down -/

section WalkDown

variable {db : Db} {rootId : Id} {stack visited : List Id}

/--
What a walk below the root has found.  Each found agent is stored right below
the root or below a visited agent, and none is found twice.
-/
structure Walked (db : Db) (rootId : Id) (stack visited : List Id) :
    Prop where
  nodup : (visited ++ stack).Nodup
  linked :
    ∀ id ∈ visited ++ stack, ∃ parentId ∈ rootId :: visited,
      db.agentParent id = some parentId
  beneath : ∀ id ∈ rootId :: visited, db.Beneath rootId id

/-- The children of an agent are listed once. -/
theorem nodup_childAgents (db : Db) (parentId : Id) :
    (childAgents db parentId).Nodup :=
  db.agents.keysNodup.sublist (List.filter_sublist.map Agent.id)

/-- The walk starts at the children of the root. -/
theorem Walked.start (db : Db) (rootId : Id) :
    Walked db rootId (childAgents db rootId).reverse [] where
  nodup := by
    rw [List.nil_append, List.nodup_reverse]
    exact nodup_childAgents db rootId
  linked := by
    intro id member
    rw [List.nil_append, List.mem_reverse] at member
    exact ⟨rootId, List.mem_cons_self, mem_childAgents.mp member⟩
  beneath := by
    intro id member
    cases List.mem_singleton.mp member
    exact .refl _ rootId

/-- In a forest the walk does not come back to its root. -/
theorem Walked.notRoot
    (walked : Walked db rootId stack visited)
    (forest : Delegation.Ranked db.agentParent)
    {id : Id}
    (member : id ∈ visited ++ stack) :
    id ≠ rootId := by
  rintro rfl
  obtain ⟨parentId, before, link⟩ := walked.linked id member
  exact forest.not_selfOrAncestor_of_parent link
    (walked.beneath parentId before)

/-- One turn of the loop: the last child is popped, its children are pushed. -/
theorem Walked.pop
    {childId : Id}
    (walked : Walked db rootId (childId :: stack) visited)
    (forest : Delegation.Ranked db.agentParent) :
    Walked db rootId ((childAgents db childId).reverse ++ stack)
      (childId :: visited) := by
  have onStack : childId ∈ visited ++ childId :: stack :=
    List.mem_append_right _ List.mem_cons_self
  have unvisited : childId ∉ rootId :: visited := by
    rw [List.mem_cons, not_or]
    refine ⟨walked.notRoot forest onStack, ?_⟩
    intro member
    exact (List.disjoint_of_nodup_append walked.nodup) member
      List.mem_cons_self
  -- What was found before is not below the child, as that was not visited.
  have fresh :
      List.Disjoint (childAgents db childId) (visited ++ childId :: stack) := by
    intro id isChild member
    obtain ⟨parentId, before, link⟩ := walked.linked id member
    cases (mem_childAgents.mp isChild).symm.trans link
    exact unvisited before
  have sameFound :
      (childId :: visited ++ ((childAgents db childId).reverse ++ stack)).Perm
        (childAgents db childId ++ (visited ++ childId :: stack)) := by
    have reversed := (childAgents db childId).reverse_perm
    calc
      (childId :: visited ++ ((childAgents db childId).reverse ++ stack)).Perm
          (childId :: visited ++ (childAgents db childId ++ stack)) :=
        (reversed.append_right stack).append_left _
      List.Perm _ (childAgents db childId ++ (childId :: visited ++ stack)) :=
        List.perm_append_comm_assoc _ _ _
      List.Perm _ (childAgents db childId ++ (visited ++ childId :: stack)) :=
        List.perm_middle.symm.append_left _
  refine { nodup := ?_, linked := ?_, beneath := ?_ }
  · rw [sameFound.nodup_iff]
    exact (nodup_childAgents db childId).append walked.nodup fresh
  · intro id member
    rcases List.mem_append.mp (sameFound.mem_iff.mp member) with
      isChild | isOld
    · exact ⟨childId, by simp, mem_childAgents.mp isChild⟩
    · obtain ⟨parentId, before, link⟩ := walked.linked id isOld
      refine ⟨parentId, ?_, link⟩
      rcases List.mem_cons.mp before with rfl | isVisited
      · exact List.mem_cons_self
      · exact List.mem_cons_of_mem _ (List.mem_cons_of_mem _ isVisited)
  · intro id member
    obtain ⟨parentId, before, link⟩ := walked.linked childId onStack
    have isBeneath : db.Beneath rootId childId :=
      .step link (walked.beneath parentId before)
    simp only [List.mem_cons] at member
    rcases member with rfl | rfl | isVisited
    · exact .refl _ id
    · exact isBeneath
    · exact walked.beneath id (List.mem_cons_of_mem _ isVisited)

/-- What the walk has found is stored, so there is no more of it than agents. -/
theorem Walked.length_le
    (walked : Walked db rootId stack visited) :
    (visited ++ stack).length ≤ db.agents.rows.length := by
  have stored :
      visited ++ stack ⊆ db.agents.rows.map Agent.id := by
    intro id member
    obtain ⟨parentId, _, link⟩ := walked.linked id member
    obtain ⟨agent, found, _⟩ := Option.bind_eq_some_iff.mp link
    have isKey : agent.id = id := Table.key_of_find found
    exact isKey ▸ List.mem_map_of_mem (Table.mem_of_find found)
  have bounded := (walked.nodup.subperm stored).length_le
  rwa [List.length_map] at bounded

/-- With a turn for each agent the loop ends, and has stayed below the root. -/
theorem Walked.ends
    {fuel statement : Nat}
    (walked : Walked db rootId stack visited)
    (forest : Delegation.Ranked db.agentParent)
    (enough : db.agents.rows.length ≤ visited.length + fuel) :
    ∃ final,
      revokeWalk (fun _ => db) fuel statement stack visited = some final ∧
        ∀ id ∈ final, db.Beneath rootId id := by
  induction fuel generalizing statement stack visited with
  | zero =>
      cases stack with
      | nil =>
          exact ⟨visited, rfl, fun id member =>
            walked.beneath id (List.mem_cons_of_mem _ member)⟩
      | cons childId rest =>
          have bounded := walked.length_le
          simp only [List.length_append, List.length_cons] at bounded
          omega
  | succ fuel inductionHypothesis =>
      cases stack with
      | nil =>
          exact ⟨visited, rfl, fun id member =>
            walked.beneath id (List.mem_cons_of_mem _ member)⟩
      | cons childId rest =>
          refine inductionHypothesis (walked.pop forest) ?_
          rw [List.length_cons]
          omega

end WalkDown

/-! ## What `revoke_agent` leaves -/

/-- The agents below the root are flagged, and nothing else is changed. -/
structure RevokedBelow (rootId : Id) (db db' : Db) : Prop where
  others : db' = { db with agents := db'.agents }
  unflagged :
    ∀ id,
      (db'.agents.find id).map (fun agent => { agent with revoked := false }) =
        (db.agents.find id).map fun agent => { agent with revoked := false }
  flagged :
    ∀ id,
      db'.Flagged id ↔
        db.Flagged id ∨ db.HasAgent id ∧ db.Beneath rootId id

section RevokedBelow

variable {db : Db} {rootId : Id}

/-- Flags on a list that holds the agents below the root, and only these. -/
theorem RevokedBelow.flagging
    {ids : List Id}
    (listed : ∀ id, db.HasAgent id → (id ∈ ids ↔ db.Beneath rootId id)) :
    RevokedBelow rootId db (db.flagging ids) where
  others := rfl
  unflagged := by
    intro id
    unfold Db.flagging
    rw [find_revokeAll, Option.map_map]
    rfl
  flagged := by
    intro id
    rw [flagged_flagging]
    exact or_congr_right (and_congr_right (listed id))

/-- What is below the root is on a list that is closed under children. -/
theorem mem_of_beneath
    {ids : List Id}
    {id : Id}
    (ofRoot : rootId ∈ ids)
    (closed : ∀ parentId ∈ ids, childAgents db parentId ⊆ ids)
    (beneath : db.Beneath rootId id) :
    id ∈ ids :=
  beneath.inherit
    (fun _ parentId link isIn =>
      closed parentId isIn (mem_childAgents.mpr link))
    ofRoot

/-- In a forest `revoke_agent` returns and flags what is below its agent. -/
theorem revokeAgent_returns
    {fuel : Nat}
    (forest : Delegation.Ranked db.agentParent)
    (stored : db.HasAgent rootId)
    (enough : db.agents.rows.length ≤ fuel) :
    ∃ revoked db',
      exec (revokeAgent (fun _ => db) fuel rootId) db = (.ok revoked, db') ∧
        RevokedBelow rootId db db' := by
  obtain ⟨root, found⟩ := stored
  have started := Walked.start db rootId
  obtain ⟨final, walked, beneath⟩ :=
    started.ends forest (by simpa using enough)
  obtain ⟨_, stackIn, closed⟩ :=
    revokeWalk_closed walked (walkShows_self db fuel 2 _) nofun
  refine ⟨rootId :: final, db.flagging (rootId :: final), ?_, ?_⟩
  · unfold revokeAgent
    rw [found, walked]
    rfl
  · apply RevokedBelow.flagging
    intro id _
    constructor
    · intro member
      rcases List.mem_cons.mp member with rfl | inWalk
      · exact .refl _ id
      · exact beneath id inWalk
    · apply mem_of_beneath List.mem_cons_self
      intro parentId listed childId isChild
      rcases List.mem_cons.mp listed with rfl | inWalk
      · exact List.mem_cons_of_mem _
          (stackIn (List.mem_reverse.mpr isChild))
      · exact List.mem_cons_of_mem _ (closed parentId inWalk isChild)

end RevokedBelow

/-! ## The check of one level -/

/-- The agent is stored and not flagged. -/
def Db.LiveAgent (db : Db) (agentId : Id) : Prop :=
  db.HasAgent agentId ∧ ¬ db.Flagged agentId

section OneLevel

variable {db : Db} {agentId : Id}

/-- `check_agent` accepts the agents that are live. -/
theorem checkAgent_isOk :
    (∃ agent, checkAgent (db.agents.find agentId) = .ok agent) ↔
      db.LiveAgent agentId := by
  unfold Db.LiveAgent Db.HasAgent Db.Flagged
  cases found : db.agents.find agentId with
  | none => simp [checkAgent]
  | some agent => cases revoked : agent.revoked <;> simp [checkAgent, revoked]

/-- `require_live_agent` accepts an agent that is live with its parent. -/
theorem requireLiveAgent_isOk :
    (∃ agent, requireLiveAgent (fun _ => db) agentId = .ok agent) ↔
      db.LiveAgent agentId ∧
        ∀ parentId, db.agentParent agentId = some parentId →
          db.LiveAgent parentId := by
  rw [← checkAgent_isOk]
  constructor
  · rintro ⟨agent, live⟩
    obtain ⟨found, unrevoked, ofParent⟩ := requireLiveAgent_ok live
    refine ⟨⟨agent, by simp [found, checkAgent, unrevoked]⟩, ?_⟩
    intro parentId link
    unfold Db.agentParent at link
    rw [found] at link
    obtain ⟨parent, parentFound, parentLive⟩ := ofParent parentId link
    rw [← checkAgent_isOk]
    exact ⟨parent, by simp [parentFound, checkAgent, parentLive]⟩
  · rintro ⟨⟨agent, checked⟩, parentsLive⟩
    obtain ⟨found, _⟩ := checkAgent_ok checked
    unfold requireLiveAgent
    dsimp only
    rw [checked]
    dsimp only [Bind.bind, Except.bind]
    cases above : agent.parentId with
    | none => exact ⟨agent, rfl⟩
    | some parentId =>
        have link : db.agentParent agentId = some parentId := by
          unfold Db.agentParent
          rw [found]
          exact above
        obtain ⟨parent, parentChecked⟩ :=
          checkAgent_isOk.mpr (parentsLive parentId link)
        dsimp only
        rw [parentChecked]
        exact ⟨agent, rfl⟩

/-- Where flags are closed downwards the agents above a live one are live. -/
theorem Db.Sealed.liveAbove
    {ancestorId : Id}
    (isSealed : db.Sealed)
    (live : db.LiveAgent agentId)
    (beneath : db.Beneath ancestorId agentId) :
    db.LiveAgent ancestorId :=
  beneath.ascend
    (fun childId parentId link childLive =>
      ⟨isSealed.ofParent childId parentId link,
        fun flagged => childLive.2 (isSealed.descends _ _ link flagged)⟩)
    live

end OneLevel

/--
`revoke_agent` revokes exactly the subtree.  In every state of a run of
transactions one after the other it returns, flags the agents below its agent
and changes nothing else; agents that are not revoked have live ancestors, and
`require_live_agent` accepts an agent when it and its ancestors are live.
-/
theorem revokes_exactly_the_subtree
    {env : Env}
    {s : Sys}
    (reachable : Reachable env (fun _ action => action.isSerial = true) s) :
    (∀ agentId fuel,
      s.db.HasAgent agentId →
      s.db.agents.rows.length ≤ fuel →
      ∃ revoked db',
        exec (revokeAgent (fun _ => s.db) fuel agentId) s.db =
            (.ok revoked, db') ∧
          RevokedBelow agentId s.db db') ∧
      (∀ agentId ancestorId,
        s.db.LiveAgent agentId →
        s.db.Beneath ancestorId agentId →
        ¬ s.db.Flagged ancestorId) ∧
      ∀ agentId,
        (∃ agent,
            requireLiveAgent (fun _ => s.db) agentId = .ok agent) ↔
          ∀ ancestorId,
            s.db.Beneath ancestorId agentId → s.db.LiveAgent ancestorId := by
  have forest := reachable_forest reachable
  have isSealed :=
    reachable_sealed (fun _ _ serial => undisturbed_of_serial serial) reachable
  refine ⟨?_, ?_, ?_⟩
  · intro agentId fuel stored enough
    exact revokeAgent_returns forest stored enough
  · intro agentId ancestorId live beneath
    exact (isSealed.liveAbove live beneath).2
  · intro agentId
    rw [requireLiveAgent_isOk]
    constructor
    · rintro ⟨live, _⟩ ancestorId beneath
      exact isSealed.liveAbove live beneath
    · intro allLive
      refine ⟨allLive agentId (.refl _ agentId), ?_⟩
      intro parentId link
      exact allLive parentId (.step link (.refl _ parentId))

/-- Three agents in a line, of which the second is revoked. -/
theorem revokes_exactly_the_subtree_example :
    ∃ s revoked db',
      Reachable .plain (fun _ action => action.isSerial = true) s ∧
        exec (revokeAgent (fun _ => s.db) 3 2) s.db = (.ok revoked, db') ∧
        RevokedBelow 2 s.db db' := by
  let line : List Action :=
    deploy ++
      [.txn [] (.createAgent 1 (some 1) 2),
        .txn [] (.createAgent 1 (some 2) 3)]
  have checked :
      (run .plain Sys.start line).any
          (fun s =>
            (s.db.agents.find 2).isSome && s.db.agents.rows.length ≤ 3) =
        true := by
    decide
  have serial : ∀ action ∈ line, ∀ _ : Sys, action.isSerial = true := by
    intro action member _
    exact List.all_eq_true.mp (by decide : line.all _ = true) action member
  obtain ⟨s, reachable, passes⟩ :=
    reachable_of_check (.of_forall serial _) checked
  obtain ⟨stored, enough⟩ := Bool.and_eq_true_iff.mp passes
  obtain ⟨revoked, db', returned, below⟩ :=
    (revokes_exactly_the_subtree reachable).1 2 3
      (Option.isSome_iff_exists.mp stored) (of_decide_eq_true enough)
  exact ⟨s, revoked, db', reachable, returned, below⟩

/-! ## The walk up -/

section WalkUp

variable {db : Db} {ancestorId : Id} {seen : List Id}

/-- The parent of an agent. -/
def Db.ParentLink (db : Db) (childId parentId : Id) : Prop :=
  db.agentParent childId = some parentId

/-- Above an agent is its parent, and what is above that. -/
theorem transGen_parentLink_iff
    {agentId parentId : Id}
    (link : db.agentParent agentId = some parentId) :
    Relation.TransGen db.ParentLink agentId ancestorId ↔
      parentId = ancestorId ∨
        Relation.TransGen db.ParentLink parentId ancestorId := by
  rw [Relation.TransGen.head'_iff]
  constructor
  · rintro ⟨up, isUp, above⟩
    cases link.symm.trans isUp
    exact (Relation.reflTransGen_iff_eq_or_transGen.mp above).imp_left Eq.symm
  · intro above
    exact ⟨parentId, link,
      Relation.reflTransGen_iff_eq_or_transGen.mpr
        (above.imp_left Eq.symm)⟩

/-- An agent that is not stored has no parent. -/
theorem agentParent_of_absent
    {agentId : Id}
    (absent : db.agents.find agentId = none) :
    db.agentParent agentId = none := by
  unfold Db.agentParent
  rw [absent]
  rfl

/-- Nothing is above an agent without a parent. -/
theorem not_above_of_root
    {agentId : Id}
    (isRoot : db.agentParent agentId = none) :
    ¬ Relation.TransGen db.ParentLink agentId ancestorId := by
  intro above
  obtain ⟨up, isUp, _⟩ := Relation.TransGen.head'_iff.mp above
  cases isRoot.symm.trans isUp

/--
The parents of the visited agents are visited or current, and none of them is
the ancestor.
-/
def ClosedUp (db : Db) (ancestorId currentId : Id) (seen : List Id) : Prop :=
  ∀ id ∈ seen, ∃ parentId,
    db.agentParent id = some parentId ∧
      parentId ≠ ancestorId ∧ parentId ∈ currentId :: seen

/-- Around a cycle of visited agents the ancestor is not met. -/
theorem ClosedUp.not_above
    {currentId : Id}
    (closed : ClosedUp db ancestorId currentId seen)
    (again : currentId ∈ seen) :
    ¬ Relation.TransGen db.ParentLink currentId ancestorId := by
  intro above
  have stays {id : Id} (member : id ∈ currentId :: seen) : id ∈ seen := by
    rcases List.mem_cons.mp member with rfl | isSeen
    · exact again
    · exact isSeen
  -- Every agent above the current one is visited and is not the ancestor.
  have visited :
      ∀ id, Relation.TransGen db.ParentLink currentId id →
        id ∈ seen ∧ id ≠ ancestorId := by
    intro id reached
    induction reached with
    | single link =>
        obtain ⟨parentId, link', notAncestor, member⟩ := closed _ again
        cases link'.symm.trans link
        exact ⟨stays member, notAncestor⟩
    | tail _ link inductionHypothesis =>
        obtain ⟨parentId, link', notAncestor, member⟩ :=
          closed _ inductionHypothesis.1
        cases link'.symm.trans link
        exact ⟨stays member, notAncestor⟩
  exact (visited ancestorId above).2 rfl

/-- A walk that has left out nothing answers whether the ancestor is above. -/
theorem ancestorWalk_decides
    {fuel : Nat}
    {current : Agent}
    {answer : Bool}
    (stored : db.agents.find current.id = some current)
    (closed : ClosedUp db ancestorId current.id seen)
    (walked :
      ancestorWalk db.agents ancestorId fuel (some current) seen =
        some answer) :
    answer = true ↔
      Relation.TransGen db.ParentLink current.id ancestorId := by
  induction fuel generalizing current seen with
  | zero => cases walked
  | succ fuel inductionHypothesis =>
      have parentIs : db.agentParent current.id = current.parentId := by
        unfold Db.agentParent
        rw [stored]
        rfl
      unfold ancestorWalk at walked
      cases link : current.parentId with
      | none =>
          simp only [link, Option.some.injEq] at walked
          subst walked
          exact iff_of_false Bool.false_ne_true
            (not_above_of_root (parentIs.trans link))
      | some parentId =>
          have isLink := parentIs.trans link
          rw [transGen_parentLink_iff isLink]
          simp only [link] at walked
          split at walked
          · rename_i arrived
            cases walked
            exact iff_of_true rfl (.inl arrived)
          · rename_i notYet
            split at walked
            · rename_i again
              cases walked
              rw [← transGen_parentLink_iff isLink]
              exact iff_of_false Bool.false_ne_true (closed.not_above again)
            · cases found : db.agents.find parentId with
              | none =>
                  simp only [found, ancestorWalk, Option.some.injEq] at walked
                  subst walked
                  refine iff_of_false Bool.false_ne_true ?_
                  rintro (isAncestor | above)
                  · exact notYet isAncestor
                  · exact not_above_of_root (agentParent_of_absent found) above
              | some parent =>
                  have isKey : parent.id = parentId :=
                    Table.key_of_find found
                  subst isKey
                  rw [found] at walked
                  have closedNext :
                      ClosedUp db ancestorId parent.id
                        (current.id :: seen) := by
                    intro id member
                    rcases List.mem_cons.mp member with rfl | isSeen
                    · exact ⟨parent.id, isLink, notYet, List.mem_cons_self⟩
                    · obtain ⟨up, isUp, notAncestor, member⟩ :=
                        closed id isSeen
                      exact ⟨up, isUp, notAncestor,
                        List.mem_cons_of_mem _ member⟩
                  rw [inductionHypothesis found closedNext walked]
                  exact (or_iff_right notYet).symm

/--
`is_self_or_descendant` decides ancestry on every table of agents, also on one
whose parent links form cycles.
-/
theorem descendant_walk_decides (db : Db) (agentId ancestorId : Id) :
    ∃ answer,
      isSelfOrDescendant db.agents agentId ancestorId = some answer ∧
        (answer = true ↔
          agentId = ancestorId ∨
            Relation.TransGen db.ParentLink agentId ancestorId) := by
  obtain ⟨answer, walked⟩ :=
    isSelfOrDescendant_ends db.agents agentId ancestorId
  refine ⟨answer, walked, ?_⟩
  unfold isSelfOrDescendant at walked
  split at walked
  · rename_i isSelf
    cases walked
    exact iff_of_true rfl (.inl isSelf)
  · rename_i isOther
    rw [or_iff_right isOther]
    cases found : db.agents.find agentId with
    | none =>
        simp only [found, ancestorWalk, Option.some.injEq] at walked
        subst walked
        exact iff_of_false Bool.false_ne_true
          (not_above_of_root (agentParent_of_absent found))
    | some agent =>
        have isKey : agent.id = agentId := Table.key_of_find found
        subst isKey
        rw [found] at walked
        have unvisited : ClosedUp db ancestorId agent.id [] := by
          intro id member
          cases member
        exact ancestorWalk_decides found unvisited walked

end WalkUp

end Crossing
