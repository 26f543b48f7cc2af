import Crossing.LookAlike
import Crossing.Replies
import Crossing.TenantIsolation

namespace Crossing

open Relational
open Relational.Transaction

/-!
# Two databases with the same share of an account

What a request of the account reads is alike in both: its principals, the
agents above its agents, its mandates.  The rows that it may write to are alike
as well, so they look alike to its watch.
-/

/-- No row has the id, or names it as its reservation or its receipt. -/
structure Db.Unused (db : Db) (id : Id) : Prop where
  agents : db.agents.find id = none
  tasks : db.tasks.find id = none
  mandates : db.mandates.find id = none
  reservations : db.reservations.find id = none
  invocations : db.invocations.find id = none
  receipts : db.receipts.find id = none
  receiptsOf : ∀ row ∈ db.receipts.rows, row.reservationId ≠ some id
  billingOutbox : db.billingOutbox.find id = none
  billsOf : ∀ row ∈ db.billingOutbox.rows, row.receiptId ≠ id

/-- The databases have the same rows of an account, table by table. -/
structure SameShare (accountId : Id) (one two : Db) : Prop where
  owns :
    ∀ principalId,
      one.owns accountId principalId = two.owns accountId principalId
  accounts : one.accounts.Agree (·.id = accountId) two.accounts
  principals : one.principals.Agree (·.accountId = accountId) two.principals
  agents : one.agents.Agree (one.owns accountId ·.principalId) two.agents
  mandates :
    one.mandates.Agree (one.owns accountId ·.principalId) two.mandates
  receipts :
    one.receipts.Agree (one.owns accountId ·.principalId) two.receipts
  idempotencyRecords :
    one.idempotencyRecords.Agree (one.owns accountId ·.principalId)
      two.idempotencyRecords
  usedNonces :
    one.usedNonces.Agree (one.owns accountId ·.principalId) two.usedNonces

section Shares

variable
  {one two : Db}
  {accountId : Id}

/-- The principals of an account are those of its share. -/
theorem owns_iff_share
    {db : Db}
    {principalId : Id} :
    db.owns accountId principalId = true ↔
      ∃ principal ∈ (db.share accountId).principals,
        principal.id = principalId := by
  rw [Db.owns_iff]
  constructor
  · rintro ⟨principal, found, ofAccount⟩
    refine ⟨principal, ?_, Table.key_of_find found⟩
    exact List.mem_filter.mpr
      ⟨Table.mem_of_find found, decide_eq_true ofAccount⟩
  · rintro ⟨principal, member, rfl⟩
    obtain ⟨stored, ofAccount⟩ := List.mem_filter.mp member
    exact ⟨principal, Table.find_of_mem stored, of_decide_eq_true ofAccount⟩

/-- Equal shares have the same rows in each table. -/
theorem sameShare_of_eq
    (same : one.share accountId = two.share accountId) :
    SameShare accountId one two := by
  have owns (principalId : Id) :
      one.owns accountId principalId = two.owns accountId principalId := by
    rw [Bool.eq_iff_iff, owns_iff_share, owns_iff_share, same]
  have rows := Rows.mk.inj same
  obtain ⟨accounts, principals, agents, _, mandates, _, _, receipts, _,
    idempotencyRecords, usedNonces, _⟩ := rows
  simp only [← owns] at agents mandates receipts idempotencyRecords usedNonces
  exact
    { owns := owns
      accounts := accounts
      principals := principals
      agents := agents
      mandates := mandates
      receipts := receipts
      idempotencyRecords := idempotencyRecords
      usedNonces := usedNonces }

/-! ## Agents -/

/-- The account owns the agent that is stored under the id. -/
def Db.OwnAgent (db : Db) (accountId agentId : Id) : Prop :=
  ∃ agent, db.agents.find agentId = some agent ∧
    db.owns accountId agent.principalId = true

/-- An agent that the account owns in one database it owns in the other. -/
theorem SameShare.ownAgent_iff
    {agentId : Id}
    (same : SameShare accountId one two) :
    one.OwnAgent accountId agentId ↔ two.OwnAgent accountId agentId := by
  unfold Db.OwnAgent
  simp only [← same.owns]
  exact same.agents.found_iff

/-- The parent of an agent of the account is one of its agents. -/
theorem Db.Unmixed.ownParent
    {agentId parentId : Id}
    {agent : Agent}
    (unmixed : one.Unmixed)
    (found : one.agents.find agentId = some agent)
    (owns : one.owns accountId agent.principalId = true)
    (link : agent.parentId = some parentId) :
    ∃ parent, one.agents.find parentId = some parent ∧
      one.owns accountId parent.principalId = true := by
  obtain ⟨parent, parentFound, ofPrincipal⟩ :=
    unmixed.ofParent agent (Table.mem_of_find found) parentId link
  exact ⟨parent, parentFound, ofPrincipal ▸ owns⟩

/-- An agent of the account is live in both or in none. -/
theorem SameShare.requireLiveAgent
    {agentId : Id}
    (same : SameShare accountId one two)
    (unmixed : one.Unmixed)
    (own : one.OwnAgent accountId agentId) :
    Crossing.requireLiveAgent (fun _ => one) agentId =
      Crossing.requireLiveAgent (fun _ => two) agentId := by
  obtain ⟨agent, found, owns⟩ := own
  unfold Crossing.requireLiveAgent
  dsimp only
  rw [found, same.agents.found found owns]
  cases checked : checkAgent (some agent) with
  | error outcome => rfl
  | ok live =>
      obtain ⟨isAgent, _⟩ := checkAgent_ok checked
      cases isAgent
      dsimp only [Bind.bind, Except.bind]
      cases link : agent.parentId with
      | none => rfl
      | some parentId =>
          obtain ⟨parent, parentFound, ownsParent⟩ :=
            unmixed.ownParent found owns link
          dsimp only
          rw [parentFound, same.agents.found parentFound ownsParent]

/-- The visited agents are stored, so the walk ends. -/
theorem ancestorWalk_ends
    {agents : Table Agent}
    {ancestorId : Id}
    {fuel : Nat}
    {current : Agent}
    {seen : List Id}
    (stored : agents.find current.id = some current)
    (seenStored : ∀ id ∈ seen, id ∈ agents.rows.map Agent.id)
    (nodup : seen.Nodup)
    (enough : agents.rows.length < seen.length + fuel) :
    ∃ answer,
      ancestorWalk agents ancestorId fuel (some current) seen =
        some answer := by
  induction fuel generalizing current seen with
  | zero =>
      have bounded := (nodup.subperm seenStored).length_le
      rw [List.length_map] at bounded
      omega
  | succ fuel inductionHypothesis =>
      unfold ancestorWalk
      cases current.parentId with
      | none => exact ⟨false, rfl⟩
      | some parentId =>
          dsimp only
          split
          · exact ⟨true, rfl⟩
          · split
            · exact ⟨false, rfl⟩
            · rename_i unseen
              cases found : agents.find parentId with
              | none =>
                  refine ⟨false, ?_⟩
                  cases fuel <;> rfl
              | some parent =>
                  have isKey : parent.id = parentId :=
                    Table.key_of_find found
                  refine inductionHypothesis (isKey ▸ found) ?_ ?_ ?_
                  · intro id member
                    rcases List.mem_cons.mp member with rfl | before
                    · exact List.mem_map_of_mem (Table.mem_of_find stored)
                    · exact seenStored id before
                  · exact List.nodup_cons.mpr ⟨unseen, nodup⟩
                  · rw [List.length_cons]
                    omega

/-- `is_self_or_descendant` always answers. -/
theorem isSelfOrDescendant_ends
    (agents : Table Agent)
    (agentId ancestorId : Id) :
    ∃ answer, isSelfOrDescendant agents agentId ancestorId = some answer := by
  unfold isSelfOrDescendant
  split
  · exact ⟨true, rfl⟩
  · cases found : agents.find agentId with
    | none => exact ⟨false, rfl⟩
    | some agent =>
        have isKey : agent.id = agentId := Table.key_of_find found
        refine ancestorWalk_ends (isKey ▸ found) ?_ List.nodup_nil ?_
        · intro id absent
          cases absent
        · simp

/-- Walks from an agent of the account come to the same answer. -/
theorem SameShare.ancestorWalk
    {ancestorId : Id}
    {fuel fuel' : Nat}
    {current : Agent}
    {seen : List Id}
    {answer answer' : Bool}
    (same : SameShare accountId one two)
    (unmixed : one.Unmixed)
    (found : one.agents.find current.id = some current)
    (owns : one.owns accountId current.principalId = true)
    (walked :
      Crossing.ancestorWalk one.agents ancestorId fuel (some current) seen =
        some answer)
    (walked' :
      Crossing.ancestorWalk two.agents ancestorId fuel' (some current) seen =
        some answer') :
    answer = answer' := by
  induction fuel generalizing fuel' current seen with
  | zero => cases walked
  | succ fuel inductionHypothesis =>
      cases fuel' with
      | zero => cases walked'
      | succ fuel' =>
          unfold Crossing.ancestorWalk at walked walked'
          cases link : current.parentId with
          | none =>
              simp only [link, Option.some.injEq] at walked walked'
              rw [← walked, ← walked']
          | some parentId =>
              simp only [link] at walked walked'
              split at walked
              · rename_i arrived
                rw [if_pos arrived] at walked'
                cases walked
                cases walked'
                rfl
              · rename_i notYet
                rw [if_neg notYet] at walked'
                split at walked
                · rename_i again
                  rw [if_pos again] at walked'
                  cases walked
                  cases walked'
                  rfl
                · rename_i unseen
                  rw [if_neg unseen] at walked'
                  obtain ⟨parent, parentFound, ownsParent⟩ :=
                    unmixed.ownParent found owns link
                  have isKey : parent.id = parentId :=
                    Table.key_of_find parentFound
                  rw [parentFound] at walked
                  rw [same.agents.found parentFound ownsParent] at walked'
                  exact inductionHypothesis (isKey ▸ parentFound) ownsParent
                    walked walked'

/-- Whether an agent of the account is below an agent is the same in both. -/
theorem SameShare.isSelfOrDescendant
    {agentId ancestorId : Id}
    (same : SameShare accountId one two)
    (unmixed : one.Unmixed)
    (own : one.OwnAgent accountId agentId) :
    Crossing.isSelfOrDescendant one.agents agentId ancestorId =
      Crossing.isSelfOrDescendant two.agents agentId ancestorId := by
  obtain ⟨agent, found, owns⟩ := own
  have found' := same.agents.found found owns
  have isKey : agent.id = agentId := Table.key_of_find found
  obtain ⟨answer, walked⟩ :=
    isSelfOrDescendant_ends one.agents agentId ancestorId
  obtain ⟨answer', walked'⟩ :=
    isSelfOrDescendant_ends two.agents agentId ancestorId
  rw [walked, walked']
  unfold Crossing.isSelfOrDescendant at walked walked'
  split at walked
  · rename_i isSelf
    rw [if_pos isSelf] at walked'
    exact walked.symm.trans walked'
  · rename_i isOther
    rw [if_neg isOther, found'] at walked'
    rw [found] at walked
    exact congrArg some
      (same.ancestorWalk unmixed (isKey ▸ found) owns walked walked')

/-- An agent of the account is below agents of the account only. -/
theorem Db.Unmixed.notBelow
    {agentId ancestorId : Id}
    (unmixed : one.Unmixed)
    (own : one.OwnAgent accountId agentId)
    (foreign : ¬ one.OwnAgent accountId ancestorId) :
    Crossing.isSelfOrDescendant one.agents agentId ancestorId =
      some false := by
  obtain ⟨answer, walked⟩ :=
    isSelfOrDescendant_ends one.agents agentId ancestorId
  cases answer with
  | false => exact walked
  | true =>
      obtain ⟨agent, found, owns⟩ := own
      obtain ⟨ancestor, ancestorFound, ofPrincipal⟩ :=
        unmixed.above (isSelfOrDescendant_sound walked) ⟨agent, found, rfl⟩
      exact (foreign ⟨ancestor, ancestorFound, ofPrincipal ▸ owns⟩).elim

/-! ## Mandates -/

/-- The account owns the mandate that is stored under the id. -/
def Db.OwnMandate (db : Db) (accountId mandateId : Id) : Prop :=
  ∃ mandate, db.mandates.find mandateId = some mandate ∧
    db.owns accountId mandate.principalId = true

/-- A mandate that the account owns in one database it owns in the other. -/
theorem SameShare.ownMandate_iff
    {mandateId : Id}
    (same : SameShare accountId one two) :
    one.OwnMandate accountId mandateId ↔
      two.OwnMandate accountId mandateId := by
  unfold Db.OwnMandate
  simp only [← same.owns]
  exact same.mandates.found_iff

/-- The keys that are bound to a principal of the account are the same. -/
theorem SameShare.verifyStoredMandate
    {env : Env}
    {mandate : Mandate}
    (same : SameShare accountId one two)
    (owns : one.owns accountId mandate.principalId = true) :
    Crossing.verifyStoredMandate env one mandate =
      Crossing.verifyStoredMandate env two mandate := by
  obtain ⟨principal, found, ofAccount⟩ := Db.owns_iff.mp owns
  unfold Crossing.verifyStoredMandate
  rw [found, same.principals.found found (decide_eq_true ofAccount)]

/-- A mandate of the account is live in both or in none. -/
theorem SameShare.loadLiveMandate
    {env : Env}
    {now : Datetime}
    {mandateId : Id}
    (same : SameShare accountId one two)
    (unmixed : one.Unmixed)
    (own : one.OwnMandate accountId mandateId) :
    Crossing.loadLiveMandate env (fun _ => one) now mandateId =
      Crossing.loadLiveMandate env (fun _ => two) now mandateId := by
  obtain ⟨mandate, found, owns⟩ := own
  obtain ⟨agent, agentFound, ofPrincipal⟩ :=
    unmixed.ofAgent mandate (Table.mem_of_find found)
  have ownAgent : one.OwnAgent accountId mandate.agentId :=
    ⟨agent, agentFound, ofPrincipal ▸ owns⟩
  have sameAgent := same.requireLiveAgent unmixed ownAgent
  unfold Crossing.loadLiveMandate findMandate
  dsimp only
  rw [found, same.mandates.found found owns]
  dsimp only [Bind.bind, Except.bind]
  rw [same.verifyStoredMandate owns]
  unfold Views.after
  rw [sameAgent]

/-! ## What a request may meet -/

/-- Rows with keys that are drawn are not stored. -/
theorem not_drawn
    {ρ : Type}
    [Keyed ρ Id]
    {table : Table ρ}
    {draws : List Id}
    {row : ρ}
    (unused : ∀ id ∈ draws, table.find id = none)
    (member : row ∈ table.rows) :
    Keyed.key row ∉ draws := by
  intro drawn
  have found := Table.find_of_mem member
  rw [unused _ drawn] at found
  cases found

/-- Tables agree on a class of rows whose keys are drawn: they have none. -/
theorem agree_drawn
    {ρ : Type}
    [Keyed ρ Id]
    {table table' : Table ρ}
    {draws : List Id}
    {isIn : ρ → Bool}
    (unused : ∀ id ∈ draws, table.find id = none)
    (unused' : ∀ id ∈ draws, table'.find id = none)
    (isDrawn : ∀ row, isIn row = true → Keyed.key row ∈ draws) :
    table.Agree isIn table' := by
  apply Table.agree_of_none
  · intro row member rowIn
    exact not_drawn unused member (isDrawn row rowIn)
  · intro row member rowIn
    exact not_drawn unused' member (isDrawn row rowIn)

/-- No stored receipt has an id that is drawn, or is for such a reservation. -/
theorem Watch.no_receipt
    {db : Db}
    {watch : Watch}
    (unused : ∀ id ∈ watch.draws, db.Unused id) :
    ∀ row ∈ db.receipts.rows, watch.receipts row ≠ true := by
  intro row member rowIn
  rcases Bool.or_eq_true_iff.mp rowIn with isDrawn | ofDrawn
  · exact not_drawn (fun id drawn => (unused id drawn).receipts) member
      (of_decide_eq_true isDrawn)
  · obtain ⟨id, isReservation, isDrawn⟩ := (Option.any_eq_true _ _).mp ofDrawn
    exact (unused id (of_decide_eq_true isDrawn)).receiptsOf row member
      isReservation

/-- No outbox row has an id that is drawn, or is for such a receipt. -/
theorem Watch.no_bill
    {db : Db}
    {watch : Watch}
    (unused : ∀ id ∈ watch.draws, db.Unused id) :
    ∀ row ∈ db.billingOutbox.rows, watch.billingOutbox row ≠ true := by
  intro row member rowIn
  rcases Bool.or_eq_true_iff.mp rowIn with isDrawn | ofDrawn
  · exact not_drawn (fun id drawn => (unused id drawn).billingOutbox) member
      (of_decide_eq_true isDrawn)
  · exact (unused _ (of_decide_eq_true ofDrawn)).billsOf row member rfl

/-- The principal that is watched is one of the account. -/
theorem Watch.principals_own
    {db : Db}
    {watch : Watch}
    (owns : db.owns watch.accountId watch.principalId = true) :
    ∀ row ∈ db.principals.rows, watch.principals row = true →
      decide (row.accountId = watch.accountId) = true := by
  intro row member isWatched
  obtain ⟨owned, found, ofAccount⟩ := Db.owns_iff.mp owns
  rw [← of_decide_eq_true isWatched] at found
  cases (Table.find_of_mem member).symm.trans found
  exact decide_eq_true ofAccount

/-- A mandate is known, or it has the id or the nonce that is drawn. -/
theorem Watch.mandates_own
    {db : Db}
    {watch : Watch}
    (ownMandates : ∀ id ∈ watch.mandateIds, db.OwnMandate accountId id)
    (unused : ∀ id ∈ watch.draws, db.Unused id)
    (ownNonces :
      ∀ nonce ∈ watch.nonces, ∀ row ∈ db.mandates.rows,
        row.nonce = nonce → db.owns accountId row.principalId = true) :
    ∀ row ∈ db.mandates.rows, watch.mandates row = true →
      db.owns accountId row.principalId = true := by
  intro row member rowIn
  unfold Watch.mandates at rowIn
  rcases Bool.or_eq_true_iff.mp rowIn with rowIn | isNonce
  · rcases Bool.or_eq_true_iff.mp rowIn with isKnown | isDrawn
    · obtain ⟨mandate, found, owns⟩ :=
        ownMandates row.id (of_decide_eq_true isKnown)
      cases (Table.find_of_mem member).symm.trans found
      exact owns
    · refine (not_drawn ?_ member (of_decide_eq_true isDrawn)).elim
      exact fun id drawn => (unused id drawn).mandates
  · exact ownNonces row.nonce (of_decide_eq_true isNonce) row member rfl

/-- Databases with the same share look alike to a request of the account. -/
theorem SameShare.alike
    {watch : Watch}
    (same : SameShare watch.accountId one two)
    (owns : one.owns watch.accountId watch.principalId = true)
    (ownMandates :
      ∀ id ∈ watch.mandateIds, one.OwnMandate watch.accountId id)
    (unused : ∀ id ∈ watch.draws, one.Unused id ∧ two.Unused id)
    (ownNonces :
      ∀ nonce ∈ watch.nonces, ∀ row ∈ one.mandates.rows,
        row.nonce = nonce →
          one.owns watch.accountId row.principalId = true)
    (ownNonces' :
      ∀ nonce ∈ watch.nonces, ∀ row ∈ two.mandates.rows,
        row.nonce = nonce →
          two.owns watch.accountId row.principalId = true) :
    watch.Alike one two := by
  have unusedOne (id : Id) (drawn : id ∈ watch.draws) : one.Unused id :=
    (unused id drawn).1
  have unusedTwo (id : Id) (drawn : id ∈ watch.draws) : two.Unused id :=
    (unused id drawn).2
  have owns' : two.owns watch.accountId watch.principalId = true :=
    (same.owns _).symm.trans owns
  have ownMandates' :
      ∀ id ∈ watch.mandateIds, two.OwnMandate watch.accountId id :=
    fun id known => same.ownMandate_iff.mp (ownMandates id known)
  have ofWatch
      {principalId : Id}
      (isWatched : decide (principalId = watch.principalId) = true) :
      one.owns watch.accountId principalId = true :=
    of_decide_eq_true isWatched ▸ owns
  -- Classes that hold drawn ids only have no rows.
  have drawn
      {ρ : Type}
      [Keyed ρ Id]
      (table : Db → Table ρ)
      (isIn : ρ → Bool)
      (fresh : ∀ db id, db.Unused id → (table db).find id = none)
      (isDrawn : ∀ row, isIn row = true → Keyed.key row ∈ watch.draws) :
      (table one).Agree isIn (table two) :=
    agree_drawn (fun id drawn => fresh one id (unusedOne id drawn))
      (fun id drawn => fresh two id (unusedTwo id drawn)) isDrawn
  exact
    { account := by
        intro principal found
        obtain ⟨owned, isOwned, ofAccount⟩ := Db.owns_iff.mp owns
        cases found.symm.trans isOwned
        exact ofAccount
      accounts := same.accounts
      principals :=
        same.principals.within (watch.principals_own owns)
          (watch.principals_own owns')
      agents :=
        drawn Db.agents _ (fun _ _ fresh => fresh.agents)
          fun _ => of_decide_eq_true
      tasks :=
        drawn Db.tasks _ (fun _ _ fresh => fresh.tasks)
          fun _ => of_decide_eq_true
      mandates := by
        refine same.mandates.within
          (watch.mandates_own ownMandates unusedOne ownNonces) ?_
        intro row member rowIn
        rw [same.owns]
        exact watch.mandates_own ownMandates' unusedTwo ownNonces' row member
          rowIn
      reservations :=
        drawn Db.reservations _ (fun _ _ fresh => fresh.reservations)
          fun _ => of_decide_eq_true
      invocations :=
        drawn Db.invocations _ (fun _ _ fresh => fresh.invocations)
          fun _ => of_decide_eq_true
      receipts :=
        Table.agree_of_none (watch.no_receipt unusedOne)
          (watch.no_receipt unusedTwo)
      billingOutbox :=
        Table.agree_of_none (watch.no_bill unusedOne)
          (watch.no_bill unusedTwo)
      idempotencyRecords :=
        same.idempotencyRecords.within (fun _ _ => ofWatch)
          fun _ _ => ofWatch
      usedNonces :=
        same.usedNonces.within (fun _ _ => ofWatch) fun _ _ => ofWatch }

end Shares

end Crossing
