import Crossing.Effects

namespace Crossing

open Relational
open Relational.Transaction

/-!
# The effect of each transaction

Every body that returns has one of the listed effects.  The objects a session
holds and the states its statements saw are earlier versions of the rows the
transaction commits on; `Seen` says so for the views.
-/

/-- Every statement saw an earlier version of the database. -/
def Seen (views : Views) (db : Db) : Prop :=
  ∀ statement, Evolves (views statement) db

/-! ## Principals, agents and mandates -/

section Directory

variable
  {env : Env}
  {discipline : Discipline}
  {origin : Origin}
  {views : Views}
  {db db' : Db}

/-- `create_principal` registers a principal with its account. -/
theorem createPrincipal_effect
    {pubkeyHex : Option String}
    {accountId : Option Id}
    {newAccountId newId : Id}
    {principal : Principal}
    (returned :
      exec (createPrincipal pubkeyHex accountId newAccountId newId) db =
        (.ok principal, db')) :
    Effect env discipline origin db [] db' := by
  obtain ⟨chosen, accountDb, accountRun, afterAccount⟩ := bind_ok returned
  have opening :
      ∃ accounts,
        accountDb = { db with accounts := accounts } ∧
          (accounts = db.accounts ∨
            ∃ account,
              account.feeMicrocents = 0 ∧
                account.feeInvoicedCents = 0 ∧
                db.accounts.insert? account = some accounts) := by
    cases accountId with
    | some given =>
        cases accountRun
        exact ⟨_, rfl, .inl rfl⟩
    | none =>
        obtain ⟨_, _, addRun, afterAdd⟩ := bind_ok accountRun
        obtain ⟨accounts, inserted, rfl⟩ := addRow_ok addRun
        cases afterAdd
        exact ⟨accounts, rfl, .inr ⟨_, rfl, rfl, inserted⟩⟩
  obtain ⟨accounts, rfl, opening⟩ := opening
  obtain ⟨_, _, readRun, afterRead⟩ := bind_ok afterAccount
  cases readRun
  obtain ⟨account, _, present, afterPresent⟩ := bind_ok afterRead
  obtain ⟨accountFound, rfl⟩ := orRaise_ok present
  obtain ⟨_, _, addRun, afterAdd⟩ := bind_ok afterPresent
  obtain ⟨principals, inserted, rfl⟩ := addRow_ok addRun
  cases afterAdd
  exact .registered opening ⟨account, accountFound⟩ inserted

/-- An agent that passes `_check_agent` is the one that was loaded. -/
theorem checkAgent_ok
    {found : Option Agent}
    {agent : Agent}
    (checked : checkAgent found = .ok agent) :
    found = some agent ∧ agent.revoked = false := by
  cases found with
  | none => cases checked
  | some stored =>
      by_cases revoked : stored.revoked = true
      · simp [checkAgent, revoked] at checked
      · simp only [checkAgent, revoked] at checked
        cases checked
        exact ⟨rfl, by simpa using revoked⟩

/-- The parent check of `create_agent` finds a live parent. -/
theorem checkParentAgent_ok
    {view : Db}
    {principalId : Id}
    {parentId : Option Id}
    {done : Unit}
    (returned :
      exec (checkParentAgent view principalId parentId) db =
        (.ok done, db')) :
    db = db' ∧
      ∀ id, parentId = some id →
        ∃ parent, view.agents.find id = some parent ∧
          parent.revoked = false ∧
          parent.principalId = principalId := by
  cases parentId with
  | none => exact ⟨(pure_ok returned).2, by simp⟩
  | some id =>
      obtain ⟨parent, _, checked, principalRun⟩ := bind_ok returned
      obtain ⟨accepted, rfl⟩ := ofExcept_ok checked
      obtain ⟨ofPrincipal, rfl⟩ := raiseWhen_ok principalRun
      refine ⟨rfl, ?_⟩
      intro given isGiven
      cases isGiven
      obtain ⟨found, live⟩ := checkAgent_ok accepted
      exact ⟨parent, found, live, not_ne_iff.mp ofPrincipal⟩

/-- `create_agent` adds a live agent below a parent it has seen live. -/
theorem createAgent_ok
    {principalId : Id}
    {parentId : Option Id}
    {newId : Id}
    {agent : Agent}
    (returned :
      exec (createAgent views principalId parentId newId) db =
        (.ok agent, db')) :
    ∃ agents,
      db.agents.insert? agent = some agents ∧
        db' = { db with agents := agents } ∧
        agent.parentId = parentId ∧
        agent.revoked = false ∧
        (∃ principal,
          db.principals.find agent.principalId = some principal) ∧
        ∀ id, parentId = some id →
          ∃ parent, (views 0).agents.find id = some parent ∧
            parent.revoked = false ∧
            parent.principalId = agent.principalId := by
  obtain ⟨_, _, parentRun, afterParent⟩ := bind_ok returned
  obtain ⟨rfl, parentLive⟩ := checkParentAgent_ok parentRun
  obtain ⟨_, _, readRun, afterRead⟩ := bind_ok afterParent
  cases readRun
  obtain ⟨principal, _, present, afterPresent⟩ := bind_ok afterRead
  obtain ⟨principalFound, rfl⟩ := orRaise_ok present
  obtain ⟨_, _, addRun, afterAdd⟩ := bind_ok afterPresent
  obtain ⟨agents, inserted, rfl⟩ := addRow_ok addRun
  cases afterAdd
  exact ⟨agents, inserted, rfl, rfl, rfl, ⟨principal, principalFound⟩,
    parentLive⟩

/-- `create_agent` adds a live agent below an existing parent. -/
theorem createAgent_effect
    {principalId : Id}
    {parentId : Option Id}
    {newId : Id}
    {agent : Agent}
    (seen : Seen views db)
    (returned :
      exec (createAgent views principalId parentId newId) db =
        (.ok agent, db')) :
    Effect env discipline (.txn (.createAgent principalId parentId newId)) db
      [] db' := by
  obtain ⟨agents, inserted, rfl, rfl, live, ofPrincipal, parentLive⟩ :=
    createAgent_ok returned
  refine .agentAdded inserted live ofPrincipal ?_ ⟨principalId, newId, rfl⟩
  intro id isParent
  obtain ⟨_, found, _⟩ := parentLive id isParent
  obtain ⟨parent, found', _⟩ := (seen 0).agents _ _ found
  exact ⟨parent, found'⟩

/-- `revoke_agent` flags the agent and the agents its walk visited. -/
theorem revokeAgent_ok
    {fuel : Nat}
    {agentId : Id}
    {revoked : List Id}
    (returned :
      exec (revokeAgent views fuel agentId) db = (.ok revoked, db')) :
    ∃ agent visited,
      (views 0).agents.find agentId = some agent ∧
        revokeWalk views fuel 2 (childAgents (views 1) agentId).reverse [] =
          some visited ∧
        db' =
          { db with agents := revokeAll db.agents (agentId :: visited) } := by
  obtain ⟨agent, _, present, afterPresent⟩ := bind_ok returned
  obtain ⟨found, rfl⟩ := orRaise_ok present
  obtain ⟨visited, _, walkRun, afterWalk⟩ := bind_ok afterPresent
  obtain ⟨walked, rfl⟩ := orRaise_ok walkRun
  obtain ⟨_, _, flagRun, afterFlag⟩ := bind_ok afterWalk
  cases flagRun
  cases afterFlag
  exact ⟨agent, visited, found, walked, rfl⟩

/-- `revoke_agent` flags agents. -/
theorem revokeAgent_effect
    {fuel : Nat}
    {agentId : Id}
    {revoked : List Id}
    (returned :
      exec (revokeAgent views fuel agentId) db = (.ok revoked, db')) :
    Effect env discipline (.txn (.revokeAgent fuel agentId)) db
      [.agentRevoked agentId] db' := by
  obtain ⟨_, visited, _, _, rfl⟩ := revokeAgent_ok returned
  exact .agentsRevoked visited ⟨fuel, rfl⟩

/-- `revoke_mandate` flags one mandate. -/
theorem revokeMandate_effect
    {mandateId : Id}
    {done : Unit}
    (returned :
      exec (revokeMandate views mandateId) db = (.ok done, db')) :
    Effect env discipline origin db [] db' := by
  obtain ⟨_, _, present, afterPresent⟩ := bind_ok returned
  obtain ⟨_, rfl⟩ := orRaise_ok present
  cases afterPresent
  exact .mandateRevoked mandateId

/-- A live agent is stored and not revoked. -/
theorem requireLiveAgent_ok
    {agentId : Id}
    {agent : Agent}
    (live : requireLiveAgent views agentId = .ok agent) :
    (views 0).agents.find agentId = some agent ∧
      agent.revoked = false ∧
      ∀ parentId, agent.parentId = some parentId →
        ∃ parent,
          (views 1).agents.find parentId = some parent ∧
            parent.revoked = false := by
  obtain ⟨found, checked, rest⟩ := except_bind_eq_ok.mp live
  obtain ⟨isFound, unrevoked⟩ := checkAgent_ok checked
  cases above : found.parentId with
  | none =>
      simp only [above] at rest
      cases rest
      exact ⟨isFound, unrevoked, by simp [above]⟩
  | some parentId =>
      simp only [above] at rest
      obtain ⟨parent, parentChecked, answer⟩ := except_bind_eq_ok.mp rest
      cases answer
      refine ⟨isFound, unrevoked, ?_⟩
      intro id isParent
      rw [above] at isParent
      cases isParent
      exact ⟨parent, checkAgent_ok parentChecked⟩

/-- Money that passes the check is not negative. -/
theorem checkNonNegativeMoney_head
    {name : String}
    {amount : Cents}
    {rest : List (String × Option Cents)}
    (checked :
      checkNonNegativeMoney ((name, some amount) :: rest) = .ok ()) :
    0 ≤ amount := by
  obtain ⟨_, passed, _⟩ := except_bind_eq_ok.mp checked
  have notNegative := denyWhen_eq_ok.mp passed
  simpa using notNegative

/-- What a child's arguments keep to, given the parent that was loaded. -/
structure Attenuated (parent : Mandate) (args : IssueMandate) : Prop where
  positive : 0 < args.spendLimitCents
  underRemaining : args.spendLimitCents ≤ parent.remainingCents
  underLimit : args.spendLimitCents ≤ parent.spendLimitCents
  underMaxCall : args.maxCall ≤ parent.maxCallCents
  tools : subset args.tools parent.toolsList = true
  servers : subset args.servers parent.serversList = true
  expiry :
    ∀ limit ∈ parent.expiresAt.map asUtc,
      ∃ instant ∈ args.expiresAt.map asUtc, instant.wall ≤ limit.wall
  underBudget :
    ∀ budget ∈ parent.maxSubagentBudgetCents,
      args.maxSubagentBudget ≤ budget

/-- Arguments that pass the attenuation check are attenuated. -/
theorem checkChildAttenuation_ok
    {parent : Mandate}
    {args : IssueMandate}
    (checked :
      checkChildAttenuation parent args.spendLimitCents args.maxCall
          args.tools args.servers args.expiresAt
          (some args.maxSubagentBudget) =
        .ok ()) :
    Attenuated parent args := by
  obtain ⟨_, positive, checked⟩ := except_bind_eq_ok.mp checked
  obtain ⟨_, remaining, checked⟩ := except_bind_eq_ok.mp checked
  obtain ⟨_, limit, checked⟩ := except_bind_eq_ok.mp checked
  obtain ⟨_, maxCall, checked⟩ := except_bind_eq_ok.mp checked
  obtain ⟨_, tools, checked⟩ := except_bind_eq_ok.mp checked
  obtain ⟨_, servers, checked⟩ := except_bind_eq_ok.mp checked
  obtain ⟨_, expiry, checked⟩ := except_bind_eq_ok.mp checked
  obtain ⟨_, _, budget⟩ := except_bind_eq_ok.mp checked
  have underCap := denyWhen_eq_ok.mp budget
  exact
    { positive := by simpa using denyWhen_eq_ok.mp positive
      underRemaining := by simpa using denyWhen_eq_ok.mp remaining
      underLimit := by simpa using denyWhen_eq_ok.mp limit
      underMaxCall := by simpa using denyWhen_eq_ok.mp maxCall
      tools := by simpa using denyWhen_eq_ok.mp tools
      servers := by simpa using denyWhen_eq_ok.mp servers
      expiry := by
        have inTime := denyWhen_eq_ok.mp expiry
        intro limit isLimit
        by_contra late
        refine inTime ⟨limit, isLimit, ?_⟩
        intro instant isInstant
        by_contra early
        exact late ⟨instant, isInstant, not_lt.mp early⟩
      underBudget := by
        intro cap isCap
        rw [Option.mem_def.mp isCap] at underCap
        simp only [gt_iff_lt, not_lt] at underCap
        exact underCap.trans (min_le_right _ _) }

/-- The parent that `issue_mandate` has loaded and checked. -/
structure ParentChecked
    (env : Env)
    (views : Views)
    (now : Datetime)
    (args : IssueMandate)
    (parent : Mandate) :
    Prop where
  found : (views 0).mandates.find parent.id = some parent
  verified :
    args.verify = true → verifyStoredMandate env (views 1) parent = .ok ()
  fresh : checkFresh env now parent = .ok ()
  descends :
    isSelfOrDescendant (views 2).agents args.agentId parent.agentId =
      some true
  attenuated : Attenuated parent args

/-- A parent that passes its checks was loaded and is wider. -/
theorem checkParent_ok
    {now : Datetime}
    {args : IssueMandate}
    {parentId : Id}
    {parent : Mandate}
    (returned :
      exec (checkParent env views now args parentId) db =
        (.ok parent, db')) :
    db = db' ∧
      parent.id = parentId ∧
      ParentChecked env views now args parent := by
  obtain ⟨loaded, _, present, afterPresent⟩ := bind_ok returned
  obtain ⟨found, rfl⟩ := orRaise_ok present
  obtain ⟨_, _, verifyRun, afterVerify⟩ := bind_ok afterPresent
  obtain ⟨verified, rfl⟩ := ofExcept_ok verifyRun
  obtain ⟨_, _, freshRun, afterFresh⟩ := bind_ok afterVerify
  obtain ⟨fresh, rfl⟩ := ofExcept_ok freshRun
  obtain ⟨descends, _, walkRun, afterWalk⟩ := bind_ok afterFresh
  obtain ⟨walked, rfl⟩ := orRaise_ok walkRun
  obtain ⟨_, _, descendsRun, afterDescends⟩ := bind_ok afterWalk
  obtain ⟨isDescendant, rfl⟩ := raiseWhen_ok descendsRun
  obtain ⟨_, _, attenuated, answer⟩ := bind_ok afterDescends
  obtain ⟨accepted, rfl⟩ := ofExcept_ok attenuated
  cases answer
  have loadedId : parent.id = parentId := Table.key_of_find found
  refine ⟨rfl, loadedId, ?_⟩
  exact
    { found := loadedId ▸ found
      verified := by
        intro verifies
        simpa [verifies] using verified
      fresh := fresh
      descends := by
        rw [walked]
        simpa using isDescendant
      attenuated := checkChildAttenuation_ok accepted }

/-- The parent of a child mandate was loaded and checked. -/
def ParentLoaded
    (env : Env)
    (views : Views)
    (now : Datetime)
    (args : IssueMandate)
    (parent : Option Mandate) :
    Prop :=
  (parent = none ∧ args.parentMandateId = none) ∨
    ∃ loaded,
      parent = some loaded ∧
        args.parentMandateId = some loaded.id ∧
        ParentChecked env views now args loaded

/-- `issue_mandate` loads and checks the parent it is given. -/
theorem loadParent_ok
    {now : Datetime}
    {args : IssueMandate}
    {parent : Option Mandate}
    (returned :
      exec (loadParent env views now args) db = (.ok parent, db')) :
    db = db' ∧ ParentLoaded env views now args parent := by
  unfold loadParent at returned
  cases above : args.parentMandateId with
  | none =>
      rw [above] at returned
      obtain ⟨rfl, rfl⟩ := pure_ok returned
      exact ⟨rfl, .inl ⟨rfl, above⟩⟩
  | some parentId =>
      rw [above] at returned
      obtain ⟨loaded, checkRun, rfl⟩ := map_ok returned
      obtain ⟨rfl, rfl, checked⟩ := checkParent_ok checkRun
      exact ⟨rfl, .inr ⟨loaded, rfl, above, checked⟩⟩

/-- An escrow debits the parent's current row and appends its event. -/
theorem escrow_ok
    {now : Datetime}
    {child : Mandate}
    {parentId : Id}
    {done : Unit}
    (returned : exec (escrow now child parentId) db = (.ok done, db')) :
    ∃ parent event,
      db.mandates.find parentId = some parent ∧
        child.spendLimitCents ≤ parent.remainingCents ∧
        parent.revoked = false ∧
        notExpired now parent = true ∧
        (event.kind = .escrow ∧
          event.mandateId = parent.id ∧
          event.amountCents = child.spendLimitCents) ∧
        event.remainingAfter =
          some (escrowed child.spendLimitCents parent).remainingCents ∧
        db' =
          { db with
            mandates :=
              db.mandates.put (escrowed child.spendLimitCents parent)
            ledgerEvents := db.ledgerEvents ++ [event] } := by
  obtain ⟨parent, found, passes, appended⟩ := updateRow_orRaise_ok returned
  cases appended
  simp only [ge_iff_le, Bool.and_eq_true, decide_eq_true_eq,
    Bool.not_eq_true'] at passes
  exact ⟨parent, _, found, passes.1.1, passes.1.2, passes.2,
    ⟨rfl, rfl, rfl⟩, rfl, rfl⟩

/-- What `issue_mandate` has checked of the mandate it returns. -/
structure IssuedBy
    (env : Env)
    (views : Views)
    (db : Db)
    (now debitNow : Datetime)
    (args : IssueMandate)
    (newId : Id)
    (mandate : Mandate) :
    Prop where
  isRow :
    ∃ nonce signature pubkeyHex,
      mandate = issuedMandate args newId nonce signature pubkeyHex
  nonnegative : 0 ≤ args.spendLimitCents
  ofAgent :
    ∃ agent, (views 0).agents.find args.agentId = some agent ∧
      agent.revoked = false ∧
      agent.principalId = args.principalId
  verified :
    args.verify = true → verifyStoredMandate env (views 7) mandate = .ok ()
  ofParent :
    ∀ parentId, args.parentMandateId = some parentId →
      ∃ loaded parent,
        loaded.id = parentId ∧
          ParentChecked env (views.after 2) now args loaded ∧
          db.mandates.find parentId = some parent ∧
          loaded.SameTerms parent ∧
          parent.revoked = false ∧
          notExpired debitNow parent = true

/-- The change of `issue_mandate`: an insert, and the escrow of a child. -/
inductive IssueChange (db : Db) (mandate : Mandate) : Db → Prop where
  | root
      {mandates : Table Mandate}
      {usedNonces : Table UsedNonce}
      (inserted : db.mandates.insert? mandate = some mandates)
      (noParent : mandate.parentMandateId = none) :
      IssueChange db mandate
        { db with usedNonces := usedNonces, mandates := mandates }
  | child
      {parent : Mandate}
      {mandates : Table Mandate}
      {usedNonces : Table UsedNonce}
      {event : LedgerEvent}
      (inserted : db.mandates.insert? mandate = some mandates)
      (parentFound : db.mandates.find parent.id = some parent)
      (link : mandate.parentMandateId = some parent.id)
      (covered : mandate.spendLimitCents ≤ parent.remainingCents)
      (isEscrow :
        event.kind = .escrow ∧
          event.mandateId = parent.id ∧
          event.amountCents = mandate.spendLimitCents)
      (balance :
        event.remainingAfter =
          some (escrowed mandate.spendLimitCents parent).remainingCents) :
      IssueChange db mandate
        { db with
          usedNonces := usedNonces
          mandates := mandates.put (escrowed mandate.spendLimitCents parent)
          ledgerEvents := db.ledgerEvents ++ [event] }

/-- `issue_mandate` inserts a checked mandate and escrows it. -/
theorem issueMandate_ok
    {now debitNow : Datetime}
    {args : IssueMandate}
    {newId : Id}
    {freshNonce : String}
    {mandate : Mandate}
    (seen : Seen views db)
    (returned :
      exec (issueMandate env views now debitNow args newId freshNonce) db =
        (.ok mandate, db')) :
    IssuedBy env views db now debitNow args newId mandate ∧
      IssueChange db mandate db' := by
  obtain ⟨_, _, moneyRun, rest⟩ := bind_ok returned
  obtain ⟨moneyChecked, rfl⟩ := ofExcept_ok moneyRun
  obtain ⟨agent, _, agentRun, rest⟩ := bind_ok rest
  obtain ⟨agentLive, rfl⟩ := ofExcept_ok agentRun
  obtain ⟨_, _, boundRun, rest⟩ := bind_ok rest
  obtain ⟨bound, rfl⟩ := raiseWhen_ok boundRun
  obtain ⟨_, _, capsRun, rest⟩ := bind_ok rest
  obtain ⟨_, rfl⟩ := ofExcept_ok capsRun
  obtain ⟨parent, _, parentRun, rest⟩ := bind_ok rest
  obtain ⟨rfl, parentLoaded⟩ := loadParent_ok parentRun
  obtain ⟨_, _, nonceRun, rest⟩ := bind_ok rest
  obtain ⟨_, rfl⟩ := raiseWhen_ok nonceRun
  obtain ⟨_, _, bookRun, rest⟩ := bind_ok rest
  obtain ⟨usedNonces, _, rfl⟩ := addRow_ok bookRun
  obtain ⟨⟨signature, pubkeyHex⟩, _, signRun, rest⟩ := bind_ok rest
  obtain ⟨_, rfl⟩ := ofExcept_ok signRun
  obtain ⟨_, _, verifyRun, rest⟩ := bind_ok rest
  obtain ⟨verified, rfl⟩ := ofExcept_ok verifyRun
  obtain ⟨_, _, readRun, rest⟩ := bind_ok rest
  cases readRun
  obtain ⟨_, _, uniqueRun, rest⟩ := bind_ok rest
  obtain ⟨_, rfl⟩ := raiseWhen_ok uniqueRun
  obtain ⟨_, _, addRun, rest⟩ := bind_ok rest
  obtain ⟨mandates, inserted, rfl⟩ := addRow_ok addRun
  obtain ⟨_, _, escrowRun, answer⟩ := bind_ok rest
  cases answer
  obtain ⟨agentFound, unrevoked, _⟩ := requireLiveAgent_ok agentLive
  have nonnegative := checkNonNegativeMoney_head moneyChecked
  have stored
      (verifies : args.verify = true) :
      verifyStoredMandate env (views 7)
          (issuedMandate args newId ((truthy args.nonce).getD freshNonce)
            signature pubkeyHex) =
        .ok () := by
    simpa [verifies] using verified
  have ofAgent :
      ∃ agent, (views 0).agents.find args.agentId = some agent ∧
        agent.revoked = false ∧
        agent.principalId = args.principalId :=
    ⟨agent, agentFound, unrevoked, not_ne_iff.mp bound⟩
  rcases parentLoaded with
    ⟨rfl, root⟩ | ⟨loaded, rfl, link, checked⟩
  · cases escrowRun
    refine ⟨?_, .root inserted root⟩
    exact
      { isRow := ⟨_, _, _, rfl⟩
        nonnegative := nonnegative
        ofAgent := ofAgent
        verified := stored
        ofParent := by simp [root] }
  · obtain
      ⟨parent, event, parentFound, covered, live, notLate, isEscrow, balance,
        rfl⟩ :=
      escrow_ok escrowRun
    -- The parent row existed before, so it is not the row just inserted.
    obtain ⟨earlier, earlierFound, sameTerms⟩ :=
      (seen 2).mandates _ _ checked.found
    have isEarlier : earlier = parent := by
      have stillFound := Table.find_insert_of_some inserted earlierFound
      exact Option.some.inj (stillFound.symm.trans parentFound)
    subst isEarlier
    have earlierId : earlier.id = loaded.id := Table.key_of_find parentFound
    refine
      ⟨?_, .child inserted (earlierId ▸ earlierFound)
        (link.trans (congrArg some earlierId.symm)) covered isEscrow balance⟩
    exact
      { isRow := ⟨_, _, _, rfl⟩
        nonnegative := nonnegative
        ofAgent := ofAgent
        verified := stored
        ofParent := by
          intro parentId isParent
          cases link.symm.trans isParent
          exact ⟨loaded, earlier, rfl, checked, earlierFound, sameTerms,
            live, notLate⟩ }

/-- A mandate that was issued has the columns of its arguments. -/
theorem IssuedBy.asks
    {now debitNow : Datetime}
    {args : IssueMandate}
    {newId : Id}
    {mandate : Mandate}
    (issued : IssuedBy env views db now debitNow args newId mandate)
    (freshNonce : String) :
    (Origin.txn (.issueMandate now debitNow args newId freshNonce)).Asks
      mandate := by
  obtain ⟨_, _, _, rfl⟩ := issued.isRow
  exact ⟨now, debitNow, args, newId, freshNonce, rfl, rfl, rfl, rfl⟩

/-- `issue_mandate` inserts a full mandate and escrows it from its parent. -/
theorem issueMandate_effect
    {now debitNow : Datetime}
    {args : IssueMandate}
    {newId : Id}
    {freshNonce : String}
    {mandate : Mandate}
    (seen : Seen views db)
    (returned :
      exec (issueMandate env views now debitNow args newId freshNonce) db =
        (.ok mandate, db')) :
    Effect env discipline
      (.txn (.issueMandate now debitNow args newId freshNonce)) db [] db' := by
  obtain ⟨checked, change⟩ := issueMandate_ok seen returned
  have asked := checked.asks freshNonce
  obtain ⟨nonce, signature, pubkeyHex, isRow⟩ := checked.isRow
  have issued
      {mandates : Table Mandate}
      (inserted : db.mandates.insert? mandate = some mandates) :
      Issued db mandate mandates := by
    obtain ⟨agent, agentFound, _, ofPrincipal⟩ := checked.ofAgent
    obtain ⟨agent', agentFound', sameAgent⟩ := (seen 0).agents _ _ agentFound
    subst isRow
    exact
      { inserted := inserted
        full := rfl
        unused := rfl
        nonnegative := checked.nonnegative
        ofAgent := by
          refine ⟨agent', agentFound', ?_⟩
          rw [sameAgent.1]
          exact ofPrincipal }
  cases change with
  | root inserted noParent =>
      exact .issuedRoot (issued inserted) noParent _ asked
  | @child parent _ _ _ inserted parentFound link covered isEscrow balance =>
      have isParent : args.parentMandateId = some parent.id := by
        rw [← link, isRow]
        rfl
      obtain ⟨loaded, row, _, parentChecked, rowFound, sameTerms, _⟩ :=
        checked.ofParent _ isParent
      cases rowFound.symm.trans parentFound
      have attenuated := parentChecked.attenuated
      refine .issuedChild (issued inserted) parentFound link covered ?_
        isEscrow _ asked balance
      rw [sameTerms.toolsList, sameTerms.serversList, isRow]
      exact ⟨attenuated.tools, attenuated.servers⟩

/-- A body that may only touch accounts leaves a linked account or nothing. -/
theorem relink_effect
    {accountId : Id}
    (change : Account → Account)
    (relinks :
      ∀ account, ∃ customer status,
        change account =
          { account with
            stripeCustomerId := customer
            stripeStatus := status }) :
    Effect env discipline origin db []
      { db with accounts := db.accounts.modify accountId change } := by
  cases found : db.accounts.find accountId with
  | none =>
      rw [show db.accounts.modify accountId change = db.accounts by
        simp [Table.modify, found]]
      exact .booked db.tasks db.usedNonces
  | some account =>
      rw [Table.modify_of_find found]
      obtain ⟨customer, status, shape⟩ := relinks account
      have accountKey : account.id = accountId := Table.key_of_find found
      rw [shape]
      exact .relinked customer status (accountKey ▸ found)

/-- `attach_stripe_customer` relinks one account. -/
theorem attachStripeCustomer_effect
    {view : Db}
    {accountId : Id}
    {stripeCustomerId : String}
    {done : Unit}
    (returned :
      exec (attachStripeCustomer view accountId stripeCustomerId) db =
        (.ok done, db')) :
    Effect env discipline origin db [] db' := by
  obtain ⟨_, _, present, afterPresent⟩ := bind_ok returned
  obtain ⟨_, rfl⟩ := orRaise_ok present
  obtain ⟨_, _, readRun, afterRead⟩ := bind_ok afterPresent
  cases readRun
  obtain ⟨_, _, uniqueRun, linkRun⟩ := bind_ok afterRead
  obtain ⟨_, rfl⟩ := raiseWhen_ok uniqueRun
  cases linkRun
  apply relink_effect
  intro account
  exact ⟨_, _, rfl⟩

/-- `apply_stripe_event` relinks the account of the customer. -/
theorem applyStripeEvent_effect
    {view : Db}
    {customerId status : String}
    {done : Unit}
    (returned :
      exec (applyStripeEvent view customerId status) db =
        (.ok done, db')) :
    Effect env discipline origin db [] db' := by
  unfold applyStripeEvent at returned
  split at returned
  · cases returned
    exact .booked db.tasks db.usedNonces
  · cases returned
    apply relink_effect
    intro account
    exact ⟨_, _, rfl⟩

end Directory

/-! ## The drain -/

section Drain

variable {db db' : Db}

/-- A drained database differs in outbox columns that are not billed. -/
def Drained (db db' : Db) : Prop :=
  ∃ outbox,
    db' = { db with billingOutbox := outbox } ∧
      outbox.rows.map Outbox.bill = db.billingOutbox.rows.map Outbox.bill

/-- Draining twice is draining. -/
theorem Drained.trans
    {first second third : Db}
    (one : Drained first second)
    (two : Drained second third) :
    Drained first third := by
  obtain ⟨outbox, rfl, same⟩ := one
  obtain ⟨outbox', rfl, same'⟩ := two
  exact ⟨outbox', rfl, same'.trans same⟩

/-- An update that keeps the bill of every row drains. -/
theorem updateOutbox_drained
    {oid : Id}
    {guard : Outbox → Bool}
    {change : Outbox → Outbox}
    {row : Option Outbox}
    (returned :
      exec
          (updateRow Db.billingOutbox
            (fun db table => { db with billingOutbox := table })
            oid guard change)
          db =
        (.ok row, db'))
    (keepsId : ∀ row, (change row).id = row.id)
    (keepsBill : ∀ row, (change row).bill = row.bill) :
    Drained db db' := by
  rcases updateRow_ok returned with
    ⟨_, rfl⟩ | ⟨old, found, _, _, rfl⟩
  · exact ⟨_, rfl, rfl⟩
  · have oldKey : old.id = oid := Table.key_of_find found
    have stored :
        db.billingOutbox.find (Keyed.key (change old)) = some old := by
      rw [key_outbox, keepsId, oldKey]
      exact found
    exact ⟨_, rfl, Table.map_put stored (keepsBill old)⟩

/-- `_claim_outbox_rows` drains. -/
theorem claimEach_drained
    {now stale : Int}
    {ids claimed : List Id}
    (returned : exec (claimEach now stale ids) db = (.ok claimed, db')) :
    Drained db db' := by
  induction ids generalizing db claimed with
  | nil =>
      cases returned
      exact ⟨_, rfl, rfl⟩
  | cons oid rest inductionHypothesis =>
      obtain ⟨_, _, updateRun, afterUpdate⟩ := bind_ok returned
      obtain ⟨_, _, restRun, answer⟩ := bind_ok afterUpdate
      cases answer
      exact .trans
        (updateOutbox_drained updateRun (fun _ => rfl) (fun _ => rfl))
        (inductionHypothesis restRun)

/-- The values of a result keep the row's key. -/
theorem terminalValues_id
    (now : Int)
    (attemptsAfter : Nat)
    (result : StripeResult)
    (row : Outbox) :
    (terminalValues now attemptsAfter result row).id = row.id := by
  cases result with
  | noop => rfl
  | ok => rfl
  | failed error =>
      simp only [terminalValues]
      split <;> rfl

/-- The values of a result keep the row's bill. -/
theorem terminalValues_bill
    (now : Int)
    (attemptsAfter : Nat)
    (result : StripeResult)
    (row : Outbox) :
    (terminalValues now attemptsAfter result row).bill = row.bill := by
  cases result with
  | noop => rfl
  | ok => rfl
  | failed error =>
      simp only [terminalValues]
      split <;> rfl

/-- `_cas_terminal_from_sending` drains. -/
theorem casTerminalFromSending_drained
    {now : Int}
    {seen : Outbox}
    {result : StripeResult}
    {row : Option Outbox}
    (returned :
      exec (casTerminalFromSending now seen result) db = (.ok row, db')) :
    Drained db db' := by
  unfold casTerminalFromSending at returned
  split at returned
  · exact updateOutbox_drained returned (terminalValues_id _ _ _)
      (terminalValues_bill _ _ _)
  · cases returned
    exact ⟨_, rfl, rfl⟩

/-- The flush of `requeue_dead` keeps every bill. -/
theorem requeueEach_bills
    (now : Int)
    (outbox : Table Outbox)
    (ids : List Id) :
    (requeueEach now outbox ids).rows.map Outbox.bill =
      outbox.rows.map Outbox.bill := by
  induction ids generalizing outbox with
  | nil =>
      rfl
  | cons oid rest inductionHypothesis =>
      unfold requeueEach
      rw [inductionHypothesis]
      apply Table.map_modify
      · intro row
        rfl
      · intro row
        rfl

end Drain

/-! ## The ledger -/

/-- The objects of a direct call obey the pairing rule. -/
def Txn.Paired : Txn → Prop
  | .finalizeSuccess reservation invocation callbacks =>
      invocation.reservationId = some reservation.id ∧
        Addressed callbacks invocation
  | .finalizeRelease (some reservation) invocation _ =>
      invocation.reservationId = some reservation.id
  | .reconcileCommit invocation _ callbacks => Addressed callbacks invocation
  | .reserve _ _ _ _ _ _ _ _ => False
  | .commit _ _ => False
  | .release _ _ => False
  | _ => True

/-- The callbacks of a direct call bill its attempt. -/
def Txn.Metered : Txn → Prop
  | .finalizeSuccess _ invocation callbacks => Bills callbacks invocation
  | .reconcileCommit invocation _ callbacks => Bills callbacks invocation
  | _ => True

/-- `finalize_release` is called with its default statuses. -/
def Txn.DefaultRelease : Txn → Prop
  | .finalizeRelease _ _ allowedStatuses =>
      allowedStatuses = [InvocationStatus.reserved]
  | _ => True

/-- `reserve_and_commit` is left to `invoke`. -/
def Txn.ByInvoke : Txn → Prop
  | .reserveAndCommit _ _ _ _ _ _ _ _ _ _ _ => False
  | _ => True

/-- Attempts are settled by `invoke` and over the API only. -/
def Txn.ViaApi : Txn → Prop
  | .finalizeSuccess _ _ _ => False
  | .reconcileCommit _ _ _ => False
  | _ => True

/-- `finalize_success` is left to `invoke`. -/
def Txn.OwnFinalize : Txn → Prop
  | .finalizeSuccess _ _ _ => False
  | _ => True

/-- A transaction keeps the rules of a discipline. -/
structure Discipline.Obeyed (discipline : Discipline) (txn : Txn) : Prop where
  paired : discipline.paired → txn.Paired
  metered : discipline.metered → txn.Metered
  defaultRelease : discipline.defaultRelease → txn.DefaultRelease
  byInvoke : discipline.byInvoke → txn.ByInvoke
  viaApi : discipline.viaApi → txn.ViaApi
  ownFinalize : discipline.ownFinalize → txn.OwnFinalize

section Ledger

variable
  {env : Env}
  {discipline : Discipline}
  {origin : Origin}
  {db db' : Db}

/-- The attempt in memory is an earlier version of a stored one. -/
def HeldAttempt (db : Db) (invocation : Invocation) : Prop :=
  ∃ row,
    db.invocations.find invocation.id = some row ∧
      invocation.SameAttempt row

/-- The stored row of an attempt in memory is its later version. -/
theorem HeldAttempt.same
    {invocation attempt : Invocation}
    (held : HeldAttempt db invocation)
    (found : db.invocations.find attempt.id = some attempt)
    (sameId : attempt.id = invocation.id) :
    invocation.SameAttempt attempt := by
  obtain ⟨row, rowFound, same⟩ := held
  rw [sameId] at found
  have isRow : row = attempt :=
    Option.some.inj (rowFound.symm.trans found)
  exact isRow ▸ same

/-- Nothing happened. -/
theorem Effect.idle : Effect env discipline origin db [] db :=
  .booked db.tasks db.usedNonces

/-- A caught denial of the ledger. -/
theorem DenialRecorded.effect
    (tasks : Table Task)
    (usedNonces : Table UsedNonce)
    (denial :
      DenialRecorded { db with tasks := tasks, usedNonces := usedNonces }
        db') :
    Effect env discipline origin db [] db' := by
  cases denial with
  | unrecorded => exact .booked tasks usedNonces
  | recorded event isDeny => exact .denied isDeny tasks usedNonces

/-- A body that is caught returned by itself or raised a denial. -/
theorem caught_ok
    {body : Body (List Entry)}
    {entries : List Entry}
    (returned : exec (caught body) db = (.ok entries, db')) :
    exec body db = (.ok entries, db') ∨
      ∃ outcome,
        exec body db = (.error (.policyDenied outcome), db') ∧
          entries = [] := by
  unfold caught at returned
  rw [exec_tryCatch] at returned
  cases bodyRun : exec body db with
  | mk outcome between =>
      rw [bodyRun] at returned
      cases outcome with
      | ok given => exact .inl returned
      | error exception =>
          cases exception with
          | policyDenied outcome =>
              cases returned
              exact .inr ⟨outcome, rfl, rfl⟩
          | _ => cases returned

/-- A direct `reserve`, whose denial the caller catches. -/
theorem reserve_effect
    {now : Datetime}
    {mandate : Mandate}
    {amountCents : Cents}
    {idempotencyKey nonce : Option String}
    {taskId : Option Id}
    {recordDeny : Bool}
    {newId : Id}
    {entries : List Entry}
    (lowLevel : ¬ discipline.paired)
    (returned :
      exec
          (caught
            (silently
              (reserve now mandate amountCents idempotencyKey nonce taskId
                recordDeny newId)))
          db =
        (.ok entries, db')) :
    Effect env discipline origin db entries db' := by
  rcases caught_ok returned with finished | ⟨outcome, raised, rfl⟩
  · obtain ⟨⟨reservation, after⟩, reserveRun, rfl⟩ := map_ok finished
    obtain ⟨old, reservations, debit, _, rfl, _, rfl, _, rfl⟩ :=
      reserve_ok reserveRun
    exact .reservedOnly lowLevel debit taskId
  · rcases reserve_denied (map_error raised) with
      ⟨_, _, denial⟩ | impossible
    · exact DenialRecorded.effect db.tasks db.usedNonces denial
    · cases impossible

/-- A direct `reserve_and_commit`, whose denial the caller catches. -/
theorem reserveAndCommit_effect
    {view : Db}
    {now : Datetime}
    {mandate : Mandate}
    {amountCents : Cents}
    {idempotencyKey nonce : Option String}
    {tool server : String}
    {requestHash : Option String}
    {taskId : Option Id}
    {reservationNewId invocationNewId : Id}
    {entries : List Entry}
    (lowLevel : ¬ discipline.byInvoke)
    (samePrincipal :
      ∀ row, db.mandates.find mandate.id = some row →
        row.principalId = mandate.principalId)
    (returned :
      exec
          (caught
            ((fun opened : Reservation × Invocation × Mandate =>
                [.reserved opened.2.1.id]) <$>
              reserveAndCommit view now mandate amountCents idempotencyKey
                nonce tool server requestHash taskId reservationNewId
                invocationNewId))
          db =
        (.ok entries, db')) :
    Effect env discipline origin db entries db' := by
  rcases caught_ok returned with finished | ⟨outcome, raised, rfl⟩
  · obtain ⟨⟨reservation, invocation, after⟩, openRun, rfl⟩ :=
      map_ok finished
    obtain
      ⟨old, reservations, invocations, claims, opening, _, _, _, _, rfl⟩ :=
      claimAndReserve_ok (reserveAndCommit_ok openRun) samePrincipal
    exact .opened opening taskId db.tasks db.usedNonces
      (fun rule => (lowLevel rule).elim)
  · have denial := (reserveAndCommit_error (map_error raised)).1
    exact DenialRecorded.effect db.tasks db.usedNonces denial

/-- `mark_executing`, with the entry of a won barrier. -/
theorem markExecuting_effect
    {invocation : Invocation}
    {result : MarkExecutingResult}
    (returned :
      exec (markExecuting invocation) db = (.ok result, db')) :
    Effect env discipline origin db
      (if result.won then [.executing invocation.id] else []) db' := by
  rcases markExecuting_ok returned with
    ⟨lost, rfl⟩ | ⟨attempt, found, sameId, reserved, won, rfl⟩
  · simpa [lost] using Effect.idle
  · rw [if_pos won, ← sameId]
    have move : Move attempt.status .executing := reserved ▸ .execute
    exact .moved found move

/-- `mark_executed_fail` keeps the attempt open. -/
theorem markExecutedFail_effect
    {invocation : Invocation}
    {won : Bool}
    (returned : exec (markExecutedFail invocation) db = (.ok won, db')) :
    Effect env discipline origin db [] db' := by
  rcases markExecutedFail_ok returned with
    rfl | ⟨attempt, found, _, executing, rfl⟩
  · exact .idle
  · have move : Move attempt.status .executedFail := executing ▸ .fail
    exact .moved found move

/-- `recover_reserved` moves an open attempt or releases a reserved one. -/
theorem recoverReserved_effect
    {views : Views}
    {invocation : Invocation}
    {mode : String}
    {moved : Bool}
    (seen : Seen views db)
    (returned :
      exec (recoverReserved views invocation mode) db = (.ok moved, db')) :
    Effect env discipline origin db [] db' := by
  rcases recoverReserved_ok returned with
    rfl | ⟨attempt, found, inFlight, rfl⟩ |
    ⟨refreshed, given, row, attempt, claims, refreshedFound, ofAttempt,
      released, rowId, attemptId, reserved, rfl⟩
  · exact .idle
  · exact .moved found (.lose inFlight)
  · have same : refreshed.SameAttempt attempt :=
      HeldAttempt.same ((seen 0).invocations _ _ refreshedFound)
        released.invocationFound attemptId
    refine .released released (.finalized fun _ => reserved) ?_ _
      refreshed.taskId rfl
    intro _
    rw [same.reservationId, ofAttempt, rowId]

/-- `finalize_success`, called with the objects of one attempt. -/
theorem finalizeSuccess_effect
    {sessionMandate : Id → Option Mandate}
    {reservation : Reservation}
    {invocation : Invocation}
    {callbacks : FinalizeCallbacks}
    {result : FinalizeResult}
    (held : HeldAttempt db invocation)
    (pairing :
      discipline.paired →
        invocation.reservationId = some reservation.id ∧
          Addressed callbacks invocation)
    (metering : discipline.metered → Bills callbacks invocation)
    (stores :
      discipline.viaApi →
        ∃ built, callbacks.resultFn = some built ∧ built.ok = true)
    (byCall : discipline.ownFinalize → origin = .finish invocation.id)
    (returned :
      exec
          (finalizeSuccess env sessionMandate reservation invocation
            callbacks)
          db =
        (.ok result, db')) :
    Effect env discipline origin db [] db' := by
  rcases onFinalizeLost_ok returned with ⟨_, rfl⟩ | finished
  · exact .idle
  · obtain
      ⟨row, attempt, receipt, receipts, outbox, accounts, claims, settling,
        rowId, attemptId, fromStatus, _, _, _, rfl⟩ :=
      successUnit_ok finished
    have same := held.same settling.invocationFound attemptId
    refine .settled settling
      (.finalized fromStatus stores (attemptId ▸ byCall)) ?_
      (fun rule => (metering rule).same same) _
    intro paired
    obtain ⟨ofReservation, addressed⟩ := pairing paired
    rw [same.reservationId, ofReservation, rowId]
    exact ⟨rfl, addressed.same same⟩

/-- `finalize_release`, called with the objects of one attempt. -/
theorem finalizeRelease_effect
    {view : Db}
    {reservation : Option Reservation}
    {invocation : Invocation}
    {allowedStatuses : List InvocationStatus}
    {won : Bool}
    (held : HeldAttempt db invocation)
    (pairing :
      discipline.paired →
        ∀ given, reservation = some given →
          invocation.reservationId = some given.id)
    (defaults :
      discipline.defaultRelease →
        allowedStatuses = [InvocationStatus.reserved])
    (returned :
      exec (finalizeRelease view reservation invocation allowedStatuses) db =
        (.ok won, db')) :
    Effect env discipline origin db [] db' := by
  rcases onFinalizeLost_ok returned with ⟨_, rfl⟩ | finished
  · exact .idle
  · obtain
      ⟨given, row, attempt, claims, isGiven, releasing, rowId, attemptId,
        allowed, rfl⟩ :=
      releaseUnit_ok finished
    have same := held.same releasing.invocationFound attemptId
    refine .released releasing (.finalized ?_) ?_ _ invocation.taskId rfl
    · intro default
      simpa [defaults default] using allowed
    · intro paired
      rw [same.reservationId]
      cases reservation with
      | some passed =>
          cases isGiven
          rw [rowId]
          exact pairing paired _ rfl
      | none => exact reservation_of_bind isGiven rowId

/-- `reconcile_commit`, with the event of a won reconciliation. -/
theorem reconcileCommit_effect
    {views : Views}
    {sessionMandate : Id → Option Mandate}
    {seen : Invocation}
    {evidence : Evidence}
    {callbacks : FinalizeCallbacks}
    {result : Option ReconciliationEvent}
    (held : HeldAttempt db seen)
    (addressed : discipline.paired → Addressed callbacks seen)
    (metering : discipline.metered → Bills callbacks seen)
    (stores : discipline.viaApi → callbacks.resultJson = none)
    (returned :
      exec
          (reconcileCommit env views sessionMandate seen evidence callbacks)
          db =
        (.ok result, db')) :
    Effect env discipline origin db (result.toList.map .reconciled) db' := by
  rcases reconcileCommit_ok returned with ⟨rfl, rfl⟩ | finished
  · exact .idle
  · obtain
      ⟨given, row, attempt, isGiven, rowId, attemptId, fromStatus, rfl,
        outcome⟩ :=
      reconcileCommitUnit_ok finished
    have link
        (same : seen.SameAttempt attempt) :
        attempt.reservationId = some row.id := by
      rw [same.reservationId, reservation_of_bind isGiven rowId]
    rcases outcome with
      ⟨receipt, receipts, outbox, accounts, claims, settling, rfl⟩ |
      ⟨receipts, outbox, accounts, claims, resettling, rfl⟩
    · have same := held.same settling.invocationFound attemptId
      exact .settled settling
        (.reconciled fromStatus attemptId.symm rfl rfl stores)
        (fun rule => ⟨link same, (addressed rule).same same⟩)
        (fun rule => (metering rule).same same) _
    · have same := held.same resettling.invocationFound attemptId
      exact .resettled resettling
        (.reconciled fromStatus attemptId.symm rfl rfl stores)
        (fun _ => link same)

/-- `reconcile_release`, with the event of a won reconciliation. -/
theorem reconcileRelease_effect
    {views : Views}
    {seen : Invocation}
    {evidence : Evidence}
    {result : Option ReconciliationEvent}
    (held : HeldAttempt db seen)
    (returned :
      exec (reconcileRelease views seen evidence) db = (.ok result, db')) :
    Effect env discipline origin db (result.toList.map .reconciled) db' := by
  rcases reconcileRelease_ok returned with ⟨rfl, rfl⟩ | finished
  · exact .idle
  · obtain
      ⟨given, row, attempt, claims, isGiven, releasing, rowId, attemptId,
        fromStatus, rfl, rfl⟩ :=
      reconcileReleaseUnit_ok finished
    have same := held.same releasing.invocationFound attemptId
    refine .released releasing
      (.reconciled fromStatus attemptId.symm rfl rfl) ?_ _ attempt.taskId rfl
    intro _
    rw [same.reservationId, reservation_of_bind isGiven rowId]

/-- The callbacks of the API bill the attempt they were built for. -/
theorem reconcileCallbacks_bills
    (env : Env)
    (invocation : Invocation)
    (evidenceRef : String)
    (draw : FinishDraw) :
    Bills (reconcileCallbacks env invocation evidenceRef draw) invocation :=
  ⟨⟨_, rfl, rfl, rfl, rfl⟩, ⟨_, rfl, rfl, rfl⟩⟩

/-- `post_reconcile` reconciles the attempt it has loaded. -/
theorem postReconcile_effect
    {views : Views}
    {actor : String}
    {mayAct : Id → Bool}
    {invocationId : Id}
    {body : ReconcileIn}
    {draw : FinishDraw}
    {result : Option ReconciliationEvent}
    (seen : Seen views db)
    (returned :
      exec (postReconcile env views actor mayAct invocationId body draw) db =
        (.ok result, db')) :
    Effect env discipline origin db (result.toList.map .reconciled) db' := by
  obtain ⟨loaded, _, present, afterPresent⟩ := bind_ok returned
  obtain ⟨found, rfl⟩ := orRaise_ok present
  have loadedId : loaded.id = invocationId := Table.key_of_find found
  subst loadedId
  have held : HeldAttempt db loaded := (seen 0).invocations _ _ found
  obtain ⟨_, _, mayRun, afterMay⟩ := bind_ok afterPresent
  obtain ⟨_, rfl⟩ := raiseWhen_ok mayRun
  obtain ⟨_, _, billableRun, decided⟩ := bind_ok afterMay
  obtain ⟨_, rfl⟩ := ofExcept_ok billableRun
  by_cases commits : body.outcome = "committed"
  · simp only [commits, ↓reduceIte] at decided
    have bills := reconcileCallbacks_bills env loaded body.evidenceRef draw
    exact reconcileCommit_effect held (fun _ => bills.addressed)
      (fun _ => bills) (fun _ => rfl) decided
  · by_cases releases : body.outcome = "released"
    · simp only [releases] at decided
      exact reconcileRelease_effect held decided
    · simp only [commits, releases, ↓reduceIte] at decided
      cases decided

end Ledger

end Crossing
