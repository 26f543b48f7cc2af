import Crossing.BillingStatus
import Crossing.IssuedReceipts
import Crossing.TenantIsolation

namespace Crossing

open Python
open Relational
open Relational.Transaction

/-!
# Tenants read their own rows

The routes of `api.py` that only read.  Each runs a few queries, between which
other transactions commit.  What a tenant is answered does not depend on the
rows of other accounts, so whatever other tenants do in the meantime, the answer
is the one that a database with nothing but its own rows would give.
-/

/-! ## The routes that read -/

/--
What the reading routes take from outside: the codec and the issuer, and the
columns that are written with their row only or by Stripe's events.
-/
structure Site where
  env : Env
  codec : Codec
  crypto : Crypto
  isoformat : Datetime → String
  accountName : Id → String
  principalName : Id → String
  agentName : Id → String
  priceId : Id → Option String
  defaultPriceId : Option String

namespace Site

variable (site : Site)

/-- The text of an id. -/
def id (id : Id) : Json :=
  .string (site.codec.idText id)

/-- The dict of `get_account`; `visiblePrefix` is that of the key. -/
def accountDict (ctx : AuthContext) (visiblePrefix : String)
    (account : Account) : Json :=
  .object
    [("account_id", site.id account.id),
      ("name", .string (site.accountName account.id)),
      ("api_key_id", site.id ctx.apiKeyId),
      ("prefix", .string visiblePrefix),
      ("kind", .string ctx.kind),
      ("scopes", .ofStrings ctx.scopes),
      ("stripe_customer_present",
        .bool (truthy account.stripeCustomerId).isSome)]

/-- A principal as `list_principals` shows it. -/
def principalDict (principal : Principal) : Json :=
  .object
    [("id", site.id principal.id),
      ("name", .string (site.principalName principal.id)),
      ("pubkey_hex", .ofOption principal.pubkeyHex)]

/-- An agent as `list_agents` shows it. -/
def agentDict (agent : Agent) : Json :=
  .object
    [("id", site.id agent.id),
      ("principal_id", site.id agent.principalId),
      ("parent_id", .ofOption (site.codec.optionalId agent.parentId)),
      ("name", .string (site.agentName agent.id)),
      ("revoked", .bool agent.revoked)]

/-- A mandate as `get_mandate` shows it. -/
def mandateDict (mandate : Mandate) : Json :=
  .object
    [("id", site.id mandate.id),
      ("remaining_cents", .int mandate.remainingCents),
      ("spend_limit_cents", .int mandate.spendLimitCents),
      ("tools", (mandate.toolsList.map Json.ofStrings).getD .null),
      ("revoked", .bool mandate.revoked)]

/-- A receipt as `to_dict` shows it. -/
def receiptDict (receipt : Receipt) : Except HttpError ShownReceipt :=
  ((site.codec.storedReceipt site.isoformat receipt).toDict site.codec.loads
    site.isoformat).mapError fun _ => .internal

/-- A receipt as `get_receipt` shows it, with whether it verifies. -/
def checkedReceiptDict (receipt : Receipt) : Except HttpError Json := do
  let shown ← site.receiptDict receipt
  match
    site.codec.verifies site.crypto
      (.row (site.codec.storedReceipt site.isoformat receipt).toReceiptRow),
    shown.dict
  with
  | some valid, .object fields =>
      .ok (.object (fields ++ [("valid", .bool valid)]))
  | _, _ => .error .internal

/-- The dict of `billing_status`. -/
def billingDict (status : BillingStatus) : Json :=
  .object
    [("account_id", site.id status.accountId),
      ("plan_price_id", .ofOption status.planPriceId),
      ("stripe_customer_present", .bool status.stripeCustomerPresent),
      ("stripe_status", .ofOption status.stripeStatus),
      ("receipt_count", .int status.receiptCount),
      ("usage_cents", .int status.usageCents),
      ("outbox_pending", .int status.outboxPending),
      ("outbox_sent", .int status.outboxSent),
      ("outbox_dead", .int status.outboxDead),
      ("fee_bps", .int status.feeBps),
      ("fee_microcents", .int status.feeMicrocents),
      ("fee_invoiced_cents", .int status.feeInvoicedCents)]

end Site

/-- `_filter_principals`. -/
def filterPrincipals (view : Db) (ctx : AuthContext) : List Principal :=
  if ctx.isAdmin then
    view.principals.rows
  else
    view.principals.rows.filter (·.accountId = ctx.accountId)

/-- The rows of a table whose principal the caller may see. -/
def visibleRows
    {ρ : Type}
    (views : Views)
    (ctx : AuthContext)
    (rows : Db → List ρ)
    (principalId : ρ → Id) :
    List ρ :=
  if ctx.isAdmin then
    rows (views 0)
  else
    -- `_principal_ids` is a query of its own, before that of the rows.
    (rows (views 1)).filter fun row =>
      principalId row ∈ principalIds (views 0) ctx

/-- The routes that read the database. -/
inductive ReadRoute where
  | getAccount (visiblePrefix : String)
  | listPrincipals
  | listAgents
  | getMandate (mandateId : Id)
  | listReceipts
  | getReceipt (receiptId : Id)
  | getBillingStatus
  deriving Repr, DecidableEq

namespace ReadRoute

/-- The scope that a route asks for. -/
def scope : ReadRoute → String
  | .getBillingStatus => "billing:read"
  | _ => "read"

/-- `get_receipt`, up to the receipt that is shown. -/
def visibleReceipt
    (views : Views)
    (ctx : AuthContext)
    (receiptId : Id) :
    Except HttpError Receipt :=
  match (views 0).receipts.find receiptId with
  | none => .error .closed
  | some receipt =>
      if ctx.isAdmin = false ∧
          receipt.principalId ∉ principalIds (views 1) ctx then
        .error .closed
      else
        .ok receipt

/-- The handler of a route. -/
def handle (site : Site) (views : Views) (ctx : AuthContext) :
    ReadRoute → Except HttpError Json
  | .getAccount visiblePrefix =>
      match (views 0).accounts.find ctx.accountId with
      | none => .error .closed
      | some account => .ok (site.accountDict ctx visiblePrefix account)
  | .listPrincipals =>
      .ok (.array ((filterPrincipals (views 0) ctx).map site.principalDict))
  | .listAgents =>
      .ok
        (.array
          ((visibleRows views ctx (·.agents.rows) Agent.principalId).map
            site.agentDict))
  | .getMandate mandateId =>
      match (exec (ownMandate views ctx mandateId) (views 0)).1 with
      | .ok mandate => .ok (site.mandateDict mandate)
      | .error exception => .error (exception.response none)
  | .listReceipts => do
      let shown ←
        (visibleRows views ctx (·.receipts.rows) Receipt.principalId).mapM
          site.receiptDict
      .ok (.array (shown.map ShownReceipt.dict))
  | .getReceipt receiptId => do
      let receipt ← visibleReceipt views ctx receiptId
      site.checkedReceiptDict receipt
  | .getBillingStatus =>
      match
        billingStatus site.env views (site.priceId ctx.accountId)
          site.defaultPriceId ctx.accountId
      with
      | none => .error .internal
      | some status => .ok (site.billingDict status)

/-- The response of a route. -/
def respond
    (site : Site)
    (views : Views)
    (ctx : AuthContext)
    (route : ReadRoute) :
    Except HttpError Json := do
  Route.requireScope ctx route.scope
  route.handle site views ctx

end ReadRoute

/-! ## The rows of one account -/

namespace Db

/-- The database with nothing but the rows of an account. -/
def only (db : Db) (accountId : Id) : Db :=
  let mine := db.owns accountId
  { accounts := db.accounts.restrict (·.id = accountId)
    principals := db.principals.restrict (·.accountId = accountId)
    agents := db.agents.restrict (mine ·.principalId)
    tasks := db.tasks.restrict (mine ·.principalId)
    mandates := db.mandates.restrict (mine ·.principalId)
    ledgerEvents := db.ledgerEvents.filter (mine ·.principalId)
    reservations := db.reservations.restrict (mine ·.principalId)
    receipts := db.receipts.restrict (mine ·.principalId)
    billingOutbox :=
      db.billingOutbox.restrict (mine ·.payloadJson.principalId)
    idempotencyRecords :=
      db.idempotencyRecords.restrict (mine ·.principalId)
    usedNonces := db.usedNonces.restrict (mine ·.principalId)
    invocations := db.invocations.restrict (mine ·.principalId)
    reconciliationEvents := [] }

/-- An account owns the same principals there. -/
theorem owns_only (db : Db) (accountId principalId : Id) :
    (db.only accountId).owns accountId principalId =
      db.owns accountId principalId := by
  unfold owns only
  rw [Table.find_restrict]
  cases db.principals.find principalId with
  | none => rfl
  | some principal =>
      by_cases ofAccount : principal.accountId = accountId <;>
        simp [Option.filter, ofAccount]

/-- The share of the account is all there is. -/
theorem share_only (db : Db) (accountId : Id) :
    (db.only accountId).share accountId = db.share accountId := by
  have twice {ρ : Type} (rows : List ρ) (keeps : ρ → Bool) :
      (rows.filter keeps).filter keeps = rows.filter keeps := by
    rw [List.filter_filter]
    simp
  unfold share
  simp only [owns_only]
  simp only [only, Table.restrict, twice]

/-- Two databases with one share own the same principals. -/
theorem owns_of_share
    {db db' : Db}
    {accountId : Id}
    (same : db.share accountId = db'.share accountId)
    (principalId : Id) :
    db.owns accountId principalId = db'.owns accountId principalId := by
  have principals := (Rows.mk.inj same).2.1
  have listed (database : Db) :
      database.owns accountId principalId = true ↔
        ∃ principal ∈
            database.principals.rows.filter (·.accountId = accountId),
          principal.id = principalId := by
    rw [owns_iff]
    constructor
    · rintro ⟨principal, found, ofAccount⟩
      exact ⟨principal,
        List.mem_filter.mpr
          ⟨Table.mem_of_find found, decide_eq_true ofAccount⟩,
        Table.key_of_find found⟩
    · rintro ⟨principal, member, rfl⟩
      obtain ⟨stored, ofAccount⟩ := List.mem_filter.mp member
      exact ⟨principal, Table.find_of_mem stored,
        of_decide_eq_true ofAccount⟩
  rw [Bool.eq_iff_iff, listed db, listed db', principals]

end Db

/-! ## What an answer depends on -/

section Agreement

variable
  {site : Site}
  {ctx : AuthContext}
  {views views' : Views}

/-- All statements see one share of the account, though not one database. -/
def Views.Agree (views : Views) (accountId : Id) (rows : Rows) : Prop :=
  ∀ statement, (views statement).share accountId = rows

variable {rows : Rows}

/-- The caller's principals are those that its account owns. -/
theorem mem_principalIds_agree
    (agree : views.Agree ctx.accountId rows)
    (statement other : Nat)
    (principalId : Id) :
    principalId ∈ principalIds (views statement) ctx ↔
      (views other).owns ctx.accountId principalId = true := by
  have same := (agree statement).trans (agree other).symm
  rw [mem_principalIds, Db.owns_of_share same]

/-- The rows that a tenant sees of a table are those of its share. -/
theorem visibleRows_agree
    {ρ : Type}
    {table : Db → List ρ}
    {principalId : ρ → Id}
    {shared : List ρ}
    (tenant : ctx.isAdmin = false)
    (agree : views.Agree ctx.accountId rows)
    (mine :
      ((table (views 1)).filter fun row =>
          (views 1).owns ctx.accountId (principalId row)) =
        shared) :
    visibleRows views ctx table principalId = shared := by
  rw [visibleRows, tenant, ← mine]
  refine List.filter_congr fun row _ => ?_
  rw [Bool.eq_iff_iff, decide_eq_true_iff, mem_principalIds_agree agree 0 1]

/-- A row that a tenant may see is one of its share, by its key. -/
theorem find_agree
    {ρ : Type}
    [Keyed ρ Id]
    {table : Db → Table ρ}
    {principalId : ρ → Id}
    {shared : List ρ}
    (agree : views.Agree ctx.accountId rows)
    (mine :
      ((table (views 0)).rows.filter fun row =>
          (views 0).owns ctx.accountId (principalId row)) =
        shared)
    (key : Id) :
    ((table (views 0)).find key).filter
        (fun row => principalId row ∈ principalIds (views 1) ctx) =
      shared.find? fun row => Keyed.key row = key := by
  have owned :
      (fun row : ρ => decide (principalId row ∈ principalIds (views 1) ctx)) =
        fun row => (views 0).owns ctx.accountId (principalId row) := by
    funext row
    rw [Bool.eq_iff_iff, decide_eq_true_iff, mem_principalIds_agree agree 1 0]
  rw [owned, ← Table.find_restrict, ← mine]
  rfl

/-- What `_own_mandate` gives a tenant. -/
theorem ownMandate_eq
    (tenant : ctx.isAdmin = false)
    (views : Views)
    (mandateId : Id)
    (db : Db) :
    (exec (ownMandate views ctx mandateId) db).1 =
      match
        ((views 0).mandates.find mandateId).filter fun mandate =>
          mandate.principalId ∈ principalIds (views 1) ctx
      with
      | some mandate => .ok mandate
      | none => .error .notFound := by
  unfold ownMandate
  cases (views 0).mandates.find mandateId with
  | none => rfl
  | some mandate =>
      by_cases mine : mandate.principalId ∈ principalIds (views 1) ctx <;>
        simp [tenant, mine, Option.filter]

/-- What `get_receipt` lets a tenant see. -/
theorem visibleReceipt_eq
    (tenant : ctx.isAdmin = false)
    (views : Views)
    (receiptId : Id) :
    ReadRoute.visibleReceipt views ctx receiptId =
      match
        ((views 0).receipts.find receiptId).filter fun receipt =>
          receipt.principalId ∈ principalIds (views 1) ctx
      with
      | some receipt => .ok receipt
      | none => .error .closed := by
  unfold ReadRoute.visibleReceipt
  cases (views 0).receipts.find receiptId with
  | none => rfl
  | some receipt =>
      by_cases mine : receipt.principalId ∈ principalIds (views 1) ctx <;>
        simp [tenant, mine, Option.filter]

/-- The account of the caller is the one of its share. -/
theorem find_account_agree
    (agree : views.Agree ctx.accountId rows)
    (statement : Nat) :
    (views statement).accounts.find ctx.accountId =
      rows.accounts.head? := by
  have accounts := (Rows.mk.inj (agree statement)).1
  rw [← accounts, List.head?_filter]
  rfl

/-- What `billing_status` shows depends on the share. -/
theorem billingStatus_agree
    {env : Env}
    {priceId defaultPriceId : Option String}
    (agree : views.Agree ctx.accountId rows)
    (agree' : views'.Agree ctx.accountId rows) :
    billingStatus env views priceId defaultPriceId ctx.accountId =
      billingStatus env views' priceId defaultPriceId ctx.accountId := by
  have pids (seen : Views) :
      principalsOf (seen 1) ctx.accountId = principalIds (seen 1) ctx := rfl
  have receipts
      {seen : Views}
      (agrees : seen.Agree ctx.accountId rows) :
      (seen 2).receipts.rows.filter
          (fun row => row.principalId ∈ principalsOf (seen 1) ctx.accountId) =
        rows.receipts := by
    rw [← congrArg Rows.receipts (agrees 2)]
    refine List.filter_congr fun row _ => ?_
    rw [pids, Bool.eq_iff_iff, decide_eq_true_iff,
      mem_principalIds_agree agrees 1 2]
  have outbox
      {seen : Views}
      (agrees : seen.Agree ctx.accountId rows) :
      (seen 3).billingOutbox.rows.filter
          (fun row =>
            row.payloadJson.principalId ∈
              principalsOf (seen 1) ctx.accountId) =
        rows.billingOutbox := by
    rw [← congrArg Rows.billingOutbox (agrees 3)]
    refine List.filter_congr fun row _ => ?_
    rw [pids, Bool.eq_iff_iff, decide_eq_true_iff,
      mem_principalIds_agree agrees 1 3]
  unfold billingStatus
  simp only [find_account_agree agree, find_account_agree agree',
    receipts agree, receipts agree', outbox agree, outbox agree']

/-- What a tenant is answered depends on its share alone. -/
theorem ReadRoute.respond_agree
    (tenant : ctx.isAdmin = false)
    (agree : views.Agree ctx.accountId rows)
    (agree' : views'.Agree ctx.accountId rows)
    (route : ReadRoute) :
    route.respond site views ctx = route.respond site views' ctx := by
  have handled :
      route.handle site views ctx = route.handle site views' ctx := by
    cases route with
    | getAccount visiblePrefix =>
        simp only [handle, find_account_agree agree, find_account_agree agree']
    | listPrincipals =>
        have principals :=
          congrArg Rows.principals ((agree 0).trans (agree' 0).symm)
        have shown (view : Db) :
            filterPrincipals view ctx =
              (view.share ctx.accountId).principals := by
          rw [filterPrincipals, tenant]
          rfl
        simp only [handle, shown, principals]
    | listAgents =>
        have agents {seen : Views} (agrees : seen.Agree ctx.accountId rows) :
            visibleRows seen ctx (·.agents.rows) Agent.principalId =
              rows.agents :=
          visibleRows_agree tenant agrees (congrArg Rows.agents (agrees 1))
        simp only [handle, agents agree, agents agree']
    | getMandate mandateId =>
        have found {seen : Views} (agrees : seen.Agree ctx.accountId rows) :
            ((seen 0).mandates.find mandateId).filter
                (fun row => row.principalId ∈ principalIds (seen 1) ctx) =
              rows.mandates.find? fun row => row.id = mandateId :=
          find_agree agrees (congrArg Rows.mandates (agrees 0)) mandateId
        simp only [handle, ownMandate_eq tenant, found agree, found agree']
    | listReceipts =>
        have receipts {seen : Views} (agrees : seen.Agree ctx.accountId rows) :
            visibleRows seen ctx (·.receipts.rows) Receipt.principalId =
              rows.receipts :=
          visibleRows_agree tenant agrees (congrArg Rows.receipts (agrees 1))
        simp only [handle, receipts agree, receipts agree']
    | getReceipt receiptId =>
        have found {seen : Views} (agrees : seen.Agree ctx.accountId rows) :
            ((seen 0).receipts.find receiptId).filter
                (fun row => row.principalId ∈ principalIds (seen 1) ctx) =
              rows.receipts.find? fun row => row.id = receiptId :=
          find_agree agrees (congrArg Rows.receipts (agrees 0)) receiptId
        simp only [handle, visibleReceipt_eq tenant, found agree,
          found agree']
    | getBillingStatus =>
        simp only [handle, billingStatus_agree agree agree']
  unfold respond
  rw [handled]

end Agreement

/-! ## While other tenants are at work -/

section Others

variable
  {env : Env}
  {auth : AuthEnv}
  {accountId : Id}
  {s s' : Service}

/-- A move for the tenant of any other account. -/
def OthersStep
    (env : Env)
    (auth : AuthEnv)
    (accountId : Id)
    (s s' : Service) :
    Prop :=
  ∃ otherId ≠ accountId, TenantStep env auth otherId s s'

/-- What other tenants do leaves the share of an account alone. -/
theorem others_share
    (reached : Service.Reached env auth s)
    (others :
      Relation.ReflTransGen (OthersStep env auth accountId) s s') :
    s'.sys.db.share accountId = s.sys.db.share accountId := by
  induction others with
  | refl => rfl
  | @tail middle last before taken inductionHypothesis =>
      obtain ⟨otherId, other, taken⟩ := taken
      have before' :
          Relation.ReflTransGen (ServiceStep env auth) s middle := by
        refine before.lift id ?_
        rintro _ _ ⟨_, _, step⟩
        exact .tenant step
      have sound := reached_sound (reached.later before')
      exact (taken.served.share sound (Ne.symm other)).trans
        inductionHypothesis

/--
A tenant reads its own rows: whatever other tenants do before and between the
queries of a route, it answers as it would on a database in which nothing but
the rows of the caller's account had ever been.
-/
theorem tenants_read_own_rows
    {ctx : AuthContext}
    {views : Views}
    (reached : Service.Reached env auth s)
    (tenant : ctx.isAdmin = false)
    (seen :
      ∀ statement, ∃ s',
        Relation.ReflTransGen (OthersStep env auth ctx.accountId) s s' ∧
          views statement = s'.sys.db)
    (site : Site)
    (route : ReadRoute) :
    route.respond site views ctx =
      route.respond site (fun _ => s.sys.db.only ctx.accountId) ctx := by
  refine ReadRoute.respond_agree tenant ?_
    (fun _ => Db.share_only s.sys.db ctx.accountId) route
  intro statement
  obtain ⟨s', others, isView⟩ := seen statement
  rw [isView]
  exact others_share reached others

end Others

/-- The site of the small deployment. -/
def Site.plain : Site where
  env := .plain
  codec := .plain
  crypto := .plain
  isoformat _ := "noon"
  accountName _ := "account"
  principalName _ := "principal"
  agentName _ := "agent"
  priceId _ := none
  defaultPriceId := none

/-- The first tenant of a small deployment gets a receipt. -/
theorem first_tenant_at_work :
    ∃ s s' : Service,
      Service.Reached .plain .plain s ∧
        s'.sys.db.receipts.rows.length = s.sys.db.receipts.rows.length + 1 ∧
        Relation.ReflTransGen (OthersStep .plain .plain 2) s s' := by
  have checked :
      (run .plain Sys.start
            (deploy ++ [.txn [] (.createPrincipal none none 2 2)])).any
          (fun sys =>
            (serveAll .plain .plain (twoTenants sys) 1 tenantAtWork).any
              fun s' =>
                s'.sys.db.receipts.rows.length =
                  sys.db.receipts.rows.length + 1) =
        true := by
    decide
  obtain ⟨sys, reachable, passes⟩ :=
    reachable_of_check (.of_forall (fun _ _ _ => trivial) _) checked
  obtain ⟨s', served, issued⟩ := (Option.any_eq_true _ _).mp passes
  have reached : Service.Reached .plain .plain (twoTenants sys) :=
    (reached_of_reachable reachable).next (.keys _)
  refine ⟨twoTenants sys, s', reached, of_decide_eq_true issued, ?_⟩
  refine (requests_of_serveAll served).lift id ?_
  intro _ _ step
  exact ⟨1, by decide, step⟩

/-- The second tenant lists its receipts while the first one gets its own. -/
theorem tenants_read_own_rows_example :
    ∃ s s' : Service,
      Service.Reached .plain .plain s ∧
        s'.sys.db.receipts.rows.length = s.sys.db.receipts.rows.length + 1 ∧
        ReadRoute.listReceipts.respond .plain
            (fun statement => if statement = 0 then s.sys.db else s'.sys.db)
            (customerKey 2 2 "b").context =
          ReadRoute.listReceipts.respond .plain (fun _ => s.sys.db.only 2)
            (customerKey 2 2 "b").context := by
  obtain ⟨s, s', reached, issued, others⟩ := first_tenant_at_work
  refine ⟨s, s', reached, issued, ?_⟩
  refine tenants_read_own_rows reached (by decide) ?_ .plain .listReceipts
  intro statement
  by_cases first : statement = 0
  · exact ⟨_, .refl, if_pos first⟩
  · exact ⟨_, others, if_neg first⟩

end Crossing
