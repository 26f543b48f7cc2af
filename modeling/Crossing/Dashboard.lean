import Crossing.HtmlText
import Crossing.PythonText
import Crossing.TenantReads

namespace Crossing

open Python
open Relational

/-!
# The operator's desk

`dashboard.py` writes the rows that a caller may see into one page.  Whatever
texts the rows hold, a reader of the page finds the tables of those rows in it,
cell by cell, and nothing else; and what a tenant finds are its own rows.
-/

/-! ## Cells -/

/-- `ledger_events.kind`. -/
def EventKind.text : EventKind → String
  | .reserve => "reserve"
  | .commit => "commit"
  | .release => "release"
  | .deny => "deny"
  | .escrow => "escrow"

/-- `reservations.status`. -/
def ReservationStatus.text : ReservationStatus → String
  | .held => "held"
  | .committed => "committed"
  | .released => "released"

/-- `billing_outbox.status`. -/
def OutboxStatus.text : OutboxStatus → String
  | .pending => "pending"
  | .sending => "sending"
  | .sent => "sent"
  | .failed => "failed"
  | .noop => "noop"
  | .dead => "dead"

/-- A value of a column. -/
inductive Cell where
  | none
  | text (value : String)
  | int (value : Int)
  | bool (value : Bool)
  deriving Repr, DecidableEq

namespace Cell

/-- `str(v)`; `none` stands for `ValueError`. -/
def str : Cell → Option String
  | .none => some "None"
  | .text value => some value
  | .int value => pythonStr value
  | .bool value => some (if value then "True" else "False")

/-- A column that may be null. -/
def ofOption : Option String → Cell
  | .none => .none
  | some value => .text value

/-- What is to be seen of a value. -/
def shown : Cell → Option String
  | .none => some ""
  | cell => cell.str

end Cell

/-- `html.escape`. -/
def htmlEscape (text : String) : String :=
  .ofList (Html.escape text.toList)

/-- `_td`. -/
def td : Cell → Option String
  | .none => some "<td></td>"
  | cell => do
      let text ← cell.str
      some ("<td>" ++ htmlEscape text ++ "</td>")

/-- What `_table` is given. -/
structure DeskTable where
  title : String
  headers : List String
  rows : List (List Cell)
  deriving Repr, DecidableEq

namespace DeskTable

/-- `_table`. -/
def render (table : DeskTable) : Option String := do
  let head :=
    "".intercalate
      (table.headers.map fun header => "<th>" ++ htmlEscape header ++ "</th>")
  let body ← table.rows.mapM fun row => do
    let cells ← row.mapM td
    some ("<tr>" ++ "".intercalate cells ++ "</tr>")
  some
    ("<section class='panel'>" ++ ("<h2>" ++ htmlEscape table.title ++ "</h2>")
      ++ "<div class='scroll'><table>" ++ ("<tr>" ++ head ++ "</tr>")
      ++ "".intercalate body ++ "</table></div></section>")

/-- The table that a reader is to find. -/
def shown (table : DeskTable) : Option Html.Table := do
  let rows ← table.rows.mapM fun row => row.mapM Cell.shown
  some ⟨table.title, table.headers :: rows⟩

end DeskTable

/-! ## The page -/

/-- What the desk takes from outside beside the columns of a `Site`. -/
structure Desk extends Site where
  str : Datetime → String
  principalCreatedAt : Id → Datetime
  eventId : Nat → String
  eventCreatedAt : Nat → Int

/-- The rows of a page.  An event stands with its place in the log. -/
structure DeskRows where
  principals : List Principal
  agents : List Agent
  mandates : List Mandate
  events : List (LedgerEvent × Nat)
  receipts : List Receipt
  outbox : List Outbox
  reservations : List Reservation
  invocations : List Invocation

namespace Desk

variable (desk : Desk)

/-- The text of an id. -/
def idCell (id : Id) : Cell :=
  .text (desk.codec.idText id)

/-- The text of an id that may be null. -/
def optionalIdCell (id : Option Id) : Cell :=
  .ofOption (desk.codec.optionalId id)

/-- `ledger_events.note`. -/
def noteText : Note → String
  | .reason reason => reason.text
  | .child mandate => "child=" ++ desk.codec.idText mandate

/-- A number that may be null. -/
def numberCell : Option Int → Cell
  | none => .none
  | some value => .int value

/-- The tables of the page. -/
def tables (rows : DeskRows) : List DeskTable :=
  [⟨"principals", ["id", "name", "created"],
      rows.principals.map fun p =>
        [desk.idCell p.id, .text (desk.principalName p.id),
          .text (desk.str (desk.principalCreatedAt p.id))]⟩,
    ⟨"agents", ["id", "principal", "parent", "name", "revoked"],
      rows.agents.map fun a =>
        [desk.idCell a.id, desk.idCell a.principalId,
          desk.optionalIdCell a.parentId, .text (desk.agentName a.id),
          .bool a.revoked]⟩,
    ⟨"mandates",
      ["id", "agent", "spend", "remaining", "max_call", "tools", "expires",
        "revoked"],
      rows.mandates.map fun m =>
        [desk.idCell m.id, desk.idCell m.agentId, .int m.spendLimitCents,
          .int m.remainingCents, .int m.maxCallCents,
          .ofOption (desk.codec.storedMandate desk.isoformat m).toolsJson,
          .ofOption (m.expiresAt.map desk.str), .bool m.revoked]⟩,
    ⟨"ledger_events",
      ["id", "kind", "amount", "remaining_after", "mandate", "note"],
      rows.events.map fun (e, place) =>
        [.text (desk.eventId place), .text e.kind.text, .int e.amountCents,
          numberCell e.remainingAfter, desk.idCell e.mandateId,
          .ofOption (e.note.map desk.noteText)]⟩,
    ⟨"reservations", ["id", "status", "amount", "mandate"],
      rows.reservations.map fun r =>
        [desk.idCell r.id, .text r.status.text, .int r.amountCents,
          desk.idCell r.mandateId]⟩,
    ⟨"receipts", ["id", "tool", "amount", "sig"],
      rows.receipts.map fun r =>
        [desk.idCell r.id, .text r.tool, .int r.amountCents,
          .text (.ofList (r.signature.toList.take 16) ++ "…")]⟩,
    ⟨"outbox", ["id", "status", "attempts", "error"],
      rows.outbox.map fun o =>
        [desk.idCell o.id, .text o.status.text, .int o.attempts,
          .ofOption o.lastError]⟩,
    ⟨"invocations", ["id", "status", "tool", "mandate"],
      rows.invocations.map fun i =>
        [desk.idCell i.id, .text i.status.text, .text i.tool,
          desk.idCell i.mandateId]⟩]

/-- The style sheet of the page. -/
def style : String :=
  "<style>
body\x7bmargin:0;background:#0c0d12;color:#e8e4d9;font-family:\"Source Sans 3\",system-ui,sans-serif\x7d
.banner\x7bheight:220px;background:linear-gradient(180deg,rgba(12,13,18,.2),#0c0d12),url(\"/static/bridge.jpg\") center 45%/cover;display:flex;align-items:flex-end;padding:1.5rem 2rem\x7d
h1\x7bfont-family:Cinzel,Palatino,serif;letter-spacing:.14em;text-transform:uppercase;margin:0;font-size:2rem\x7d
.wrap\x7bpadding:1.5rem 2rem 4rem\x7d
.panel\x7bmargin:1.4rem 0\x7d
h2\x7bfont-family:Cinzel,serif;font-size:.95rem;letter-spacing:.08em;text-transform:uppercase;color:#d4b483\x7d
.scroll\x7boverflow:auto\x7d
table\x7bborder-collapse:collapse;width:100%;font-size:.85rem\x7d
th,td\x7bborder-bottom:1px solid #2a2d36;padding:.45rem .55rem;text-align:left;vertical-align:top\x7d
th\x7bcolor:#b7b0a3;font-weight:600\x7d
a\x7bcolor:#d4b483\x7d
</style></head><body>"

/-- The parts of the page before its tables, with `FONT` in the link. -/
def opening : List String :=
  ["<!doctype html><html><head><meta charset='utf-8'/><meta name='viewport' content='width=device-width, initial-scale=1'/>",
    "<title>The Crossing — desk</title>",
    "<link rel=\"stylesheet\" href=\"https://fonts.googleapis.com/css2?family=Cinzel:wght@500;700&family=Source+Sans+3:wght@400;600&display=swap\"/>",
    style,
    "<div class='banner'><h1>The Crossing</h1></div><div class='wrap'>",
    "<p>Operator desk. Header key only. No <code>?key=</code>.</p>"]

/-- The part after them. -/
def closing : String := "</div></body></html>"

/-- A query for the rows of some principals, as `render` narrows it. -/
def narrowed
    {ρ : Type}
    (accountId : Option Id)
    (isAdmin : Bool)
    (pids : List Id)
    (principalId : ρ → Id)
    (rows : List ρ) :
    List ρ :=
  if accountId.isSome ∧ isAdmin = false ∧ pids ≠ [] then
    rows.filter fun row => principalId row ∈ pids
  else if accountId.isSome ∧ isAdmin = false then
    -- No row has `None` for its id.
    []
  else
    rows

/-- Events by their time. -/
def byCreation (events : List (LedgerEvent × Nat)) :
    List (LedgerEvent × Nat) :=
  events.insertionSort fun first second =>
    desk.eventCreatedAt first.2 ≤ desk.eventCreatedAt second.2

/-- The queries of `render`. -/
def queried (views : Views) (accountId : Option Id) (isAdmin : Bool) :
    DeskRows :=
  let principals :=
    match accountId with
    | some account =>
        if isAdmin then
          (views 0).principals.rows
        else
          (views 0).principals.rows.filter (·.accountId = account)
    | none => (views 0).principals.rows
  let pids := principals.map Principal.id
  { principals := principals
    agents :=
      narrowed accountId isAdmin pids Agent.principalId
        (views 1).agents.rows
    mandates :=
      narrowed accountId isAdmin pids Mandate.principalId
        (views 2).mandates.rows
    events :=
      desk.byCreation
        (narrowed accountId isAdmin pids (fun event => event.1.principalId)
          (views 3).ledgerEvents.zipIdx)
    receipts :=
      narrowed accountId isAdmin pids Receipt.principalId
        (views 4).receipts.rows
    outbox := if isAdmin then (views 5).billingOutbox.rows else []
    reservations :=
      narrowed accountId isAdmin pids Reservation.principalId
        (views 6).reservations.rows
    invocations :=
      narrowed accountId isAdmin pids Invocation.principalId
        (views 7).invocations.rows }

/-- `render`. -/
def render (views : Views) (accountId : Option Id) (isAdmin : Bool) :
    Option String := do
  let sections ←
    (desk.tables (desk.queried views accountId isAdmin)).mapM
      DeskTable.render
  some ("\n".intercalate (opening ++ sections ++ [closing]))

/-- `dashboard`, for a key that is live. -/
def dashboard (views : Views) (ctx : AuthContext) :
    Except HttpError String := do
  Route.requireScope ctx "read"
  match
    desk.render views (if ctx.isAdmin then none else some ctx.accountId)
      ctx.isAdmin
  with
  | some page => .ok page
  | none => .error .internal

end Desk

/-! ## What a reader finds -/

section Reading

/-- What is written of values that are written alike. -/
theorem mapM_map
    {α β γ : Type}
    (value : α → Option β)
    (write : β → γ)
    (items : List α) :
    items.mapM (fun item => (value item).map write) =
      (items.mapM value).map (List.map write) := by
  induction items with
  | nil => rfl
  | cons item items inductionHypothesis =>
      rw [List.mapM_cons, List.mapM_cons, inductionHypothesis]
      cases value item with
      | none => rfl
      | some _ => cases items.mapM value <;> rfl

/-- A cell of a page. -/
def tdText (content : String) : String :=
  "<td>" ++ htmlEscape content ++ "</td>"

/-- A row of a page. -/
def trText (cells : List String) : String :=
  "<tr>" ++ "".intercalate (cells.map tdText) ++ "</tr>"

/-- The heading row of a table. -/
def headText (headers : List String) : String :=
  "<tr>" ++
    "".intercalate
      (headers.map fun header => "<th>" ++ htmlEscape header ++ "</th>") ++
    "</tr>"

/-- A table of a page. -/
def tableText (filled : DeskTable × List (List String)) : String :=
  "<section class='panel'>"
    ++ ("<h2>" ++ htmlEscape filled.1.title ++ "</h2>")
    ++ "<div class='scroll'><table>" ++ headText filled.1.headers
    ++ "".intercalate (filled.2.map trText) ++ "</table></div></section>"

/-- `_td` writes what is to be seen of a value. -/
theorem td_eq (cell : Cell) : td cell = cell.shown.map tdText := by
  cases cell with
  | none => decide
  | int value => cases written : pythonStr value <;> simp [td, Cell.shown,
      Cell.str, written, tdText]
  | text value => rfl
  | bool value => rfl

/-- A table with what is to be seen of its rows. -/
def DeskTable.filled (table : DeskTable) :
    Option (DeskTable × List (List String)) :=
  (table.rows.mapM (List.mapM Cell.shown)).map fun rows => (table, rows)

/-- What a reader is to find of a table. -/
def found (filled : DeskTable × List (List String)) : Html.Table :=
  ⟨filled.1.title, filled.1.headers :: filled.2⟩

/-- A table is found with its rows. -/
theorem shown_eq (table : DeskTable) :
    table.shown = table.filled.map found := by
  unfold DeskTable.shown DeskTable.filled
  cases table.rows.mapM (List.mapM Cell.shown) <;> rfl

/-- `_table` writes what is to be seen of its rows. -/
theorem render_eq (table : DeskTable) :
    table.render = table.filled.map tableText := by
  have row (cells : List Cell) :
      (do
          let written ← cells.mapM td
          some ("<tr>" ++ "".intercalate written ++ "</tr>")) =
        (cells.mapM Cell.shown).map trText := by
    rw [show td = fun cell => cell.shown.map tdText from funext td_eq,
      mapM_map]
    cases cells.mapM Cell.shown <;> rfl
  unfold DeskTable.render DeskTable.filled
  simp only [row, mapM_map]
  cases table.rows.mapM (List.mapM Cell.shown) <;> rfl

/-- A page after a table. -/
def addTable (page : Html.Page) (table : Html.Table) : Html.Page :=
  (table.rows.foldl Html.Page.addRow (page.entitle table.title)).endTable

/-- The table is there, and no cell is open. -/
theorem addTable_eq (page : Html.Page) (table : Html.Table) :
    (addTable page table).tables = page.tables ++ [table] ∧
      (addTable page table).cell = none := by
  obtain ⟨tables, title, closed⟩ :=
    Html.Page.foldl_addRow (page.entitle table.title) table.rows
  refine ⟨?_, closed⟩
  rw [addTable, Html.Page.endTable, tables, title,
    Html.Page.rows_foldl_addRow]
  rfl

/-- Tables are added in their order. -/
theorem foldl_addTable
    {page : Html.Page}
    (closed : page.cell = none)
    (tables : List Html.Table) :
    (tables.foldl addTable page).tables = page.tables ++ tables ∧
      (tables.foldl addTable page).cell = none := by
  induction tables generalizing page with
  | nil => exact ⟨(List.append_nil _).symm, closed⟩
  | cons table tables inductionHypothesis =>
      obtain ⟨added, closed'⟩ := addTable_eq page table
      obtain ⟨all, last⟩ := inductionHypothesis closed'
      refine ⟨?_, last⟩
      rw [List.foldl_cons, all, added]
      simp

/-- The text of a table is read as the table. -/
theorem shows_tableText
    (page : Html.Page)
    (filled : DeskTable × List (List String))
    (closed : page.cell = none) :
    Html.Shows (tableText filled) page (addTable page (found filled)) := by
  obtain ⟨⟨title, headers, _⟩, rows⟩ := filled
  have panel : Html.Shows "<section class='panel'>" page page :=
    .quiet closed (by decide)
  have heading := Html.Shows.heading page title
  have scroll :
      Html.Shows "<div class='scroll'><table>" (page.entitle title)
        (page.entitle title) :=
    .quiet rfl (by decide)
  have head :
      Html.Shows (headText headers) (page.entitle title)
        ((page.entitle title).addRow headers) :=
    .row .th headers rfl
  have row
      (page : Html.Page)
      (cells : List String)
      (closed : page.cell = none) :
      (page.addRow cells).cell = none ∧
        Html.Shows (trText cells) page (page.addRow cells) :=
    ⟨closed, .row .td cells closed⟩
  have body :
      Html.ShowsAll ((page.entitle title).addRow headers) (rows.map trText)
        (rows.foldl Html.Page.addRow
          ((page.entitle title).addRow headers)) :=
    .map row rows rfl
  have joined := body.joined fun page _ => .empty page
  have ends :
      Html.read .data "</table></div></section>".toList =
        (.data,
          [.tag "/table".toList, .tag "/div".toList,
            .tag "/section".toList]) := by
    decide
  exact ((((panel.append heading).append scroll).append head).append
    joined).append (.tokens ends)

set_option maxRecDepth 8000 in
/-- The parts of the page before its tables add none. -/
theorem shows_opening : Html.ShowsAll {} Desk.opening {} :=
  ⟨{}, rfl, .quiet rfl (by decide +kernel), {}, rfl,
    .quiet rfl (by decide +kernel), {}, rfl, .quiet rfl (by decide +kernel),
    {}, rfl, .quiet rfl (by decide +kernel), {}, rfl,
    .quiet rfl (by decide +kernel), {}, rfl, .quiet rfl (by decide +kernel),
    rfl⟩

/-- A page of tables is read as the tables. -/
theorem page_reads_back (tables : List DeskTable) :
    ((tables.mapM DeskTable.render).map fun sections =>
        Html.tables
          ("\n".intercalate (Desk.opening ++ sections ++ [Desk.closing]))) =
      tables.mapM DeskTable.shown := by
  rw [show DeskTable.render = fun table => table.filled.map tableText from
      funext render_eq,
    show DeskTable.shown = fun table => table.filled.map found from
      funext shown_eq,
    mapM_map, mapM_map]
  cases tables.mapM DeskTable.filled with
  | none => rfl
  | some filled =>
      let last := (filled.map found).foldl addTable {}
      obtain ⟨added, closed⟩ :=
        @foldl_addTable {} rfl (filled.map found)
      have sections : Html.ShowsAll {} (filled.map tableText) last := by
        rw [show last = filled.foldl (fun page t => addTable page (found t)) {}
          from List.foldl_map]
        refine .map (fun page table closed => ?_) filled rfl
        exact ⟨(addTable_eq page (found table)).2,
          shows_tableText page table closed⟩
      have ending : Html.ShowsAll last [Desk.closing] last :=
        ⟨last, closed, .quiet closed (by decide), rfl⟩
      have whole := (shows_opening.append sections).append ending
      have lineFeed (page : Html.Page) (closed : page.cell = none) :
          Html.Shows "\n" page page :=
        .quiet closed (by decide)
      have page := whole.joined lineFeed
      exact congrArg some ((Html.tables_eq page).trans added)

/-- What a reader finds in what `render` writes. -/
theorem tables_render
    (desk : Desk)
    (views : Views)
    (accountId : Option Id)
    (isAdmin : Bool) :
    (desk.render views accountId isAdmin).map Html.tables =
      ((desk.tables (desk.queried views accountId isAdmin)).mapM
        DeskTable.render).map fun sections =>
          Html.tables
            ("\n".intercalate
              (Desk.opening ++ sections ++ [Desk.closing])) := by
  unfold Desk.render
  cases (desk.tables (desk.queried views accountId isAdmin)).mapM
      DeskTable.render <;>
    rfl

/--
The page is read as it was written: whatever the rows hold that `render` has
queried, a reader finds the tables of these rows, with every value as `str`
writes it, and no markup that a value would have brought along.
-/
theorem desk_page_reads_back
    (desk : Desk)
    (views : Views)
    (accountId : Option Id)
    (isAdmin : Bool) :
    (desk.render views accountId isAdmin).map Html.tables =
      (desk.tables (desk.queried views accountId isAdmin)).mapM
        DeskTable.shown := by
  rw [tables_render]
  exact page_reads_back (desk.tables (desk.queried views accountId isAdmin))

end Reading

/-! ## The desk of a tenant -/

namespace Desk

/-- The rows of an account.  The outbox is for admins. -/
def own (desk : Desk) (db : Db) (accountId : Id) : DeskRows where
  principals := db.principals.rows.filter (·.accountId = accountId)
  agents := db.agents.rows.filter (db.owns accountId ·.principalId)
  mandates := db.mandates.rows.filter (db.owns accountId ·.principalId)
  events :=
    desk.byCreation
      (db.ledgerEvents.zipIdx.filter (db.owns accountId ·.1.principalId))
  receipts := db.receipts.rows.filter (db.owns accountId ·.principalId)
  outbox := []
  reservations :=
    db.reservations.rows.filter (db.owns accountId ·.principalId)
  invocations :=
    db.invocations.rows.filter (db.owns accountId ·.principalId)

end Desk

section Own

variable
  {env : Env}
  {auth : AuthEnv}
  {accountId : Id}
  {s s' : Service}

/-- A move for a tenant only adds events to the log. -/
theorem TenantServed.events_grow
    (served : TenantServed env auth s accountId s')
    (sound : s.Sound env) :
    s.sys.db.ledgerEvents <+: s'.sys.db.ledgerEvents := by
  have stepGrows
      {action : Action}
      {sys : Sys}
      (taken : step env s.sys action = some sys) :
      s.sys.db.ledgerEvents <+: sys.db.ledgerEvents := by
    have shape :=
      stepped (reachable_kept sound.reachable)
        (Discipline.free_allows action) taken
    obtain ⟨_, _, effect⟩ := shape.effect
    exact effect.events_grow
  cases served with
  | authenticated _ _ => exact List.prefix_refl _
  | managed _ _ _ => exact List.prefix_refl _
  | wentOn _ _ taken => exact stepGrows taken
  | requested _ tenant monotone responded answered =>
      obtain ⟨_, taken⟩ := request_step monotone tenant responded answered
      exact stepGrows taken

/-- What other tenants do only adds events to the log. -/
theorem others_events
    (reached : Service.Reached env auth s)
    (others :
      Relation.ReflTransGen (OthersStep env auth accountId) s s') :
    s.sys.db.ledgerEvents <+: s'.sys.db.ledgerEvents := by
  induction others with
  | refl => exact List.prefix_refl _
  | @tail middle last before taken inductionHypothesis =>
      obtain ⟨otherId, _, taken⟩ := taken
      have before' :
          Relation.ReflTransGen (ServiceStep env auth) s middle := by
        refine before.lift id ?_
        rintro _ _ ⟨_, _, step⟩
        exact .tenant step
      have sound := reached_sound (reached.later before')
      exact inductionHypothesis.trans (taken.served.events_grow sound)

/-- Events that are added for others leave one's own where they are. -/
theorem zipIdx_filter_of_prefix
    {α : Type}
    {mine mine' : α → Bool}
    {first second : List α}
    (grown : first <+: second)
    (alike : ∀ item, mine' item = mine item)
    (same : second.filter mine' = first.filter mine) :
    (second.zipIdx.filter fun item => mine' item.1) =
      first.zipIdx.filter fun item => mine item.1 := by
  obtain ⟨added, rfl⟩ := grown
  obtain rfl : mine' = mine := funext alike
  have foreign : added.filter mine' = [] := by
    rw [List.filter_append] at same
    exact List.self_eq_append_right.mp same.symm
  have none :
      ((added.zipIdx (0 + first.length)).filter fun item => mine' item.1) =
        [] := by
    refine List.filter_eq_nil_iff.mpr ?_
    rintro ⟨item, place⟩ member
    exact List.filter_eq_nil_iff.mp foreign item
      (List.fst_mem_of_mem_zipIdx member)
  rw [List.zipIdx_append, List.filter_append, none, List.append_nil]

/-- A query that is narrowed to the principals of a tenant. -/
theorem narrowed_tenant
    {ρ : Type}
    (pids : List Id)
    (principalId : ρ → Id)
    (rows : List ρ) :
    Desk.narrowed (some accountId) false pids principalId rows =
      rows.filter fun row => principalId row ∈ pids := by
  cases pids with
  | nil => simp [Desk.narrowed]
  | cons pid pids => simp [Desk.narrowed]

/-- The queries of a tenant find the rows of its account. -/
theorem queried_own
    {ctx : AuthContext}
    {views : Views}
    {db : Db}
    (desk : Desk)
    (agree : views.Agree ctx.accountId (db.share ctx.accountId))
    (grown :
      ∀ statement, db.ledgerEvents <+: (views statement).ledgerEvents) :
    desk.queried views (some ctx.accountId) false =
      desk.own db ctx.accountId := by
  have owned (statement : Nat) (principalId : Id) :
      principalId ∈ principalIds (views 0) ctx ↔
        (views statement).owns ctx.accountId principalId = true :=
    mem_principalIds_agree agree 0 statement principalId
  have rows
      {ρ : Type}
      (statement : Nat)
      (principalId : ρ → Id)
      (rows : List ρ) :
      Desk.narrowed (some ctx.accountId) false (principalIds (views 0) ctx)
          principalId rows =
        rows.filter fun row =>
          (views statement).owns ctx.accountId (principalId row) := by
    rw [narrowed_tenant]
    refine List.filter_congr fun row _ => ?_
    rw [Bool.eq_iff_iff, decide_eq_true_iff, owned statement]
  have events :
      ((views 3).ledgerEvents.zipIdx.filter fun event =>
          (views 3).owns ctx.accountId event.1.principalId) =
        db.ledgerEvents.zipIdx.filter fun event =>
          db.owns ctx.accountId event.1.principalId :=
    zipIdx_filter_of_prefix (grown 3)
      (fun event => Db.owns_of_share (agree 3) event.principalId)
      (congrArg Rows.ledgerEvents (agree 3))
  simp only [Desk.queried, Desk.own, DeskRows.mk.injEq, Bool.false_eq_true,
    if_false]
  exact ⟨congrArg Rows.principals (agree 0),
    (rows 1 _ _).trans (congrArg Rows.agents (agree 1)),
    (rows 2 _ _).trans (congrArg Rows.mandates (agree 2)),
    congrArg desk.byCreation ((rows 3 _ _).trans events),
    (rows 4 _ _).trans (congrArg Rows.receipts (agree 4)),
    trivial,
    (rows 6 _ _).trans (congrArg Rows.reservations (agree 6)),
    (rows 7 _ _).trans (congrArg Rows.invocations (agree 7))⟩

/--
A tenant finds its own rows on the desk: whatever other tenants do before and
between the queries of the page, and whatever texts the rows hold, a reader of
the page finds the tables of the rows of the caller's account.
-/
theorem tenants_see_own_desk
    {ctx : AuthContext}
    {views : Views}
    (reached : Service.Reached env auth s)
    (tenant : ctx.isAdmin = false)
    (reads : ctx.hasScope "read" = true)
    (seen :
      ∀ statement, ∃ s',
        Relation.ReflTransGen (OthersStep env auth ctx.accountId) s s' ∧
          views statement = s'.sys.db)
    (desk : Desk) :
    (desk.dashboard views ctx).toOption.map Html.tables =
      (desk.tables (desk.own s.sys.db ctx.accountId)).mapM
        DeskTable.shown := by
  have agree : views.Agree ctx.accountId (s.sys.db.share ctx.accountId) := by
    intro statement
    obtain ⟨s', others, isView⟩ := seen statement
    rw [isView]
    exact others_share reached others
  have grown (statement : Nat) :
      s.sys.db.ledgerEvents <+: (views statement).ledgerEvents := by
    obtain ⟨s', others, isView⟩ := seen statement
    rw [isView]
    exact others_events reached others
  have shown :
      (desk.dashboard views ctx).toOption =
        desk.render views (some ctx.accountId) false := by
    have admitted : Route.requireScope ctx "read" = .ok () := if_pos reads
    unfold Desk.dashboard
    rw [admitted, tenant, if_neg Bool.false_ne_true]
    cases desk.render views (some ctx.accountId) false <;> rfl
  rw [shown, tables_render, page_reads_back, queried_own desk agree grown]

end Own

/-- The desk of the small deployment. -/
def Desk.plain : Desk where
  toSite := .plain
  str _ := "noon"
  principalCreatedAt _ := ⟨0, none⟩
  eventId _ := "event"
  eventCreatedAt place := place

/-- The second tenant opens the desk while the first one gets a receipt. -/
theorem tenants_see_own_desk_example :
    ∃ s s' : Service,
      Service.Reached .plain .plain s ∧
        s'.sys.db.receipts.rows.length = s.sys.db.receipts.rows.length + 1 ∧
        (Desk.plain.dashboard
              (fun statement => if statement = 0 then s.sys.db else s'.sys.db)
              (customerKey 2 2 "b").context).toOption.map Html.tables =
          (Desk.plain.tables (Desk.plain.own s.sys.db 2)).mapM
            DeskTable.shown := by
  obtain ⟨s, s', reached, issued, others⟩ := first_tenant_at_work
  refine ⟨s, s', reached, issued, ?_⟩
  refine tenants_see_own_desk reached (by decide) (by decide) ?_ .plain
  intro statement
  by_cases first : statement = 0
  · exact ⟨_, .refl, if_pos first⟩
  · exact ⟨_, others, if_neg first⟩

end Crossing
