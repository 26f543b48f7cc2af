import Mathlib.Data.List.Basic

namespace Html

/-!
# Text in HTML

What `html.escape` writes, and a reader of the markup around it: its tags, its
text with the references resolved, and the tables that the tags set.
-/

/-! ## Escaping -/

/-- `text.replace(old, new)`, for one character. -/
def replace (old : Char) (new text : List Char) : List Char :=
  text.flatMap fun char => if char = old then new else [char]

/-- `html.escape(text)`. -/
def escape (text : List Char) : List Char :=
  let text := replace '&' "&amp;".toList text
  let text := replace '<' "&lt;".toList text
  let text := replace '>' "&gt;".toList text
  let text := replace '"' "&quot;".toList text
  replace '\'' "&#x27;".toList text

/-- A character as it is escaped. -/
def escaped : Char → List Char
  | '&' => "&amp;".toList
  | '<' => "&lt;".toList
  | '>' => "&gt;".toList
  | '"' => "&quot;".toList
  | '\'' => "&#x27;".toList
  | char => [char]

/-- The characters with an escape. -/
def marks : List Char := ['&', '<', '>', '"', '\'']

/-- The characters with an escape, one by one. -/
theorem mem_marks {char : Char} :
    char ∈ marks ↔
      char = '&' ∨ char = '<' ∨ char = '>' ∨ char = '"' ∨ char = '\'' := by
  simp [marks]

/-- The other characters stay. -/
theorem escaped_plain
    {char : Char}
    (plain : char ∉ marks) :
    escaped char = [char] := by
  simp only [mem_marks, not_or] at plain
  obtain ⟨_, _, _, _, _⟩ := plain
  unfold escaped
  split <;> first | contradiction | rfl

/-- Another character is not replaced. -/
theorem replace_other
    {old char : Char}
    {new : List Char}
    (other : char ≠ old) :
    replace old new [char] = [char] := by
  simp [replace, other]

/-- The replacements of `escape` do not touch one another's results. -/
theorem escape_eq (text : List Char) :
    escape text = text.flatMap escaped := by
  have append (first second : List Char) :
      escape (first ++ second) = escape first ++ escape second := by
    simp only [escape, replace, List.flatMap_append]
  induction text with
  | nil => rfl
  | cons char text inductionHypothesis =>
      have alone : escape [char] = escaped char := by
        by_cases mark : char ∈ marks
        · obtain rfl | rfl | rfl | rfl | rfl := mem_marks.mp mark <;> decide
        · rw [escaped_plain mark]
          simp only [mem_marks, not_or] at mark
          obtain ⟨ampersand, less, greater, double, single⟩ := mark
          rw [escape, replace_other ampersand, replace_other less,
            replace_other greater, replace_other double,
            replace_other single]
      rw [← List.singleton_append, append, alone, inductionHypothesis]
      rfl

/-! ## Reading -/

/-- What a reader takes a text for. -/
inductive Token where
  | char (char : Char)
  | tag (source : List Char)
  deriving Repr, DecidableEq

/-- Where a reader is: in text, in a reference, in a tag or in a quote there. -/
inductive State where
  | data
  | reference (read : List Char)
  | tag (read : List Char)
  | quoted (mark : Char) (read : List Char)
  deriving Repr, DecidableEq

/-- What a reference stands for; one that is not known is left as it is. -/
def referenced (name : List Char) : List Char :=
  if name = "amp".toList then
    ['&']
  else if name = "lt".toList then
    ['<']
  else if name = "gt".toList then
    ['>']
  else if name = "quot".toList then
    ['"']
  else if name = "#x27".toList then
    ['\'']
  else
    '&' :: name ++ [';']

/-- A character of the text. -/
def nextInData (char : Char) : State × List Token :=
  if char = '<' then
    (.tag [], [])
  else if char = '&' then
    (.reference [], [])
  else
    (.data, [.char char])

/-- One character further. -/
def next : State → Char → State × List Token
  | .data, char => nextInData char
  | .reference read, char =>
      if char = ';' then
        (.data, (referenced read).map .char)
      else if char.isAlphanum ∨ char = '#' then
        (.reference (read ++ [char]), [])
      else
        -- No reference after all, so the ampersand stands for itself.
        let (state, tokens) := nextInData char
        (state, ('&' :: read).map .char ++ tokens)
  | .tag read, char =>
      if char = '>' then
        (.data, [.tag read])
      else if char = '"' ∨ char = '\'' then
        (.quoted char (read ++ [char]), [])
      else
        (.tag (read ++ [char]), [])
  | .quoted mark read, char =>
      if char = mark then
        (.tag (read ++ [char]), [])
      else
        (.quoted mark (read ++ [char]), [])

/-- Read a text from a state on. -/
def read (state : State) : List Char → State × List Token
  | [] => (state, [])
  | char :: rest =>
      let (state, tokens) := next state char
      let (last, later) := read state rest
      (last, tokens ++ later)

/-- Texts are read one after the other. -/
theorem read_append (state : State) (first second : List Char) :
    read state (first ++ second) =
      ((read (read state first).1 second).1,
        (read state first).2 ++ (read (read state first).1 second).2) := by
  induction first generalizing state with
  | nil => rfl
  | cons char rest inductionHypothesis =>
      simp only [List.cons_append, read, inductionHypothesis,
        List.append_assoc]

/-- An escaped character is read as the character. -/
theorem read_escaped (char : Char) :
    read .data (escaped char) = (.data, [.char char]) := by
  by_cases mark : char ∈ marks
  · obtain rfl | rfl | rfl | rfl | rfl := mem_marks.mp mark <;> decide
  · rw [escaped_plain mark]
    simp only [mem_marks, not_or] at mark
    simp [read, next, nextInData, mark]

/-- Escaped text is read as the text, and no mark of it opens a tag. -/
theorem read_escape (text : List Char) :
    read .data (escape text) = (.data, text.map .char) := by
  rw [escape_eq]
  induction text with
  | nil => rfl
  | cons char text inductionHypothesis =>
      rw [List.flatMap_cons, read_append, read_escaped, inductionHypothesis]
      rfl

/-! ## Tables -/

/-- A table with its heading, row by row. -/
structure Table where
  title : String
  rows : List (List String)
  deriving Repr, DecidableEq

/-- What has been read of a page; `cell` is open while it is not `none`. -/
structure Page where
  tables : List Table := []
  title : String := ""
  rows : List (List String) := []
  row : List String := []
  cell : Option (List Char) := none
  deriving Repr, DecidableEq

namespace Page

/-- The text of the open cell. -/
def text (page : Page) : String :=
  .ofList (page.cell.getD [])

/-- The name at the start of a tag. -/
def tagName (source : List Char) : String :=
  .ofList (source.takeWhile (· ≠ ' '))

/-- One token further. -/
def step (page : Page) : Token → Page
  | .char char => { page with cell := page.cell.map (· ++ [char]) }
  | .tag source =>
      match tagName source with
      | "h2" | "th" | "td" => { page with cell := some [] }
      | "/h2" =>
          { page with title := page.text, rows := [], cell := none }
      | "tr" => { page with row := [] }
      | "/th" | "/td" =>
          { page with row := page.row ++ [page.text], cell := none }
      | "/tr" => { page with rows := page.rows ++ [page.row] }
      | "/table" =>
          { page with tables := page.tables ++ [⟨page.title, page.rows⟩] }
      | _ => page

/-- A heading has been read. -/
def entitle (page : Page) (title : String) : Page :=
  { page with title := title, rows := [], cell := none }

/-- A cell has been read. -/
def addCell (page : Page) (content : String) : Page :=
  { page with row := page.row ++ [content], cell := none }

/-- A row has been read. -/
def addRow (page : Page) (cells : List String) : Page :=
  { page with row := cells, rows := page.rows ++ [cells] }

/-- A table has been read. -/
def endTable (page : Page) : Page :=
  { page with tables := page.tables ++ [⟨page.title, page.rows⟩] }

/-- Cells go to the row. -/
theorem foldl_addCell
    {page : Page}
    (closed : page.cell = none)
    (cells : List String) :
    cells.foldl addCell page = { page with row := page.row ++ cells } := by
  induction cells generalizing page with
  | nil =>
      rw [List.append_nil]
      rfl
  | cons content cells inductionHypothesis =>
      rw [List.foldl_cons, inductionHypothesis rfl]
      simp [addCell, closed]

/-- Rows go to the table. -/
theorem rows_foldl_addRow (page : Page) (rows : List (List String)) :
    (rows.foldl addRow page).rows = page.rows ++ rows := by
  induction rows generalizing page with
  | nil => exact (List.append_nil _).symm
  | cons cells rows inductionHypothesis =>
      rw [List.foldl_cons, inductionHypothesis]
      simp [addRow]

/-- Rows are nothing but rows. -/
theorem foldl_addRow (page : Page) (rows : List (List String)) :
    (rows.foldl addRow page).tables = page.tables ∧
      (rows.foldl addRow page).title = page.title ∧
        (rows.foldl addRow page).cell = page.cell := by
  induction rows generalizing page with
  | nil => exact ⟨rfl, rfl, rfl⟩
  | cons cells rows inductionHypothesis => exact inductionHypothesis _

end Page

/-- The tables of a page. -/
def tables (text : String) : List Table :=
  ((read .data text.toList).2.foldl Page.step {}).tables

/-! ## What a text adds to a page -/

/-- A whole text that brings a reader from one page to another. -/
def Shows (text : String) (page page' : Page) : Prop :=
  ∃ tokens,
    read .data text.toList = (.data, tokens) ∧
      tokens.foldl Page.step page = page'

/-- Tokens that leave a page without an open cell as it is. -/
def Token.quiet : Token → Bool
  | .char _ => true
  | .tag source =>
      Page.tagName source ∉
        ["h2", "/h2", "tr", "/tr", "th", "/th", "td", "/td", "/table"]

/-- A text that adds nothing to the tables. -/
def quiet (text : List Char) : Bool :=
  (read .data text).1 = .data && (read .data text).2.all Token.quiet

section Shows

variable
  {page page' page'' : Page}
  {text text' : String}

/-- One text after the other. -/
theorem Shows.append
    (first : Shows text page page')
    (second : Shows text' page' page'') :
    Shows (text ++ text') page page'' := by
  obtain ⟨tokens, isRead, rfl⟩ := first
  obtain ⟨later, isRead', rfl⟩ := second
  refine ⟨tokens ++ later, ?_, List.foldl_append⟩
  rw [String.toList_append, read_append, isRead, isRead']

/-- No text. -/
theorem Shows.empty (page : Page) : Shows "" page page :=
  ⟨[], rfl, rfl⟩

/-- Quiet tokens are passed over. -/
theorem foldl_quiet
    {tokens : List Token}
    (closed : page.cell = none)
    (isQuiet : ∀ token ∈ tokens, token.quiet = true) :
    tokens.foldl Page.step page = page := by
  induction tokens with
  | nil => rfl
  | cons token tokens inductionHypothesis =>
      obtain ⟨first, others⟩ := List.forall_mem_cons.mp isQuiet
      have passed : page.step token = page := by
        cases token with
        | char char =>
            cases page
            cases closed
            rfl
        | tag source =>
            simp only [Token.quiet, decide_eq_true_eq, List.mem_cons,
              List.not_mem_nil, or_false, not_or] at first
            unfold Page.step
            split <;> simp_all
      rw [List.foldl_cons, passed]
      exact inductionHypothesis others

/-- A quiet text adds nothing. -/
theorem Shows.quiet
    {chars : List Char}
    (closed : page.cell = none)
    (isQuiet : Html.quiet chars = true) :
    Shows (.ofList chars) page page := by
  obtain ⟨whole, tokens⟩ := (Bool.and_eq_true _ _).mp isQuiet
  refine ⟨(read .data chars).2, ?_,
    foldl_quiet closed (List.all_eq_true.mp tokens)⟩
  rw [String.toList_ofList]
  exact Prod.ext (of_decide_eq_true whole) rfl

/-- A text without tags is collected in the open cell. -/
theorem foldl_chars (chars read : List Char) :
    (chars.map Token.char).foldl Page.step { page with cell := some read } =
      { page with cell := some (read ++ chars) } := by
  induction chars generalizing read with
  | nil => simp
  | cons char chars inductionHypothesis =>
      rw [List.map_cons, List.foldl_cons,
        show
          Page.step { page with cell := some read } (.char char) =
            { page with cell := some (read ++ [char]) } from rfl,
        inductionHypothesis]
      simp

/-- A text by its tokens. -/
theorem Shows.tokens
    {chars : List Char}
    {tokens : List Token}
    (isRead : read .data chars = (.data, tokens)) :
    Shows (.ofList chars) page (tokens.foldl Page.step page) :=
  ⟨tokens, (congrArg _ String.toList_ofList).trans isRead, rfl⟩

/-- Escaped text in an open cell. -/
theorem Shows.escape (content : String) :
    Shows (.ofList (Html.escape content.toList)) { page with cell := some [] }
      { page with cell := some content.toList } := by
  refine ⟨content.toList.map .char, ?_, foldl_chars content.toList []⟩
  rw [String.toList_ofList, read_escape]

/-- Escaped text between the tag that opens a cell and one that closes it. -/
theorem Shows.element
    {opening closing source source' : List Char}
    {content : String}
    (opens : read .data opening = (.data, [.tag source]))
    (opened : page.step (.tag source) = { page with cell := some [] })
    (closes : read .data closing = (.data, [.tag source'])) :
    Shows
      (.ofList opening ++ .ofList (Html.escape content.toList) ++
        .ofList closing)
      page
      (Page.step { page with cell := some content.toList }
        (.tag source')) := by
  have start : Shows (.ofList opening) page { page with cell := some [] } :=
    opened ▸ Shows.tokens opens
  exact (start.append (.escape content)).append (.tokens closes)

/-- A heading. -/
theorem Shows.heading (page : Page) (content : String) :
    Shows ("<h2>" ++ .ofList (Html.escape content.toList) ++ "</h2>") page
      (page.entitle content) := by
  have element :
      Shows ("<h2>" ++ .ofList (Html.escape content.toList) ++ "</h2>") page
        (Page.step { page with cell := some content.toList }
          (.tag ['/', 'h', '2'])) :=
    .element rfl rfl rfl
  simpa [Page.step, Page.tagName, Page.text, Page.entitle] using element

/-- A cell. -/
theorem Shows.td (page : Page) (content : String) :
    Shows ("<td>" ++ .ofList (Html.escape content.toList) ++ "</td>") page
      (page.addCell content) := by
  have element :
      Shows ("<td>" ++ .ofList (Html.escape content.toList) ++ "</td>") page
        (Page.step { page with cell := some content.toList }
          (.tag ['/', 't', 'd'])) :=
    .element rfl rfl rfl
  simpa [Page.step, Page.tagName, Page.text, Page.addCell] using element

/-- A cell of a heading row. -/
theorem Shows.th (page : Page) (content : String) :
    Shows ("<th>" ++ .ofList (Html.escape content.toList) ++ "</th>") page
      (page.addCell content) := by
  have element :
      Shows ("<th>" ++ .ofList (Html.escape content.toList) ++ "</th>") page
        (Page.step { page with cell := some content.toList }
          (.tag ['/', 't', 'h'])) :=
    .element rfl rfl rfl
  simpa [Page.step, Page.tagName, Page.text, Page.addCell] using element

/-- Texts one after the other, between which no cell is open. -/
def ShowsAll (page : Page) : List String → Page → Prop
  | [], page' => page = page'
  | text :: texts, page' =>
      ∃ middle,
        middle.cell = none ∧
          Shows text page middle ∧ ShowsAll middle texts page'

/-- More texts. -/
theorem ShowsAll.append
    {texts texts' : List String}
    (first : ShowsAll page texts page')
    (second : ShowsAll page' texts' page'') :
    ShowsAll page (texts ++ texts') page'' := by
  induction texts generalizing page with
  | nil => exact first.symm ▸ second
  | cons text texts inductionHypothesis =>
      obtain ⟨middle, closed, shows, others⟩ := first
      exact ⟨middle, closed, shows, inductionHypothesis others⟩

/-- Texts that each add one thing to a page without an open cell. -/
theorem ShowsAll.map
    {α : Type}
    {write : α → String}
    {add : Page → α → Page}
    (adds :
      ∀ page item, page.cell = none →
        (add page item).cell = none ∧
          Shows (write item) page (add page item))
    (items : List α)
    (closed : page.cell = none) :
    ShowsAll page (items.map write) (items.foldl add page) := by
  induction items generalizing page with
  | nil => rfl
  | cons item items inductionHypothesis =>
      obtain ⟨closed', shows⟩ := adds page item closed
      exact ⟨add page item, closed', shows, inductionHypothesis closed'⟩

/-- Texts joined by one that adds nothing. -/
theorem ShowsAll.joined
    {texts : List String}
    {separator : String}
    (shows : ShowsAll page texts page')
    (silent :
      ∀ page : Page, page.cell = none → Shows separator page page) :
    Shows (separator.intercalate texts) page page' := by
  induction texts generalizing page with
  | nil => exact shows ▸ .empty page
  | cons text texts inductionHypothesis =>
      obtain ⟨middle, closed, first, others⟩ := shows
      cases texts with
      | nil =>
          rw [String.intercalate_singleton]
          exact others ▸ first
      | cons next rest =>
          rw [String.intercalate_cons_cons]
          exact (first.append (silent middle closed)).append
            (inductionHypothesis others)

/-- A row of cells. -/
theorem Shows.row
    {write : String → String}
    (cell : ∀ page content, Shows (write content) page (page.addCell content))
    (cells : List String)
    (closed : page.cell = none) :
    Shows ("<tr>" ++ "".intercalate (cells.map write) ++ "</tr>") page
      (page.addRow cells) := by
  let fresh : Page := { page with row := [] }
  have opens : read .data ['<', 't', 'r', '>'] = (.data, [.tag ['t', 'r']]) :=
    rfl
  have closes :
      read .data ['<', '/', 't', 'r', '>'] =
        (.data, [.tag ['/', 't', 'r']]) :=
    rfl
  have opened : Shows "<tr>" page fresh := .tokens opens
  have inside :
      ShowsAll fresh (cells.map write) (cells.foldl Page.addCell fresh) :=
    .map (fun page content _ => ⟨rfl, cell page content⟩) cells closed
  rw [@Page.foldl_addCell fresh closed] at inside
  have joined := inside.joined fun page _ => Shows.empty page
  exact (opened.append joined).append (.tokens closes)

/-- The tables that a page was brought to. -/
theorem tables_eq
    (shows : Shows text {} page) :
    tables text = page.tables := by
  obtain ⟨tokens, isRead, rfl⟩ := shows
  rw [tables, isRead]

end Shows

end Html
