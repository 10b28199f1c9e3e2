import MorningstarModbus.Lib.Words

/-!
# MorningstarModbus.History.TableParser

The tables of a LiveView page (`_TableParser` of `history/retained/liveview.py`): what the
parser keeps between the tags that `HTMLParser` hands it, and the matrix of each table.
Start tags are read at depth one only, but end tags at any depth.

* `Flow.run` — a nested table acts on the row around it by its end tags and its data;
* `tables_eq_matrices_iff` — the parser returns the matrices of a page exactly when every row
  survives the tables nested in it.
-/

namespace MorningstarModbus

/-! ## the parser -/

/-- What `HTMLParser` calls back with. -/
inductive Token where
  | start (tag : String)
  | data (s : String)
  | close (tag : String)
  deriving DecidableEq

/-- `_clean_text`; a no-break space is white space. -/
def cleanText (value : String) : String := String.ofList (Text.normalize value.toList)

structure TableParser where
  tables : List (List (List String)) := []
  tableDepth : Nat := 0
  table : Option (List (List String)) := none
  row : Option (List String) := none
  cell : Option (List String) := none
  deriving DecidableEq

namespace TableParser

/-- `handle_starttag` -/
def handleStarttag (tag : String) (p : TableParser) : TableParser :=
  if tag = "table" then
    { p with
      table := if p.tableDepth = 0 then some [] else p.table
      tableDepth := p.tableDepth + 1 }
  else if tag = "tr" ∧ p.tableDepth = 1 then { p with row := some [] }
  else if (tag = "td" ∨ tag = "th") ∧ p.tableDepth = 1 ∧ p.row.isSome then
    { p with cell := some [] }
  else p

/-- `handle_data` -/
def handleData (s : String) (p : TableParser) : TableParser :=
  { p with cell := p.cell.map fun cell => cell ++ [s] }

/-- The end of a cell. -/
def closeCell (p : TableParser) : TableParser :=
  match p.cell, p.row with
  | some cell, some row =>
      { p with row := some (row ++ [cleanText (String.join cell)]), cell := none }
  | _, _ => p

/-- The end of a row. -/
def closeRow (p : TableParser) : TableParser :=
  match p.row, p.table with
  | some row, some table =>
      { p with table := some (if row.any (· ≠ "") then table ++ [row] else table), row := none }
  | _, _ => p

/-- The end of a table. -/
def closeTable (p : TableParser) : TableParser :=
  if p.tableDepth = 0 then p
  else if p.tableDepth - 1 = 0 ∧ p.table.isSome then
    { p with
      tableDepth := p.tableDepth - 1
      tables := p.tables ++ (p.table.toList.filter (· ≠ []))
      table := none }
  else { p with tableDepth := p.tableDepth - 1 }

/-- `handle_endtag` -/
def handleEndtag (tag : String) (p : TableParser) : TableParser :=
  if tag = "td" ∨ tag = "th" then p.closeCell
  else if tag = "tr" then p.closeRow
  else if tag = "table" then p.closeTable
  else p

def handle (p : TableParser) : Token → TableParser
  | .start tag => p.handleStarttag tag
  | .data s => p.handleData s
  | .close tag => p.handleEndtag tag

/-- `feed`, from the tokens of the text. -/
def feed (tokens : List Token) (p : TableParser) : TableParser := tokens.foldl handle p

end TableParser

/-! ## well-nested pages -/

/-- A tag of which tables are not made. -/
abbrev OtherTag := { tag : String // tag ∉ ["table", "tr", "td", "th"] }

/-- A token of which tables are not made. -/
inductive Leaf where
  | start (tag : OtherTag)
  | data (s : String)
  | close (tag : OtherTag)

def Leaf.token : Leaf → Token
  | .start tag => .start tag.1
  | .data s => .data s
  | .close tag => .close tag.1

mutual

/-- What a page or a cell holds. -/
inductive Flow where
  | nil
  | leaf (l : Leaf) (rest : Flow)
  | table (body : Body) (rest : Flow)

/-- What a table holds: rows, and between them captions and groups of rows. -/
inductive Body where
  | nil
  | leaf (l : Leaf) (rest : Body)
  | table (body : Body) (rest : Body)
  | row (cells : Cells) (rest : Body)

/-- What a row holds. -/
inductive Cells where
  | nil
  | leaf (l : Leaf) (rest : Cells)
  | cell (header : Bool) (content : Flow) (rest : Cells)

end

/-- `th` or `td` -/
def cellTag (header : Bool) : String := if header then "th" else "td"

mutual

def Flow.tokens : Flow → List Token
  | .nil => []
  | .leaf l rest => l.token :: rest.tokens
  | .table body rest => .start "table" :: (body.tokens ++ .close "table" :: rest.tokens)

def Body.tokens : Body → List Token
  | .nil => []
  | .leaf l rest => l.token :: rest.tokens
  | .table body rest => .start "table" :: (body.tokens ++ .close "table" :: rest.tokens)
  | .row cells rest => .start "tr" :: (cells.tokens ++ .close "tr" :: rest.tokens)

def Cells.tokens : Cells → List Token
  | .nil => []
  | .leaf l rest => l.token :: rest.tokens
  | .cell header content rest =>
      .start (cellTag header) :: (content.tokens ++ .close (cellTag header) :: rest.tokens)

end

/-! ## matrices -/

def Token.data? : Token → Option String
  | .data s => some s
  | _ => none

/-- The text of the character data among some tokens. -/
def textOf (tokens : List Token) : String := cleanText (String.join (tokens.filterMap Token.data?))

/-- What the cells of a row hold. -/
def Cells.contents : Cells → List Flow
  | .nil => []
  | .leaf _ rest => rest.contents
  | .cell _ content rest => content :: rest.contents

/-- The texts of the cells of a row. -/
def Cells.texts (cells : Cells) : List String :=
  cells.contents.map fun content => textOf content.tokens

/-- The rows of a table, without those of nested tables. -/
def Body.rows : Body → List Cells
  | .nil => []
  | .leaf _ rest => rest.rows
  | .table _ rest => rest.rows
  | .row cells rest => cells :: rest.rows

/-- The rows of a table that are not empty. -/
def Body.matrix (body : Body) : List (List String) :=
  (body.rows.map Cells.texts).filter fun row => row.any (· ≠ "")

/-- The top-level tables of a page. -/
def Flow.topTables : Flow → List Body
  | .nil => []
  | .leaf _ rest => rest.topTables
  | .table body rest => body :: rest.topTables

/-- The matrices of the top-level tables of a page; a table without one is left out. -/
def Flow.matrices (page : Flow) : List (List (List String)) :=
  (page.topTables.map Body.matrix).filter (· ≠ [])

/-! ## what acts from inside a nested table -/

inductive CellEvent where
  | data (s : String)
  | closeCell
  | closeRow
  deriving DecidableEq

def CellEvent.apply (p : TableParser) : CellEvent → TableParser
  | .data s => p.handleData s
  | .closeCell => p.closeCell
  | .closeRow => p.closeRow

/-- The event of a leaf, if it is one. -/
def Leaf.events : Leaf → List CellEvent
  | .data s => [.data s]
  | _ => []

def applyAll (events : List CellEvent) (p : TableParser) : TableParser :=
  events.foldl CellEvent.apply p

mutual

/-- The data and the end tags of a flow. -/
def Flow.events : Flow → List CellEvent
  | .nil => []
  | .leaf l rest => l.events ++ rest.events
  | .table body rest => body.events ++ rest.events

def Body.events : Body → List CellEvent
  | .nil => []
  | .leaf l rest => l.events ++ rest.events
  | .table body rest => body.events ++ rest.events
  | .row cells rest => cells.events ++ .closeRow :: rest.events

def Cells.events : Cells → List CellEvent
  | .nil => []
  | .leaf l rest => l.events ++ rest.events
  | .cell _ content rest => content.events ++ .closeCell :: rest.events

end

section Nested

variable {p : TableParser}

@[simp] theorem applyAll_nil (p : TableParser) : applyAll [] p = p := rfl

@[simp] theorem applyAll_cons (e : CellEvent) (es : List CellEvent) (p : TableParser) :
    applyAll (e :: es) p = applyAll es (e.apply p) := rfl

/-- Events are applied one after another. -/
theorem applyAll_append (es es' : List CellEvent) (p : TableParser) :
    applyAll (es ++ es') p = applyAll es' (applyAll es p) := List.foldl_append

namespace TableParser

@[simp] theorem feed_nil (p : TableParser) : p.feed [] = p := rfl

@[simp] theorem feed_cons (t : Token) (ts : List Token) (p : TableParser) :
    p.feed (t :: ts) = (p.handle t).feed ts := rfl

/-- Tokens are fed one after another. -/
theorem feed_append (ts ts' : List Token) (p : TableParser) :
    p.feed (ts ++ ts') = (p.feed ts).feed ts' := List.foldl_append

end TableParser

/-- A leaf acts by its data, at any depth. -/
theorem handle_leaf (l : Leaf) (p : TableParser) : p.handle l.token = applyAll l.events p := by
  cases l with
  | data s => rfl
  | start tag =>
      obtain ⟨tag, htag⟩ := tag
      simp only [List.mem_cons, List.not_mem_nil, or_false, not_or] at htag
      simp [Leaf.token, Leaf.events, TableParser.handle, TableParser.handleStarttag, htag]
  | close tag =>
      obtain ⟨tag, htag⟩ := tag
      simp only [List.mem_cons, List.not_mem_nil, or_false, not_or] at htag
      simp [Leaf.token, Leaf.events, TableParser.handle, TableParser.handleEndtag, htag]

/-- What acts from inside does not see the depth. -/
theorem apply_depth (e : CellEvent) (d : Nat) (p : TableParser) :
    e.apply { p with tableDepth := d } = { e.apply p with tableDepth := d } := by
  obtain ⟨tables, depth, table, row, cell⟩ := p
  cases e with
  | data s => rfl
  | closeCell => cases cell <;> cases row <;> rfl
  | closeRow => cases row <;> cases table <;> rfl

/-- What happens in cells does not look at the depth. -/
theorem applyAll_depth (es : List CellEvent) (d : Nat) (p : TableParser) :
    applyAll es { p with tableDepth := d } = { applyAll es p with tableDepth := d } := by
  induction es generalizing p with
  | nil => rfl
  | cons e es ih => rw [applyAll_cons, apply_depth, ih, applyAll_cons]

/-- Nor change it. -/
theorem tableDepth_applyAll (es : List CellEvent) (p : TableParser) :
    (applyAll es p).tableDepth = p.tableDepth := by
  have hkept : applyAll es p = { applyAll es p with tableDepth := p.tableDepth } :=
    applyAll_depth es p.tableDepth p
  rw [hkept]

/-- A closing row tag counts at every depth. -/
@[simp] theorem handle_closeRow (p : TableParser) :
    p.handle (.close "tr") = CellEvent.closeRow.apply p := by
  simp [TableParser.handle, TableParser.handleEndtag, CellEvent.apply]

/-- And so does a closing cell tag. -/
@[simp] theorem handle_closeCell (header : Bool) (p : TableParser) :
    p.handle (.close (cellTag header)) = CellEvent.closeCell.apply p := by
  cases header <;> simp [TableParser.handle, TableParser.handleEndtag, cellTag, CellEvent.apply]

/-- A table in a table is one level deeper. -/
theorem handle_startTable (h : p.tableDepth ≠ 0) :
    p.handle (.start "table") = { p with tableDepth := p.tableDepth + 1 } := by
  simp [TableParser.handle, TableParser.handleStarttag, h]

/-- And back. -/
theorem handle_closeTable (h : p.tableDepth ≠ 0) :
    ({ p with tableDepth := p.tableDepth + 1 } : TableParser).handle (.close "table") = p := by
  simp [TableParser.handle, TableParser.handleEndtag, TableParser.closeTable, h]

/-- Below the first level no row begins. -/
theorem handle_startRow (h : p.tableDepth ≠ 1) : p.handle (.start "tr") = p := by
  simp [TableParser.handle, TableParser.handleStarttag, h]

/-- Nor a cell. -/
theorem handle_startCell (header : Bool) (h : p.tableDepth ≠ 1) :
    p.handle (.start (cellTag header)) = p := by
  cases header <;> simp [TableParser.handle, TableParser.handleStarttag, cellTag, h]

/-- A nested table, between its tags. -/
theorem feed_table {body : Body} (h : 1 ≤ p.tableDepth)
    (hbody : ∀ q : TableParser, 2 ≤ q.tableDepth → q.feed body.tokens = applyAll body.events q) :
    ((p.handle (.start "table")).feed body.tokens).handle (.close "table") =
      applyAll body.events p := by
  have hdepth : (applyAll body.events p).tableDepth ≠ 0 := by
    rw [tableDepth_applyAll]
    omega
  rw [handle_startTable (by omega), hbody _ (Nat.succ_le_succ h), applyAll_depth,
    ← tableDepth_applyAll body.events p]
  exact handle_closeTable hdepth

mutual

/-- A flow in a table acts by its events. -/
theorem Flow.run (f : Flow) (p : TableParser) (h : 1 ≤ p.tableDepth) :
    p.feed f.tokens = applyAll f.events p := by
  match f with
  | .nil => rfl
  | .leaf l rest =>
      rw [Flow.tokens, Flow.events, applyAll_append, TableParser.feed_cons, handle_leaf]
      exact rest.run _ (by rwa [tableDepth_applyAll])
  | .table body rest =>
      rw [Flow.tokens, Flow.events, applyAll_append, TableParser.feed_cons, TableParser.feed_append,
        TableParser.feed_cons, feed_table h fun q hq => body.run q hq]
      exact rest.run _ (by rwa [tableDepth_applyAll])

/-- A nested table does to the parser what its events do. -/
theorem Body.run (body : Body) (p : TableParser) (h : 2 ≤ p.tableDepth) :
    p.feed body.tokens = applyAll body.events p := by
  match body with
  | .nil => rfl
  | .leaf l rest =>
      rw [Body.tokens, Body.events, applyAll_append, TableParser.feed_cons, handle_leaf]
      exact rest.run _ (by rwa [tableDepth_applyAll])
  | .table body rest =>
      rw [Body.tokens, Body.events, applyAll_append, TableParser.feed_cons, TableParser.feed_append,
        TableParser.feed_cons, feed_table (by omega) fun q hq => body.run q hq]
      exact rest.run _ (by rwa [tableDepth_applyAll])
  | .row cells rest =>
      rw [Body.tokens, Body.events, applyAll_append, TableParser.feed_cons, TableParser.feed_append,
        TableParser.feed_cons, handle_startRow (by omega), cells.run p h, handle_closeRow,
        applyAll_cons]
      exact rest.run _ (by rwa [← applyAll_nil (CellEvent.apply _ _), ← applyAll_cons,
        tableDepth_applyAll, tableDepth_applyAll])

/-- And so do the cells of a nested row. -/
theorem Cells.run (cells : Cells) (p : TableParser) (h : 2 ≤ p.tableDepth) :
    p.feed cells.tokens = applyAll cells.events p := by
  match cells with
  | .nil => rfl
  | .leaf l rest =>
      rw [Cells.tokens, Cells.events, applyAll_append, TableParser.feed_cons, handle_leaf]
      exact rest.run _ (by rwa [tableDepth_applyAll])
  | .cell header content rest =>
      rw [Cells.tokens, Cells.events, applyAll_append, TableParser.feed_cons,
        TableParser.feed_append, TableParser.feed_cons, handle_startCell header (by omega),
        content.run p (by omega), handle_closeCell, applyAll_cons]
      exact rest.run _ (by rwa [← applyAll_nil (CellEvent.apply _ _), ← applyAll_cons,
        tableDepth_applyAll, tableDepth_applyAll])

end

end Nested

/-! ## a row and what is nested in it -/

def CellEvent.data? : CellEvent → Option String
  | .data s => some s
  | _ => none

/-- The row that is closed from inside a cell, if one is. -/
def closedRow : List CellEvent → List String → List String → Option (List String)
  | [], _, _ => none
  | .data s :: es, cell, row => closedRow es (cell ++ [s]) row
  | .closeRow :: _, _, row => some row
  | .closeCell :: _, cell, row => some (row ++ [cleanText (String.join cell)])

/-- What is kept of a row, from what acts in its cells. -/
def parsedRow : List (List CellEvent) → List String → List String
  | [], row => row
  | es :: rest, row =>
      (closedRow es [] row).getD
        (parsedRow rest (row ++ [cleanText (String.join (es.filterMap CellEvent.data?))]))

/-- Every end of a cell is followed by that of its row. -/
def Enclosed : List CellEvent → Prop
  | [] => True
  | .closeCell :: es => .closeRow ∈ es ∧ Enclosed es
  | _ :: es => Enclosed es

/-- One after the other they stay enclosed. -/
theorem Enclosed.append {es es' : List CellEvent} (h : Enclosed es) (h' : Enclosed es') :
    Enclosed (es ++ es') := by
  induction es with
  | nil => exact h'
  | cons e es ih =>
      cases e with
      | data s => exact ih h
      | closeRow => exact ih h
      | closeCell => exact ⟨List.mem_append_left es' h.1, ih h.2⟩

/-- Whatever is in a row is followed by its end. -/
theorem enclosed_row (es : List CellEvent) {rest : List CellEvent} (h : Enclosed rest) :
    Enclosed (es ++ .closeRow :: rest) := by
  induction es with
  | nil => exact h
  | cons e es ih =>
      cases e with
      | data s => exact ih
      | closeRow => exact ih
      | closeCell => exact ⟨by simp, ih⟩

/-- A leaf ends no cell. -/
theorem Leaf.enclosed (l : Leaf) : Enclosed l.events := by
  cases l <;> trivial

mutual

/-- Content ends cells only in the rows of its tables. -/
theorem Flow.enclosed (f : Flow) : Enclosed f.events := by
  match f with
  | .nil => trivial
  | .leaf l rest => exact l.enclosed.append rest.enclosed
  | .table body rest => exact body.enclosed.append rest.enclosed

/-- And there the row ends after its cells. -/
theorem Body.enclosed (body : Body) : Enclosed body.events := by
  match body with
  | .nil => trivial
  | .leaf l rest => exact l.enclosed.append rest.enclosed
  | .table body rest => exact body.enclosed.append rest.enclosed
  | .row cells rest => exact enclosed_row cells.events rest.enclosed

end

/-- The table with a row that has ended. -/
def keep (table : List (List String)) (row : List String) : List (List String) :=
  if row.any (· ≠ "") then table ++ [row] else table

section Row

variable {p : TableParser} {table : List (List String)} {row row' cell : List String}
  {es : List CellEvent}

/-- A leaf changes the cell only. -/
theorem applyAll_leaf (l : Leaf) (p : TableParser) :
    ∃ cell, applyAll l.events p = { p with cell } := by
  cases l with
  | data s => exact ⟨_, rfl⟩
  | start tag => exact ⟨p.cell, rfl⟩
  | close tag => exact ⟨p.cell, rfl⟩

/-- Outside of a row only the cell changes. -/
theorem applyAll_noRow (es : List CellEvent) (p : TableParser) (h : p.row = none) :
    ∃ cell, applyAll es p = { p with cell } := by
  induction es generalizing p with
  | nil => exact ⟨p.cell, rfl⟩
  | cons e es ih =>
      have hstep : ∃ cell, e.apply p = { p with cell } := by
        cases e with
        | data s => exact ⟨_, rfl⟩
        | closeCell =>
            have hsame : p.closeCell = p := by simp [TableParser.closeCell, h]
            exact ⟨p.cell, hsame⟩
        | closeRow =>
            have hsame : p.closeRow = p := by simp [TableParser.closeRow, h]
            exact ⟨p.cell, hsame⟩
      obtain ⟨cell, hcell⟩ := hstep
      obtain ⟨cell', hrest⟩ := ih { p with cell } h
      exact ⟨cell', by rw [applyAll_cons, hcell, hrest]⟩

/-- The end of a row. -/
theorem closeRow_eq (htable : p.table = some table) (hrow : p.row = some row) :
    p.closeRow = { p with table := some (keep table row), row := none } := by
  simp [TableParser.closeRow, htable, hrow, keep]

/-- Between cells a row ends with the next end of a row. -/
theorem applyAll_noCell (htable : p.table = some table) (hrow : p.row = some row)
    (hcell : p.cell = none) (hmem : .closeRow ∈ es) :
    ∃ cell, applyAll es p = { p with table := some (keep table row), row := none, cell } := by
  induction es with
  | nil => cases hmem
  | cons e es ih =>
      cases e with
      | data s =>
          have hsame : p.handleData s = p := by
            obtain ⟨_, _, _, _, _⟩ := p
            simp only at hcell
            simp [TableParser.handleData, hcell]
          obtain ⟨cell, hrest⟩ := ih (by simpa using hmem)
          exact ⟨cell, by rw [applyAll_cons, CellEvent.apply, hsame, hrest]⟩
      | closeCell =>
          have hsame : p.closeCell = p := by simp [TableParser.closeCell, hcell]
          obtain ⟨cell, hrest⟩ := ih (by simpa using hmem)
          exact ⟨cell, by rw [applyAll_cons, CellEvent.apply, hsame, hrest]⟩
      | closeRow =>
          obtain ⟨cell, hrest⟩ := applyAll_noRow es
            { p with table := some (keep table row), row := none } rfl
          exact ⟨cell, by rw [applyAll_cons, CellEvent.apply, closeRow_eq htable hrow, hrest]⟩

/-- A cell in which no row ends takes up the data. -/
theorem applyAll_open (hcell : p.cell = some cell) (h : closedRow es cell row = none) :
    applyAll es p = { p with cell := some (cell ++ es.filterMap CellEvent.data?) } := by
  induction es generalizing p cell with
  | nil =>
      obtain ⟨_, _, _, _, _⟩ := p
      simp only at hcell
      simp [hcell]
  | cons e es ih =>
      cases e with
      | data s =>
          have hstep : p.handleData s = { p with cell := some (cell ++ [s]) } := by
            simp [TableParser.handleData, hcell]
          rw [applyAll_cons, CellEvent.apply, hstep, ih rfl h]
          simp [CellEvent.data?]
      | closeCell => cases h
      | closeRow => cases h

/-- A row that is closed from inside one of its cells. -/
theorem applyAll_closed (htable : p.table = some table) (hrow : p.row = some row)
    (hcell : p.cell = some cell) (henclosed : Enclosed es)
    (h : closedRow es cell row = some row') :
    ∃ cell, applyAll es p = { p with table := some (keep table row'), row := none, cell } := by
  induction es generalizing p cell with
  | nil => cases h
  | cons e es ih =>
      cases e with
      | data s =>
          have hstep : p.handleData s = { p with cell := some (cell ++ [s]) } := by
            simp [TableParser.handleData, hcell]
          obtain ⟨cell', hrest⟩ := @ih { p with cell := some (cell ++ [s]) } _ htable hrow rfl
            henclosed h
          exact ⟨cell', by rw [applyAll_cons, CellEvent.apply, hstep, hrest]⟩
      | closeCell =>
          cases h
          have hstep : p.closeCell =
              { p with row := some (row ++ [cleanText (String.join cell)]), cell := none } := by
            simp [TableParser.closeCell, hcell, hrow]
          obtain ⟨cell', hrest⟩ := @applyAll_noCell
            { p with row := some (row ++ [cleanText (String.join cell)]), cell := none } table _ es
            htable rfl rfl henclosed.1
          exact ⟨cell', by rw [applyAll_cons, CellEvent.apply, hstep, hrest]⟩
      | closeRow =>
          cases h
          obtain ⟨cell', hrest⟩ := applyAll_noRow es
            { p with table := some (keep table row), row := none } rfl
          exact ⟨cell', by rw [applyAll_cons, CellEvent.apply, closeRow_eq htable hrow, hrest]⟩

/-- After the end of its row a cell is not read. -/
theorem Cells.feed_noRow (cells : Cells) (p : TableParser) (hdepth : p.tableDepth = 1)
    (h : p.row = none) : ∃ cell, p.feed cells.tokens = { p with cell } := by
  match cells with
  | .nil => exact ⟨p.cell, rfl⟩
  | .leaf l rest =>
      obtain ⟨cell, hcell⟩ := applyAll_leaf l p
      obtain ⟨cell', hrest⟩ := rest.feed_noRow { p with cell } hdepth h
      exact ⟨cell', by rw [Cells.tokens, TableParser.feed_cons, handle_leaf, hcell, hrest]⟩
  | .cell header content rest =>
      have hstart : p.handle (.start (cellTag header)) = p := by
        cases header <;> simp [TableParser.handle, TableParser.handleStarttag, cellTag, h]
      obtain ⟨cell, hcell⟩ := applyAll_noRow (content.events ++ [.closeCell]) p h
      obtain ⟨cell', hrest⟩ := rest.feed_noRow { p with cell } hdepth h
      rw [applyAll_append, applyAll_cons, applyAll_nil] at hcell
      exact ⟨cell', by rw [Cells.tokens, TableParser.feed_cons, TableParser.feed_append,
        TableParser.feed_cons, hstart, content.run p hdepth.ge, handle_closeCell, hcell, hrest]⟩

/-- A row of a top-level table, up to its end. -/
theorem Cells.feed_row (cells : Cells) {table : List (List String)} {row : List String}
    (p : TableParser) (hdepth : p.tableDepth = 1) (htable : p.table = some table)
    (hrow : p.row = some row) :
    ∃ cell, (p.feed cells.tokens).handle (.close "tr") =
      { p with
        table := some (keep table (parsedRow (cells.contents.map Flow.events) row))
        row := none
        cell } := by
  match cells with
  | .nil =>
      refine ⟨p.cell, ?_⟩
      rw [Cells.tokens, TableParser.feed_nil, handle_closeRow, CellEvent.apply,
        closeRow_eq htable hrow]
      rfl
  | .leaf l rest =>
      obtain ⟨cell, hcell⟩ := applyAll_leaf l p
      obtain ⟨cell', hrest⟩ := rest.feed_row { p with cell } hdepth htable hrow
      exact ⟨cell', by rw [Cells.tokens, TableParser.feed_cons, handle_leaf, hcell, hrest]; rfl⟩
  | .cell header content rest =>
      have hstart : p.handle (.start (cellTag header)) = { p with cell := some [] } := by
        cases header <;>
          simp [TableParser.handle, TableParser.handleStarttag, cellTag, hdepth, hrow]
      rw [Cells.tokens, TableParser.feed_cons, TableParser.feed_append, TableParser.feed_cons,
        hstart, content.run { p with cell := some [] } hdepth.ge, handle_closeCell, Cells.contents,
        List.map_cons, parsedRow]
      cases hclosed : closedRow content.events [] row with
      | none =>
          have hopen := @applyAll_open { p with cell := some [] } row [] content.events rfl hclosed
          have hend : (applyAll content.events { p with cell := some [] }).closeCell =
              { p with
                row := some (row ++ [cleanText (String.join
                  (content.events.filterMap CellEvent.data?))])
                cell := none } := by
            rw [hopen]
            simp [TableParser.closeCell, hrow]
          obtain ⟨cell', hrest⟩ := rest.feed_row
            { p with
              row := some (row ++ [cleanText (String.join
                (content.events.filterMap CellEvent.data?))])
              cell := none } hdepth htable rfl
          exact ⟨cell', by rw [CellEvent.apply, hend, hrest]; rfl⟩
      | some row' =>
          obtain ⟨cell, hcell⟩ := @applyAll_closed { p with cell := some [] } table row row' []
            content.events htable hrow rfl content.enclosed hclosed
          -- the rest of the row is passed over, and its end tag too
          obtain ⟨cell', hrest⟩ := rest.feed_noRow
            { p with table := some (keep table row'), row := none, cell } hdepth rfl
          refine ⟨cell', ?_⟩
          have hend : ({ p with table := some (keep table row'), row := none, cell } :
              TableParser).closeCell =
                { p with table := some (keep table row'), row := none, cell } := by
            simp [TableParser.closeCell]
          rw [hcell, CellEvent.apply, hend, hrest, handle_closeRow]
          simp [CellEvent.apply, TableParser.closeRow]

/-- What is kept of a row. -/
def Cells.parsed (cells : Cells) : List String := parsedRow (cells.contents.map Flow.events) []

/-- What is kept of the rows of a table. -/
def Body.parsed (body : Body) : List (List String) :=
  (body.rows.map Cells.parsed).filter fun row => row.any (· ≠ "")

/-- Rows of blanks are not kept. -/
theorem keep_append (row : List String) (rows : List (List String)) :
    table ++ (row :: rows).filter (fun row => row.any (· ≠ "")) =
      keep table row ++ rows.filter fun row => row.any (· ≠ "") := by
  rw [List.filter_cons, keep]
  split
  · rw [List.append_assoc, List.singleton_append]
  · rfl

/-- A top-level table, between its tags. -/
theorem Body.feed (body : Body) {table : List (List String)} (p : TableParser)
    (hdepth : p.tableDepth = 1) (htable : p.table = some table) (hrow : p.row = none) :
    ∃ cell, p.feed body.tokens = { p with table := some (table ++ body.parsed), cell } := by
  match body with
  | .nil =>
      refine ⟨p.cell, ?_⟩
      obtain ⟨_, _, _, _, _⟩ := p
      simp only at htable
      simp [Body.tokens, Body.parsed, Body.rows, htable]
  | .leaf l rest =>
      obtain ⟨cell, hcell⟩ := applyAll_leaf l p
      obtain ⟨cell', hrest⟩ := rest.feed { p with cell } hdepth htable hrow
      exact ⟨cell', by rw [Body.tokens, TableParser.feed_cons, handle_leaf, hcell, hrest]; rfl⟩
  | .table body rest =>
      obtain ⟨cell, hcell⟩ := applyAll_noRow body.events p hrow
      obtain ⟨cell', hrest⟩ := rest.feed { p with cell } hdepth htable hrow
      exact ⟨cell', by rw [Body.tokens, TableParser.feed_cons, TableParser.feed_append,
        TableParser.feed_cons, feed_table hdepth.ge fun q hq => body.run q hq, hcell, hrest]; rfl⟩
  | .row cells rest =>
      have hstart : p.handle (.start "tr") = { p with row := some [] } := by
        simp [TableParser.handle, TableParser.handleStarttag, hdepth]
      obtain ⟨cell, hcell⟩ := cells.feed_row { p with row := some [] } hdepth htable rfl
      obtain ⟨cell', hrest⟩ := rest.feed
        { p with
          table := some (keep table (parsedRow (cells.contents.map Flow.events) []))
          row := none
          cell } hdepth rfl rfl
      refine ⟨cell', ?_⟩
      rw [Body.tokens, TableParser.feed_cons, TableParser.feed_append, TableParser.feed_cons,
        hstart, hcell, hrest, Body.parsed, Body.parsed, Body.rows, List.map_cons, keep_append,
        Cells.parsed, hrow]

/-- What is kept of the tables of a page. -/
def Flow.parsed (page : Flow) : List (List (List String)) :=
  (page.topTables.map Body.parsed).filter (· ≠ [])

/-- The tokens of a page. -/
theorem Flow.feed (page : Flow) (p : TableParser) (hdepth : p.tableDepth = 0)
    (hrow : p.row = none) (htable : p.table = none) :
    ∃ cell, p.feed page.tokens = { p with tables := p.tables ++ page.parsed, cell } := by
  match page with
  | .nil =>
      refine ⟨p.cell, ?_⟩
      simp [Flow.tokens, Flow.parsed, Flow.topTables]
  | .leaf l rest =>
      obtain ⟨cell, hcell⟩ := applyAll_leaf l p
      obtain ⟨cell', hrest⟩ := rest.feed { p with cell } hdepth hrow htable
      exact ⟨cell', by rw [Flow.tokens, TableParser.feed_cons, handle_leaf, hcell, hrest]; rfl⟩
  | .table body rest =>
      have hstart : p.handle (.start "table") = { p with table := some [], tableDepth := 1 } := by
        simp [TableParser.handle, TableParser.handleStarttag, hdepth]
      obtain ⟨cell, hcell⟩ := body.feed { p with table := some [], tableDepth := 1 } rfl rfl hrow
      have hend : ({ p with table := some ([] ++ body.parsed), tableDepth := 1, cell } :
          TableParser).handle (.close "table") =
            { p with tables := p.tables ++ [body.parsed].filter (· ≠ []), cell } := by
        simp [TableParser.handle, TableParser.handleEndtag, TableParser.closeTable, hdepth, htable]
      obtain ⟨cell', hrest⟩ := rest.feed
        { p with tables := p.tables ++ [body.parsed].filter (· ≠ []), cell } hdepth hrow htable
      refine ⟨cell', ?_⟩
      rw [Flow.tokens, TableParser.feed_cons, TableParser.feed_append, TableParser.feed_cons,
        hstart, hcell, hend, hrest, Flow.parsed, Flow.parsed, Flow.topTables, List.map_cons,
        List.append_assoc, ← List.filter_append, List.singleton_append]

/-- What is parsed of a page. -/
theorem feed_page (page : Flow) : (({} : TableParser).feed page.tokens).tables = page.parsed := by
  obtain ⟨cell, h⟩ := page.feed {} rfl rfl rfl
  rw [h]
  exact List.nil_append _

end Row

/-! ## rows that survive -/

/-- White space, if anything. -/
def BlankText (pieces : List String) : Prop := Text.Blank (String.join pieces).toList

/-- A part of blank text is blank. -/
theorem BlankText.of_append {xs ys : List String} (h : BlankText (xs ++ ys)) : BlankText xs := by
  rw [BlankText, String.join_append, String.toList_append] at h
  exact Text.Blank.of_append h

/-- Only white space can be added to a text without a difference. -/
theorem cleanText_append_iff (xs ys : List String) :
    cleanText (String.join (xs ++ ys)) = cleanText (String.join xs) ↔ BlankText ys := by
  rw [cleanText, cleanText, String.ofList_inj, String.join_append, String.toList_append,
    Text.normalize_append_iff, BlankText]

/-- Text is cleaned away if it is blank. -/
theorem cleanText_eq_empty_iff (xs : List String) :
    cleanText (String.join xs) = "" ↔ BlankText xs :=
  cleanText_append_iff [] xs

/-- A flow in which a row ends, of a table that is nested there. -/
def Flow.HoldsRow (content : Flow) : Prop := .closeRow ∈ content.events

instance (content : Flow) : Decidable content.HoldsRow :=
  inferInstanceAs (Decidable (_ ∈ content.events))

/-- What is nested in a flow from the first end tag of a cell or a row on. -/
def Flow.fromFirstEnd (content : Flow) : List CellEvent :=
  content.events.dropWhile fun e => e.data?.isSome

/-- The first of these is the end of a cell, and no text follows it. -/
def Flow.EndsWithCell (content : Flow) : Prop :=
  match content.fromFirstEnd with
  | .closeCell :: after => BlankText (after.filterMap CellEvent.data?)
  | _ => False

/-- No cell of a row holds a row; or the last one alone does, and ends with the first cell nested
in it. -/
def Unbroken (contents : List Flow) : Prop :=
  (∀ content ∈ contents, ¬ content.HoldsRow) ∨
    ∃ front last, contents = front ++ [last] ∧ (∀ content ∈ front, ¬ content.HoldsRow) ∧
      last.EndsWithCell

/-- The row is empty or not broken. -/
def Cells.Survives (cells : Cells) : Prop :=
  (∀ content ∈ cells.contents, BlankText (content.tokens.filterMap Token.data?)) ∨
    Unbroken cells.contents

/-- The rows of the top-level tables survive the tables nested in them. -/
def Flow.RowsSurvive (page : Flow) : Prop :=
  ∀ body ∈ page.topTables, ∀ cells ∈ body.rows, cells.Survives

/-! ### the data of a flow -/

/-- Leaves keep their text. -/
theorem Leaf.data_events (l : Leaf) :
    l.events.filterMap CellEvent.data? = [l.token].filterMap Token.data? := by
  cases l <;> rfl

mutual

/-- A flow has the data of its tokens. -/
theorem Flow.data_events (f : Flow) :
    f.events.filterMap CellEvent.data? = f.tokens.filterMap Token.data? := by
  match f with
  | .nil => rfl
  | .leaf l rest =>
      rw [Flow.events, Flow.tokens, List.filterMap_append, l.data_events, rest.data_events,
        ← List.filterMap_append, List.singleton_append]
  | .table body rest =>
      rw [Flow.events, Flow.tokens, List.filterMap_append, body.data_events, rest.data_events]
      simp [List.filterMap_cons, List.filterMap_append, Token.data?]

/-- And so do tables. -/
theorem Body.data_events (body : Body) :
    body.events.filterMap CellEvent.data? = body.tokens.filterMap Token.data? := by
  match body with
  | .nil => rfl
  | .leaf l rest =>
      rw [Body.events, Body.tokens, List.filterMap_append, l.data_events, rest.data_events,
        ← List.filterMap_append, List.singleton_append]
  | .table body rest =>
      rw [Body.events, Body.tokens, List.filterMap_append, body.data_events, rest.data_events]
      simp [List.filterMap_cons, List.filterMap_append, Token.data?]
  | .row cells rest =>
      rw [Body.events, Body.tokens, List.filterMap_append, cells.data_events]
      simp [List.filterMap_cons, List.filterMap_append, Token.data?, CellEvent.data?,
        rest.data_events]

/-- And cells. -/
theorem Cells.data_events (cells : Cells) :
    cells.events.filterMap CellEvent.data? = cells.tokens.filterMap Token.data? := by
  match cells with
  | .nil => rfl
  | .leaf l rest =>
      rw [Cells.events, Cells.tokens, List.filterMap_append, l.data_events, rest.data_events,
        ← List.filterMap_append, List.singleton_append]
  | .cell header content rest =>
      rw [Cells.events, Cells.tokens, List.filterMap_append, content.data_events]
      simp [List.filterMap_cons, List.filterMap_append, Token.data?, CellEvent.data?,
        rest.data_events]

end

/-! ### the first end tag -/

/-- What happens first of all that can end. -/
theorem closedRow_cases (es : List CellEvent) (cell row : List String) :
    (es.dropWhile (fun e => e.data?.isSome) = [] ∧ closedRow es cell row = none) ∨
    (∃ (before : List String) (after : List CellEvent),
      es.dropWhile (fun e => e.data?.isSome) = .closeCell :: after ∧
      es.filterMap CellEvent.data? = before ++ after.filterMap CellEvent.data? ∧
      closedRow es cell row = some (row ++ [cleanText (String.join (cell ++ before))])) ∨
    (∃ after, es.dropWhile (fun e => e.data?.isSome) = .closeRow :: after ∧
      closedRow es cell row = some row) := by
  induction es generalizing cell with
  | nil => exact .inl ⟨rfl, rfl⟩
  | cons e es ih =>
      cases e with
      | closeCell => exact .inr (.inl ⟨[], es, rfl, rfl, by rw [List.append_nil]; rfl⟩)
      | closeRow => exact .inr (.inr ⟨es, rfl, rfl⟩)
      | data s =>
          obtain ⟨hend, hnone⟩ | ⟨before, after, hend, hdata, hsome⟩ | ⟨after, hend, hsome⟩ :=
            ih (cell ++ [s])
          · exact .inl ⟨hend, hnone⟩
          · refine .inr (.inl ⟨s :: before, after, hend, ?_, ?_⟩)
            · simp [CellEvent.data?, hdata]
            · rw [closedRow, hsome, List.append_assoc, List.singleton_append]
          · exact .inr (.inr ⟨after, hend, hsome⟩)

/-- A flow in which no row ends holds nothing that ends at all. -/
theorem closedRow_eq_none_iff (content : Flow) (cell row : List String) :
    closedRow content.events cell row = none ↔ ¬ content.HoldsRow := by
  have henclosed := content.enclosed
  rw [Flow.HoldsRow]
  generalize content.events = es at henclosed ⊢
  induction es generalizing cell with
  | nil => simp [closedRow]
  | cons e es ih =>
      cases e with
      | data s => simpa [closedRow] using ih (cell ++ [s]) henclosed
      | closeCell => simp [closedRow, henclosed.1]
      | closeRow => simp [closedRow]

/-- Content that ends with a cell has a row in it. -/
theorem Flow.EndsWithCell.holdsRow {content : Flow} (h : content.EndsWithCell) :
    content.HoldsRow := by
  by_contra hnot
  rw [Flow.EndsWithCell, Flow.fromFirstEnd] at h
  obtain ⟨hend, -⟩ | ⟨_, _, _, -, hsome⟩ | ⟨_, _, hsome⟩ := closedRow_cases content.events [] []
  · rw [hend] at h
    exact h
  · rw [(closedRow_eq_none_iff content [] []).mpr hnot] at hsome
    cases hsome
  · rw [(closedRow_eq_none_iff content [] []).mpr hnot] at hsome
    cases hsome

/-! ### rows -/

/-- A cell without a nested row does not break its row. -/
theorem unbroken_cons_of_not {content : Flow} {rest : List Flow} (h : ¬ content.HoldsRow) :
    Unbroken (content :: rest) ↔ Unbroken rest := by
  constructor
  · intro hrow
    obtain hnone | ⟨front, last, hcontents, hfront, hlast⟩ := hrow
    · exact .inl fun other hother => hnone other (List.mem_cons_of_mem content hother)
    · cases front with
      | nil =>
          obtain ⟨rfl, -⟩ : content = last ∧ rest = [] := by simpa using hcontents
          exact absurd hlast.holdsRow h
      | cons first front =>
          obtain ⟨-, hrest⟩ : content = first ∧ rest = front ++ [last] := by simpa using hcontents
          have hfront' : ∀ other ∈ front, ¬ other.HoldsRow := fun other hother =>
            hfront other (List.mem_cons_of_mem first hother)
          exact .inr ⟨front, last, hrest, hfront', hlast⟩
  · intro hrow
    obtain hnone | ⟨front, last, hrest, hfront, hlast⟩ := hrow
    · exact .inl (List.forall_mem_cons.mpr ⟨h, hnone⟩)
    · exact .inr ⟨content :: front, last, by rw [hrest, List.cons_append],
        List.forall_mem_cons.mpr ⟨h, hfront⟩, hlast⟩

/-- One with a nested row does, unless it is the last and ends with its first nested cell. -/
theorem unbroken_cons_of_holdsRow {content : Flow} {rest : List Flow} (h : content.HoldsRow) :
    Unbroken (content :: rest) ↔ rest = [] ∧ content.EndsWithCell := by
  constructor
  · intro hrow
    obtain hnone | ⟨front, last, hcontents, hfront, hlast⟩ := hrow
    · exact absurd h (hnone content List.mem_cons_self)
    · cases front with
      | nil =>
          obtain ⟨rfl, hrest⟩ : content = last ∧ rest = [] := by simpa using hcontents
          exact ⟨hrest, hlast⟩
      | cons first front =>
          obtain ⟨rfl, -⟩ : content = first ∧ rest = front ++ [last] := by simpa using hcontents
          exact absurd h (hfront content List.mem_cons_self)
  · intro ⟨hrest, hlast⟩
    exact .inr ⟨[], content, by rw [hrest, List.nil_append], by simp, hlast⟩

/-- What is kept of a row is the row, where it is not broken. -/
theorem parsedRow_eq_iff (contents : List Flow) (row : List String) :
    parsedRow (contents.map Flow.events) row =
        row ++ contents.map (fun content => textOf content.tokens) ↔ Unbroken contents := by
  induction contents generalizing row with
  | nil => simp [parsedRow, Unbroken]
  | cons content rest ih =>
      rw [List.map_cons, List.map_cons, parsedRow]
      by_cases hholds : content.HoldsRow
      · rw [unbroken_cons_of_holdsRow hholds]
        have hsome : closedRow content.events [] row ≠ none := fun hnone =>
          (closedRow_eq_none_iff content [] row).mp hnone hholds
        obtain ⟨-, hnone⟩ | ⟨before, after, hend, hdata, hclosed⟩ | ⟨after, hend, hclosed⟩ :=
          closedRow_cases content.events [] row
        · exact absurd hnone hsome
        · have hlast : content.EndsWithCell ↔ BlankText (after.filterMap CellEvent.data?) := by
            rw [Flow.EndsWithCell, Flow.fromFirstEnd, hend]
          have htext : textOf content.tokens =
              cleanText (String.join (before ++ after.filterMap CellEvent.data?)) := by
            rw [textOf, ← content.data_events, hdata]
          rw [hclosed, Option.getD_some, hlast, htext, List.nil_append, List.append_cancel_left_eq,
            List.cons.injEq, eq_comm, cleanText_append_iff, eq_comm, List.map_eq_nil_iff, and_comm]
        · have hlast : ¬ content.EndsWithCell := by
            rw [Flow.EndsWithCell, Flow.fromFirstEnd, hend]
            exact not_false
          rw [hclosed, Option.getD_some]
          -- the cell that was open is not there
          simp [hlast]
      · have htext : cleanText (String.join (content.events.filterMap CellEvent.data?)) =
            textOf content.tokens := by rw [content.data_events, textOf]
        rw [unbroken_cons_of_not hholds, (closedRow_eq_none_iff content [] row).mpr hholds,
          Option.getD_none, htext, ← ih (row ++ [textOf content.tokens]), List.append_assoc,
          List.singleton_append]

/-- Nothing is kept where all is empty. -/
theorem parsedRow_blank (contents : List Flow) {row : List String} (hrow : ∀ s ∈ row, s = "")
    (hcontents : ∀ content ∈ contents, BlankText (content.tokens.filterMap Token.data?)) :
    ∀ s ∈ parsedRow (contents.map Flow.events) row, s = "" := by
  induction contents generalizing row with
  | nil => exact hrow
  | cons content rest ih =>
      have hadd : ∀ {text : String}, text = "" → ∀ s ∈ row ++ [text], s = "" := by
        intro text htext s hs
        obtain hs | hs := List.mem_append.mp hs
        · exact hrow s hs
        · rw [List.mem_singleton.mp hs, htext]
      have hblank : BlankText (content.events.filterMap CellEvent.data?) := by
        rw [content.data_events]
        exact hcontents content List.mem_cons_self
      have hrest : ∀ other ∈ rest, BlankText (other.tokens.filterMap Token.data?) :=
        fun other hother => hcontents other (List.mem_cons_of_mem content hother)
      rw [List.map_cons, parsedRow]
      obtain ⟨-, hclosed⟩ | ⟨before, after, -, hdata, hclosed⟩ | ⟨after, -, hclosed⟩ :=
        closedRow_cases content.events [] row
      · rw [hclosed, Option.getD_none]
        exact ih (hadd ((cleanText_eq_empty_iff _).mpr hblank)) hrest
      · have hbefore : BlankText before := by
          rw [hdata] at hblank
          exact hblank.of_append
        rw [hclosed, Option.getD_some]
        exact hadd ((cleanText_eq_empty_iff _).mpr hbefore)
      · rw [hclosed, Option.getD_some]
        exact hrow

/-- A row is blank if all its cells are. -/
theorem Cells.texts_blank_iff (cells : Cells) :
    cells.texts.any (· ≠ "") = false ↔
      ∀ content ∈ cells.contents, BlankText (content.tokens.filterMap Token.data?) := by
  simp [Cells.texts, textOf, cleanText_eq_empty_iff]

/-- A row that is kept is not empty. -/
theorem Cells.any_texts_of_parsed (cells : Cells) (h : cells.parsed.any (· ≠ "") = true) :
    cells.texts.any (· ≠ "") = true := by
  by_contra hnot
  have hblank := cells.texts_blank_iff.mp (Bool.eq_false_iff.mpr hnot)
  obtain ⟨s, hs, hne⟩ := List.any_eq_true.mp h
  exact absurd (parsedRow_blank cells.contents (by simp) hblank s hs) (by simpa using hne)

/-- A row survives when nothing is lost of it. -/
theorem Cells.survives_iff (cells : Cells) :
    cells.Survives ↔ (cells.texts.any (· ≠ "") = true → cells.parsed = cells.texts) := by
  have hkept : cells.parsed = cells.texts ↔ Unbroken cells.contents :=
    parsedRow_eq_iff cells.contents []
  rw [hkept, Cells.Survives, ← cells.texts_blank_iff, ← Bool.not_eq_true, or_iff_not_imp_left,
    not_not]

/-! ### tables -/

section Filter

variable {α β : Type} {p : β → Bool} {f g : α → β}

/-- Where a test passes on fewer items, fewer are kept. -/
theorem filter_map_length_le {xs : List α} (h : ∀ x ∈ xs, p (f x) = true → p (g x) = true) :
    ((xs.map f).filter p).length ≤ ((xs.map g).filter p).length := by
  rw [← List.countP_eq_length_filter, ← List.countP_eq_length_filter, List.countP_map,
    List.countP_map]
  exact List.countP_mono_left h

/-- Where one map keeps no more than another, they keep the same only value by value. -/
theorem filter_map_eq_iff {xs : List α} (h : ∀ x ∈ xs, p (f x) = true → p (g x) = true) :
    (xs.map f).filter p = (xs.map g).filter p ↔ ∀ x ∈ xs, p (g x) = true → f x = g x := by
  induction xs with
  | nil => simp
  | cons x xs ih =>
      have hrest : ∀ y ∈ xs, p (f y) = true → p (g y) = true := fun y hy =>
        h y (List.mem_cons_of_mem x hy)
      have hx := h x List.mem_cons_self
      rw [List.map_cons, List.map_cons, List.filter_cons, List.filter_cons, List.forall_mem_cons,
        ← ih hrest]
      by_cases hg : p (g x) = true
      · by_cases hf : p (f x) = true
        · simp [hg, hf]
        · -- one more is kept on the right
          have hlength := filter_map_length_le hrest
          rw [if_neg hf, if_pos hg]
          constructor
          · intro heq
            rw [heq, List.length_cons] at hlength
            omega
          · intro ⟨heq, _⟩
            rw [heq hg] at hf
            exact absurd hg hf
      · have hf : ¬ p (f x) = true := fun hf => hg (hx hf)
        simp [hg, hf]

end Filter

/-- A table is parsed right if and only if all its rows survive. -/
theorem Body.parsed_eq_matrix_iff (body : Body) :
    body.parsed = body.matrix ↔ ∀ cells ∈ body.rows, cells.Survives := by
  have hrows : body.parsed = body.matrix ↔
      ∀ cells ∈ body.rows, cells.texts.any (· ≠ "") = true → cells.parsed = cells.texts :=
    filter_map_eq_iff fun cells _ => cells.any_texts_of_parsed
  rw [hrows]
  exact forall₂_congr fun cells _ => cells.survives_iff.symm

/-- A table that is kept has a row that is not empty. -/
theorem Body.matrix_ne_nil_of_parsed {body : Body} (h : body.parsed ≠ []) : body.matrix ≠ [] := by
  intro hmatrix
  refine h (List.length_eq_zero_iff.mp (Nat.le_zero.mp ?_))
  calc body.parsed.length
    _ ≤ body.matrix.length := filter_map_length_le fun cells _ => cells.any_texts_of_parsed
    _ = 0 := by rw [hmatrix, List.length_nil]

/-- And a page if and only if the rows of all its tables do. -/
theorem Flow.parsed_eq_matrices_iff (page : Flow) :
    page.parsed = page.matrices ↔ page.RowsSurvive := by
  have htables : page.parsed = page.matrices ↔
      ∀ body ∈ page.topTables, decide (body.matrix ≠ []) = true → body.parsed = body.matrix :=
    filter_map_eq_iff fun body _ h =>
      decide_eq_true (Body.matrix_ne_nil_of_parsed (of_decide_eq_true h))
  rw [htables, Flow.RowsSurvive]
  refine forall₂_congr fun body _ => ?_
  rw [← body.parsed_eq_matrix_iff, decide_eq_true_iff]
  constructor
  · intro h
    by_cases hmatrix : body.matrix = []
    · by_contra hne
      exact Body.matrix_ne_nil_of_parsed (fun hparsed => hne (hparsed.trans hmatrix.symm)) hmatrix
    · exact h hmatrix
  · intro h _
    exact h

/-- The parser returns the matrices of the tables of a page exactly when every row of these
survives the tables nested in it. -/
theorem tables_eq_matrices_iff (page : Flow) :
    (({} : TableParser).feed page.tokens).tables = page.matrices ↔ page.RowsSurvive := by
  rw [feed_page]
  exact page.parsed_eq_matrices_iff

/-- A row whose first cell holds `a`, a table of one cell `b`, and `c`; the second holds `d`. -/
def nestedPage : Flow :=
  let inner : Body := .row (.cell false (.leaf (.data "b") .nil) .nil) .nil
  let row : Cells :=
    .cell false (.leaf (.data "a") (.table inner (.leaf (.data "c") .nil)))
      (.cell false (.leaf (.data "d") .nil) .nil)
  .table (.row row .nil) .nil

/-- The nested row ends the row around it: `ab` is kept of `abc` and `d`. -/
theorem nested_row_closes_outer : (({} : TableParser).feed nestedPage.tokens).tables ≠
    nestedPage.matrices := by
  have htables : (({} : TableParser).feed nestedPage.tokens).tables = [[["ab"]]] := by decide
  have hmatrices : nestedPage.matrices = [[["abc", "d"]]] := by decide
  rw [htables, hmatrices]
  decide

end MorningstarModbus
