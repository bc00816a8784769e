/-
Drawing a report as a graph.

A report becomes a directed graph in DOT notation.  Every block is a node whose label is a
table with a row for each record; a table of locals and one of issued loans may follow.  Tables
are values of their own (`Table`, `Row`, `Cell`) and become lines of text in one place, so that
every table that is written is closed.  A graph is drawn only if each of its numbers is short
enough to be written (`draw`).
-/
import BorrowGraph.Report
import BorrowGraph.Settings

namespace BorrowGraph.Dot

/-! ### Escaping -/

/-- A character inside a label. -/
def escapeLabelChar (c : Char) : List Char :=
  if c = '&' then "&amp;".toList
  else if c = '>' then "&gt;".toList
  else if c = '<' then "&lt;".toList
  else if c = '"' then "&quot;".toList
  else if c = '\n' then "<br/>".toList
  else [c]

/-- A text inside a label. -/
def escapeLabel (s : String) : String :=
  String.ofList (Text.escapeWith escapeLabelChar s.toList)

/-- A character inside a quoted string. -/
def escapeStringChar (c : Char) : List Char :=
  if c = '\\' then ['\\', '\\']
  else if c = '"' then ['\\', '"']
  else if c = '\n' then ['\\', 'n']
  else [c]

/-- A text inside a quoted string. -/
def escapeString (s : String) : String :=
  String.ofList (Text.escapeWith escapeStringChar s.toList)

/-! ### Contents of cells -/

/-- Join texts by commas. -/
def commas (ts : List String) : String :=
  ", ".intercalate ts

/-- The order of regions with owners: by region, a region without owner first. -/
def ownedLe (a b : Region × Option Local) : Bool :=
  Facts.pairLe (a.1, a.2.getD (-1)) (b.1, b.2.getD (-1))

def loansText (ls : List Loan) : String :=
  commas ((Liveness.sortInts ls).map Loan.text)

def borrowsText (pairs : List (Region × Loan)) : String :=
  commas ((pairs.mergeSort Facts.pairLe).map fun (r, l) =>
    "(" ++ Region.text r ++ ", " ++ Loan.text l ++ ")")

def regionText : Region × Option Local → String
  | (r, none) => Region.text r
  | (r, some n) => Region.text r ++ ": " ++ Local.text n

def regionsText (pairs : List (Region × Option Local)) : String :=
  commas ((pairs.mergeSort ownedLe).map regionText)

def placesText (places : List String) : String :=
  commas (Report.sortTexts places)

/-! ### Tables -/

/-- A cell with its content, already escaped, and the columns it spans if it says so. -/
structure Cell where
  content : String
  span : Option Nat := none
  deriving DecidableEq, Repr

/-- The columns that a cell spans. -/
def Cell.columns (c : Cell) : Nat :=
  c.span.getD 1

/-- A row; its cells stand on lines of their own or all on one line. -/
structure Row where
  cells : List Cell
  onOneLine : Bool := false
  deriving DecidableEq, Repr

/-- A node whose label is a table. -/
structure Table where
  name : String
  rows : List Row
  deriving DecidableEq, Repr

/-- A cell of text that may hold any character. -/
def Cell.ofText (s : String) : Cell := ⟨escapeLabel s, none⟩

/-- A cell of text that needs no escaping. -/
def Cell.plain (s : String) : Cell := ⟨s, none⟩

def Cell.text (c : Cell) : String :=
  let opening := match c.span with
    | none => "<td>"
    | some n => "<td colspan=\"" ++ Nat.repr n ++ "\">"
  opening ++ c.content ++ "</td>"

def Row.lines (r : Row) : List String :=
  if r.onOneLine then ["<tr>" ++ String.join (r.cells.map Cell.text) ++ "</tr>"]
  else "<tr>" :: r.cells.map Cell.text ++ ["</tr>"]

def Table.lines (t : Table) : List String :=
  ("  \"" ++ t.name ++ "\" [shape=\"plaintext\", label=<<table>") :: t.rows.flatMap Row.lines
    ++ ["</table>>];"]

/-! ### Blocks -/

/-- The row of a record. -/
def recordRow (s : Settings) (r : Record) : Row :=
  let number := if r.isTerminator then "" else Decimal.text r.location.index
  ⟨(if s.showIndices then [.plain number] else []) ++
    [.ofText r.text,
      .plain (loansText r.loans.start),
      .plain (loansText r.loans.mid),
      .ofText (borrowsText r.borrows.start),
      .ofText (borrowsText r.borrows.mid),
      .ofText (regionsText r.regions.start),
      .ofText (regionsText r.regions.mid),
      .ofText (placesText r.initialized)], false⟩

/-- The two rows at the head of a block. -/
def headRows (s : Settings) (b : BlockReport) : List Row :=
  [⟨[⟨blockName b.index, some (if s.showIndices then 2 else 1)⟩, ⟨"", some 6⟩,
      .plain "Definitely Initialized"], false⟩,
    ⟨(if s.showIndices then [.plain "Nr"] else []) ++
      [.plain "statement", ⟨"Loans", some 2⟩, ⟨"Borrow Regions", some 2⟩,
        ⟨"Regions", some 2⟩,
        .ofText (placesText b.initialized)], false⟩]

/-- The table of a block. -/
def blockTable (s : Settings) (b : BlockReport) : Table :=
  ⟨blockName b.index, headRows s b ++ b.records.map (recordRow s)⟩

/-- How an edge of a kind is drawn. -/
def edgeStyle : Edge.Kind → String
  | .normal => ""
  | .unwind => " [color=red]"
  | .imaginary => " [style=\"dashed\"]"

def edgeLine (e : Edge) : String :=
  "  \"" ++ blockName e.source ++ "\" -> \"" ++ e.target.name ++ "\"" ++ edgeStyle e.kind

/-- The lines of a block: its table and its edges. -/
def blockLines (s : Settings) (b : BlockReport) : List String :=
  (blockTable s b).lines ++ b.edges.map edgeLine

/-! ### Locals and issued loans -/

/-- The row of a local. -/
def localRow (regions : List (Local × Region)) (d : LocalDecl) : Row :=
  let region := match Assoc.get? d.index regions with
    | some r => escapeLabel (Region.text r)
    | none => ""
  let name := if d.name.isTruthy then d.name.plain else ""
  ⟨[.ofText name, .plain (Local.text d.index), .ofText d.type, .plain region], true⟩

/-- The table of locals. -/
def localsTable (r : Report) : Table :=
  ⟨"Variables",
    [⟨[⟨"VARIABLES", some 4⟩], true⟩,
      ⟨[.plain "Name", .plain "Temporary", .plain "Type", .plain "Region"], true⟩]
      ++ r.locals.map (localRow r.regions)⟩

/-- The table of issued loans. -/
def loansTable (c : Completion) : Table :=
  let results := commas (c.sortedResults.map fun (l, n) => Loan.text l ++ ": " ++ Local.text n)
  ⟨"FakeLoans",
    [⟨[⟨"SYNTHESIZED LOANS", some 2⟩], true⟩,
      ⟨[.plain "Reference moves", .plain (loansText c.referenceMoves)], true⟩,
      ⟨[.plain "Argument moves", .plain (loansText c.argumentMoves)], true⟩,
      ⟨[.plain "Call destinations", .plain results], true⟩]⟩

/-! ### Graphs -/

/-- The lines of the graph of a report. -/
def lines (s : Settings) (r : Report) : List String :=
  ["digraph G \x7b",
    "  label=\"" ++ escapeString r.path ++ "\";",
    "  node [fontname=monospace, fontsize=10];"]
    ++ r.blocks.flatMap (blockLines s)
    ++ (if s.showVariables then (localsTable r).lines else [])
    ++ (if s.debugInfo then (loansTable r.completion).lines else [])
    ++ ["\x7d"]

/-- The graph of a report. -/
def render (s : Settings) (r : Report) : String :=
  String.join ((lines s r).map fun line => line ++ "\n")

/-! ### The numbers of a graph -/

def recordNumbers (s : Settings) (r : Record) : List Int :=
  (if s.showIndices && !r.isTerminator then [r.location.index] else [])
    ++ r.loans.start ++ r.loans.mid
    ++ (r.borrows.start ++ r.borrows.mid).flatMap (fun (r, l) => [r, l])
    ++ (r.regions.start ++ r.regions.mid).flatMap fun (r, n) => r :: n.toList

def edgeNumbers (e : Edge) : List Int :=
  match e.target with
  | .block index => [e.source, index]
  | .exit _ => [e.source]

def blockNumbers (s : Settings) (b : BlockReport) : List Int :=
  b.index :: b.records.flatMap (recordNumbers s) ++ b.edges.flatMap edgeNumbers

def localNumbers (regions : List (Local × Region)) (d : LocalDecl) : List Int :=
  d.index :: (Assoc.get? d.index regions).toList ++ if d.name.isTruthy then d.name.integers else []

def completionNumbers (c : Completion) : List Int :=
  c.referenceMoves ++ c.argumentMoves ++ c.callResults.flatMap fun (l, n) => [l, n]

/-- The numbers that the graph of a report shows. -/
def numbers (s : Settings) (r : Report) : List Int :=
  r.blocks.flatMap (blockNumbers s)
    ++ (if s.showVariables then r.locals.flatMap (localNumbers r.regions) else [])
    ++ if s.debugInfo then completionNumbers r.completion else []

/-- All numbers of a graph are short enough to be written. -/
def IsDrawable (s : Settings) (r : Report) : Prop :=
  ∀ n ∈ numbers s r, Decimal.fits n = true

instance (s : Settings) (r : Report) : Decidable (IsDrawable s r) :=
  inferInstanceAs (Decidable (∀ n ∈ numbers s r, Decimal.fits n = true))

/-- Draw the graph of a report, unless one of its numbers is too long to be written. -/
def draw (s : Settings) (r : Report) : Except Fault String :=
  if IsDrawable s r then .ok (render s r) else .error .tooLargeToWrite

end BorrowGraph.Dot
