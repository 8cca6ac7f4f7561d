/-!
Aligned columns: text whose cells are separated by tabs, padded into columns.
-/

namespace DhcpDecoder.Columns

/-- The lines of a text and the cells of each line, ended by tabs or vertical tabs; the empty text
after a final line break is no line. -/
def cellsOf (text : String) : List (List String) :=
  let lines := text.splitOn "\n"
  let lines := if lines.getLast? = some "" then lines.dropLast else lines
  lines.map fun line => (line.replace "\x0b" "\t").splitOn "\t"

def hasColumn (k : Nat) (line : List String) : Bool :=
  k + 1 < line.length

def runBefore (lines : List (List String)) (k i : Nat) : List (List String) :=
  ((lines.take i).reverse.takeWhile (hasColumn k))

def runFrom (lines : List (List String)) (k i : Nat) : List (List String) :=
  (lines.drop i).takeWhile (hasColumn k)

/-- The width of column `k` for line `i`: the widest cell of the block plus padding, at least the
minimum width. -/
def width (minWidth padding : Nat) (lines : List (List String)) (k i : Nat) : Nat :=
  let block := runBefore lines k i ++ runFrom lines k i
  block.foldl (fun w line => max w ((line.getD k "").length + padding)) minWidth

def renderLine (minWidth padding : Nat) (lines : List (List String)) (i : Nat)
    (line : List String) : String :=
  let cells := line.zipIdx.map fun (cell, k) =>
    if hasColumn k line then
      cell ++ String.ofList (List.replicate (width minWidth padding lines k i - cell.length) ' ')
    else cell
  String.join cells

def alignBlock (minWidth padding : Nat) (text : String) : String :=
  let lines := cellsOf text
  let finished := text.endsWith "\n"
  let count := lines.length
  String.join (lines.zipIdx.map fun (line, i) =>
    renderLine minWidth padding lines i line ++ (if i + 1 < count || finished then "\n" else ""))

/-- Aligns the cells of a text into columns, each stretch before a form feed on its own; a form feed
is written as a line break. -/
def align (minWidth padding : Nat) (text : String) : String :=
  let parts := text.splitOn "\x0c"
  let count := parts.length
  String.join (parts.zipIdx.map fun (part, i) =>
    alignBlock minWidth padding (if i + 1 < count then part ++ "\n" else part))

end DhcpDecoder.Columns
