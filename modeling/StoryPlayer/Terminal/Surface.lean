import StoryPlayer.Playback.Failure
import StoryPlayer.Terminal.Frame

/-!
# Surfaces

Texts are counted in characters and windows in cells, and how many cells a character takes is the
terminal's affair. A surface says what becomes of one character, and a text is written character by
character. What finds no room on the window is refused.
-/

namespace StoryPlayer

structure Cell where
  row : Int
  column : Int
deriving Repr, DecidableEq

namespace Cell

/-- So many cells in a row. -/
def run (cell : Cell) (n : Nat) : List Cell :=
  (List.range n).map fun i => ⟨cell.row, cell.column + Int.ofNat i⟩

def inside (size : WindowSize) (cell : Cell) : Bool :=
  0 ≤ cell.row && cell.row < size.height && 0 ≤ cell.column && cell.column < size.width

/-- The cell itself, or the start of the next row for a cell behind the last column. There is no row
behind the last one. -/
def wrapped? (size : WindowSize) (cell : Cell) : Option Cell :=
  if cell.column < size.width then some cell
  else if cell.row + 1 < size.height then some ⟨cell.row + 1, 0⟩
  else none

end Cell

/-- What a terminal does with what is written on its window. -/
structure Surface where
  /-- Why a text cannot be handed to the terminal. -/
  objection? : Text → Option Failure
  /-- Whether there is such a cell to go to. -/
  reaches : WindowSize → Cell → Bool
  /-- The cells that a character takes if it is written at a cell, and the cell of the next one. -/
  put? : WindowSize → Cell → Char → Option (List Cell × Cell)

namespace Surface

/-- Takes every call and has no cells. -/
def recording : Surface where
  objection? _ := none
  reaches _ _ := true
  put? _ cell _ := some ([], cell)

/-- The cells of a character that takes `n` columns. If the rest of the row is too short for it, the
rest is left blank and the character goes to the next row. -/
def putColumns? (size : WindowSize) (cell : Cell) (n : Nat) : Option (List Cell × Cell) :=
  if cell.column + n ≤ size.width then do
    let next ← Cell.wrapped? size ⟨cell.row, cell.column + n⟩
    return (cell.run n, next)
  else if cell.row + 1 < size.height ∧ n ≤ size.width then do
    let next ← Cell.wrapped? size ⟨cell.row + 1, n⟩
    return (cell.run (size.width - cell.column).toNat ++ Cell.run ⟨cell.row + 1, 0⟩ n, next)
  else none

/-- The cell of the character before. -/
def cellBefore (size : WindowSize) (cell : Cell) : List Cell :=
  if 0 < cell.column then [⟨cell.row, cell.column - 1⟩]
  else if 0 < cell.row then [⟨cell.row - 1, size.width - 1⟩]
  else []

/-- A terminal with cells, and a table of the columns that characters take on it. A character of no
columns joins the one before it, and one that is not in the table is not shown. -/
def grid (columns : Char → Option Nat) : Surface where
  objection? text :=
    if '\x00' ∈ text then some (.badValue "embedded null character".toList) else none
  reaches size cell := cell.inside size
  put? size cell c :=
    match columns c with
    | none => some ([], cell)
    | some 0 => some (cellBefore size cell, cell)
    | some (n + 1) => putColumns? size cell (n + 1)

/-- The cells of a text that is written from a cell on. -/
def write? (surface : Surface) (size : WindowSize) : Cell → Text → Option (List Cell)
  | _, [] => some []
  | cell, c :: text => do
    let (cells, next) ← surface.put? size cell c
    let rest ← surface.write? size next text
    return cells ++ rest

def writeRefusal : Failure := .terminal "addnwstr() returned ERR".toList

def moveRefusal : Failure := .terminal "wmove() returned ERR".toList

/-- Writes a text at the start of a row. -/
def writeRow (surface : Surface) (size : WindowSize) (row : Int) (text : Text) (limit : Int) :
    Except Failure (List Cell) :=
  match surface.objection? text with
  | some failure => .error failure
  | none =>
    if surface.reaches size ⟨row, 0⟩ then
      match surface.write? size ⟨row, 0⟩ (text.cutAt limit) with
      | some cells => .ok cells
      | none => .error writeRefusal
    else .error writeRefusal

end Surface

/-- The cells that a call takes on a window, unless it is refused. -/
def DrawCall.cells (surface : Surface) (size : WindowSize) : DrawCall → Except Failure (List Cell)
  | line row text limit | prompt row text limit _ => surface.writeRow size row text limit
  | cursor _ => .ok []
  | moveCursor row column =>
    if surface.reaches size ⟨row, column⟩ then .ok [] else .error Surface.moveRefusal

end StoryPlayer
