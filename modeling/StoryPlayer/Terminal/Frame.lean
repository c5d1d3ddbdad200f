import StoryPlayer.Layout.Wrap
import StoryPlayer.Playback.View

/-!
# Frames

A frame is the list of drawing calls that show a view on a window. The last row holds the prompt,
and the rows above it the newest lines of text.
-/

namespace StoryPlayer

/-- Rows and columns of a window; nothing keeps a terminal from reporting odd ones. -/
structure WindowSize where
  height : Int
  width : Int
deriving Repr, DecidableEq

/-- The colour pairs of the prompt. -/
inductive Style where
  | plain
  | question
  | pause
deriving Repr, DecidableEq

/-- Colour pairs have numbers of their own. -/
def Style.pair : Style → Nat
  | plain => 0
  | question => 1
  | pause => 2

/-- The attribute by which the terminal knows a style. -/
def Style.attribute (style : Style) : Nat := style.pair * 256

def Mode.style (mode : Mode) : Style :=
  match mode with
  | .awaitingInput => .question
  | .awaitingAnyKey => .pause
  | .disabled => .plain

/-- The part of a text that a terminal writes if it is told to stop at a limit. -/
def Text.cutAt (limit : Int) (text : Text) : Text := text.take limit.toNat

inductive DrawCall where
  /-- A line of text, which the terminal cuts at `limit` characters. -/
  | line (row : Int) (text : Text) (limit : Int)
  | prompt (row : Int) (text : Text) (limit : Int) (style : Style)
  | cursor (visible : Bool)
  | moveCursor (row column : Int)
deriving Repr, DecidableEq

namespace WindowSize

/-- The columns that are drawn on: all but the last, and at least one. -/
def span (size : WindowSize) : Int := max 1 (size.width - 1)

def textWidth (size : WindowSize) : Width := ⟨size.span.toNat, by simp only [span]; omega⟩

/-- The rows above the prompt. -/
def textRows (size : WindowSize) : Nat := (size.height - 1).toNat

def promptRow (size : WindowSize) : Int := size.height - 1

end WindowSize

/-- The last `n` entries of a list. -/
def lastEntries {α : Type} (n : Nat) (entries : List α) : List α :=
  entries.drop (entries.length - n)

/-- The lines of text that a window shows. -/
def visibleLines (size : WindowSize) (view : View) : List Text :=
  lastEntries size.textRows (wrapLines size.textWidth view.displayLines)

def drawLines (size : WindowSize) (lines : List Text) : List DrawCall :=
  lines.zipIdx.map fun (text, row) => .line row text size.span

/-- Where the cursor stands: after the prompt, but not beyond the last column. -/
def cursorColumn (size : WindowSize) (view : View) : Int :=
  min view.prompt.length (size.width - 1)

def drawPrompt (size : WindowSize) (style : Style) (view : View) : DrawCall :=
  .prompt size.promptRow view.prompt size.span style

def drawCursor (size : WindowSize) (view : View) : List DrawCall :=
  if view.showsCursor then
    [.cursor true, .moveCursor size.promptRow (cursorColumn size view)]
  else [.cursor false]

/-- All drawing calls for a view, with the prompt in the given style. -/
def frame (size : WindowSize) (style : Style) (view : View) : List DrawCall :=
  drawLines size (visibleLines size view) ++ drawPrompt size style view :: drawCursor size view

end StoryPlayer
