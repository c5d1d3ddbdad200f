import StoryPlayer.Terminal.Stage

/-!
# Control sequences

What is sent to a terminal for the calls of a session and for a frame, and which raw keys the
characters that come back stand for.
-/

namespace StoryPlayer

/-- A control sequence: escape, an opening bracket, and the rest. -/
def controlSequence (rest : String) : Text := '\x1b' :: '[' :: rest.toList

/-- Rows and columns are counted from one in control sequences. -/
def moveSequence (row column : Int) : Text :=
  controlSequence (toString (row + 1) ++ ";" ++ toString (column + 1) ++ "H")

/-- Yellow for questions, green for pauses. -/
def Style.sequence : Style → Text
  | plain => controlSequence "0m"
  | question => controlSequence "33m"
  | pause => controlSequence "32m"

def DrawCall.sequence : DrawCall → Text
  | line row text limit => moveSequence row 0 ++ text.cutAt limit
  | prompt row text limit style =>
    moveSequence row 0 ++ style.sequence ++ text.cutAt limit ++ Style.plain.sequence
  | cursor visible => controlSequence (if visible then "?25h" else "?25l")
  | moveCursor row column => moveSequence row column

/-- A frame replaces all that the window showed. -/
def frameSequence (calls : List DrawCall) : Text :=
  controlSequence "2J" ++ calls.flatMap DrawCall.sequence

/-- The calls that the terminal itself carries out; the other ones are for its line discipline. -/
def SessionCall.sequence : SessionCall → Text
  | enter => controlSequence "?1049h"
  | keypad on => controlSequence (if on then "?1h" else "?1l")
  | leave => controlSequence "?25h" ++ controlSequence "?1049l"
  | _ => []

/-- The characters that a terminal sends for the home key. -/
def homeSequences : List Text :=
  [controlSequence "H", controlSequence "1~", ['\x1b', 'O', 'H']]

def endsWithHome (typed : Text) : Bool := homeSequences.any (·.isSuffixOf typed)

/-- The first raw key of the characters that came in, and what comes after it. -/
def takeRawKey? (typed : Text) : Option (RawKey × Text) :=
  match homeSequences.find? (·.isPrefixOf typed), typed with
  | some sequence, _ => some (.home, typed.drop sequence.length)
  | none, c :: rest => some (.typed [c], rest)
  | none, [] => none

end StoryPlayer
