import StoryPlayer.Story.Event
import StoryPlayer.Story.Fault

/-!
# Rules of story markup

A command stands on a line of its own: a plus sign, a name in capitals, and for some commands a
colon and an argument. All other lines are text, which runs on until the next line that starts
with a plus sign. Blank lines between events mean nothing.

Each rule reads from a cursor. A rule that fails leaves the cursor where it stopped reading.
-/

namespace StoryPlayer

/-- Space and tab. -/
def isInline (c : Char) : Bool := c == ' ' || c == '\t'

/-- Space, tab and line feed. -/
def isGap (c : Char) : Bool := isInline c || c == '\n'

def isCapital (c : Char) : Bool := 'A' ≤ c && c ≤ 'Z'

/-- A place in a document: its offset, what follows it, and the offset of the document's end.
The offset may lie beyond the end, where nothing follows. -/
structure Cursor where
  pos : Nat
  rest : Text
  stop : Nat
deriving Repr, DecidableEq

namespace Cursor

def ofSource (source : Text) (pos : Nat) : Cursor := ⟨pos, source.drop pos, source.length⟩

def advance (n : Nat) (c : Cursor) : Cursor := { c with pos := c.pos + n, rest := c.rest.drop n }

/-- Whether the token comes next. -/
def peek (token : Text) (c : Cursor) : Bool := c.pos ≤ c.stop && token.isPrefixOf c.rest

/-- Whether nothing but gaps is left of the document. -/
def atTrailer (c : Cursor) : Bool := c.pos ≤ c.stop && c.rest.all isGap

end Cursor

abbrev Rule := EStateM Fault Cursor

inductive Command where
  | pause
  | clear
  | input
deriving Repr, DecidableEq

namespace Command

def name : Command → Text
  | pause => "PAUSE".toList
  | clear => "CLEAR".toList
  | input => "INPUT".toList

def ofName? (name : Text) : Option Command :=
  [pause, clear, input].find? (·.name == name)

/-- The event that a command stands for; an input needs an argument, the others ignore theirs. -/
def event? : Command → Option Text → Option Event
  | pause, _ => some .pause
  | clear, _ => some .clear
  | input, label => label.map .input

end Command

/-- The length of the leading lines that hold nothing but spaces and tabs, given the number of
such characters already seen on the current line. -/
def blankLinesLength (seen : Nat) : Text → Nat
  | [] => 0
  | c :: t =>
    if c = '\n' then seen + 1 + blankLinesLength 0 t
    else if isInline c then blankLinesLength (seen + 1) t
    else 0

/-- The text up to the next line that starts with a plus sign. -/
def untilCommand : Text → Text
  | [] => []
  | c :: t => if c = '\n' ∧ t.head? = some '+' then [] else c :: untilCommand t

namespace Rule

def failAt {α : Type} (cause : FaultCause) (position : Nat) : Rule α :=
  throw ⟨cause, position⟩

/-- Fails where the cursor stands. -/
def failHere {α : Type} (cause : FaultCause) : Rule α := do failAt cause (← get).pos

/-- Reads the longest run of characters of the class. -/
def run (p : Char → Bool) : Rule Text := do
  let word := (← get).rest.takeWhile p
  modify (·.advance word.length)
  return word

def skipInline : Rule Unit := discard (run isInline)

def skipBlankLines : Rule Unit := modify fun c => c.advance (blankLinesLength 0 c.rest)

/-- Whether the line or the document ends here. -/
def atLineEnd : Rule Bool := do
  let c ← get
  if c.stop < c.pos then failHere .pastEnd
  else return c.rest.isEmpty || c.rest.head? == some '\n'

/-- The argument of a command, after the character that announces it. -/
def argument : Rule Text := do
  modify (·.advance 1)
  skipInline
  let word ← run (!isGap ·)
  if word.isEmpty then failHere (.expected .argument)
  else return word

def optionalArgument : Rule (Option Text) := do
  if (← get).peek [':'] then
    let word ← argument
    skipInline
    return some word
  else return none

/-- The event of a command that starts at `start`. The name is judged first, then whether an
argument is there, and then whether the line ends. -/
def finishCommand (start : Nat) (name : Text) (label : Option Text) : Rule Event :=
  match Command.ofName? name with
  | none => failAt (.unknownCommand name) start
  | some command =>
    match command.event? label with
    | none => failAt (.missingArgument name) start
    | some event => do
      if ← atLineEnd then return event
      else failHere (.expected (if label.isNone then .argument else .event))

/-- What follows the character that announces a command. -/
def commandBody (start : Nat) : Rule Event := do
  let name ← run isCapital
  if name.isEmpty then failHere (.expected .command)
  else do
    skipInline
    let label ← optionalArgument
    finishCommand start name label

/-- A command, after the character that announces it. -/
def command : Rule Event := fun c => commandBody c.pos (c.advance 1)

/-- A text without the gaps at its end. -/
def text : Rule Event := fun c =>
  let content := (untilCommand c.rest).trimEnd isGap
  if content.isEmpty then failHere (.expected .text) c
  else .ok (.text content) (c.advance content.length)

def event : Rule Event := fun c => if c.peek ['+'] then command c else text c

/-- The end of the event's line and the blank lines after it. -/
def separator : Rule Unit := do
  skipInline
  if (← get).peek ['\n'] then
    modify (·.advance 1)
    skipBlankLines
  else failHere (.expected .event)

end Rule
end StoryPlayer
