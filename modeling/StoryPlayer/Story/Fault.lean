import StoryPlayer.Text.Basic

/-!
# Faults in story markup

A fault has a cause and a place. The place is an offset into the document, and is shown to authors
as a line and a column that count from one.
-/

namespace StoryPlayer

/-- What the markup should have held. -/
inductive Expectation where
  | command
  | argument
  | text
  | event
deriving Repr, DecidableEq

def Expectation.name : Expectation → String
  | command => "command"
  | argument => "argument"
  | text => "text"
  | event => "event"

inductive FaultCause where
  | unknownCommand (name : Text)
  | missingArgument (command : Text)
  | expected (what : Expectation)
  /-- A look beyond the end of the document. -/
  | pastEnd
deriving Repr, DecidableEq

/-- The complaint without its place. -/
def FaultCause.detail : FaultCause → Text
  | unknownCommand name => "Unknown command: +".toList ++ name
  | missingArgument command =>
    "Command +".toList ++ command ++ " requires an argument (+".toList ++ command ++
      ":value)".toList
  | expected what => "Expected ".toList ++ what.name.toList
  | pastEnd => "string index out of range".toList

/-- A fault and the offset where it was found. -/
structure Fault where
  cause : FaultCause
  position : Int
deriving Repr, DecidableEq

/-- The part of the document before an offset. A negative offset counts from the end. -/
def textBefore (source : Text) (position : Int) : Text := source.takeSigned position

/-- The line that an offset lies on. -/
def lineAt (source : Text) (position : Int) : Nat := (textBefore source position).count '\n' + 1

/-- The column that an offset lies in: its distance from the last line start before it. -/
def columnAt (source : Text) (position : Int) : Int :=
  let past := textBefore source position
  let lineStart := past.length - (past.reverse.takeWhile (· != '\n')).length
  position - lineStart + 1

/-- A complaint with its place. -/
def located (source : Text) (position : Int) (detail : Text) : Text :=
  detail ++ " at line ".toList ++ (toString (lineAt source position)).toList ++
    ", column ".toList ++ (toString (columnAt source position)).toList

/-- The complaint as an author reads it. -/
def Fault.message (source : Text) (fault : Fault) : Text :=
  match fault.cause with
  | .pastEnd => fault.cause.detail
  | cause => located source fault.position cause.detail

end StoryPlayer
