import StoryPlayer.Playback.Player

/-!
# Failures

What can stop a playback: a step of the player, the terminal, or whatever else the player's
surroundings run into.
-/

namespace StoryPlayer

inductive Failure where
  | step (error : StepError)
  /-- The terminal refused a call. -/
  | terminal (message : Text)
  /-- The operating system reported an error. -/
  | system (message : Text)
  /-- Something went wrong while the program ran. -/
  | runtime (message : Text)
  /-- A value that a call cannot take. -/
  | badValue (message : Text)
  /-- A key of no known kind. -/
  | unknownKey (kind : UnknownName)
  /-- A failure in dealing with an earlier one, which it hides. -/
  | inCleanUp (earlier later : Failure)
deriving Repr, DecidableEq

namespace Failure

/-- The kind of failure as reports name it. -/
def kind : Failure → String
  | step (.reveal .undefined) => "ValueError"
  | step (.reveal .infinite) => "OverflowError"
  | step .noLabel => "RuntimeError"
  | step (.denied _) => "TransitionNotAllowed"
  | terminal _ => "error"
  | system _ => "OSError"
  | runtime _ => "RuntimeError"
  | badValue _ => "ValueError"
  | unknownKey _ => "ValueError"
  | inCleanUp _ later => later.kind

def message : Failure → Text
  | step error => error.message
  | terminal message | system message | runtime message | badValue message => message
  | unknownKey kind => kind.message
  | inCleanUp _ later => later.message

/-- The failure as a report shows it. -/
def describe (failure : Failure) : Text :=
  failure.kind.toList ++ '(' :: failure.message.quoted ++ [')']

/-- Stands in a trace between a failure and one in dealing with it. -/
def traceSeparator : Text :=
  "\n\nDuring handling of the above exception, another exception occurred:\n\n".toList

/-- The trace of the failure, as far as it does not tell where in the program it arose. A hidden
failure is told first. -/
def trace : Failure → Text
  | inCleanUp earlier later => earlier.trace ++ traceSeparator ++ later.trace
  | failure =>
    ("Traceback (most recent call last):\n" ++ failure.kind ++ ": ").toList ++ failure.message

/-- The end of an action after which there is something to clean up, however it ended. A failure
to clean up hides an earlier one. -/
def cleanUp {σ α : Type} (action : EStateM Failure σ Unit) :
    EStateM.Result Failure σ α → EStateM.Result Failure σ α
  | .ok value s =>
    match action s with
    | .ok _ s => .ok value s
    | .error failure s => .error failure s
  | .error failure s =>
    match action s with
    | .ok _ s => .error failure s
    | .error later s => .error (.inCleanUp failure later) s

end Failure
end StoryPlayer
