import StoryPlayer.Playback.Phase

/-!
# Views

A view is what a player shows at one moment.
-/

namespace StoryPlayer

structure View where
  mode : Mode
  phase : Phase
  inputBuffer : Text := []
  /-- Fully revealed texts, oldest first. -/
  outputLog : List Text := []
  /-- The revealed part of a text that is being revealed. -/
  revealing : Option Text := none
deriving Repr, DecidableEq

namespace View

def prompt (view : View) : Text := '>' :: ' ' :: view.inputBuffer

def showsCursor (view : View) : Bool := view.mode == .awaitingInput

/-- The lines of the revealed texts and of the text that is being revealed. -/
def displayLines (view : View) : List Text :=
  (view.outputLog ++ view.revealing.toList).flatMap (Text.split '\n')

end View
end StoryPlayer
