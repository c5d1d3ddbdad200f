import StoryPlayer.Terminal.Stage

/-!
# Terminal sessions

A session puts the terminal into key-by-key mode and restores it on the way out, however the work
in between ends.
-/

namespace StoryPlayer
namespace Stage

/-- Records the call, and then makes it. -/
def call (facility : Facility) (call : SessionCall) : EStateM Failure Stage Unit := do
  modify fun stage => { stage with sessionBack := call :: stage.sessionBack }
  use facility

def yellow : Int := 3
def green : Int := 2
def black : Int := 0

/-- The terminal's own background. -/
def ownBackground : Int := -1

/-- The background for the prompt's colours: the terminal's own, or black if it has none. -/
def chooseBackground : EStateM Failure Stage Int := do
  try
    call .defaultColours .defaultColours
    return ownBackground
  catch
    | .terminal _ =>
      modify (writeNote .noDefaultColours)
      return black
    | failure => throw failure

def setColours : EStateM Failure Stage Unit := do
  use .hasColours
  if (← get).colours then
    call .startColours .startColours
    let background ← chooseBackground
    call .colourPair (.colourPair Style.question.pair yellow background)
    call .colourPair (.colourPair Style.pause.pair green background)
  else return ()

def enter : EStateM Failure Stage Unit := call .enter .enter

def setUp : EStateM Failure Stage Unit := do
  call .hideTyping .hideTyping
  call .keyByKey .keyByKey
  call (.keypad true) (.keypad true)
  call .noDelay .noDelay
  setColours

def restore : EStateM Failure Stage Unit := do
  call (.keypad false) (.keypad false)
  call .lineByLine .lineByLine
  call .showTyping .showTyping
  call .leave .leave
  modify (writeNote .terminalRestored)

end Stage

/-- Runs a body in a session on the stage that `onStage` reaches. A failure to enter is final. Once
entered, the terminal is restored whatever happens; a failure to restore hides an earlier one. -/
def inSession {σ α : Type} (onStage : EStateM Failure Stage Unit → EStateM Failure σ Unit)
    (body : EStateM Failure σ α) : EStateM Failure σ α := do
  onStage Stage.enter
  fun s => Failure.cleanUp (onStage Stage.restore) ((onStage Stage.setUp *> body) s)

end StoryPlayer
