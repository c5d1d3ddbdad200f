import StoryPlayer.Playback.Loop
import StoryPlayer.Terminal.RawKey
import StoryPlayer.Terminal.Surface

/-!
# The stage

A stage is a terminal with a script: the keys it will report, the calls it will refuse, and a clock.
It records what is drawn and which calls are made.
-/

namespace StoryPlayer

/-- What a terminal can be asked for. Any of these may be refused. -/
inductive Facility where
  | enter
  | hideTyping
  | keyByKey
  | keypad (on : Bool)
  | noDelay
  | hasColours
  | startColours
  | defaultColours
  | colourPair
  | lineByLine
  | showTyping
  | leave
  | size
  | erase
  | write
  | styleAttribute
  | cursor
  | moveCursor
  | refresh
  | readKey
deriving Repr, DecidableEq

/-- The calls that change how the terminal works. -/
inductive SessionCall where
  | enter
  | hideTyping
  | keyByKey
  | keypad (on : Bool)
  | noDelay
  | startColours
  | defaultColours
  | colourPair (pair : Nat) (foreground background : Int)
  | lineByLine
  | showTyping
  | leave
  /-- What is done between entering and leaving. -/
  | body
deriving Repr, DecidableEq

/-- What one look for a key gives. -/
inductive ScriptEntry where
  | nothing
  | key (raw : RawKey)
  | resize (size : WindowSize)
  | failure (failure : Failure)
deriving Repr, DecidableEq

structure Stage where
  size : WindowSize := ⟨24, 80⟩
  colours : Bool := false
  surface : Surface := .recording
  refusals : List (Facility × Text) := []
  script : List ScriptEntry := []
  /-- What a look for a key gives after the script. -/
  atEnd : ScriptEntry := .nothing
  clock : Float := 100.0
  /-- Seconds that a look at the clock takes. -/
  readCost : Float := 0.0
  /-- Seconds that a look for a key takes. -/
  pollCost : Float := 0.0
  /-- What is drawn since the window was erased, latest first. -/
  drawnBack : List DrawCall := []
  /-- The frames shown, each different from the one before it, latest first. -/
  framesBack : List (List DrawCall) := []
  renders : Nat := 0
  polls : Nat := 0
  sessionBack : List SessionCall := []
  notesBack : List Note := []

namespace Stage

def frames (stage : Stage) : List (List DrawCall) := stage.framesBack.reverse

def session (stage : Stage) : List SessionCall := stage.sessionBack.reverse

def notes (stage : Stage) : List Note := stage.notesBack.reverse

def writeNote (note : Note) (stage : Stage) : Stage :=
  { stage with notesBack := note :: stage.notesBack }

/-- Fails if the stage refuses the facility. -/
def use (facility : Facility) : EStateM Failure Stage Unit := fun stage =>
  match stage.refusals.find? (·.1 = facility) with
  | some (_, message) => .error (.terminal message) stage
  | none => .ok () stage

/-- Draws on the window, unless that has no room for the call. -/
def draw (call : DrawCall) : EStateM Failure Stage Unit := fun stage =>
  match call.cells stage.surface stage.size with
  | .ok _ => .ok () { stage with drawnBack := call :: stage.drawnBack }
  | .error failure => .error failure stage

def erase : EStateM Failure Stage Unit := do
  use .erase
  modify fun stage => { stage with drawnBack := [] }

/-- Shows what is drawn. A frame equal to the last one is not kept again. -/
def refresh : EStateM Failure Stage Unit := do
  use .refresh
  modify fun stage =>
    let frame := stage.drawnBack.reverse
    { stage with
      renders := stage.renders + 1
      framesBack :=
        if stage.framesBack.head? = some frame then stage.framesBack
        else frame :: stage.framesBack }

/-- The style of the prompt; a terminal without colours has only the plain one. -/
def promptStyle (mode : Mode) : EStateM Failure Stage Style := do
  use .hasColours
  if !(← get).colours then return .plain
  else if mode.style = .plain then return .plain
  else
    use .styleAttribute
    return mode.style

/-- Carries out a drawing call. A terminal that cannot show or hide its cursor is put up with. -/
def perform : DrawCall → EStateM Failure Stage Unit
  | .line row text limit => do
    use .write
    draw (.line row text limit)
  | .prompt row text limit style => do
    use .write
    draw (.prompt row text limit style)
  | .cursor visible => draw (.cursor visible)
  | .moveCursor row column => do
    use .moveCursor
    draw (.moveCursor row column)

/-- Shows a view. -/
def render (view : View) : EStateM Failure Stage Unit := do
  use .size
  let size := (← get).size
  erase
  (drawLines size (visibleLines size view)).forM perform
  let style ← promptStyle view.mode
  perform (drawPrompt size style view)
  (drawCursor size view).forM perform
  refresh

/-- The next entry of the script, which takes its time first. -/
def nextEntry : EStateM Failure Stage ScriptEntry := do
  modify fun stage =>
    { stage with polls := stage.polls + 1, clock := stage.clock + stage.pollCost }
  use .readKey
  let stage ← get
  set { stage with script := stage.script.tail }
  return stage.script.headD stage.atEnd

/-- A look for a raw key. A refusal of the terminal means that no key is there. -/
def readKey : EStateM Failure Stage (Option RawKey) := do
  try
    match ← nextEntry with
    | .nothing => return none
    | .key raw => return some raw
    | .resize size =>
      modify fun stage => { stage with size }
      return some .resize
    | .failure failure => throw failure
  catch
    | .terminal _ => return none
    | failure => throw failure

def poll : EStateM Failure Stage (Option Key) := do
  match ← readKey with
  | none => return none
  | some raw => return if raw ∈ RawKey.nonKeys then none else some raw.classify

def host : Host Stage where
  now := fun stage => (stage.clock, { stage with clock := stage.clock + stage.readCost })
  render := render
  poll := poll
  sleep := fun seconds stage => { stage with clock := stage.clock + seconds }
  note := writeNote

end Stage
end StoryPlayer
