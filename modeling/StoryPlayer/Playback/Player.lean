import StoryPlayer.Number.Whole
import StoryPlayer.Playback.Answers
import StoryPlayer.Playback.Key
import StoryPlayer.Playback.View
import StoryPlayer.Story.Event

/-!
# The player

A player plays a story one step at a time. A step plays the next events, reveals more of a text or
stores an answer; a key press types into the answer or ends a pause. Nothing here waits: a player
that waits for a key is in a phase that a step leaves alone.

The time comes in as a clock reading, and only some steps need one.
-/

namespace StoryPlayer

structure Player where
  /-- The events that are not played yet. -/
  upcoming : Story
  /-- Seconds for each revealed character. -/
  charDuration : Float
  answers : Answers
  phase : Phase := .updating
  mode : Mode := .disabled
  /-- The text that is being revealed. -/
  response : Text := []
  /-- The clock reading when the reveal began. -/
  startedAt : Float := 0.0
  /-- How many characters are revealed; a negative count leaves that many off at the end. -/
  revealed : Int := 0
  inputBuffer : Text := []
  /-- The label of the question that waits for an answer. -/
  label : Option Text := none
  output : List Text := []

/-- The refusal of a pace that is no pace. -/
structure BadPace where
deriving Repr, DecidableEq

def BadPace.message (_ : BadPace) : Text := "char_duration must be positive".toList

inductive StepError where
  /-- The number of characters to reveal is not defined, or it is without bound. -/
  | reveal (cause : NotFinite)
  /-- An answer is to be stored, but there is no label to store it under. -/
  | noLabel
  | denied (refusal : Denied)
deriving Repr, DecidableEq

def StepError.message : StepError → Text
  | reveal .undefined => "cannot convert float NaN to integer".toList
  | reveal .infinite => "cannot convert float infinity to integer".toList
  | noLabel => "Committing input without a pending label".toList
  | denied refusal => refusal.message

namespace Player

/-- A player at the start of a story. -/
def new (story : Story) (charDuration : Float) (answers : Answers) : Except BadPace Player :=
  if charDuration ≤ 0.0 then .error {}
  else .ok { upcoming := story, charDuration, answers }

def finished (p : Player) : Bool := p.phase == .finished

def revealedText (p : Player) : Text := p.response.takeSigned p.revealed

/-- Seconds since the reveal began; a clock that went back counts as no time. -/
def elapsed (now : Float) (p : Player) : Float :=
  let since := now - p.startedAt
  if 0.0 < since then since else 0.0

/-- How many characters the pace allows by now. -/
def paceCount (now : Float) (p : Player) : Except NotFinite Nat :=
  wholePart (p.elapsed now / p.charDuration)

/-- What is done to a player in place. An action that fails leaves the player as it had made it by
then. -/
abbrev Action := EStateM StepError Player Unit

def fire (signal : Signal) : Action := fun p =>
  match p.phase.fire signal with
  | .ok phase => .ok () { p with phase }
  | .error refusal => .error (.denied refusal) p

/-- Plays events until one of them suspends playback; a clearing never does. -/
def playFrom (now : Float) : Story → Action
  | [] => fire .finish
  | .clear :: events => do
    modify fun p => { p with upcoming := events, output := [] }
    playFrom now events
  | .text content :: events => do
    modify fun p => { p with
      upcoming := events, response := content, revealed := 0, startedAt := now, mode := .disabled }
    fire .respond
  | .input label :: events => do
    modify fun p => { p with upcoming := events, label := some label, mode := .awaitingInput }
    fire .awaitKey
  | .pause :: events => do
    modify fun p => { p with upcoming := events, mode := .awaitingAnyKey }
    fire .awaitKey

/-- Reveals the given number of characters; a text that is wholly revealed goes to the output. -/
def revealTo (count : Nat) : Action := do
  let total := (← get).response.length
  modify fun p => { p with revealed := min total count }
  if total ≤ count then
    modify fun p => { p with
      output := p.output ++ [p.response], revealed := 0, response := [] }
    fire .revealDone
  else return ()

def advanceReveal (now : Float) : Action := do
  match (← get).paceCount now with
  | .ok count => revealTo count
  | .error cause => throw (.reveal cause)

def commitInput : Action := do
  match (← get).label with
  | none => throw .noLabel
  | some label =>
    modify fun p => { p with answers := p.answers.insert label p.inputBuffer }
    modify fun p => { p with inputBuffer := [], label := none, mode := .disabled }
    fire .inputCommitted

/-- One step at the given clock reading. -/
def takeStep (now : Float) : Action := do
  let p ← get
  match p.phase with
  | .updating => playFrom now p.upcoming
  | .revealing => advanceReveal now
  | .committing => commitInput
  | .waiting | .finished => return ()

/-- Whether the next step looks at the clock. -/
def readsClock (p : Player) : Bool :=
  match p.phase with
  | .updating =>
    match p.upcoming.find? (· != .clear) with
    | some (.text _) => true
    | _ => false
  | .revealing => true
  | _ => false

/-- Ends playback, and drops all that is under way. -/
def stop : Action := do
  if (← get).finished then return ()
  else
    modify fun p => { p with
      response := [], revealed := 0, inputBuffer := [], label := none, mode := .disabled }
    fire .finish

/-- A key press while an answer is typed. -/
def typeKey (key : Key) : Action :=
  match key.kind, key.char with
  | .char, some typed => modify fun p => { p with inputBuffer := p.inputBuffer ++ typed }
  | .backspace, _ => modify fun p => { p with inputBuffer := p.inputBuffer.dropLast }
  | .enter, _ => fire .submitInput
  | _, _ => return ()

/-- A key press. The quit key ends playback in every phase, and all others count only while the
player waits for a key. -/
def takeKey (key : Key) : Action := do
  let p ← get
  if p.finished then return ()
  else if key.kind = .quit then stop
  else if p.phase ≠ .waiting then return ()
  else match p.mode with
    | .awaitingInput => typeKey key
    | .awaitingAnyKey =>
      modify fun p => { p with mode := .disabled }
      fire .resume
    | .disabled => return ()

/-- What an action makes of a player, or why it fails. -/
def outcome (action : Action) (p : Player) : Except StepError Player :=
  match action p with
  | .ok _ p' => .ok p'
  | .error error _ => .error error

theorem outcome_eq_ok_iff {action : Action} {p p' : Player} :
    outcome action p = .ok p' ↔ action p = .ok () p' := by
  rw [outcome]
  cases action p <;> simp

def step (now : Float) (p : Player) : Except StepError Player := outcome (takeStep now) p

def press (key : Key) (p : Player) : Except StepError Player := outcome (takeKey key) p

def quit (p : Player) : Except StepError Player := outcome stop p

def view (p : Player) : View where
  mode := p.mode
  phase := p.phase
  inputBuffer := p.inputBuffer
  outputLog := p.output
  revealing := if p.phase = .revealing then some p.revealedText else none

end Player
end StoryPlayer
