import StoryPlayer.Text.Quoted

/-!
# Phases of playback

A player is always in one phase, and moves to another only by a signal that the phase allows.
Playback can be finished from every other phase, and nothing leads out of the finished phase.
-/

namespace StoryPlayer

inductive Phase where
  | updating
  | revealing
  | waiting
  | committing
  | finished
deriving Repr, DecidableEq

/-- What a key press means to the player. -/
inductive Mode where
  | disabled
  | awaitingInput
  | awaitingAnyKey
deriving Repr, DecidableEq

inductive Signal where
  | respond
  | awaitKey
  | revealDone
  | submitInput
  | resume
  | inputCommitted
  | finish
deriving Repr, DecidableEq

namespace Phase

def all : List Phase := [updating, revealing, waiting, committing, finished]

def name : Phase → String
  | updating => "update"
  | revealing => "responding"
  | waiting => "awaiting_external_event"
  | committing => "committing_input"
  | finished => "finished"

def ofName? (name : Text) : Option Phase := all.find? (·.name.toList == name)

/-- The phase that a signal leads to, if the phase allows it. -/
def next? : Phase → Signal → Option Phase
  | updating, .respond => some revealing
  | updating, .awaitKey => some waiting
  | revealing, .revealDone => some updating
  | waiting, .submitInput => some committing
  | waiting, .resume => some updating
  | committing, .inputCommitted => some updating
  | finished, _ => none
  | _, .finish => some finished
  | _, _ => none

end Phase

namespace Mode

def all : List Mode := [disabled, awaitingInput, awaitingAnyKey]

def name : Mode → String
  | disabled => "disabled"
  | awaitingInput => "awaiting_input"
  | awaitingAnyKey => "awaiting_any_key"

def ofName? (name : Text) : Option Mode := all.find? (·.name.toList == name)

end Mode

namespace Signal

def all : List Signal :=
  [respond, awaitKey, revealDone, submitInput, resume, inputCommitted, finish]

def name : Signal → String
  | respond => "respond"
  | awaitKey => "await_key"
  | revealDone => "reveal_done"
  | submitInput => "submit_input"
  | resume => "resume"
  | inputCommitted => "input_committed"
  | finish => "finish"

def ofName? (name : Text) : Option Signal := all.find? (·.name.toList == name)

end Signal

/-- The refusal of a signal. -/
structure Denied where
  signal : Signal
  phase : Phase
deriving Repr, DecidableEq

def Denied.message (d : Denied) : Text :=
  ("Can't " ++ d.signal.name ++ " when in " ++ d.phase.name ++ ".").toList

/-- Follows a signal or refuses it. -/
def Phase.fire (phase : Phase) (signal : Signal) : Except Denied Phase :=
  match phase.next? signal with
  | some next => .ok next
  | none => .error ⟨signal, phase⟩

theorem Phase.next?_finish {phase : Phase} (h : phase ≠ .finished) :
    phase.next? .finish = some .finished := by
  cases phase <;> first | rfl | exact absurd rfl h

/-- A name that stands for nothing of its kind. -/
structure UnknownName where
  kind : String
  /-- The name as it is shown. -/
  shown : Text
deriving Repr, DecidableEq

def UnknownName.message (e : UnknownName) : Text :=
  e.shown ++ " is not a valid ".toList ++ e.kind.toList

def Phase.ofName (name : Text) : Except UnknownName Phase :=
  match ofName? name with
  | some phase => .ok phase
  | none => .error ⟨"EnginePhase", name.quoted⟩

def Mode.ofName (name : Text) : Except UnknownName Mode :=
  match ofName? name with
  | some mode => .ok mode
  | none => .error ⟨"InputMode", name.quoted⟩

end StoryPlayer
