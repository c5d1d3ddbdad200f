import StoryPlayer.Playback.Loop

/-!
# Rehearsals

A rehearsal plays a story with scripted keys and a clock that is moved by hand, and records every
call the loop makes. The clock can be any state that is read and moved by the calls, so a rehearsal
can follow any course of time.
-/

namespace StoryPlayer

/-- How the calls of a rehearsal read and move its clock. -/
structure Timing (τ : Type) where
  read : τ → Float × τ
  rendered : τ → τ
  polled : τ → τ
  slept : Float → τ → τ

/-- What one poll of a rehearsal gives. -/
inductive Cue where
  | nothing
  | key (key : Key)
  /-- A key that cannot be made, because its kind is unknown. -/
  | unknownKey (kind : UnknownName)
  | failure (failure : Failure)
deriving Repr, DecidableEq

/-- A call that the loop makes. -/
inductive Call where
  | render (view : View)
  | poll (key : Option Key)
  | pollFailed
  | sleep (seconds : Float)

structure Rehearsal (τ : Type) where
  clock : τ
  cues : List Cue := []
  /-- What a poll gives after the last cue. -/
  atEnd : Cue := .key Key.quit
  /-- The renders that succeed before one fails, if one does. -/
  goodRenders : Option Nat := none
  /-- What the render that fails fails with. -/
  renderFailure : Failure := .system "terminal went away".toList
  /-- The calls so far, latest first. -/
  callsBack : List Call := []
  /-- The notes so far, latest first. -/
  notesBack : List Note := []

namespace Rehearsal

variable {τ : Type}

def calls (r : Rehearsal τ) : List Call := r.callsBack.reverse

def notes (r : Rehearsal τ) : List Note := r.notesBack.reverse

def record (call : Call) (r : Rehearsal τ) : Rehearsal τ :=
  { r with callsBack := call :: r.callsBack }

/-- A failing render is recorded and takes no time. -/
def render (timing : Timing τ) (view : View) : EStateM Failure (Rehearsal τ) Unit := fun r =>
  let recorded := r.record (.render view)
  match r.goodRenders with
  | some 0 => .error r.renderFailure recorded
  | some (n + 1) =>
    .ok () { recorded with goodRenders := some n, clock := timing.rendered r.clock }
  | none => .ok () { recorded with clock := timing.rendered r.clock }

/-- What a cue comes to. A key that cannot be made is not recorded. -/
def follow (r : Rehearsal τ) : Cue → EStateM.Result Failure (Rehearsal τ) (Option Key)
  | .nothing => .ok none (r.record (.poll none))
  | .key key => .ok (some key) (r.record (.poll (some key)))
  | .unknownKey kind => .error (.unknownKey kind) r
  | .failure failure => .error failure (r.record .pollFailed)

/-- A poll takes its time before it gives anything. -/
def poll (timing : Timing τ) : EStateM Failure (Rehearsal τ) (Option Key) := fun r =>
  follow { r with clock := timing.polled r.clock, cues := r.cues.tail } (r.cues.headD r.atEnd)

def host (timing : Timing τ) : Host (Rehearsal τ) where
  now := fun r =>
    let (time, clock) := timing.read r.clock
    (time, { r with clock })
  render := render timing
  poll := poll timing
  sleep := fun seconds r => { r.record (.sleep seconds) with clock := timing.slept seconds r.clock }
  note := fun note r => { r with notesBack := note :: r.notesBack }

end Rehearsal

/-- A clock whose calls each cost a fixed time. -/
structure SteppedClock where
  time : Float := 100.0
  readCost : Float := 0.0
  renderCost : Float := 0.0
  pollCost : Float := 0.0

namespace SteppedClock

def move (seconds : Float) (c : SteppedClock) : SteppedClock := { c with time := c.time + seconds }

def timing : Timing SteppedClock where
  read := fun c => (c.time, c.move c.readCost)
  rendered := fun c => c.move c.renderCost
  polled := fun c => c.move c.pollCost
  slept := move

end SteppedClock
end StoryPlayer
