import StoryPlayer.Playback.Failure
import StoryPlayer.Playback.Note

/-!
# The playback loop

Each tick takes one step of the player, shows the player's view, and polls one key. Ticks are
padded with sleep to a given length. The loop ends when the player is finished.

The surroundings come in as a `Host`, whose operations change a state of their own. When one of
them fails, the player and the surroundings stay as they were at that moment.
-/

namespace StoryPlayer

/-- The surroundings of a player: a clock, a screen, a keyboard and a journal. -/
structure Host (σ : Type) where
  now : σ → Float × σ
  render : View → EStateM Failure σ Unit
  poll : EStateM Failure σ (Option Key)
  sleep : Float → σ → σ
  note : Note → σ → σ

/-- A player in its surroundings. -/
structure Run (σ : Type) where
  player : Player
  world : σ

namespace Run

variable {σ : Type}

/-- An action of the surroundings. -/
def inWorld {α : Type} (action : EStateM Failure σ α) : EStateM Failure (Run σ) α := fun run =>
  match action run.world with
  | .ok a world => .ok a { run with world }
  | .error failure world => .error failure { run with world }

def onWorld (change : σ → σ) : EStateM Failure (Run σ) Unit :=
  modify fun run => { run with world := change run.world }

def writeNotes (host : Host σ) (notes : List Note) : EStateM Failure (Run σ) Unit :=
  onWorld fun world => notes.foldl (fun w note => host.note note w) world

def readClock (host : Host σ) : EStateM Failure (Run σ) Float := fun run =>
  let (time, world) := host.now run.world
  .ok time { run with world }

/-- An action of the player. -/
def onPlayer (action : Player.Action) : EStateM Failure (Run σ) Unit := fun run =>
  match action run.player with
  | .ok _ player => .ok () { run with player }
  | .error error player => .error (.step error) { run with player }

/-- One step of the player, which looks at the clock only if it has to. -/
def step (host : Host σ) : EStateM Failure (Run σ) Unit := do
  let player := (← get).player
  writeNotes host player.stepNotes
  if player.readsClock then
    let now ← readClock host
    onPlayer (Player.takeStep now)
  else onPlayer (Player.takeStep 0.0)

def press (host : Host σ) (key : Key) : EStateM Failure (Run σ) Unit := do
  writeNotes host ((← get).player.pressNotes key)
  onPlayer (Player.takeKey key)

def quit (host : Host σ) : EStateM Failure (Run σ) Unit := do
  writeNotes host (← get).player.quitNotes
  onPlayer Player.stop

/-- Shows the player's view and hands it the key that is polled then. -/
def showAndPoll (host : Host σ) : EStateM Failure (Run σ) Unit := do
  inWorld (host.render (← get).player.view)
  match ← inWorld host.poll with
  | some key => press host key
  | none => return ()

/-- One tick; tells whether playback goes on. -/
def tick (host : Host σ) : EStateM Failure (Run σ) Bool := do
  step host
  if (← get).player.finished then return false
  else
    showAndPoll host
    return !(← get).player.finished

/-- Sleeps away what is left of a tick that began at the given time. -/
def padTick (host : Host σ) (interval started : Float) : EStateM Failure (Run σ) Unit := do
  if 0.0 < interval then
    let now ← readClock host
    let remaining := interval - (now - started)
    if 0.0 < remaining then onWorld (host.sleep remaining)
    else return ()
  else return ()

/-- Ticks until playback ends, but at most `limit` times. The result is the number of ticks,
those counted before included, or nothing if the limit was reached. -/
def play (host : Host σ) (interval : Float) : Nat → Nat → EStateM Failure (Run σ) (Option Nat)
  | 0, _ => return none
  | limit + 1, ticks => do
    let started ← readClock host
    if ← tick host then
      padTick host interval started
      play host interval limit (ticks + 1)
    else
      writeNotes host [.playbackEnded (ticks + 1)]
      return some (ticks + 1)

end Run
end StoryPlayer
