import StoryPlayer.Program
import StoryPlayer.Terminal.Control

/-!
# The command line

The outer layer of the program. For each tick it looks at the clock and the keyboard, lets the
player take the tick on a stage made from that, and shows what the stage has recorded.

The terminal should be in key-by-key mode without echo when the program starts. The home key, or
the end of the input, quits. The keyboard is read one key ahead, so a story that comes to its end
leaves with the next key.
-/

namespace StoryPlayer.CommandLine

def readEnvFile : IO EnvSource := do
  try
    return .file (← IO.FS.readFile (String.ofList envFileName)).toList
  catch _ => return .absent

/-- The variables that can make a difference: the settings, and the names in the file. -/
def relevantVariables (envFile : EnvSource) : List Text :=
  [charSetting.name, tickSetting.name, logFileVariable, logLevelVariable, disablingVariable] ++
    (envFile.statements OrderedMap.empty).flatMap (·.2.names)

def readEnvironment (envFile : EnvSource) : IO Environment :=
  (relevantVariables envFile).foldlM (fun env name => do
    match ← IO.getEnv (String.ofList name) with
    | some value => return env.insert name value.toList
    | none => return env) OrderedMap.empty

/-- Rows or columns, if the environment tells them. -/
def readExtent (name : String) (default : Int) : IO Int := do
  match ← IO.getEnv name with
  | some value => return (readInteger? value.toList).getD default
  | none => return default

def readWindowSize : IO WindowSize := do
  return ⟨← readExtent "LINES" 24, ← readExtent "COLUMNS" 80⟩

/-- The seconds on a clock that never goes back. -/
def readSeconds : IO Float := do
  return (← IO.monoNanosNow).toFloat / 1000000000.0

/-- Collects the characters that are typed, up to the home key or the end of the input. -/
partial def listen (input : IO.FS.Stream) (typed : IO.Ref Text) (begun : ByteArray) : IO Unit := do
  let read ← input.read 1
  let bytes := begun ++ read
  if read.isEmpty then typed.modify (· ++ controlSequence "H")
  else
    match String.fromUTF8? bytes with
    | some text =>
      typed.modify (· ++ text.toList)
      unless endsWithHome (← typed.get) do listen input typed .empty
    | none => listen input typed (if bytes.size < 4 then bytes else .empty)

def takeKey? (typed : IO.Ref Text) : IO (Option RawKey) :=
  typed.modifyGet fun text =>
    match takeRawKey? text with
    | some (raw, rest) => (some raw, rest)
    | none => (none, text)

/-- The stage as the clock and the keyboard are now. -/
def lookAround (typed : IO.Ref Text) (stage : Stage) : IO Stage := do
  let key? ← takeKey? typed
  return { stage with
    clock := ← readSeconds
    script := (key?.map ScriptEntry.key).toList
    framesBack := stage.framesBack.take 1 }

def send (text : Text) : IO Unit := do
  let output ← IO.getStdout
  output.putStr (String.ofList text)
  output.flush

def sleepUntil (time : Float) : IO Unit := do
  let remaining := time - (← readSeconds)
  if 0.0 < remaining then IO.sleep (remaining * 1000.0).toUInt32

/-- Ticks until playback ends. -/
partial def play (typed : IO.Ref Text) (interval : Float) (ticks : Nat) (run : Run Stage) :
    IO (EStateM.Result Failure (Run Stage) (Option Nat)) := do
  let before ← lookAround typed run.world
  match Run.play Stage.host interval 1 ticks { run with world := before } with
  | .ok none run =>
    let shown := run.world.frames.drop before.frames.length
    shown.forM fun calls => send (frameSequence calls)
    sleepUntil run.world.clock
    play typed interval (ticks + 1) run
  | result => return result

/-- Plays in a session on the terminal. -/
def perform (interval : Float) (run : Run Stage) :
    IO (EStateM.Result Failure (Run Stage) (Option Nat)) := do
  let typed ← IO.mkRef []
  let _ ← IO.asTask (listen (← IO.getStdin) typed .empty) .dedicated
  match Run.inWorld (do Stage.enter; Stage.setUp) run with
  | .error failure run => return .error failure run
  | .ok _ run =>
    send (run.world.session.flatMap SessionCall.sequence)
    let result ←
      try play typed interval 0 run
      finally send ([SessionCall.keypad false, .leave].flatMap SessionCall.sequence)
    return Failure.cleanUp (Run.inWorld Stage.restore) result

/-- The journal that the settings ask for, opened at its end. -/
def openJournal (settings : Settings) : IO (JournalKeeping × Option IO.FS.Handle) := do
  match settings.logFile with
  | none => return (.none, none)
  | some path =>
    let handle ← IO.FS.Handle.mk (String.ofList path.render) .append
    return (.file settings.logLevel [], some handle)

/-- Writes the journal, prints what there is to print, and gives the exit code. -/
def finish (journal : Option IO.FS.Handle) (report : Report) : IO UInt32 := do
  if let some handle := journal then
    (report.journalLines?.getD []).forM fun line => handle.putStrLn (String.ofList line)
  report.stderr.forM fun line => IO.eprintln (String.ofList line)
  match report.ending with
  | .exit code => return code.toUInt32
  | .escape error =>
    IO.eprintln (String.ofList error.message)
    return 1
  | .unfinished => return 1

def run : IO UInt32 := do
  let envFile ← readEnvFile
  let env ← readEnvironment envFile
  let stage : Stage := { size := ← readWindowSize, colours := true }
  match Program.configure env envFile with
  | (printed, .error ending) => finish none ⟨⟨printed, .none⟩, ending, none, stage⟩
  | (printed, .ok settings) =>
    let (keeping, journal) ← openJournal settings
    let account : Account := ⟨printed, keeping⟩
    match Program.prepare account settings.charDuration (.bundled entryStoryName) stage with
    | .error report => finish journal report
    | .ok playback =>
      let result ← perform settings.tickInterval playback
      finish journal (Program.conclude account result)

end StoryPlayer.CommandLine

def main : IO UInt32 := StoryPlayer.CommandLine.run
