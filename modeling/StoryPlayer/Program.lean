import StoryPlayer.Files.WorkingDirectory
import StoryPlayer.Playback.Journal
import StoryPlayer.Settings.Basic
import StoryPlayer.Story.Library
import StoryPlayer.Terminal.Session

/-!
# The program

The program loads the environment file, reads the settings, opens the journal, loads the story and
plays it in a terminal session. Bad settings and bad stories are reported before the terminal is
touched, and a playback that fails is reported after it is restored.
-/

namespace StoryPlayer

/-- The story to play. -/
inductive StoryChoice where
  | bundled (name : Text)
  | written (markup : Text)
deriving Repr, DecidableEq

/-- What the program finds when it starts. -/
structure Startup where
  env : Environment
  envFile : EnvSource
  story : StoryChoice
  stage : Stage

/-- Errors that end the program without a report of its own. -/
inductive Escape where
  | environment (error : EnvironmentError)
  | settings (error : SettingsError)
  | file (error : FileError)
  | pace (error : BadPace)
deriving Repr, DecidableEq

def Escape.message : Escape → Text
  | environment error => error.message
  | settings error => error.message
  | file error => error.message
  | pace error => error.message

/-- The end of a run of the program. -/
inductive Ending where
  | exit (code : Nat)
  | escape (error : Escape)
  /-- The limit on ticks was reached. -/
  | unfinished
deriving Repr, DecidableEq

/-- Where the notes go: nowhere, or to a journal with a threshold, at the end of what its file
holds already. -/
inductive JournalKeeping where
  | none
  | file (threshold : Nat) (content : Text)
deriving Repr, DecidableEq

/-- The lines that are read back from the journal after the notes that reach its threshold are
written. -/
def JournalKeeping.lines? (notes : List Note) : JournalKeeping → Option (List Text)
  | .none => Option.none
  | .file threshold content =>
    some (Journal.read (Journal.write content (notes.filter (threshold ≤ ·.level.severity))))

/-- What a note prints: without a journal, the words of the notes that matter. -/
def JournalKeeping.printed (note : Note) : JournalKeeping → List Text
  | .none => if Level.warning.severity ≤ note.level.severity then [note.message] else []
  | .file _ _ => []

/-- What the program has to say for itself. -/
structure Account where
  /-- What is printed for the user, in order. -/
  printed : List Text
  journal : JournalKeeping

/-- All that a run of the program leaves behind. -/
structure Report extends Account where
  ending : Ending
  player : Option Player
  stage : Stage

namespace Report

def stderr (report : Report) : List Text := report.printed.flatMap (Text.split '\n')

def journalLines? (report : Report) : Option (List Text) :=
  report.journal.lines? report.stage.notes

end Report

/-- Why there is no story to play. -/
inductive StoryProblem where
  | load (error : LoadError)
  | fault (source : Text) (fault : Fault)

def StoryChoice.markup : StoryChoice → Except LoadError Text
  | .bundled name => Library.load name
  | .written markup => .ok markup

def StoryChoice.story (choice : StoryChoice) : Except StoryProblem Story :=
  match choice.markup with
  | .error error => .error (.load error)
  | .ok source =>
    match Story.parse source with
    | .ok story => .ok story
    | .error fault => .error (.fault source fault)

namespace Program

/-- A message of the program to its user. -/
def complaint (message : Text) : Text := "text-adventure: ".toList ++ message

/-- The settings, or the end of a program that has none; and what is printed on the way. -/
def configure (env : Environment) (envFile : EnvSource) :
    List Text × Except Ending Settings :=
  let statements := envFile.statements env
  let printed := (malformedLines statements).map malformedWarning
  match env.load statements with
  | .error error => (printed, .error (.escape (.environment error)))
  | .ok loaded =>
    match Settings.ofEnvironment loaded.env with
    | .error .tooLong => (printed, .error (.escape (.settings .tooLong)))
    | .error error => (printed ++ [complaint error.message], .error (.exit 1))
    | .ok settings => (printed, .ok settings)

/-- Opens the journal that the settings ask for. -/
def openJournal (envFile : EnvSource) (settings : Settings) : Except FileError JournalKeeping :=
  match settings.logFile with
  | none => .ok .none
  | some path => do
    let content ← WorkingDirectory.openForWriting envFile path
    return .file settings.logLevel content

/-- Reports a story that cannot be played. -/
def reject (account : Account) (stage : Stage) (reason : Text) : Report :=
  let note := Note.storyNotLoaded reason
  let printed := account.printed ++ account.journal.printed note ++ [complaint reason]
  ⟨{ account with printed }, .exit 1, none, stage.writeNote note⟩

/-- Puts a player of the story on the stage, unless there is no such story. -/
def prepare (account : Account) (charDuration : Float) (choice : StoryChoice) (stage : Stage) :
    Except Report (Run Stage) :=
  match choice.story with
  | .error (.load (.file error)) => .error ⟨account, .escape (.file error), none, stage⟩
  | .error (.load error) => .error (reject account stage error.message)
  | .error (.fault source fault) => .error (reject account stage (fault.message source))
  | .ok story =>
    let stage := stage.writeNote (.storyParsed story.length)
    match Player.new story charDuration OrderedMap.empty with
    | .error error => .error ⟨account, .escape (.pace error), none, stage⟩
    | .ok player => .ok ⟨player, stage⟩

/-- Reports how a playback went. -/
def conclude (account : Account) :
    EStateM.Result Failure (Run Stage) (Option Nat) → Report
  | .ok (some _) run =>
    ⟨account, .exit 0, run.player, run.world.writeNote (.answersAtExit run.player.answers)⟩
  | .ok none run => ⟨account, .unfinished, run.player, run.world⟩
  | .error failure run =>
    let note := Note.playbackFailed failure.trace
    let printed :=
      account.printed ++ account.journal.printed note ++ [complaint failure.describe]
    ⟨{ account with printed }, .exit 1, run.player, run.world.writeNote note⟩

/-- Plays in a terminal session, with at most `limit` ticks. -/
def perform (limit : Nat) (tickInterval : Float) :
    EStateM Failure (Run Stage) (Option Nat) :=
  inSession Run.inWorld (Run.play Stage.host tickInterval limit 0)

/-- Runs the program with at most `limit` ticks of playback. -/
def run (limit : Nat) (startup : Startup) : Report :=
  match configure startup.env startup.envFile with
  | (printed, .error ending) => ⟨⟨printed, .none⟩, ending, none, startup.stage⟩
  | (printed, .ok settings) =>
    match openJournal startup.envFile settings with
    | .error error => ⟨⟨printed, .none⟩, .escape (.file error), none, startup.stage⟩
    | .ok journal =>
      match prepare ⟨printed, journal⟩ settings.charDuration startup.story startup.stage with
      | .error report => report
      | .ok run => conclude ⟨printed, journal⟩ (perform limit settings.tickInterval run)

end Program
end StoryPlayer
