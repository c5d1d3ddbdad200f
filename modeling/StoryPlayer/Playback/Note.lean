import StoryPlayer.Playback.Player

/-!
# Notes

Playback keeps a journal of notes. Each note has a level of importance, the part of the program
that writes it, and its words.
-/

namespace StoryPlayer

inductive Level where
  | debug
  | info
  | warning
  | error
  | critical
deriving Repr, DecidableEq

namespace Level

def name : Level → String
  | debug => "DEBUG"
  | info => "INFO"
  | warning => "WARNING"
  | error => "ERROR"
  | critical => "CRITICAL"

/-- Levels in figures; a journal keeps the notes that reach its threshold. -/
def severity : Level → Nat
  | debug => 10
  | info => 20
  | warning => 30
  | error => 40
  | critical => 50

end Level

inductive Note where
  | storyParsed (events : Nat)
  | playing (event : Event)
  | storyFinished
  | overwriting (label : Text)
  | stored (label : Text)
  | quitRequested (phase : Phase)
  | playbackEnded (ticks : Nat)
  | terminalRestored
  | noDefaultColours
  | storyNotLoaded (reason : Text)
  /-- With the trace of the failure. -/
  | playbackFailed (trace : Text)
  | answersAtExit (answers : Answers)
deriving Repr, DecidableEq

namespace Note

def level : Note → Level
  | storyParsed _ | playing _ | overwriting _ | terminalRestored | noDefaultColours => .debug
  | storyFinished | stored _ | quitRequested _ | playbackEnded _ | answersAtExit _ => .info
  | storyNotLoaded _ | playbackFailed _ => .error

/-- The part of the program that writes the note. -/
def source : Note → String
  | storyParsed _ => "adventure.parser"
  | playing _ | storyFinished | stored _ | quitRequested _ => "adventure.engine"
  | overwriting _ => "adventure.game_store"
  | playbackEnded _ => "adventure.game_loop"
  | terminalRestored | noDefaultColours => "adventure.terminal"
  | storyNotLoaded _ | playbackFailed _ | answersAtExit _ => "adventure.main"

def message : Note → Text
  | storyParsed events => ("Parsed story with " ++ toString events ++ " events").toList
  | playing event => "Playing ".toList ++ event.describe
  | storyFinished => "Story finished".toList
  | overwriting label => "Overwriting game store value for ".toList ++ label.quoted
  | stored label => "Stored input for ".toList ++ label.quoted
  | quitRequested phase => ("Quit requested in phase " ++ phase.name).toList
  | playbackEnded ticks => ("Playback ended after " ++ toString ticks ++ " ticks").toList
  | terminalRestored => "Terminal restored".toList
  | noDefaultColours => "Terminal has no default colours; using a black background".toList
  | storyNotLoaded reason => "Could not load story: ".toList ++ reason
  | playbackFailed trace => "Playback failed\n".toList ++ trace
  | answersAtExit answers => "Game store at exit: ".toList ++ answers.describe

/-- The note as a line of the journal. -/
def line (note : Note) : Text :=
  (note.level.name ++ " " ++ note.source ++ ": ").toList ++ note.message

end Note

/-- The notes on storing an answer. -/
def Answers.insertNotes (answers : Answers) (label : Text) : List Note :=
  if answers.contains label then [.overwriting label] else []

namespace Player

/-- The notes on playing events up to the one that suspends playback. -/
def playNotes : Story → List Note
  | [] => [.storyFinished]
  | .clear :: events => .playing .clear :: playNotes events
  | event :: _ => [.playing event]

/-- The notes that the next step writes. -/
def stepNotes (p : Player) : List Note :=
  match p.phase with
  | .updating => playNotes p.upcoming
  | .committing =>
    match p.label with
    | some label => p.answers.insertNotes label ++ [.stored label]
    | none => []
  | _ => []

def quitNotes (p : Player) : List Note :=
  if p.finished then [] else [.quitRequested p.phase]

/-- The notes that a key press writes. -/
def pressNotes (key : Key) (p : Player) : List Note :=
  if key.kind = .quit then p.quitNotes else []

end Player
end StoryPlayer
