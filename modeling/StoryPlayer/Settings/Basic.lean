import StoryPlayer.Number.Nearest
import StoryPlayer.Number.Numeral
import StoryPlayer.Settings.Environment
import StoryPlayer.Files.Path
import StoryPlayer.Text.Quoted
import StoryPlayer.Text.Upper

/-!
# Settings

The player's settings come from environment variables: two durations in milliseconds, and the
file and the level of the journal. The first variable that does not make sense is reported.
-/

namespace StoryPlayer

structure Settings where
  /-- Seconds for each revealed character. -/
  charDuration : Float
  /-- The shortest tick in seconds; zero polls without a break. -/
  tickInterval : Float
  logFile : Option Path
  logLevel : Nat

inductive SettingsError where
  | notANumber (name : Text) (raw : Text)
  | outOfRange (name : Text) (zeroAllowed : Bool) (value : Int)
  | unknownLevel (name : Text) (raw : Text)
  /-- A duration beyond all doubles. -/
  | tooLong
deriving Repr, DecidableEq

def SettingsError.message : SettingsError → Text
  | notANumber name raw =>
    name ++ " must be an integer number of milliseconds, got ".toList ++ raw.quoted
  | outOfRange name zeroAllowed value =>
    name ++ (if zeroAllowed then " must be >= 0, got " else " must be > 0, got ").toList ++
      (toString value).toList
  | unknownLevel name raw => name ++ " must be a logging level name, got ".toList ++ raw.quoted
  | tooLong => "integer division result too large for a float".toList

/-- A duration that is set in milliseconds. -/
structure DurationSetting where
  name : Text
  default : Nat
  zeroAllowed : Bool

def charSetting : DurationSetting := ⟨"ADVENTURE_CHAR_MS".toList, 30, false⟩
def tickSetting : DurationSetting := ⟨"ADVENTURE_TICK_MS".toList, 16, true⟩
def logFileVariable : Text := "ADVENTURE_LOG_FILE".toList
def logLevelVariable : Text := "ADVENTURE_LOG_LEVEL".toList

def secondsOf (milliseconds : Nat) : Except SettingsError Float :=
  match nearestDouble? milliseconds 1000 with
  | some seconds => .ok seconds
  | none => .error .tooLong

/-- The seconds that a duration is set to. Nothing but blanks counts as not set. -/
def DurationSetting.read (setting : DurationSetting) (env : Environment) :
    Except SettingsError Float :=
  match env.find? setting.name with
  | none => secondsOf setting.default
  | some raw =>
    if raw.all isBlank then secondsOf setting.default
    else match readInteger? raw with
      | none => .error (.notANumber setting.name raw)
      | some value =>
        if value < 0 ∨ (value = 0 ∧ setting.zeroAllowed = false) then
          .error (.outOfRange setting.name setting.zeroAllowed value)
        else secondsOf value.toNat

/-- The levels of a journal by name. -/
def levelNames : List (String × Nat) :=
  [("CRITICAL", 50), ("FATAL", 50), ("ERROR", 40), ("WARN", 30), ("WARNING", 30), ("INFO", 20),
   ("DEBUG", 10), ("NOTSET", 0)]

def defaultLevel : Text := "INFO".toList

/-- The level of the journal, in capitals or not. -/
def readLogLevel (env : Environment) : Except SettingsError Nat :=
  let name := (((env.find? logLevelVariable).getD defaultLevel).trim isBlank).upper
  match levelNames.find? (·.1.toList == name) with
  | some (_, level) => .ok level
  | none => .error (.unknownLevel logLevelVariable name)

/-- The file of the journal; an empty name counts as none. -/
def readLogFile (env : Environment) : Option Path :=
  match env.find? logFileVariable with
  | none | some [] => none
  | some name => some (Path.parse name)

def Settings.ofEnvironment (env : Environment) : Except SettingsError Settings := do
  let charDuration ← charSetting.read env
  let tickInterval ← tickSetting.read env
  let logLevel ← readLogLevel env
  return ⟨charDuration, tickInterval, readLogFile env, logLevel⟩

end StoryPlayer
