import StoryPlayer.Settings.Environment
import StoryPlayer.Settings.EnvFile
import StoryPlayer.Settings.Interpolation

/-!
# Loading an environment file

The bindings of a file are added to an environment. Variables that are set already keep their
values. A value may refer to variables of the environment and to earlier names of the file.
-/

namespace StoryPlayer

/-- The names that a file binds, some to no value. -/
abbrev Bindings := OrderedMap Text (Option Text)

/-- The value of a reference: from the environment, else from the bindings. The default serves
only a name that neither knows. -/
def Bindings.referenceValue (env : Environment) (bound : Bindings) (reference : Reference) : Text :=
  match env.find? reference.name with
  | some value => value
  | none =>
    match bound.find? reference.name with
    | some value => value.getD []
    | none => reference.fallback.getD []

def Bindings.bind (env : Environment) (bound : Bindings) : Statement → Bindings
  | .binding name value => bound.insert name (value.map (interpolate (bound.referenceValue env)))
  | _ => bound

/-- The bindings of a file, later ones of a name replacing earlier ones. -/
def Bindings.ofStatements (env : Environment) (statements : List (Nat × Statement)) : Bindings :=
  statements.foldl (fun bound statement => bound.bind env statement.2) OrderedMap.empty

/-- Sets the variables that have a value and are not set yet. -/
def Environment.extend (env : Environment) :
    List (Text × Option Text) → Except EnvironmentError Environment
  | [] => .ok env
  | (name, value) :: entries =>
    match value with
    | none => env.extend entries
    | some value =>
      if env.contains name then env.extend entries
      else do
        let env ← env.set name value
        env.extend entries

/-- The lines where statements begin that could not be read. -/
def malformedLines (statements : List (Nat × Statement)) : List Nat :=
  (statements.filter (·.2 == .malformed)).map (·.1)

/-- The report on a statement that could not be read. -/
def malformedWarning (line : Nat) : Text :=
  ("python-dotenv could not parse statement starting at line " ++ toString line).toList

/-- The variable that turns loading off. -/
def disablingVariable : Text := "PYTHON_DOTENV_DISABLED".toList

/-- Small letters for capitals; the long s counts as an s. -/
def foldCase (c : Char) : Char := if c = 'ſ' then 's' else c.toLower

def Environment.loadingDisabled (env : Environment) : Bool :=
  match env.find? disablingVariable with
  | some value =>
    ["1", "true", "t", "yes", "y"].any fun word => word.toList == value.map foldCase
  | none => false

/-- What an environment file is found to be. -/
inductive EnvSource where
  | absent
  | directory
  | file (content : Text)
deriving Repr, DecidableEq

/-- The statements to load: those of the file, if there is one and loading is not turned off. -/
def EnvSource.statements (env : Environment) : EnvSource → List (Nat × Statement)
  | .file content => if env.loadingDisabled then [] else EnvFile.parse content
  | .absent | .directory => []

/-- The names that a statement binds or refers to. -/
def Statement.names : Statement → List Text
  | .binding name value => name :: (references (value.getD [])).map (·.name)
  | _ => []

/-- The outcome of loading a file. -/
structure Loaded where
  /-- Whether the file bound any name. -/
  bound : Bool
  env : Environment
deriving Repr, DecidableEq

/-- Adds what the statements bind. -/
def Environment.load (env : Environment) (statements : List (Nat × Statement)) :
    Except EnvironmentError Loaded := do
  let bindings := Bindings.ofStatements env statements
  let extended ← env.extend bindings.entries
  return ⟨!bindings.entries.isEmpty, extended⟩

end StoryPlayer
