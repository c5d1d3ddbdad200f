import StoryPlayer.OrderedMap
import StoryPlayer.Text.Basic

/-!
# Environments

An environment gives values to variable names.
-/

namespace StoryPlayer

abbrev Environment := OrderedMap Text Text

/-- Why a variable cannot be set. -/
inductive EnvironmentError where
  /-- A name or a value that holds the character zero. -/
  | nullCharacter
  /-- A name that holds an equals sign. -/
  | badName
deriving Repr, DecidableEq

def EnvironmentError.message : EnvironmentError → Text
  | nullCharacter => "embedded null byte".toList
  | badName => "illegal environment variable name".toList

/-- Sets a variable, if its name and its value can stand in an environment. -/
def Environment.set (env : Environment) (name value : Text) :
    Except EnvironmentError Environment :=
  if name.contains '\x00' || value.contains '\x00' then .error .nullCharacter
  else if name.contains '=' then .error .badName
  else .ok (env.insert name value)

end StoryPlayer
