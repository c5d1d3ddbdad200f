import StoryPlayer.Playback.Key

/-!
# Raw keys

A terminal reports a key either as a code or as typed text. Codes and texts are never the same
key, even if a code is the number of a character.
-/

namespace StoryPlayer

inductive RawKey where
  | code (n : Int)
  | typed (text : Text)
deriving Repr, DecidableEq

namespace RawKey

def home : RawKey := .code 262
def backspace : RawKey := .code 263
def enter : RawKey := .code 343
def mouse : RawKey := .code 409
def resize : RawKey := .code 410

def quitKeys : List RawKey := [home]
def enterKeys : List RawKey := [.typed ['\n'], .typed ['\r'], enter]
def backspaceKeys : List RawKey := [backspace, .typed ['\x7f'], .typed ['\x08']]

/-- Reports that come like keys but are no key presses. -/
def nonKeys : List RawKey := [resize, mouse]

/-- The key that a text types, if it is one printable character. -/
def typedKey : Text → Key
  | [c] => if isPrintable c then .ofChar c else .other
  | _ => .other

/-- The kind of key that a raw key is. -/
def classify (raw : RawKey) : Key :=
  if raw ∈ quitKeys then .quit
  else if raw ∈ enterKeys then .enter
  else if raw ∈ backspaceKeys then .backspace
  else match raw with
    | .typed text => typedKey text
    | .code _ => .other

end RawKey
end StoryPlayer
