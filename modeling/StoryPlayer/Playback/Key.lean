import StoryPlayer.Playback.Phase

/-!
# Keys

A key press has a kind, and a press of a character key has the text that it types.
-/

namespace StoryPlayer

inductive KeyKind where
  | char
  | backspace
  | enter
  | quit
  | other
deriving Repr, DecidableEq

namespace KeyKind

def all : List KeyKind := [char, backspace, enter, quit, other]

def name : KeyKind → String
  | char => "char"
  | backspace => "backspace"
  | enter => "enter"
  | quit => "quit"
  | other => "other"

def ofName (name : Text) : Except UnknownName KeyKind :=
  match all.find? (·.name.toList == name) with
  | some kind => .ok kind
  | none => .error ⟨"KeyKind", name.quoted⟩

end KeyKind

structure Key where
  kind : KeyKind
  char : Option Text := none
deriving Repr, DecidableEq

namespace Key

def backspace : Key := ⟨.backspace, none⟩
def enter : Key := ⟨.enter, none⟩
def quit : Key := ⟨.quit, none⟩
def other : Key := ⟨.other, none⟩

def ofChar (c : Char) : Key := ⟨.char, some [c]⟩

/-- The keys that type a text. -/
def typing (text : Text) : List Key := text.map ofChar

end Key

/-- The refusal of a text that is not one character. -/
structure NotOneChar where
  text : Text
deriving Repr, DecidableEq

def NotOneChar.message (e : NotOneChar) : Text :=
  "Expected a single character, got ".toList ++ e.text.quoted

def Key.ofText (text : Text) : Except NotOneChar Key :=
  match text with
  | [c] => .ok (ofChar c)
  | _ => .error ⟨text⟩

end StoryPlayer
