import StoryPlayer.Files.Path
import StoryPlayer.Text.Quoted

/-!
# Files that cannot be opened

A name is looked up from directory to directory. The look-up ends at the first name that is
missing, that is too long, or that stands for a plain file although more names follow.
-/

namespace StoryPlayer

inductive FileErrorCause where
  | missing
  | isDirectory
  | notDirectory
  | nameTooLong
  /-- A path that holds the character zero. -/
  | nullCharacter
deriving Repr, DecidableEq

structure FileError where
  cause : FileErrorCause
  /-- The path as it is shown. -/
  path : Text
deriving Repr, DecidableEq

def FileError.message (e : FileError) : Text :=
  match e.cause with
  | .missing => "[Errno 2] No such file or directory: ".toList ++ e.path.quoted
  | .isDirectory => "[Errno 21] Is a directory: ".toList ++ e.path.quoted
  | .notDirectory => "[Errno 20] Not a directory: ".toList ++ e.path.quoted
  | .nameTooLong => "[Errno 36] File name too long: ".toList ++ e.path.quoted
  | .nullCharacter => "embedded null byte".toList

/-- The bytes that a text takes in a file name. -/
def byteLength (t : Text) : Nat := t.foldl (fun n c => n + c.utf8Size) 0

/-- The longest name in a directory, in bytes. -/
def maxNameBytes : Nat := 255

/-- The longest path, in bytes. -/
def maxPathBytes : Nat := 4095

def nameTooLong (name : Text) : Bool := maxNameBytes < byteLength name

def pathTooLong (path : Text) : Bool := maxPathBytes < byteLength path

end StoryPlayer
