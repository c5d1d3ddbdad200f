import StoryPlayer.Files.Tree
import StoryPlayer.Story.Reader

/-!
# The story library

The stories that come with the player stand on one shelf, a directory. A story is asked for by a
path that starts at the shelf.
-/

namespace StoryPlayer

/-- The story that is played when no other is asked for. -/
def entryStory : Text :=
  "The lantern gutters as you step off the last stair.
Somewhere below, water is dripping onto stone.
+PAUSE
A voice, dry as old paper, drifts up out of the dark: \"Who comes down to the archive at this hour?\"
+INPUT: name
\"Hm. I have no record of anyone by that name. Which is not to say you do not exist.\"
+PAUSE
+CLEAR
The archivist shuffles into the lantern light. She is smaller than her voice, and very much older.
\"Every visitor leaves something behind. What will you leave?\"
+INPUT: offering
She writes it down in a ledger without looking at the page, then closes the book with a soft thump.
\"That will do. Mind the third step on your way out; it remembers people.\"
+PAUSE
+CLEAR
The stairwell is brighter than you remember. Behind you, the door has already gone.
".toList

def entryStoryName : Text := "entry.story".toList

namespace Library

/-- The shelf, and the directories above it as far as they are known. Enough steps back lead to the
root. -/
def shelf : Place :=
  let stories : Node := .directory [(entryStoryName, .file entryStory)]
  let package : Node := .directory [("stories".toList, stories), ("core".toList, .unexplored)]
  let library : Node := .directory [("adventure".toList, package)]
  ⟨stories, [package, library, .unexplored, .root []]⟩

/-- The known end of the shelf's own path. -/
def shelfLocation : Path := ⟨.root, ["adventure".toList, "stories".toList]⟩

/-- The shelf's own path, as it is shown. -/
def shelfPath : Path := ⟨.relative, ["<stories>".toList]⟩

/-- Where a path leads, if it starts at the shelf. -/
def locate (path : Path) : Except FileErrorCause Place :=
  (if path.root = .relative then shelf else ⟨.root [], []⟩).follow path.names

/-- The content of a file on the shelf. -/
def read (name : Text) : Except FileError Text :=
  let path := Path.parse name
  let shown := (shelfPath.append path).render
  if name.contains '\x00' then .error ⟨.nullCharacter, shown⟩
  else if pathTooLong (shelfLocation.append path).render then .error ⟨.nameTooLong, shown⟩
  else match locate path with
    | .ok ⟨.file content, _⟩ => .ok content
    | .ok ⟨.directory _, _⟩ => .error ⟨.isDirectory, shown⟩
    | .error cause => .error ⟨cause, shown⟩

end Library

/-- Why a story of the library cannot be had. -/
inductive LoadError where
  | notFound (path : Text)
  | file (error : FileError)
deriving Repr, DecidableEq

def LoadError.message : LoadError → Text
  | notFound path => "Story not found: ".toList ++ path
  | file error => error.message

/-- The markup of a story of the library. -/
def Library.load (name : Text) : Except LoadError Text :=
  match Library.read name with
  | .ok content => .ok content
  | .error e => .error (if e.cause = .missing then .notFound e.path else .file e)

end StoryPlayer
