import StoryPlayer.Files.FileError

/-!
# Directory trees

The part of the file system that is known is a tree. A path is followed name by name, up to the
first name that is missing, that is too long, or that comes after a plain file.
-/

namespace StoryPlayer

inductive Node where
  | file (content : Text)
  | directory (entries : List (Text × Node))

/-- A node and the directories above it, the nearest first. -/
structure Place where
  node : Node
  above : List Node

/-- The directory for temporary files. -/
def temporaryName : Text := "tmp".toList

/-- The root of the file system, given what is known of the temporary files. -/
def Node.root (temporary : List (Text × Node)) : Node :=
  .directory [(temporaryName, .directory temporary)]

/-- A directory of which nothing is known. -/
def Node.unexplored : Node := .directory []

namespace Place

/-- One step back; there is none from the outermost directory. -/
def parent (place : Place) : Place :=
  match place.above with
  | [] => place
  | node :: above => ⟨node, above⟩

/-- The place that a name leads to. -/
def enter (name : Text) (place : Place) : Except FileErrorCause Place :=
  match place.node with
  | .file _ => .error .notDirectory
  | .directory entries =>
    if nameTooLong name then .error .nameTooLong
    else if name = ['.', '.'] then .ok place.parent
    else match entries.lookup name with
      | some node => .ok ⟨node, place.node :: place.above⟩
      | none => .error .missing

def follow (place : Place) (names : List Text) : Except FileErrorCause Place :=
  names.foldlM (fun place name => place.enter name) place

/-- Opens a file for writing at its end, and gives what it holds so far. A file that is missing is
made, if its directory is there. -/
def openForWriting (place : Place) (names : List Text) : Except FileErrorCause Text := do
  let directory ← place.follow names.dropLast
  match directory.follow (names.drop (names.length - 1)) with
  | .ok ⟨.directory _, _⟩ => throw .isDirectory
  | .ok ⟨.file content, _⟩ => return content
  | .error .missing => return []
  | .error cause => throw cause

end Place
end StoryPlayer
