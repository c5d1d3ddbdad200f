import StoryPlayer.Files.Tree
import StoryPlayer.Settings.Load

/-!
# The working directory

The player runs in a directory of its own among the temporary files. It holds nothing but, perhaps,
an environment file.
-/

namespace StoryPlayer

def envFileName : Text := ".env".toList

def EnvSource.entries : EnvSource → List (Text × Node)
  | .absent => []
  | .directory => [(envFileName, .directory [])]
  | .file content => [(envFileName, .file content)]

namespace WorkingDirectory

def name : Text := "storyplayer".toList

def location : Path := ⟨.root, [temporaryName, name]⟩

/-- The root of the file system, the working directory included. -/
def root (envFile : EnvSource) : Place := ⟨.root [(name, .directory envFile.entries)], []⟩

/-- A path as it is shown: the working directory's own path has a short form. -/
def shown (path : Path) : Text :=
  if path.root = .root ∧ location.names <+: path.names then
    Path.render ⟨.relative, "<cwd>".toList :: path.names.drop location.names.length⟩
  else path.render

/-- Opens a file for writing at its end, and gives what it holds so far. Steps back are taken before
the path is followed, whatever they step back from. -/
def openForWriting (envFile : EnvSource) (path : Path) : Except FileError Text :=
  let path := (location.append path).collapse
  let opened :=
    if pathTooLong path.render then .error .nameTooLong
    else (root envFile).openForWriting path.names
  opened.mapError fun cause => ⟨cause, shown path⟩

/-- Where a path leads from the working directory. -/
def locate (envFile : EnvSource) (path : Path) : Except FileErrorCause Place :=
  (root envFile).follow (location.append path).names

end WorkingDirectory

/-- What an environment file is found to be under another path. A name that is too long is an
error, and all other dead ends mean that there is no file. -/
def EnvSource.under (envFile : EnvSource) (path : Path) : Except FileError EnvSource :=
  let shown := path.render
  if shown.contains '\x00' then .ok .absent
  else if pathTooLong shown then .error ⟨.nameTooLong, shown⟩
  else match WorkingDirectory.locate envFile path with
    | .ok ⟨.file content, _⟩ => .ok (.file content)
    | .ok ⟨.directory _, _⟩ => .ok .directory
    | .error .nameTooLong => .error ⟨.nameTooLong, shown⟩
    | .error _ => .ok .absent

end StoryPlayer
