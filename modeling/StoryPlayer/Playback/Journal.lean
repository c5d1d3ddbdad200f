import StoryPlayer.Playback.Note
import StoryPlayer.Text.Blank
import StoryPlayer.Text.Word

/-!
# Journals

A journal is a file of notes. A note starts a line of its own with a time stamp; its words may run
on over further lines, which have none. What is read back are the lines that start with a time
stamp and name a level and a part of the program. A journal is written at the end of its file, so
that a file whose last line is not ended spoils the first note.
-/

namespace StoryPlayer
namespace Journal

/-- A time stamp, which is also the form of all time stamps: nines stand for digits. -/
def stamp : Text := "9999-99-99 99:99:99,999 ".toList

/-- The parts of the program all have names that start like this. -/
def sourceStart : Text := "adventure.".toList

/-- Whether a text starts with a time stamp. -/
def isStamped (t : Text) : Bool :=
  stamp.length ≤ t.length &&
    (stamp.zip t).all fun (form, c) => if form = '9' then (digitValue? c).isSome else c = form

/-- What follows a run of characters of one kind, if there are any. -/
def afterRun? (kind : Char → Bool) (t : Text) : Option Text :=
  if (t.takeWhile kind).isEmpty then none else some (t.dropWhile kind)

/-- What follows the words given, if the text starts with them. -/
def after? (words t : Text) : Option Text :=
  if words.isPrefixOf t then some (t.drop words.length) else none

/-- What a note says after its level and the part of the program, if a text starts with these. -/
def words? (t : Text) : Option Text := do
  let t ← afterRun? Char.isUpper t
  let t ← after? (' ' :: sourceStart) t
  let t ← afterRun? (fun c => isWordChar c || c = '.') t
  after? [':', ' '] t

/-- The note that starts on a line, as far as the line holds it. -/
def noteOn? (line : Text) : Option Text :=
  let note := line.drop stamp.length
  if isStamped line && (words? note).isSome then some note else none

/-- The notes in a file, each up to the end of its first line. -/
def read (content : Text) : List Text :=
  (Text.split '\n' content.lineFeeds).filterMap noteOn?

/-- The file after the notes are written at its end. -/
def write (content : Text) (notes : List Note) : Text :=
  content ++ notes.flatMap fun note => stamp ++ note.line ++ ['\n']

end Journal
end StoryPlayer
