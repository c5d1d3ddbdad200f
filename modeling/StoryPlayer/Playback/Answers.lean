import StoryPlayer.OrderedMap
import StoryPlayer.Text.Quoted

/-!
# Answers

What the player typed, by the label of the question. An answer to a label that was answered before
replaces the earlier one; none is ever taken away.
-/

namespace StoryPlayer

abbrev Answers := OrderedMap Text Text

namespace Answers

def describeEntry (entry : Text × Text) : Text :=
  entry.1.quoted ++ ": ".toList ++ entry.2.quoted

/-- The entries as reports show them. -/
def describe (answers : Answers) : Text :=
  '\x7b' :: ", ".toList.intercalate (answers.entries.map describeEntry) ++ ['\x7d']

end Answers
end StoryPlayer
