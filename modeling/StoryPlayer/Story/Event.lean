import StoryPlayer.Text.Quoted

/-!
# Stories

A story is a list of events that are played in order: texts to reveal, questions to the player,
pauses, and clearings of the screen.
-/

namespace StoryPlayer

inductive Event where
  | text (content : Text)
  | input (label : Text)
  | pause
  | clear
deriving Repr, DecidableEq

abbrev Story := List Event

namespace Event

/-- How an event is named in reports. -/
def describe : Event → Text
  | text content => "TextEvent(content=".toList ++ content.quoted ++ [')']
  | input label => "InputEvent(label=".toList ++ label.quoted ++ [')']
  | pause => "PauseEvent()".toList
  | clear => "ClearEvent()".toList

/-- The markup of one event. -/
def markup : Event → Text
  | text content => content
  | input label => "+INPUT:".toList ++ label
  | pause => "+PAUSE".toList
  | clear => "+CLEAR".toList

end Event

/-- The markup of a story, one event after the other on lines of their own. -/
def Story.markup (story : Story) : Text := Text.join '\n' (story.map Event.markup)

end StoryPlayer
