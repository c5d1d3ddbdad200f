import StoryPlayer.Text.Printable
import StoryPlayer.Text.Quoted
import StoryPlayer.Text.Upper
import StoryPlayer.Text.Word
import StoryPlayer.Number.Nearest
import StoryPlayer.Number.Numeral
import StoryPlayer.Number.Whole
import StoryPlayer.Layout.Wrap
import StoryPlayer.Story.Reader
import StoryPlayer.Story.Library
import StoryPlayer.Playback.Journal
import StoryPlayer.Playback.Rehearsal
import StoryPlayer.Playback.ViewFields
import StoryPlayer.Terminal.Control
import StoryPlayer.Terminal.Session
import StoryPlayer.Settings.Basic
import StoryPlayer.Settings.Load
import StoryPlayer.Program
import StoryPlayer.Main
import StoryPlayer.Proofs.Story.CommandLine
import StoryPlayer.Proofs.Text.Lines
import StoryPlayer.Proofs.Story.Blocks
import StoryPlayer.Proofs.Story.Reading
import StoryPlayer.Proofs.Story.Markup
import StoryPlayer.Proofs.Playback.Consistency
import StoryPlayer.Proofs.Playback.Progress
import StoryPlayer.Proofs.Playback.Dialogue
import StoryPlayer.Proofs.Playback.Display
import StoryPlayer.Proofs.Story.Places
import StoryPlayer.Proofs.Story.Seam
import StoryPlayer.Proofs.Playback.Ticks
import StoryPlayer.Proofs.Terminal.Rendering
import StoryPlayer.Proofs.Terminal.Typing
import StoryPlayer.Proofs.Playback.Rounds
import StoryPlayer.Proofs.Playback.Beats
import StoryPlayer.Proofs.Playback.Agreement
import StoryPlayer.Proofs.Playback.RenderFailure
import StoryPlayer.Proofs.Playback.QuitKey
import StoryPlayer.Proofs.Playback.Completion
import StoryPlayer.Proofs.Story.Flaws
import StoryPlayer.Proofs.Story.Coordinates
import StoryPlayer.Proofs.Number.Overflow
import StoryPlayer.Proofs.Settings.Reporting
import StoryPlayer.Proofs.Layout.Wrapping
import StoryPlayer.Proofs.Terminal.Placement
import StoryPlayer.Proofs.Number.Finite
import StoryPlayer.Proofs.Playback.Failures
import StoryPlayer.Proofs.Playback.Quitting
import StoryPlayer.Proofs.Playback.TickRate
import StoryPlayer.Proofs.Terminal.Restoring
import StoryPlayer.Proofs.OrderedMap
import StoryPlayer.Proofs.Settings.Loading
import StoryPlayer.Proofs.Story.Advance
import StoryPlayer.Proofs.Playback.Recall
