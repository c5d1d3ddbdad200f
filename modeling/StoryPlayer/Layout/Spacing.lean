import StoryPlayer.Text.Basic
import StoryPlayer.Text.Blank

/-!
# Spacing of a line

Before a line is filled its tabs become spaces up to the next tab stop, and every other ASCII
blank becomes one space.
-/

namespace StoryPlayer

/-- Tab stops are this many columns apart. -/
def tabStop : Nat := 8

/-- Tabs written as spaces, for a text that starts in the given column. A line feed or a carriage
return starts a new line of columns. -/
def expandTabs (column : Nat) : Text → Text
  | [] => []
  | c :: t =>
    if c = '\t' then
      let gap := tabStop - column % tabStop
      List.replicate gap ' ' ++ expandTabs (column + gap) t
    else if c = '\n' ∨ c = '\r' then c :: expandTabs 0 t
    else c :: expandTabs (column + 1) t

/-- The line with no ASCII blank but the space. -/
def evenSpacing (line : Text) : Text :=
  (expandTabs 0 line).map fun c => if isAsciiBlank c then ' ' else c

theorem expandTabs_of_no_tab {line : Text} (h : '\t' ∉ line) (column : Nat) :
    expandTabs column line = line := by
  induction line generalizing column with
  | nil => rfl
  | cons c t ih =>
    have hc : c ≠ '\t' := fun e => h (by simp [e])
    have ht : '\t' ∉ t := fun e => h (by simp [e])
    simp [expandTabs, hc, ih ht]

/-- A line whose only ASCII blanks are spaces is left as it is. -/
theorem evenSpacing_eq_self {line : Text} (h : ∀ c ∈ line, isAsciiBlank c = true → c = ' ') :
    evenSpacing line = line := by
  have htab : '\t' ∉ line := fun hmem => by
    have := h '\t' hmem (by decide)
    exact absurd this (by decide)
  rw [evenSpacing, expandTabs_of_no_tab htab]
  calc line.map (fun c => if isAsciiBlank c then ' ' else c)
      = line.map id := List.map_congr_left fun c hc => by
        by_cases hb : isAsciiBlank c = true
        · simp [h c hc hb]
        · simp [hb]
    _ = line := List.map_id line

end StoryPlayer
