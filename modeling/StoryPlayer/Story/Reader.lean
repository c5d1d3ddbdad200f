import StoryPlayer.Story.Rules

/-!
# Reading a story

A story is read event by event until nothing but gaps is left. Each event that is read leaves less
of the document, so reading ends.
-/

namespace StoryPlayer
namespace Rule

/-- A rule that succeeds does not give back what was read before. -/
def Shrinks {α : Type} (rule : Rule α) : Prop :=
  ∀ c a c', rule c = .ok a c' → c'.rest.length ≤ c.rest.length

theorem shrinks_pure {α : Type} (a : α) : Shrinks (pure a) := by
  intro c b c' h
  cases h
  exact Nat.le_refl _

theorem shrinks_failAt {α : Type} (cause : FaultCause) (position : Nat) :
    Shrinks (failAt cause position : Rule α) := by
  intro c a c' h
  cases h

theorem Shrinks.bind {α β : Type} {rule : Rule α} {next : α → Rule β} (hrule : Shrinks rule)
    (hnext : ∀ a, Shrinks (next a)) : Shrinks (rule >>= next) := by
  intro c b c' h
  change EStateM.bind rule next c = _ at h
  rw [EStateM.bind] at h
  split at h
  · rename_i a c₁ h₁
    exact Nat.le_trans (hnext a c₁ b c' h) (hrule c a c₁ h₁)
  · cases h

theorem shrinks_get : Shrinks (get : Rule Cursor) := by
  intro c a c' h
  cases h
  exact Nat.le_refl _

theorem shrinks_advance (n : Cursor → Nat) :
    Shrinks (modify fun c => c.advance (n c) : Rule PUnit) := by
  intro c a c' h
  cases h
  simp [Cursor.advance]

theorem shrinks_ite {α : Type} {p : Prop} [Decidable p] {yes no : Rule α} (hyes : Shrinks yes)
    (hno : Shrinks no) : Shrinks (if p then yes else no) := by
  split
  · exact hyes
  · exact hno

theorem shrinks_failHere {α : Type} (cause : FaultCause) : Shrinks (failHere cause : Rule α) :=
  shrinks_get.bind fun _ => shrinks_failAt _ _

theorem shrinks_run (p : Char → Bool) : Shrinks (run p) :=
  shrinks_get.bind fun _ => (shrinks_advance _).bind fun _ => shrinks_pure _

theorem shrinks_skipInline : Shrinks skipInline := by
  intro c a c' h
  cases h
  simp [Cursor.advance]

theorem shrinks_atLineEnd : Shrinks atLineEnd :=
  shrinks_get.bind fun _ => shrinks_ite (shrinks_failHere _) (shrinks_pure _)

theorem shrinks_argument : Shrinks argument :=
  (shrinks_advance _).bind fun _ => shrinks_skipInline.bind fun _ => (shrinks_run _).bind fun _ =>
    shrinks_ite (shrinks_failHere _) (shrinks_pure _)

theorem shrinks_optionalArgument : Shrinks optionalArgument :=
  shrinks_get.bind fun _ => shrinks_ite
    (shrinks_argument.bind fun _ => shrinks_skipInline.bind fun _ => shrinks_pure _)
    (shrinks_pure _)

theorem shrinks_finishCommand (start : Nat) (name : Text) (label : Option Text) :
    Shrinks (finishCommand start name label) := by
  rw [finishCommand]
  split
  · exact shrinks_failAt _ _
  · split
    · exact shrinks_failAt _ _
    · exact shrinks_atLineEnd.bind fun _ => shrinks_ite (shrinks_pure _) (shrinks_failHere _)

theorem shrinks_separator : Shrinks separator :=
  shrinks_skipInline.bind fun _ => shrinks_get.bind fun _ =>
    shrinks_ite ((shrinks_advance _).bind fun _ => shrinks_advance _) (shrinks_failHere _)

theorem shrinks_commandBody (start : Nat) : Shrinks (commandBody start) :=
  (shrinks_run _).bind fun _ => shrinks_ite (shrinks_failHere _) <|
    shrinks_skipInline.bind fun _ => shrinks_optionalArgument.bind fun _ =>
      shrinks_finishCommand _ _ _

theorem Cursor.rest_ne_nil_of_peek {c : Cursor} {a : Char} (h : c.peek [a] = true) :
    c.rest ≠ [] := by
  intro hnil
  simp [Cursor.peek, hnil] at h

theorem command_shorter {c c' : Cursor} {e : Event} (hc : c.rest ≠ [])
    (h : command c = .ok e c') : c'.rest.length < c.rest.length := by
  have hle := shrinks_commandBody c.pos (c.advance 1) e c' h
  have hpos := List.length_pos_iff.2 hc
  simp only [Cursor.advance, List.length_drop] at hle
  omega

theorem length_untilCommand_le (t : Text) : (untilCommand t).length ≤ t.length := by
  induction t with
  | nil => exact Nat.le_refl _
  | cons c t ih =>
    rw [untilCommand]
    split
    · simp
    · simpa using ih

theorem text_shorter {c c' : Cursor} {e : Event} (h : text c = .ok e c') :
    c'.rest.length < c.rest.length := by
  rw [text] at h
  split at h
  · cases h
  · rename_i hne
    cases h
    have hcontent := Text.length_trimEnd_le isGap (untilCommand c.rest)
    have huntil := length_untilCommand_le c.rest
    have hpos : 0 < ((untilCommand c.rest).trimEnd isGap).length :=
      List.length_pos_iff.2 (by simpa using hne)
    simp only [Cursor.advance, List.length_drop]
    omega

/-- An event that is read leaves less of the document. -/
theorem event_shorter {c c' : Cursor} {e : Event} (h : event c = .ok e c') :
    c'.rest.length < c.rest.length := by
  rw [event] at h
  split at h
  · rename_i hpeek
    exact command_shorter (Cursor.rest_ne_nil_of_peek hpeek) h
  · exact text_shorter h

/-- The events from the cursor on. -/
def events (c : Cursor) : EStateM.Result Fault Cursor Story :=
  if c.atTrailer then .ok [] c
  else
    match _hevent : event c with
    | .error fault c₁ => .error fault c₁
    | .ok e c₁ =>
      if c₁.atTrailer then .ok [e] c₁
      else
        match _hsep : separator c₁ with
        | .error fault c₂ => .error fault c₂
        | .ok _ c₂ =>
          match events c₂ with
          | .error fault c₃ => .error fault c₃
          | .ok es c₃ => .ok (e :: es) c₃
termination_by c.rest.length
decreasing_by exact Nat.lt_of_le_of_lt (shrinks_separator _ _ _ _hsep) (event_shorter _hevent)

/-- A whole story, blank lines before it included. -/
def story : Rule Story := skipBlankLines >>= fun _ => events

end Rule

/-- Reads a document as a story, or finds its first fault. -/
def Story.parse (source : Text) : Except Fault Story :=
  match Rule.story (Cursor.ofSource source 0) with
  | .ok events _ => .ok events
  | .error fault _ => .error fault

end StoryPlayer
