import StoryPlayer.Proofs.Story.Blocks

/-!
# Reading block by block

The reader goes through a document by offsets and decides at each step who takes the gaps. Here it
is shown to read the blocks of the document one after the other, from any offset on.
-/

namespace StoryPlayer

open Cursor

theorem blankLinesLength_le (seen : Nat) (t : Text) :
    blankLinesLength seen t ≤ seen + t.length := by
  induction t generalizing seen with
  | nil => simp [blankLinesLength]
  | cons c t ih =>
    have hzero := ih 0
    have hsucc := ih (seen + 1)
    rw [blankLinesLength, List.length_cons]
    split
    · omega
    · split <;> omega

private theorem blankLinesLength_gap {gap : Text} (hgap : ∀ c ∈ gap, isGap c) (seen : Nat)
    (t : Text) :
    blankLinesLength seen (gap ++ '\n' :: t) = seen + gap.length + 1 + blankLinesLength 0 t := by
  induction gap generalizing seen with
  | nil => simp [blankLinesLength]
  | cons c gap ih =>
    have ih := ih fun c h => hgap c (List.mem_cons_of_mem _ h)
    have hc := hgap c List.mem_cons_self
    rw [List.cons_append, blankLinesLength, List.length_cons]
    by_cases hnewline : c = '\n'
    · rw [if_pos hnewline, ih]
      omega
    · have hinline : isInline c := by simpa [isGap, hnewline] using hc
      rw [if_neg hnewline, if_pos hinline, ih]
      omega

/-- A line that is not blank is not skipped. -/
private theorem blankLinesLength_eq_zero {line : Text} (hline : '\n' ∉ line)
    (hblank : ¬ isBlankLine line)
    (seen : Nat) (t : Text) : blankLinesLength seen (line ++ t) = 0 := by
  induction line generalizing seen with
  | nil => exact absurd rfl hblank
  | cons c line ih =>
    have hc : c ≠ '\n' := fun h => hline (by simp [h])
    rw [List.cons_append, blankLinesLength, if_neg hc]
    split
    · rename_i hinline
      refine ih (fun h => hline (List.mem_cons_of_mem _ h)) (fun h => hblank ?_) _
      simpa [isBlankLine, hinline] using h
    · rfl

namespace Rule

def outcome {α : Type} : EStateM.Result Fault Cursor α → Except Fault α
  | .ok a _ => .ok a
  | .error fault _ => .error fault

theorem skipBlankLines_facing (p : Nat) (t : Text) :
    skipBlankLines (facing p t) =
      .ok () (facing (p + blankLinesLength 0 t) (t.drop (blankLinesLength 0 t))) := by
  have hle := blankLinesLength_le 0 t
  have hadvance := facing_advance p (t.take (blankLinesLength 0 t)) (t.drop (blankLinesLength 0 t))
  rw [List.take_append_drop, List.length_take, Nat.min_eq_left (by omega)] at hadvance
  rw [← hadvance]
  rfl

private theorem story_facing (p : Nat) (t : Text) :
    story (facing p t) =
      events (facing (p + blankLinesLength 0 t) (t.drop (blankLinesLength 0 t))) :=
  bind_of_ok (skipBlankLines_facing p t)

private theorem skipBlankLines_gap {gap : Text} (hgap : ∀ c ∈ gap, isGap c) (p : Nat) (t : Text) :
    skipBlankLines (facing p (gap ++ '\n' :: t)) =
      skipBlankLines (facing (p + (gap.length + 1)) t) := by
  have hlength := blankLinesLength_gap hgap 0 t
  have hdrop : (gap ++ '\n' :: t).drop (0 + gap.length + 1 + blankLinesLength 0 t) =
      t.drop (blankLinesLength 0 t) := by
    rw [Nat.zero_add, ← List.drop_drop, List.append_cons, List.drop_left' (by simp)]
  rw [skipBlankLines_facing, skipBlankLines_facing, hlength, hdrop]
  congr 2
  omega

private theorem story_gap {gap : Text} (hgap : ∀ c ∈ gap, isGap c) (p : Nat) (t : Text) :
    story (facing p (gap ++ '\n' :: t)) = story (facing (p + (gap.length + 1)) t) := by
  have h := skipBlankLines_gap hgap p t
  rw [skipBlankLines_facing, skipBlankLines_facing] at h
  injection h with _ h
  rw [story_facing, story_facing, h]

private theorem outcome_story_trailer {t : Text} (ht : ∀ c ∈ t, isGap c) (p : Nat) :
    outcome (story (facing p t)) = .ok [] := by
  have htrailer : (t.drop (blankLinesLength 0 t)).all isGap := by
    rw [List.all_eq_true]
    exact fun c hc => ht c (List.mem_of_mem_drop hc)
  rw [story_facing, events, atTrailer_facing, if_pos htrailer]
  rfl

private theorem outcome_story_nil (p : Nat) : outcome (story (facing p [])) = .ok [] :=
  outcome_story_trailer (fun _ hc => absurd hc List.not_mem_nil) p

private theorem separator_blanks {blanks : Text} (hblanks : ∀ c ∈ blanks, isInline c) (p : Nat)
    (t : Text) :
    separator (facing p (blanks ++ '\n' :: t)) =
      skipBlankLines (facing (p + (blanks.length + 1)) t) := by
  have hnewline : ∀ c ∈ ('\n' :: t).head?, isInline c = false := by
    intro c hc
    obtain rfl : '\n' = c := by simpa using hc
    decide
  have hadvance : (modify (·.advance 1) : Rule PUnit) (facing (p + blanks.length) ('\n' :: t)) =
      .ok ⟨⟩ (facing (p + blanks.length + 1) t) := by
    rw [← facing_advance_one]
    rfl
  unfold separator
  rw [bind_of_ok (skipInline_facing _ _), takeWhile_append_eq_left hblanks hnewline,
    dropWhile_append_eq_right hblanks hnewline,
    bind_of_ok (rfl : (get : Rule Cursor) (facing _ ('\n' :: t)) = .ok _ _), peek_facing,
    if_pos (by simp [List.isPrefixOf]), bind_of_ok hadvance]
  rfl

theorem separator_gap {gap : Text} (hgap : ∀ c ∈ gap, isGap c) (p : Nat) (t : Text) :
    separator (facing p (gap ++ '\n' :: t)) =
      skipBlankLines (facing (p + (gap.length + 1)) t) := by
  have hblanks : ∀ c ∈ gap.takeWhile isInline, isInline c := fun c => List.mem_takeWhile_imp
  have hsplit := List.takeWhile_append_dropWhile (p := isInline) (l := gap)
  cases hrest : gap.dropWhile isInline with
  | nil =>
    rw [hrest, List.append_nil] at hsplit
    rw [hsplit] at hblanks
    exact separator_blanks hblanks p t
  | cons c rest =>
    -- The first character of the gap that is no blank ends the event's line.
    have hc : c = '\n' := by
      have hinline : isInline c = false := by
        have := List.head?_dropWhile_not isInline gap
        simpa [hrest] using this
      have hgapc := hgap c (List.dropWhile_subset _ (hrest ▸ List.mem_cons_self))
      simpa [isGap, hinline] using hgapc
    have hrestgap : ∀ c ∈ rest, isGap c := fun d hd =>
      hgap d (List.dropWhile_subset _ (hrest ▸ List.mem_cons_of_mem _ hd))
    have hlength := congrArg List.length hsplit
    rw [hrest, List.length_append, List.length_cons] at hlength
    conv_lhs => rw [← hsplit, hrest, hc, List.append_assoc, List.cons_append]
    rw [separator_blanks hblanks, skipBlankLines_gap hrestgap]
    congr 2
    omega

/-- What a reader returns that has read the given events before. -/
def after (es : Story) : EStateM.Result Fault Cursor Story → EStateM.Result Fault Cursor Story
  | .ok fs c => .ok (es ++ fs) c
  | .error fault c => .error fault c

private theorem outcome_after (e : Event) (r : EStateM.Result Fault Cursor Story) :
    outcome (after [e] r) = (outcome r).map (e :: ·) := by
  cases r <;> rfl

/-! One round of the reader: an event, and then the end of the document or a separator. -/

section

variable {c c₁ c₂ : Cursor} {e : Event} {fault : Fault}

theorem events_of_error (hc : c.atTrailer = false) (hevent : event c = .error fault c₁) :
    events c = .error fault c₁ := by
  rw [events, hc, if_neg Bool.false_ne_true, hevent]

theorem events_of_last (hc : c.atTrailer = false) (hevent : event c = .ok e c₁)
    (htrailer : c₁.atTrailer = true) : events c = .ok [e] c₁ := by
  rw [events, hc, if_neg Bool.false_ne_true, hevent]
  exact if_pos htrailer

theorem events_of_next (hc : c.atTrailer = false) (hevent : event c = .ok e c₁)
    (hgoes : c₁.atTrailer = false) (hseparator : separator c₁ = .ok () c₂) :
    events c = after [e] (events c₂) := by
  rw [events, hc, if_neg Bool.false_ne_true, hevent]
  dsimp only
  rw [hgoes, if_neg Bool.false_ne_true, hseparator]
  dsimp only
  cases events c₂ <;> rfl

end

private theorem outcome_events_of_error {c c' : Cursor} {fault : Fault} (hc : c.atTrailer = false)
    (h : event c = .error fault c') : outcome (events c) = .error fault := by
  rw [events_of_error hc h, outcome]

private theorem outcome_events_of_trailer {c : Cursor} {e : Event} {q : Nat} {gap : Text}
    (hc : c.atTrailer = false) (h : event c = .ok e (facing q gap)) (hgap : ∀ c ∈ gap, isGap c) :
    outcome (events c) = .ok [e] := by
  have htrailer : (facing q gap).atTrailer := by
    rw [atTrailer_facing, List.all_eq_true]
    exact hgap
  rw [events_of_last hc h htrailer, outcome]

/-- After an event the reader goes on where the next line starts. -/
private theorem outcome_events_of_gap {c : Cursor} {e : Event} {q : Nat} {gap t : Text}
    (hc : c.atTrailer = false) (h : event c = .ok e (facing q (gap ++ '\n' :: t)))
    (hgap : ∀ c ∈ gap, isGap c) :
    outcome (events c) = (outcome (story (facing (q + (gap.length + 1)) t))).map (e :: ·) := by
  by_cases ht : ∀ c ∈ t, isGap c
  · -- Nothing else follows, so the reader stops without a separator.
    have hall : ∀ c ∈ gap ++ '\n' :: t, isGap c := by
      intro c hmem
      rcases List.mem_append.mp hmem with hmem | hmem
      · exact hgap c hmem
      · rcases List.mem_cons.mp hmem with rfl | hmem
        · decide
        · exact ht c hmem
    rw [outcome_events_of_trailer hc h hall, outcome_story_trailer ht]
    rfl
  · have hgoes : (facing q (gap ++ '\n' :: t)).atTrailer = false := by
      rw [atTrailer_facing, ← Bool.not_eq_true, List.all_eq_true]
      exact fun hall => ht fun c hmem => hall c (by simp [hmem])
    have hseparator := separator_gap hgap q t
    rw [skipBlankLines_facing] at hseparator
    rw [events_of_next hc h hgoes hseparator, outcome_after, story_facing]

private theorem outcome_events_of_ok {c : Cursor} {e : Event} {q : Nat} {gap : Text}
    {lines : List Text}
    (hc : c.atTrailer = false) (h : event c = .ok e (facing q (gap ++ Text.following lines)))
    (hgap : ∀ c ∈ gap, isGap c) :
    outcome (events c) =
      (outcome (story (facing (q + (gap.length + 1)) (Text.join '\n' lines)))).map (e :: ·) := by
  cases lines with
  | nil =>
    rw [Text.following, List.append_nil] at h
    rw [outcome_events_of_trailer hc h hgap, Text.join, outcome_story_nil]
    rfl
  | cons line lines => exact outcome_events_of_gap hc h hgap

end Rule

theorem endsLine_following (lines : List Text) : EndsLine (Text.following lines) := by
  cases lines with
  | nil => exact endsLine_nil
  | cons line lines => exact endsLine_newline _

theorem untilCommand_line {line : Text} (hline : '\n' ∉ line) (t : Text) :
    untilCommand (line ++ t) = line ++ untilCommand t := by
  induction line with
  | nil => rfl
  | cons c line ih =>
    have hc : c ≠ '\n' := fun h => hline (by simp [h])
    rw [List.cons_append, untilCommand, if_neg (fun h => hc h.1),
      ih fun h => hline (List.mem_cons_of_mem _ h)]
    rfl

private theorem head?_join_append_following {line : Text} (hline : ¬ isCommandLine line)
    (run after : List Text) :
    (Text.join '\n' (line :: run) ++ Text.following after).head? ≠ some '+' := by
  have hend : ∀ lines : List Text, (Text.following lines).head? ≠ some '+' := by
    intro lines
    cases lines <;> simp [Text.following]
  rw [Text.join_cons_eq_append_following]
  cases line with
  | nil =>
    cases run with
    | nil => simpa [Text.following] using hend after
    | cons next run => simp [Text.following]
  | cons c line => simpa [isCommandLine] using hline

/-- A text runs on to the next command line. -/
theorem untilCommand_run {line : Text} {run after : List Text} (hline : '\n' ∉ line)
    (hlines : ∀ l ∈ run, '\n' ∉ l) (hrun : ∀ l ∈ run, ¬ isCommandLine l)
    (hafter : ∀ l ∈ after.head?, isCommandLine l) :
    untilCommand (Text.join '\n' (line :: run) ++ Text.following after) =
      Text.join '\n' (line :: run) := by
  induction run generalizing line with
  | nil =>
    have hstop : untilCommand (Text.following after) = [] := by
      cases after with
      | nil => rfl
      | cons next after =>
        rw [Text.following, Text.join_cons_eq_append_following,
          eq_cons_of_isCommandLine (hafter next rfl), untilCommand]
        simp
    rw [Text.join, untilCommand_line hline, hstop, List.append_nil]
  | cons next run ih =>
    have hnext := head?_join_append_following (hrun next List.mem_cons_self) run after
    rw [Text.join_cons '\n' line (List.cons_ne_nil next run), List.append_assoc,
      untilCommand_line hline, List.cons_append, untilCommand, if_neg fun h => hnext h.2,
      ih (hlines next List.mem_cons_self) (fun l h => hlines l (List.mem_cons_of_mem _ h))
        (fun l h => hrun l (List.mem_cons_of_mem _ h))]

private theorem not_isBlankLine_of_isCommandLine {line : Text} (h : isCommandLine line) :
    ¬ isBlankLine line := by
  rw [eq_cons_of_isCommandLine h]
  simp [isBlankLine, isInline]

theorem exists_not_isGap {line : Text} (hline : '\n' ∉ line) (hblank : ¬ isBlankLine line) :
    ∃ c ∈ line, isGap c = false := by
  obtain ⟨c, hc, hinline⟩ : ∃ c ∈ line, isInline c = false := by simpa [isBlankLine] using hblank
  have hnewline : c ≠ '\n' := fun h => hline (h ▸ hc)
  exact ⟨c, hc, by simp [isGap, hinline, hnewline]⟩

theorem atTrailer_line {line : Text} (hline : '\n' ∉ line) (hblank : ¬ isBlankLine line) (p : Nat)
    (t : Text) : (facing p (line ++ t)).atTrailer = false := by
  obtain ⟨c, hc, hgap⟩ := exists_not_isGap hline hblank
  rw [atTrailer_facing, List.all_eq_false]
  exact ⟨c, List.mem_append_left _ hc, by simp [hgap]⟩

theorem passageText_of_not_blank {line : Text} (hblank : ¬ isBlankLine line) (run : List Text) :
    passageText (line :: run) = (Text.join '\n' (line :: run)).trimEnd isGap := by
  rw [passageText, List.dropWhile_cons_of_neg hblank]

theorem passageText_ne_nil {line : Text} (hline : '\n' ∉ line) (hblank : ¬ isBlankLine line)
    (run : List Text) : passageText (line :: run) ≠ [] := by
  obtain ⟨c, hc, hgap⟩ := exists_not_isGap hline hblank
  rw [passageText_of_not_blank hblank, Text.join_cons_eq_append_following]
  intro hnil
  have := Text.trimEnd_eq_nil_iff.mp hnil c (List.mem_append_left _ hc)
  simp [hgap] at this

namespace Rule

theorem event_command {line : Text} (hcommand : isCommandLine line) (hline : '\n' ∉ line)
    (p : Nat) (lines : List Text) :
    Leads (event (facing p (line ++ Text.following lines)))
      (facing (p + line.length) (Text.following lines)) (commandAt p line.tail) := by
  have htail : '\n' ∉ line.tail := fun h => hline (List.mem_of_mem_tail h)
  have h := command_facing p htail (endsLine_following lines)
  have hcons := eq_cons_of_isCommandLine hcommand
  rw [Nat.add_assoc, Nat.add_comm 1, length_tail_of_isCommandLine hcommand, ← List.cons_append,
    ← hcons] at h
  have hpeek : (facing p (line ++ Text.following lines)).peek ['+'] := by
    rw [peek_facing, hcons]
    simp [List.isPrefixOf]
  rw [event, if_pos hpeek]
  exact h

theorem event_text {line : Text} {run after : List Text} (hcommand : ¬ isCommandLine line)
    (hblank : ¬ isBlankLine line) (hline : '\n' ∉ line) (hlines : ∀ l ∈ run, '\n' ∉ l)
    (hrun : ∀ l ∈ run, ¬ isCommandLine l) (hafter : ∀ l ∈ after.head?, isCommandLine l) (p : Nat) :
    ∃ gap, (∀ c ∈ gap, isGap c) ∧ passageText (line :: run) ++ gap = Text.join '\n' (line :: run) ∧
      event (facing p (Text.join '\n' (line :: run) ++ Text.following after)) =
        .ok (.text (passageText (line :: run)))
          (facing (p + (passageText (line :: run)).length) (gap ++ Text.following after)) := by
  have hcontent := passageText_of_not_blank hblank run
  have hne := passageText_ne_nil hline hblank run
  obtain ⟨gap, hgap, happend⟩ := Text.exists_trimEnd_append isGap (Text.join '\n' (line :: run))
  rw [← hcontent] at happend
  refine ⟨gap, hgap, happend, ?_⟩
  have hpeek : (facing p (Text.join '\n' (line :: run) ++ Text.following after)).peek ['+'] = false := by
    have hhead := head?_join_append_following hcommand run after
    rw [peek_facing]
    cases hjoin : Text.join '\n' (line :: run) ++ Text.following after with
    | nil => rfl
    | cons c t =>
      have hc : '+' ≠ c := fun h => hhead (by rw [hjoin, h]; rfl)
      simp [List.isPrefixOf, hc]
  have huntil : untilCommand (facing p (Text.join '\n' (line :: run) ++ Text.following after)).rest =
      Text.join '\n' (line :: run) := untilCommand_run hline hlines hrun hafter
  rw [event, hpeek, if_neg Bool.false_ne_true, text, huntil, ← hcontent, if_neg (by simpa using hne)]
  conv_lhs => rw [← happend, List.append_assoc]
  rw [facing_advance]

end Rule

private theorem outcome_story_blank {line : Text} (hblank : isBlankLine line) (lines : List Text)
    (p : Nat) :
    Rule.outcome (Rule.story (facing p (Text.join '\n' (line :: lines)))) =
      Rule.outcome (Rule.story (facing (p + (line.length + 1)) (Text.join '\n' lines))) := by
  have hgap : ∀ c ∈ line, isGap c := fun c hc =>
    isGap_of_isInline (List.all_eq_true.mp hblank c hc)
  cases lines with
  | nil =>
    rw [Text.join, Text.join, Rule.outcome_story_trailer hgap, Rule.outcome_story_nil]
  | cons next lines =>
    rw [Text.join_cons '\n' line (List.cons_ne_nil next lines), Rule.story_gap hgap]

private theorem readBlocks_blank {line : Text} (hblank : isBlankLine line) (lines : List Text)
    (p : Nat) :
    readBlocks p (blocks (line :: lines)) = readBlocks (p + (line.length + 1)) (blocks lines) := by
  have hcommand : ¬ isCommandLine line := fun h => not_isBlankLine_of_isCommandLine h hblank
  rw [blocks, if_neg hcommand]
  split
  · rename_i run bs hblocks
    have htext : passageText (line :: run) = passageText run := by
      rw [passageText, List.dropWhile_cons_of_pos hblank]
      rfl
    have hevents : passageEvents (line :: run) = passageEvents run := by
      rw [passageEvents, htext]
      rfl
    simp only [readBlocks, Block.read, Block.lines, hevents, hblocks, Text.extent_cons, Nat.add_assoc]
  · have hevents : passageEvents [line] = [] := by
      simp [passageEvents, passageText, hblank, Text.join, Text.trimEnd]
    simp only [readBlocks, Block.read, Block.lines, hevents, Text.extent_cons, Text.extent_nil,
      List.nil_append, Nat.add_zero]
    cases readBlocks (p + (line.length + 1)) (blocks lines) <;> rfl

private theorem story_of_not_blank {line : Text} (hline : '\n' ∉ line) (hblank : ¬ isBlankLine line)
    (p : Nat) (t : Text) :
    Rule.story (facing p (line ++ t)) = Rule.events (facing p (line ++ t)) := by
  rw [Rule.story_facing, blankLinesLength_eq_zero hline hblank]
  rfl

private theorem outcome_story_command {line : Text} (hcommand : isCommandLine line)
    (hline : '\n' ∉ line) (lines : List Text) (p : Nat) :
    Rule.outcome (Rule.story (facing p (Text.join '\n' (line :: lines)))) =
      match commandAt p line.tail with
      | .error fault => .error fault
      | .ok e =>
        (Rule.outcome (Rule.story (facing (p + (line.length + 1)) (Text.join '\n' lines)))).map
          (e :: ·) := by
  have hblank := not_isBlankLine_of_isCommandLine hcommand
  have htrailer := atTrailer_line hline hblank p (Text.following lines)
  have hevent := Rule.event_command hcommand hline p lines
  rw [Text.join_cons_eq_append_following, story_of_not_blank hline hblank]
  cases hat : commandAt p line.tail with
  | error fault =>
    rw [hat] at hevent
    obtain ⟨c, hevent⟩ := hevent
    exact Rule.outcome_events_of_error htrailer hevent
  | ok e =>
    rw [hat] at hevent
    change Rule.event _ = .ok e (facing (p + line.length) ([] ++ Text.following lines)) at hevent
    have hgap : ∀ c ∈ ([] : Text), isGap c := fun c hc => absurd hc List.not_mem_nil
    rw [Rule.outcome_events_of_ok htrailer hevent hgap]
    simp only [List.length_nil, Nat.add_assoc, Nat.zero_add]

private theorem outcome_story_text {line : Text} {run after : List Text}
    (hcommand : ¬ isCommandLine line)
    (hblank : ¬ isBlankLine line) (hline : '\n' ∉ line) (hlines : ∀ l ∈ run, '\n' ∉ l)
    (hrun : ∀ l ∈ run, ¬ isCommandLine l) (hafter : ∀ l ∈ after.head?, isCommandLine l) (p : Nat) :
    Rule.outcome (Rule.story (facing p (Text.join '\n' (line :: run ++ after)))) =
      (Rule.outcome (Rule.story
        (facing (p + Text.extent (line :: run)) (Text.join '\n' after)))).map
          (.text (passageText (line :: run)) :: ·) := by
  obtain ⟨gap, hgap, happend, hevent⟩ :=
    Rule.event_text hcommand hblank hline hlines hrun hafter p
  have hjoin := Text.join_append_eq_append_following (List.cons_ne_nil line run) after
  have hextent := Text.length_join_add_one '\n' (List.cons_ne_nil line run)
  rw [← happend, List.length_append] at hextent
  have htrailer : (facing p (Text.join '\n' (line :: run) ++ Text.following after)).atTrailer =
      false := by
    rw [Text.join_cons_eq_append_following, List.append_assoc]
    exact atTrailer_line hline hblank p _
  have hstory : Rule.story (facing p (Text.join '\n' (line :: run) ++ Text.following after)) =
      Rule.events (facing p (Text.join '\n' (line :: run) ++ Text.following after)) := by
    rw [Text.join_cons_eq_append_following, List.append_assoc]
    exact story_of_not_blank hline hblank p _
  rw [hjoin, hstory, Rule.outcome_events_of_ok htrailer hevent hgap, ← hextent]
  simp only [Nat.add_assoc]

/-- The reader reads block by block. -/
theorem outcome_story_eq_readBlocks (lines : List Text) (hlines : ∀ line ∈ lines, '\n' ∉ line)
    (p : Nat) :
    Rule.outcome (Rule.story (facing p (Text.join '\n' lines))) = readBlocks p (blocks lines) := by
  induction hn : lines.length using Nat.strong_induction_on generalizing lines p with
  | _ n ih =>
  subst hn
  cases lines with
  | nil => exact Rule.outcome_story_nil p
  | cons line lines =>
    have hline := hlines line List.mem_cons_self
    have hrest : ∀ l ∈ lines, '\n' ∉ l := fun l h => hlines l (List.mem_cons_of_mem _ h)
    by_cases hblank : isBlankLine line
    · rw [outcome_story_blank hblank, readBlocks_blank hblank]
      exact ih lines.length (by simp) lines hrest _ rfl
    · by_cases hcommand : isCommandLine line
      · rw [outcome_story_command hcommand hline, blocks_command hcommand, readBlocks, Block.read,
          ih lines.length (by simp) lines hrest _ rfl]
        cases commandAt p line.tail with
        | error fault => rfl
        | ok e => simp [Except.map, Block.lines]
      · -- The passage goes on to the next command line, where the induction takes over.
        have hsplit := List.takeWhile_append_dropWhile (p := (!isCommandLine ·)) (l := lines)
        have hrun : ∀ l ∈ lines.takeWhile (!isCommandLine ·), ¬ isCommandLine l := by
          intro l hl
          simpa using List.mem_takeWhile_imp hl
        have hafter : ∀ l ∈ (lines.dropWhile (!isCommandLine ·)).head?, isCommandLine l := by
          intro l hl
          have := List.head?_dropWhile_not (!isCommandLine ·) lines
          rw [Option.mem_def.mp hl] at this
          simpa using this
        generalize lines.takeWhile (!isCommandLine ·) = run at hsplit hrun
        generalize lines.dropWhile (!isCommandLine ·) = after at hsplit hafter
        subst hsplit
        have hrunlines : ∀ l ∈ run, '\n' ∉ l := fun l h => hrest l (List.mem_append_left _ h)
        have hrunblocks : ∀ l ∈ line :: run, ¬ isCommandLine l := by
          intro l hl
          rcases List.mem_cons.mp hl with rfl | hl
          · exact hcommand
          · exact hrun l hl
        have hne := passageText_ne_nil hline hblank run
        have hshorter : after.length < (line :: (run ++ after)).length := by
          rw [List.length_cons, List.length_append]
          omega
        rw [← List.cons_append, outcome_story_text hcommand hblank hline hrunlines hrun hafter,
          blocks_run_append (List.cons_ne_nil line run) hrunblocks hafter, readBlocks, Block.read,
          ih after.length hshorter after (fun l h => hrest l (List.mem_append_right _ h)) _ rfl]
        simp [passageEvents, hne, Block.lines]

theorem parse_eq_readBlocks (source : Text) :
    Story.parse source = readBlocks 0 (blocks (Text.split '\n' source)) := by
  have hlines : ∀ line ∈ Text.split '\n' source, '\n' ∉ line := fun _ => Text.notMem_of_mem_split
  have h := outcome_story_eq_readBlocks (Text.split '\n' source) hlines 0
  rw [Text.join_split] at h
  rw [← h, Story.parse, ofSource_eq_facing source (Nat.zero_le _), List.drop_zero]
  cases Rule.story (facing 0 source) <;> rfl

/-- The stories that the blocks of a document's lines stand for. -/
def LineReading (source : Text) (story : Story) : Prop :=
  ∃ parts, List.Forall₂ Block.Means (blocks (Text.split '\n' source)) parts ∧ story = parts.flatten

theorem parse_eq_ok_iff_lineReading {source : Text} {story : Story} :
    Story.parse source = .ok story ↔ LineReading source story := by
  rw [parse_eq_readBlocks]
  exact readBlocks_blocks_eq_ok_iff fun _ => Text.notMem_of_mem_split

theorem exists_readBlocks_eq_ok {lines : List Text} (hlines : ∀ line ∈ lines, '\n' ∉ line)
    (hcommands : ∀ line ∈ lines, isCommandLine line → ∃ e, CommandLine line e) (start : Nat) :
    ∃ story, readBlocks start (blocks lines) = .ok story := by
  have hmeans : ∀ b ∈ blocks lines, ∃ events, b.Means events := by
    intro b hb
    cases b with
    | command line =>
      have hmem : line ∈ lines := by
        rw [← flatMap_lines_blocks lines]
        exact List.mem_flatMap.mpr ⟨_, hb, List.mem_singleton.mpr rfl⟩
      obtain ⟨e, he⟩ := hcommands line hmem (valid_of_mem_blocks hb)
      exact ⟨[e], .command he⟩
    | passage run => exact ⟨_, .passage run⟩
  obtain ⟨parts, hparts⟩ := exists_parts hmeans
  exact ⟨parts.flatten, (readBlocks_blocks_eq_ok_iff hlines).mpr ⟨parts, hparts, rfl⟩⟩

/-- The reader stops at the first command line that the grammar does not allow. -/
theorem parse_eq_commandAt {source line : Text} {before after : List Text}
    (hsource : Text.split '\n' source = before ++ line :: after)
    (hbefore : ∀ l ∈ before, isCommandLine l → ∃ e, CommandLine l e) (hcommand : isCommandLine line)
    {fault : Fault} (hfault : commandAt (Text.extent before) line.tail = .error fault) :
    Story.parse source = .error fault := by
  have hlines : ∀ l ∈ before, '\n' ∉ l := by
    intro l hl
    refine Text.notMem_of_mem_split (t := source) ?_
    rw [hsource]
    exact List.mem_append_left _ hl
  obtain ⟨events, hevents⟩ := exists_readBlocks_eq_ok hlines hbefore 0
  rw [parse_eq_readBlocks, hsource, blocks_append_command before hcommand, readBlocks_append, hevents,
    flatMap_lines_blocks, Nat.zero_add, readBlocks, Block.read, hfault]
  rfl

/-- Reading a document by offsets is reading it by lines, and the first command line that is ill
formed holds the fault. -/
theorem parse_reads_by_lines (source : Text) :
    (∀ story, Story.parse source = .ok story ↔ LineReading source story) ∧
      ∀ (before after : List Text) (line : Text),
        Text.split '\n' source = before ++ line :: after →
        (∀ l ∈ before, isCommandLine l → ∃ e, CommandLine l e) →
        isCommandLine line → (¬ ∃ e, CommandLine line e) →
        ∃ fault, Story.parse source = .error fault ∧
          fault.Within (Text.extent before) (Text.extent before + line.length) := by
  refine ⟨fun story => parse_eq_ok_iff_lineReading, ?_⟩
  intro before after line hsource hbefore hcommand hill
  have hline : '\n' ∉ line := by
    refine Text.notMem_of_mem_split (t := source) ?_
    rw [hsource]
    simp
  have hcons := eq_cons_of_isCommandLine hcommand
  have htail : '\n' ∉ line.tail := fun h => hline (List.mem_of_mem_tail h)
  cases hat : commandAt (Text.extent before) line.tail with
  | ok e =>
    have he := (commandAt_eq_ok_iff htail).mp hat
    rw [← hcons] at he
    exact absurd ⟨e, he⟩ hill
  | error fault =>
    have hwithin := commandAt_fault hat
    rw [Nat.add_assoc, Nat.add_comm 1, length_tail_of_isCommandLine hcommand] at hwithin
    exact ⟨fault, parse_eq_commandAt hsource hbefore hcommand hat, hwithin⟩

theorem parse_reads_by_lines_of_input :
    ∃ fault, Story.parse "Hello\n \n+PAUSE \n+INPUT name\n+".toList = .error fault ∧
      fault.Within 16 27 ∧
      LineReading "\t\n Hello \n+INPUT :a\n \n".toList [.text " Hello".toList, .input "a".toList] := by
  have hsource : Text.split '\n' "Hello\n \n+PAUSE \n+INPUT name\n+".toList =
      ["Hello".toList, " ".toList, "+PAUSE ".toList] ++ "+INPUT name".toList :: ["+".toList] := by
    decide
  have hstart : Text.extent ["Hello".toList, " ".toList, "+PAUSE ".toList] = 16 := by decide
  have hbefore : ∀ l ∈ ["Hello".toList, " ".toList, "+PAUSE ".toList], isCommandLine l →
      ∃ e, CommandLine l e := by
    intro l hl hcommand
    simp only [List.mem_cons, List.not_mem_nil, or_false] at hl
    rcases hl with rfl | rfl | rfl
    · cases hcommand
    · cases hcommand
    · exact ⟨.pause, (commandAt_eq_ok_iff (by decide)).mp (by decide : commandAt 0 _ = .ok .pause)⟩
  have hinput : ¬ ∃ e, CommandLine "+INPUT name".toList e := by
    rintro ⟨e, he⟩
    have hat : commandAt 0 "INPUT name".toList = .ok e :=
      (commandAt_eq_ok_iff (by decide)).mpr he
    rw [show commandAt 0 "INPUT name".toList = .error ⟨.missingArgument "INPUT".toList, 0⟩ by decide]
      at hat
    cases hat
  have h := (parse_reads_by_lines _).2 _ _ _ hsource hbefore (by decide) hinput
  rw [hstart] at h
  obtain ⟨fault, hfault, hwithin⟩ := h
  refine ⟨fault, hfault, hwithin, ((parse_reads_by_lines _).1 _).mp ?_⟩
  rw [parse_eq_readBlocks]
  decide

end StoryPlayer
