import StoryPlayer.Proofs.Story.Reading

/-!
# Advance of the reader

The loop of the reader has no bound of its own. It ends because wherever it looks for an event, the
rest of the line is not blank: then a text is there to be read, if no command is, and what is read
is followed by the end of a line. This holds from every offset of a document on, also from the
middle of a line.
-/

namespace StoryPlayer

open Cursor

/-- What is left of the current line is not blank. -/
def Poised (t : Text) : Prop :=
  ∃ line rest, t = line ++ rest ∧ '\n' ∉ line ∧ ¬ isBlankLine line ∧ EndsLine rest

private theorem endsLine_dropWhile (t : Text) : EndsLine (t.dropWhile (· != '\n')) := by
  intro c hc
  simpa using head?_dropWhile_false (· != '\n') t c hc

private theorem newline_notMem_of_inline {blanks : Text} (h : ∀ c ∈ blanks, isInline c) :
    '\n' ∉ blanks := by
  intro hmem
  have := h '\n' hmem
  contradiction

private theorem poised_of_not_gap {blanks : Text} (hblanks : ∀ c ∈ blanks, isInline c) {c : Char}
    (hnewline : c ≠ '\n') (hinline : ¬ isInline c) (t : Text) : Poised (blanks ++ c :: t) := by
  have hline : '\n' ∉ t.takeWhile (· != '\n') := by
    intro hmem
    simpa using List.mem_takeWhile_imp hmem
  refine ⟨blanks ++ c :: t.takeWhile (· != '\n'), t.dropWhile (· != '\n'), ?_, ?_, ?_,
    endsLine_dropWhile t⟩
  · rw [List.append_assoc, List.cons_append, List.takeWhile_append_dropWhile]
  · simp [newline_notMem_of_inline hblanks, Ne.symm hnewline, hline]
  · simp [isBlankLine, hinline]

/-- Behind the blank lines, the rest of the line is not blank, unless nothing but gaps is left. -/
private theorem poised_of_blankLinesLength (blanks : Text) (hblanks : ∀ c ∈ blanks, isInline c)
    (t : Text) :
    (∀ c ∈ t, isGap c) ∨ Poised ((blanks ++ t).drop (blankLinesLength blanks.length t)) := by
  induction t generalizing blanks with
  | nil => exact .inl (by simp)
  | cons c t ih =>
    rw [blankLinesLength]
    by_cases hnewline : c = '\n'
    · rw [if_pos hnewline]
      have hdrop : (blanks ++ c :: t).drop (blanks.length + 1 + blankLinesLength 0 t) =
          ([] ++ t).drop (blankLinesLength 0 t) := by
        rw [← List.drop_drop, List.append_cons, List.drop_left' (by simp), List.nil_append]
      rw [hdrop]
      refine (ih [] (by simp)).imp_left fun hgaps => ?_
      simpa [hnewline, isGap] using hgaps
    · rw [if_neg hnewline]
      by_cases hinline : isInline c
      · rw [if_pos hinline, List.append_cons]
        have ih := ih (blanks ++ [c]) (by simpa [hinline, or_imp, forall_and] using hblanks)
        rw [List.length_append, List.length_singleton] at ih
        refine ih.imp_left fun hgaps => ?_
        simpa [isGap_of_isInline hinline] using hgaps
      · rw [if_neg hinline, List.drop_zero]
        exact .inr (poised_of_not_gap hblanks hnewline hinline t)

theorem Poised.atTrailer {t : Text} (h : Poised t) (p : Nat) : (facing p t).atTrailer = false := by
  obtain ⟨line, rest, rfl, hline, hblank, -⟩ := h
  exact atTrailer_line hline hblank p rest

private theorem Poised.length_pos {t : Text} (h : Poised t) : 0 < t.length := by
  obtain ⟨line, rest, rfl, -, hblank, -⟩ := h
  cases line with
  | nil => exact absurd rfl hblank
  | cons c line => simp

theorem Poised.exists_not_isGap {t : Text} (h : Poised t) :
    ∃ c ∈ untilCommand t, isGap c = false := by
  obtain ⟨line, rest, rfl, hline, hblank, -⟩ := h
  obtain ⟨c, hc, hgap⟩ := StoryPlayer.exists_not_isGap hline hblank
  rw [untilCommand_line hline]
  exact ⟨c, List.mem_append_left _ hc, hgap⟩

/-- The text closes an event: gaps, and then the end of a line. -/
def Closes (t : Text) : Prop := ∃ gap rest, t = gap ++ rest ∧ (∀ c ∈ gap, isGap c) ∧ EndsLine rest

private theorem exists_untilCommand_append (t : Text) :
    ∃ rest, untilCommand t ++ rest = t ∧ EndsLine rest := by
  induction t with
  | nil => exact ⟨[], rfl, endsLine_nil⟩
  | cons c t ih =>
    rw [untilCommand]
    by_cases hstop : c = '\n' ∧ t.head? = some '+'
    · rw [if_pos hstop, hstop.1]
      exact ⟨'\n' :: t, rfl, endsLine_newline t⟩
    · obtain ⟨rest, hrest, hend⟩ := ih
      rw [if_neg hstop]
      exact ⟨rest, by rw [List.cons_append, hrest], hend⟩

namespace Rule

/-- A text can be read wherever the rest of the line is not blank. -/
private theorem text_of_poised {t : Text} (h : Poised t) (p : Nat) :
    ∃ content u, content ≠ [] ∧ t = content ++ u ∧ Closes u ∧
      text (facing p t) = .ok (.text content) (facing (p + content.length) u) := by
  obtain ⟨rest, hrest, hend⟩ := exists_untilCommand_append t
  obtain ⟨gap, hgap, hcontent⟩ := Text.exists_trimEnd_append isGap (untilCommand t)
  have hne : (untilCommand t).trimEnd isGap ≠ [] := by
    intro hnil
    obtain ⟨c, hc, hnot⟩ := h.exists_not_isGap
    simp [Text.trimEnd_eq_nil_iff.mp hnil c hc] at hnot
  have hsplit : t = (untilCommand t).trimEnd isGap ++ (gap ++ rest) := by
    rw [← List.append_assoc, hcontent, hrest]
  refine ⟨_, gap ++ rest, hne, hsplit, ⟨gap, rest, rfl, hgap, hend⟩, ?_⟩
  rw [← facing_advance, ← hsplit]
  exact if_neg fun hnil => hne (List.isEmpty_iff.mp hnil)

private theorem command_of_poised {t : Text} (h : Poised t) (hplus : t.head? = some '+') (p : Nat) :
    (∃ e used u, used ≠ [] ∧ t = used ++ u ∧ Closes u ∧
      command (facing p t) = .ok e (facing (p + used.length) u)) ∨
    ∃ fault c, command (facing p t) = .error fault c ∧ fault.cause ≠ .pastEnd := by
  obtain ⟨line, rest, rfl, hline, hblank, hend⟩ := h
  cases line with
  | nil => exact absurd rfl hblank
  | cons first line =>
    obtain rfl : first = '+' := by simpa using hplus
    have hleads := command_facing p (fun hmem => hline (List.mem_cons_of_mem _ hmem)) hend
    cases hat : commandAt p line with
    | ok e =>
      rw [hat] at hleads
      have hcloses : Closes rest := ⟨[], rest, rfl, by simp, hend⟩
      refine .inl ⟨e, '+' :: line, rest, List.cons_ne_nil _ _, rfl, hcloses, ?_⟩
      rw [List.length_cons, Nat.add_comm line.length, ← Nat.add_assoc]
      exact hleads
    | error fault =>
      rw [hat] at hleads
      obtain ⟨c, hcommand⟩ := hleads
      exact .inr ⟨fault, c, hcommand, (commandAt_fault hat).1⟩

/-- Wherever the rest of the line is not blank, an event is read, or a command is at fault. -/
private theorem event_of_poised {t : Text} (h : Poised t) (p : Nat) :
    (∃ e used u, used ≠ [] ∧ t = used ++ u ∧ Closes u ∧
      event (facing p t) = .ok e (facing (p + used.length) u)) ∨
    ∃ fault c, event (facing p t) = .error fault c ∧ (facing p t).peek ['+'] = true ∧
      fault.cause ≠ .pastEnd := by
  by_cases hpeek : (facing p t).peek ['+'] = true
  · have hplus : t.head? = some '+' := by
      rw [peek_facing] at hpeek
      cases t with
      | nil => contradiction
      | cons first t => simpa using Eq.symm (by simpa using hpeek)
    have hevent : event (facing p t) = command (facing p t) := if_pos hpeek
    rw [hevent]
    refine (command_of_poised h hplus p).imp_right ?_
    rintro ⟨fault, c, hcommand, hcause⟩
    exact ⟨fault, c, hcommand, hpeek, hcause⟩
  · obtain ⟨content, u, hcontent, hsplit, hu, htext⟩ := text_of_poised h p
    have hevent : event (facing p t) = text (facing p t) := if_neg hpeek
    rw [hevent]
    exact .inl ⟨_, content, u, hcontent, hsplit, hu, htext⟩

private theorem skipBlankLines_of_not_gap {t : Text} (h : ¬ ∀ c ∈ t, isGap c) (p : Nat) :
    ∃ blanks u, t = blanks ++ u ∧ Poised u ∧
      skipBlankLines (facing p t) = .ok () (facing (p + blanks.length) u) := by
  have hlength : (t.take (blankLinesLength 0 t)).length = blankLinesLength 0 t := by
    have hle := blankLinesLength_le 0 t
    rw [List.length_take]
    omega
  have hpoised : Poised (t.drop (blankLinesLength 0 t)) :=
    (poised_of_blankLinesLength [] (by simp) t).resolve_left h
  refine ⟨_, _, (List.take_append_drop _ t).symm, hpoised, ?_⟩
  rw [hlength]
  exact skipBlankLines_facing p t

/-- Between two events there is the end of a line, and behind it a line that is not blank. -/
private theorem separator_of_closes {t : Text} (h : Closes t) {p : Nat}
    (hmore : (facing p t).atTrailer = false) :
    ∃ used u, used ≠ [] ∧ t = used ++ u ∧ Poised u ∧
      separator (facing p t) = .ok () (facing (p + used.length) u) := by
  obtain ⟨gap, rest, rfl, hgap, hend⟩ := h
  rw [atTrailer_facing, List.all_eq_false] at hmore
  obtain ⟨c, hc, hnot⟩ := hmore
  have hc : c ∈ rest := (List.mem_append.mp hc).resolve_left fun hmem => hnot (hgap c hmem)
  cases rest with
  | nil => contradiction
  | cons first t =>
    obtain rfl : first = '\n' := hend first rfl
    have ht : ¬ ∀ c ∈ t, isGap c := by
      intro hall
      rcases List.mem_cons.mp hc with rfl | hmem
      · exact hnot rfl
      · exact hnot (hall c hmem)
    obtain ⟨blanks, u, rfl, hu, hskip⟩ := skipBlankLines_of_not_gap ht (p + (gap.length + 1))
    refine ⟨gap ++ '\n' :: blanks, u, by simp, by simp, hu, ?_⟩
    rw [separator_gap hgap, hskip, List.length_append, List.length_cons]
    congr 2
    omega

end Rule

/-- From the offset on, the text is what remains of the document. -/
structure Remains (source : Text) (p : Nat) (t : Text) : Prop where
  le : p ≤ source.length
  drop_eq : source.drop p = t

namespace Remains

variable {source t : Text} {p : Nat}

private theorem facing_eq (h : Remains source p t) : facing p t = ofSource source p := by
  rw [ofSource_eq_facing source h.le, h.drop_eq]

private theorem length_eq (h : Remains source p t) : p + t.length = source.length := by
  have hle := h.le
  rw [← h.drop_eq, List.length_drop]
  omega

private theorem lt_length (h : Remains source p t) (ht : Poised t) : p < source.length := by
  have hlength := h.length_eq
  have hpos := ht.length_pos
  omega

theorem append {used : Text} (h : Remains source p (used ++ t)) :
    Remains source (p + used.length) t := by
  have hlength := h.length_eq
  rw [List.length_append] at hlength
  refine ⟨by omega, ?_⟩
  rw [← List.drop_drop, h.drop_eq, List.drop_left]

end Remains

namespace Rule

/-- The reader looks for an event at the cursor, with the events before it read. -/
inductive Seeks (start : Cursor) : Story → Cursor → Prop where
  | first {c : Cursor} (hskip : skipBlankLines start = .ok () c) (hmore : c.atTrailer = false) :
      Seeks start [] c
  | next {es : Story} {e : Event} {c c₁ c₂ : Cursor} (hseeks : Seeks start es c)
      (hevent : event c = .ok e c₁) (hgoes : c₁.atTrailer = false)
      (hseparator : separator c₁ = .ok () c₂) (hmore : c₂.atTrailer = false) :
      Seeks start (es ++ [e]) c₂

/-- The ways in which the reader ends: on a document without events, behind the last event, or on
an event that is at fault. -/
inductive Ends (start : Cursor) : EStateM.Result Fault Cursor Story → Prop where
  | empty {c : Cursor} (hskip : skipBlankLines start = .ok () c) (htrailer : c.atTrailer = true) :
      Ends start (.ok [] c)
  | last {es : Story} {e : Event} {c c₁ : Cursor} (hseeks : Seeks start es c)
      (hevent : event c = .ok e c₁) (htrailer : c₁.atTrailer = true) :
      Ends start (.ok (es ++ [e]) c₁)
  | fault {es : Story} {fault : Fault} {c c₁ : Cursor} (hseeks : Seeks start es c)
      (hevent : event c = .error fault c₁) : Ends start (.error fault c₁)

/-- What the rules do at a cursor of the document where an event is looked for. -/
structure Proceeds (source : Text) (c : Cursor) : Prop where
  eq_ofSource : c = ofSource source c.pos
  pos_lt : c.pos < source.length
  text_ok : c.peek ['+'] = false → ∃ content c₁, text c = .ok (.text content) c₁
  event_ok : ∀ e c₁, event c = .ok e c₁ →
    c₁ = ofSource source c₁.pos ∧ c.pos < c₁.pos ∧ c₁.pos ≤ source.length
  separator_ok : ∀ e c₁, event c = .ok e c₁ → c₁.atTrailer = false →
    ∃ c₂, separator c₁ = .ok () c₂ ∧ c₁.pos < c₂.pos ∧ c₂.pos < source.length
  event_error : ∀ fault c₁, event c = .error fault c₁ →
    c.peek ['+'] = true ∧ fault.cause ≠ .pastEnd

section

variable {source t : Text} {p : Nat} {c₁ : Cursor} {e : Event}

private theorem event_ok_of_poised (ht : Remains source p t) (h : Poised t)
    (hevent : event (facing p t) = .ok e c₁) :
    ∃ q u, p < q ∧ c₁ = facing q u ∧ Remains source q u ∧ Closes u := by
  obtain ⟨e', used, u, hused, rfl, hu, hok⟩ | ⟨fault, c, herror, -⟩ := event_of_poised h p
  · cases hok.symm.trans hevent
    have hpos := List.length_pos_iff.mpr hused
    exact ⟨_, u, by omega, rfl, ht.append, hu⟩
  · cases herror.symm.trans hevent

/-- One round of the reader: an event and a separator lead forward to a line that is not blank. -/
theorem round_of_poised (ht : Remains source p t) (h : Poised t)
    (hevent : event (facing p t) = .ok e c₁) (hgoes : c₁.atTrailer = false) :
    ∃ q u, p < c₁.pos ∧ c₁.pos < q ∧ separator c₁ = .ok () (facing q u) ∧ Remains source q u ∧
      Poised u := by
  obtain ⟨q, u, hlt, rfl, hu, hcloses⟩ := event_ok_of_poised ht h hevent
  obtain ⟨used, v, hused, rfl, hv, hseparator⟩ := separator_of_closes hcloses hgoes
  have hpos := List.length_pos_iff.mpr hused
  exact ⟨_, v, hlt, Nat.lt_add_of_pos_right hpos, hseparator, hu.append, hv⟩

theorem proceeds_of_poised (ht : Remains source p t) (h : Poised t) :
    Proceeds source (facing p t) where
  eq_ofSource := ht.facing_eq
  pos_lt := ht.lt_length h
  text_ok := by
    intro _
    obtain ⟨content, u, -, -, -, htext⟩ := text_of_poised h p
    exact ⟨content, _, htext⟩
  event_ok := by
    intro e c₁ hevent
    obtain ⟨q, u, hlt, rfl, hu, -⟩ := event_ok_of_poised ht h hevent
    exact ⟨hu.facing_eq, hlt, hu.le⟩
  separator_ok := by
    intro e c₁ hevent hgoes
    obtain ⟨q, u, -, hlt, hseparator, hu, hpoised⟩ := round_of_poised ht h hevent hgoes
    exact ⟨_, hseparator, hlt, hu.lt_length hpoised⟩
  event_error := by
    intro fault c₁ hevent
    obtain ⟨e, used, u, -, -, -, hok⟩ | ⟨fault', c, herror, hfault⟩ := event_of_poised h p
    · cases hok.symm.trans hevent
    · cases herror.symm.trans hevent
      exact hfault

end

section

variable {source : Text} {pos : Nat} {start c c₁ c₂ : Cursor} {es : Story} {e : Event}

/-- Every cursor at which an event is looked for stands before a line that is not blank, and each
round before it took at least two characters. -/
theorem Seeks.exists_poised (hpos : pos ≤ source.length) (h : Seeks (ofSource source pos) es c) :
    ∃ p t, c = facing p t ∧ Remains source p t ∧ Poised t ∧ pos + 2 * es.length ≤ p := by
  induction h with
  | @first c hskip hmore =>
    rw [ofSource_eq_facing source hpos] at hskip
    have hnot : ¬ ∀ c ∈ source.drop pos, isGap c := by
      intro hgaps
      rw [skipBlankLines_facing] at hskip
      cases hskip
      rw [atTrailer_facing, List.all_eq_false] at hmore
      obtain ⟨c, hc, hnot⟩ := hmore
      exact hnot (hgaps c (List.mem_of_mem_drop hc))
    obtain ⟨blanks, u, hsplit, hu, hok⟩ := skipBlankLines_of_not_gap hnot pos
    cases hok.symm.trans hskip
    exact ⟨_, u, rfl, Remains.append ⟨hpos, hsplit⟩, hu, Nat.le_add_right _ _⟩
  | next _ hevent hgoes hseparator _ ih =>
    obtain ⟨p, t, rfl, ht, hpoised, hle⟩ := ih
    obtain ⟨q, u, hlt₁, hlt₂, hok, hu, hnext⟩ := round_of_poised ht hpoised hevent hgoes
    cases hok.symm.trans hseparator
    refine ⟨q, u, rfl, hu, hnext, ?_⟩
    rw [List.length_append, List.length_singleton]
    omega

theorem Seeks.atTrailer (h : Seeks start es c) : c.atTrailer = false := by
  cases h with
  | first _ hmore => exact hmore
  | next _ _ _ _ hmore => exact hmore

private theorem after_nil (r : EStateM.Result Fault Cursor Story) : after [] r = r := by
  cases r <;> rfl

private theorem after_after (es fs : Story) (r : EStateM.Result Fault Cursor Story) :
    after es (after fs r) = after (es ++ fs) r := by
  cases r with
  | ok gs c => rw [after, after, after, List.append_assoc]
  | error fault c => rfl

private theorem story_of_skip (hskip : skipBlankLines start = .ok () c) : story start = events c :=
  bind_of_ok hskip

theorem Seeks.story_eq (h : Seeks start es c) : story start = after es (events c) := by
  induction h with
  | first hskip _ => rw [story_of_skip hskip, after_nil]
  | next hseeks hevent hgoes hseparator _ ih =>
    rw [ih, events_of_next hseeks.atTrailer hevent hgoes hseparator, after_after]

/-- From wherever an event is looked for the reader comes to an end. The induction is on what is
left of the document, of which every round takes some. -/
theorem Seeks.ends (hpos : pos ≤ source.length) {n : Nat}
    (h : Seeks (ofSource source pos) es c) (hn : source.length - c.pos ≤ n) :
    Ends (ofSource source pos) (story (ofSource source pos)) := by
  induction n generalizing es c with
  | zero =>
    obtain ⟨p, t, rfl, ht, hpoised, -⟩ := h.exists_poised hpos
    have hlt := (proceeds_of_poised ht hpoised).pos_lt
    omega
  | succ n ih =>
    obtain ⟨p, t, rfl, ht, hpoised, -⟩ := h.exists_poised hpos
    have hstory := h.story_eq
    cases hevent : event (facing p t) with
    | error fault c₁ =>
      rw [events_of_error h.atTrailer hevent] at hstory
      exact hstory ▸ .fault h hevent
    | ok e c₁ =>
      cases htrailer : c₁.atTrailer with
      | true =>
        rw [events_of_last h.atTrailer hevent htrailer] at hstory
        exact hstory ▸ .last h hevent htrailer
      | false =>
        obtain ⟨q, u, hlt₁, hlt₂, hseparator, -, hnext⟩ :=
          round_of_poised ht hpoised hevent htrailer
        refine ih (.next h hevent htrailer hseparator (hnext.atTrailer q)) ?_
        have hlt := ht.lt_length hpoised
        change source.length - p ≤ n + 1 at hn
        change source.length - q ≤ n
        omega

theorem story_ends (hpos : pos ≤ source.length) :
    Ends (ofSource source pos) (story (ofSource source pos)) := by
  obtain ⟨c, hskip⟩ : ∃ c, skipBlankLines (ofSource source pos) = .ok () c := ⟨_, rfl⟩
  cases hmore : c.atTrailer with
  | false => exact Seeks.ends hpos (.first hskip hmore) (Nat.le_refl _)
  | true =>
    have hstory : story (ofSource source pos) = .ok [] c := by
      rw [story_of_skip hskip, events, if_pos hmore]
    exact hstory ▸ .empty hskip hmore

/-- From every offset of a document on, the reader ends. Wherever it looks for an event before
that, it stands in the document, a text is read if no command is there, an event that is read leads
forward, the separator before the next event is found, and no fault is about the document's end. As
every round takes two characters at least, the length of the document bounds their number. -/
theorem story_ends_from_offset (source : Text) {pos : Nat} (hpos : pos ≤ source.length) :
    Ends (ofSource source pos) (story (ofSource source pos)) ∧
    ∀ es c, Seeks (ofSource source pos) es c →
      Proceeds source c ∧ pos + 2 * es.length ≤ c.pos := by
  refine ⟨story_ends hpos, fun es c hseeks => ?_⟩
  obtain ⟨p, t, rfl, ht, hpoised, hle⟩ := hseeks.exists_poised hpos
  exact ⟨proceeds_of_poised ht hpoised, hle⟩

end

/-- A text with a gap behind it, an input, and a command that does not exist. -/
def threeLines : Text := "ab \n\t\n+INPUT: x \n+NO".toList

private theorem seeks_threeLines :
    Seeks (ofSource threeLines 1) [.text ['b'], .input ['x']] (ofSource threeLines 17) := by
  have first : Seeks (ofSource threeLines 1) [] (ofSource threeLines 1) := .first rfl rfl
  have second : Seeks (ofSource threeLines 1) ([] ++ [.text ['b']]) (ofSource threeLines 6) :=
    .next first rfl rfl rfl rfl
  have third : Seeks (ofSource threeLines 1) ([.text ['b']] ++ [.input ['x']])
      (ofSource threeLines 17) := .next second rfl rfl rfl rfl
  exact third

theorem story_ends_from_offset_of_threeLines :
    1 ≤ threeLines.length ∧
    Seeks (ofSource threeLines 1) [.text ['b'], .input ['x']] (ofSource threeLines 17) ∧
    Ends (ofSource threeLines 1) (story (ofSource threeLines 1)) ∧
    Proceeds threeLines (ofSource threeLines 17) := by
  have hpos : 1 ≤ threeLines.length := by decide
  obtain ⟨hends, hproceeds⟩ := story_ends_from_offset threeLines hpos
  exact ⟨hpos, seeks_threeLines, hends, (hproceeds _ _ seeks_threeLines).1⟩

end Rule
end StoryPlayer
