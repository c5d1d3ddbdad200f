import StoryPlayer.Proofs.Story.Markup
import StoryPlayer.Proofs.Story.Places

/-!
# Documents that follow each other

Two documents with a line end between them are read as one after the other. Nothing but a text can
run across the seam: the last passage of the first document and the first passage of the second
become one.
-/

namespace StoryPlayer

private theorem isGap_of_mem_following {lines : List Text}
    (hblank : ∀ line ∈ lines, isBlankLine line) : ∀ c ∈ Text.following lines, isGap c := by
  intro c hc
  rw [Text.following_eq_flatMap] at hc
  obtain ⟨line, hline, hc⟩ := List.mem_flatMap.mp hc
  rcases List.mem_cons.mp hc with rfl | hc
  · decide
  · exact isGap_of_isInline (List.all_eq_true.mp (hblank line hline) c hc)

private theorem passageText_eq_nil_iff {lines : List Text} (hlines : ∀ line ∈ lines, '\n' ∉ line) :
    passageText lines = [] ↔ ∀ line ∈ lines, isBlankLine line := by
  rw [← List.dropWhile_eq_nil_iff]
  cases hkept : lines.dropWhile isBlankLine with
  | nil => simp [passageText, hkept, Text.join, Text.trimEnd]
  | cons line run =>
    have hblank : ¬ isBlankLine line := by
      have := List.head?_dropWhile_not isBlankLine lines
      simpa [hkept] using this
    have hline : '\n' ∉ line := hlines line (List.dropWhile_subset _ (hkept ▸ List.mem_cons_self))
    have htext : passageText lines = passageText (line :: run) := by
      rw [passageText_of_not_blank hblank, passageText, hkept]
    simpa [htext] using passageText_ne_nil hline hblank run

private theorem passageText_append_of_blank_left {run : List Text}
    (hrun : ∀ line ∈ run, isBlankLine line)
    (more : List Text) : passageText (run ++ more) = passageText more := by
  rw [passageText, List.dropWhile_append_of_pos hrun, passageText]

private theorem dropWhile_append_of_ne_nil {α : Type} {q : α → Bool} {run : List α}
    (h : run.dropWhile q ≠ []) (more : List α) :
    (run ++ more).dropWhile q = run.dropWhile q ++ more := by
  rw [List.dropWhile_append, if_neg (by simpa using h)]

private theorem dropWhile_isBlankLine_ne_nil {run : List Text} (h : passageText run ≠ []) :
    run.dropWhile isBlankLine ≠ [] := by
  intro hnil
  apply h
  rw [passageText, hnil]
  rfl

private theorem passageText_append_of_blank_right {run more : List Text}
    (hrun : passageText run ≠ [])
    (hmore : ∀ line ∈ more, isBlankLine line) : passageText (run ++ more) = passageText run := by
  have hkept := dropWhile_isBlankLine_ne_nil hrun
  rw [passageText, dropWhile_append_of_ne_nil hkept, Text.join_append_eq_append_following hkept,
    Text.trimEnd_append_of_all (isGap_of_mem_following hmore), passageText]

/-- Two passages with texts make one text, with a gap where the lines meet. -/
private theorem exists_passageText_append {run more : List Text} (hrun : passageText run ≠ [])
    (hmore : passageText more ≠ []) :
    ∃ gap, (∀ c ∈ gap, isGap c) ∧ '\n' ∈ gap ∧
      passageText (run ++ more) = passageText run ++ gap ++ passageText more := by
  have hkept := dropWhile_isBlankLine_ne_nil hrun
  have hkept' := dropWhile_isBlankLine_ne_nil hmore
  have hsplit := List.takeWhile_append_dropWhile (p := isBlankLine) (l := more)
  have hblank : ∀ line ∈ more.takeWhile isBlankLine, isBlankLine line :=
    fun line => List.mem_takeWhile_imp
  obtain ⟨gap, hgap, happend⟩ :=
    Text.exists_trimEnd_append isGap (Text.join '\n' (run.dropWhile isBlankLine))
  obtain ⟨line, rest, hcons⟩ := List.exists_cons_of_ne_nil hkept'
  have hfollowing : Text.following more = Text.following (more.takeWhile isBlankLine) ++
      '\n' :: Text.join '\n' (more.dropWhile isBlankLine) := by
    conv_lhs => rw [← hsplit, Text.following_append, hcons]
    rw [hcons]
    rfl
  refine ⟨gap ++ Text.following (more.takeWhile isBlankLine) ++ ['\n'], ?_, by simp, ?_⟩
  · intro c hc
    simp only [List.mem_append, List.mem_singleton] at hc
    rcases hc with (hc | hc) | rfl
    · exact hgap c hc
    · exact isGap_of_mem_following hblank c hc
    · decide
  · calc passageText (run ++ more)
        = Text.trimEnd isGap
            (Text.join '\n' (run.dropWhile isBlankLine) ++ Text.following more) := by
          rw [passageText, dropWhile_append_of_ne_nil hkept,
            Text.join_append_eq_append_following hkept]
      _ = Text.trimEnd isGap ((passageText run ++ gap ++
            Text.following (more.takeWhile isBlankLine) ++ ['\n']) ++
            Text.join '\n' (more.dropWhile isBlankLine)) := by
          rw [hfollowing, ← happend, passageText]
          simp
      _ = (passageText run ++ gap ++ Text.following (more.takeWhile isBlankLine) ++ ['\n']) ++
            passageText more := by
          rw [Text.trimEnd_append_of_ne_nil hmore]
          rfl
      _ = _ := by simp

private theorem passageEvents_of_text {lines : List Text} (h : passageText lines ≠ []) :
    passageEvents lines = [.text (passageText lines)] := by
  rw [passageEvents, if_neg (by simpa using h)]

private theorem passageEvents_of_nil {lines : List Text} (h : passageText lines = []) :
    passageEvents lines = [] := by
  rw [passageEvents, if_pos (by simpa using h)]

theorem passageEvents_append {run more : List Text} (hrun : ∀ line ∈ run, '\n' ∉ line)
    (hmore : ∀ line ∈ more, '\n' ∉ line) (h : passageText run = [] ∨ passageText more = []) :
    passageEvents (run ++ more) = passageEvents run ++ passageEvents more := by
  by_cases hnil : passageText run = []
  · have hblank := (passageText_eq_nil_iff hrun).mp hnil
    rw [passageEvents_of_nil hnil, passageEvents, passageText_append_of_blank_left hblank,
      passageEvents, List.nil_append]
  · have hnil' := h.resolve_left hnil
    have hblank := (passageText_eq_nil_iff hmore).mp hnil'
    rw [passageEvents_of_nil hnil', passageEvents, passageText_append_of_blank_right hnil hblank,
      passageEvents, List.append_nil]

private theorem blocks_append_of_closed {before : List Text}
    (hbefore : ∀ line ∈ before.getLast?, isCommandLine line) (lines : List Text) :
    blocks (before ++ lines) = blocks before ++ blocks lines := by
  obtain rfl | ⟨init, line, rfl⟩ := List.eq_nil_or_concat' before
  · rfl
  · have hline := hbefore line (by simp)
    rw [List.append_assoc, List.singleton_append, blocks_append_command init hline,
      blocks_append_command init hline, List.append_assoc]
    rfl

private theorem readBlocks_run (start : Nat) {run after : List Text}
    (hrun : ∀ line ∈ run, ¬ isCommandLine line)
    (hafter : ∀ line ∈ after.head?, isCommandLine line) :
    readBlocks start (blocks (run ++ after)) =
      (readBlocks (start + Text.extent run) (blocks after)).map (passageEvents run ++ ·) := by
  by_cases hnil : run = []
  · subst run
    have hevents : passageEvents [] = [] := rfl
    simp only [List.nil_append, Text.extent_nil, Nat.add_zero, hevents]
    cases readBlocks start (blocks after) <;> rfl
  · rw [blocks_run_append hnil hrun hafter, readBlocks]
    rfl

/-- The lines of two documents around the seam: the last passage of the first is `closing`, and the
first passage of the second is `opening`. -/
structure Seam (a b : Text) where
  before : List Text
  closing : List Text
  opening : List Text
  after : List Text
  first : Text.split '\n' a = before ++ closing
  second : Text.split '\n' b = opening ++ after
  before_closed : ∀ line ∈ before.getLast?, isCommandLine line
  closing_run : ∀ line ∈ closing, ¬ isCommandLine line
  opening_run : ∀ line ∈ opening, ¬ isCommandLine line
  after_opened : ∀ line ∈ after.head?, isCommandLine line

namespace Seam

def of (a b : Text) : Seam a b where
  before := (Text.split '\n' a).rdropWhile (!isCommandLine ·)
  closing := (Text.split '\n' a).rtakeWhile (!isCommandLine ·)
  opening := (Text.split '\n' b).takeWhile (!isCommandLine ·)
  after := (Text.split '\n' b).dropWhile (!isCommandLine ·)
  first := List.rdropWhile_append_rtakeWhile.symm
  second := List.takeWhile_append_dropWhile.symm
  before_closed := by
    intro line hline
    obtain ⟨hne, rfl⟩ := List.mem_getLast?_eq_getLast hline
    have := List.rdropWhile_last_not (!isCommandLine ·) (Text.split '\n' a) hne
    simpa using this
  closing_run := by
    intro line hline
    simpa using List.mem_rtakeWhile_imp hline
  opening_run := by
    intro line hline
    simpa using List.mem_takeWhile_imp hline
  after_opened := by
    intro line hline
    have := List.head?_dropWhile_not (!isCommandLine ·) (Text.split '\n' b)
    rw [Option.mem_def.mp hline] at this
    simpa using this

variable {a b : Text} (s : Seam a b)

private theorem extent_first : Text.extent s.before + Text.extent s.closing = a.length + 1 := by
  have hlength := Text.length_join_add_one '\n' (Text.split_ne_nil '\n' a)
  rw [Text.join_split, s.first, Text.extent_append] at hlength
  exact hlength.symm

theorem parse_first :
    Story.parse a = (readBlocks 0 (blocks s.before)).map (· ++ passageEvents s.closing) := by
  have hclosing := readBlocks_run (0 + Text.extent s.before) s.closing_run
    (fun line (hline : line ∈ ([] : List Text).head?) => by cases hline)
  rw [List.append_nil] at hclosing
  rw [parse_eq_readBlocks, s.first, blocks_append_of_closed s.before_closed, readBlocks_append,
    flatMap_lines_blocks, hclosing]
  cases readBlocks 0 (blocks s.before) with
  | error fault => rfl
  | ok events => simp [blocks, readBlocks, Except.map]

theorem parse_second :
    Story.parse b = (readBlocks (Text.extent s.opening) (blocks s.after)).map
      (passageEvents s.opening ++ ·) := by
  rw [parse_eq_readBlocks, s.second, readBlocks_run 0 s.opening_run s.after_opened, Nat.zero_add]

theorem parse_both :
    Story.parse (a ++ '\n' :: b) =
      match readBlocks 0 (blocks s.before) with
      | .error fault => .error fault
      | .ok events =>
        ((readBlocks (Text.extent s.opening) (blocks s.after)).mapError
          (Fault.shift (a.length + 1))).map
            fun rest => events ++ (passageEvents (s.closing ++ s.opening) ++ rest) := by
  have hrun : ∀ line ∈ s.closing ++ s.opening, ¬ isCommandLine line := by
    intro line hline
    rcases List.mem_append.mp hline with hline | hline
    · exact s.closing_run line hline
    · exact s.opening_run line hline
  have hlines : Text.split '\n' (a ++ '\n' :: b) =
      s.before ++ ((s.closing ++ s.opening) ++ s.after) := by
    rw [Text.split_append, s.first, s.second]
    simp only [List.append_assoc]
  have hstart : 0 + Text.extent s.before + Text.extent (s.closing ++ s.opening) =
      Text.extent s.opening + (a.length + 1) := by
    rw [← s.extent_first, Text.extent_append]
    omega
  rw [parse_eq_readBlocks, hlines, blocks_append_of_closed s.before_closed, readBlocks_append,
    flatMap_lines_blocks, readBlocks_run _ hrun s.after_opened, hstart, readBlocks_shift]
  cases readBlocks 0 (blocks s.before) with
  | error fault => rfl
  | ok events => cases readBlocks (Text.extent s.opening) (blocks s.after) <;> rfl

private theorem newline_notMem_closing : ∀ line ∈ s.closing, '\n' ∉ line := by
  intro line hline
  apply Text.notMem_of_mem_split (t := a)
  rw [s.first]
  exact List.mem_append_right _ hline

private theorem newline_notMem_opening : ∀ line ∈ s.opening, '\n' ∉ line := by
  intro line hline
  apply Text.notMem_of_mem_split (t := b)
  rw [s.second]
  exact List.mem_append_left _ hline

end Seam

private theorem isText_of_commandAt {start : Nat} {line : Text} {e : Event}
    (h : commandAt start line = .ok e) : e.isText = false := by
  unfold commandAt at h
  dsimp only at h
  split at h
  · cases h
  · split at h
    · cases h
    · obtain ⟨command, -, hevent, -⟩ := judge_eq_ok_iff.mp h
      cases command with
      | pause =>
        cases hevent
        rfl
      | clear =>
        cases hevent
        rfl
      | input =>
        obtain ⟨label, -, rfl⟩ := Option.map_eq_some_iff.mp hevent
        rfl

private theorem exists_of_readBlocks_command {start : Nat} {line : Text} {bs : List Block}
    {events : Story} (h : readBlocks start (.command line :: bs) = .ok events) :
    ∃ e rest, e.isText = false ∧
      readBlocks (start + Text.extent [line]) bs = .ok rest ∧ events = e :: rest := by
  rw [readBlocks, Block.read] at h
  cases hat : commandAt start line.tail with
  | error fault =>
    rw [hat] at h
    cases h
  | ok e =>
    rw [hat] at h
    obtain ⟨rest, hrest, rfl⟩ := exists_of_map_eq_ok h
    exact ⟨e, rest, isText_of_commandAt hat, hrest, rfl⟩

private theorem isText_head_of_opened {after : List Text} {start : Nat} {events : Story}
    (hafter : ∀ line ∈ after.head?, isCommandLine line)
    (h : readBlocks start (blocks after) = .ok events) :
    ∀ e ∈ events.head?, e.isText = false := by
  intro e he
  cases after with
  | nil =>
    cases h
    cases he
  | cons line after =>
    rw [blocks_command (hafter line rfl)] at h
    obtain ⟨e', rest, htext, -, rfl⟩ := exists_of_readBlocks_command h
    obtain rfl : e' = e := by simpa using he
    exact htext

private theorem isText_getLast_of_closed {before : List Text} {start : Nat} {events : Story}
    (hbefore : ∀ line ∈ before.getLast?, isCommandLine line)
    (h : readBlocks start (blocks before) = .ok events) :
    ∀ e ∈ events.getLast?, e.isText = false := by
  intro e he
  obtain rfl | ⟨init, line, rfl⟩ := List.eq_nil_or_concat' before
  · cases h
    cases he
  · rw [blocks_append_command init (hbefore line (by simp)), readBlocks_append] at h
    cases hinit : readBlocks start (blocks init) with
    | error fault =>
      rw [hinit] at h
      cases h
    | ok before =>
      rw [hinit] at h
      obtain ⟨last, hlast, rfl⟩ := exists_of_map_eq_ok h
      obtain ⟨e', rest, htext, hrest, rfl⟩ := exists_of_readBlocks_command hlast
      cases hrest
      obtain rfl : e' = e := by simpa using he
      exact htext

namespace Seam

variable {a b : Text} (s : Seam a b)

/-- What the two documents hold beyond the passages at the seam. -/
private theorem exists_of_parse_ok {story story' : Story} (ha : Story.parse a = .ok story)
    (hb : Story.parse b = .ok story') :
    ∃ head tail, story = head ++ passageEvents s.closing ∧
      story' = passageEvents s.opening ++ tail ∧
      (∀ e ∈ head.getLast?, e.isText = false) ∧ (∀ e ∈ tail.head?, e.isText = false) ∧
      Story.parse (a ++ '\n' :: b) =
        .ok (head ++ (passageEvents (s.closing ++ s.opening) ++ tail)) := by
  rw [s.parse_first] at ha
  rw [s.parse_second] at hb
  obtain ⟨head, hhead, rfl⟩ := exists_of_map_eq_ok ha
  obtain ⟨tail, htail, rfl⟩ := exists_of_map_eq_ok hb
  refine ⟨head, tail, rfl, rfl, isText_getLast_of_closed s.before_closed hhead,
    isText_head_of_opened s.after_opened htail, ?_⟩
  rw [s.parse_both, hhead, htail]
  rfl

end Seam

theorem parse_fault {source : Text} {fault : Fault} (h : Story.parse source = .error fault) :
    0 ≤ fault.position ∧ fault.position ≤ source.length := by
  rw [parse_eq_readBlocks] at h
  have hrange := readBlocks_fault (fun _ hb => valid_of_mem_blocks hb) h
  have hlength := Text.length_join_add_one '\n' (Text.split_ne_nil '\n' source)
  rw [flatMap_lines_blocks, ← hlength, Text.join_split] at hrange
  omega

theorem parse_append_of_error {a : Text} {fault : Fault} (ha : Story.parse a = .error fault)
    (b : Text) : Story.parse (a ++ '\n' :: b) = .error fault := by
  have s := Seam.of a b
  rw [s.parse_first] at ha
  rw [s.parse_both, eq_error_of_map_eq_error ha]

theorem parse_append_of_ok_of_error {a b : Text} {story : Story} {fault : Fault}
    (ha : Story.parse a = .ok story) (hb : Story.parse b = .error fault) :
    Story.parse (a ++ '\n' :: b) = .error (fault.shift (a.length + 1)) := by
  have s := Seam.of a b
  rw [s.parse_first] at ha
  rw [s.parse_second] at hb
  obtain ⟨head, hhead, -⟩ := exists_of_map_eq_ok ha
  rw [s.parse_both, hhead, eq_error_of_map_eq_error hb]
  rfl

theorem parse_append_of_ok {a b : Text} {story story' : Story} (ha : Story.parse a = .ok story)
    (hb : Story.parse b = .ok story')
    (h : ¬ ((∃ e ∈ story.getLast?, e.isText) ∧ ∃ e ∈ story'.head?, e.isText)) :
    Story.parse (a ++ '\n' :: b) = .ok (story ++ story') := by
  have s := Seam.of a b
  obtain ⟨head, tail, rfl, rfl, -, -, hboth⟩ := s.exists_of_parse_ok ha hb
  have hnil : passageText s.closing = [] ∨ passageText s.opening = [] := by
    by_contra! hne
    apply h
    rw [passageEvents_of_text hne.1, passageEvents_of_text hne.2]
    simp [Event.isText]
  rw [hboth, passageEvents_append s.newline_notMem_closing s.newline_notMem_opening hnil]
  simp only [List.append_assoc]

theorem parse_append_of_texts {a b : Text} {story story' : Story} {x y : Text}
    (ha : Story.parse a = .ok (story ++ [.text x])) (hb : Story.parse b = .ok (.text y :: story')) :
    ∃ gap, (∀ c ∈ gap, isGap c) ∧ '\n' ∈ gap ∧
      Story.parse (a ++ '\n' :: b) = .ok (story ++ .text (x ++ gap ++ y) :: story') := by
  have s := Seam.of a b
  obtain ⟨head, tail, hstory, hstory', hhead, htail, hboth⟩ := s.exists_of_parse_ok ha hb
  -- The texts at the seam can come from the passages there only.
  have hclosing : passageText s.closing ≠ [] := by
    intro hnil
    rw [passageEvents_of_nil hnil, List.append_nil] at hstory
    have := hhead (.text x) (by rw [← hstory]; simp)
    cases this
  have hopening : passageText s.opening ≠ [] := by
    intro hnil
    rw [passageEvents_of_nil hnil, List.nil_append] at hstory'
    have := htail (.text y) (by rw [← hstory']; simp)
    cases this
  rw [passageEvents_of_text hclosing] at hstory
  rw [passageEvents_of_text hopening] at hstory'
  obtain ⟨rfl, hx⟩ := List.append_inj' hstory rfl
  obtain ⟨rfl⟩ : Event.text x = .text (passageText s.closing) := by simpa using hx
  obtain ⟨hy, rfl⟩ := List.cons.inj hstory'
  obtain ⟨rfl⟩ := hy
  obtain ⟨gap, hgap, hnewline, htext⟩ := exists_passageText_append hclosing hopening
  refine ⟨gap, hgap, hnewline, ?_⟩
  have hne : passageText (s.closing ++ s.opening) ≠ [] := by
    rw [htext]
    simp [hclosing]
  rw [hboth, passageEvents_of_text hne, htext]
  rfl

/-- Two documents, one after the other: the fault of the first is the fault of both, the fault of
the second is found behind the first, and without faults the events of the second come after those
of the first, except that two texts at the seam become one. -/
theorem parse_two_documents (a b : Text) :
    (∀ fault, Story.parse a = .error fault →
        Story.parse (a ++ '\n' :: b) = .error fault ∧
        lineAt (a ++ '\n' :: b) fault.position = lineAt a fault.position ∧
        columnAt (a ++ '\n' :: b) fault.position = columnAt a fault.position) ∧
      (∀ story fault, Story.parse a = .ok story → Story.parse b = .error fault →
        Story.parse (a ++ '\n' :: b) = .error (fault.shift (a.length + 1)) ∧
        lineAt (a ++ '\n' :: b) (fault.shift (a.length + 1)).position =
          lineAt b fault.position + 1 + a.count '\n' ∧
        columnAt (a ++ '\n' :: b) (fault.shift (a.length + 1)).position =
          columnAt b fault.position) ∧
      (∀ story story', Story.parse a = .ok story → Story.parse b = .ok story' →
        ¬ ((∃ e ∈ story.getLast?, e.isText) ∧ ∃ e ∈ story'.head?, e.isText) →
        Story.parse (a ++ '\n' :: b) = .ok (story ++ story')) ∧
      ∀ story story' x y, Story.parse a = .ok (story ++ [.text x]) →
        Story.parse b = .ok (.text y :: story') →
        ∃ gap, (∀ c ∈ gap, isGap c) ∧ '\n' ∈ gap ∧
          Story.parse (a ++ '\n' :: b) = .ok (story ++ .text (x ++ gap ++ y) :: story') := by
  refine ⟨?_, ?_, fun _ _ => parse_append_of_ok, fun _ _ _ _ => parse_append_of_texts⟩
  · intro fault ha
    obtain ⟨hnonneg, hle⟩ := parse_fault ha
    exact ⟨parse_append_of_error ha b, lineAt_append_left hnonneg hle _,
      columnAt_append_left hnonneg hle _⟩
  · intro story fault ha hb
    obtain ⟨hnonneg, -⟩ := parse_fault hb
    exact ⟨parse_append_of_ok_of_error ha hb, lineAt_append_right hnonneg a b,
      columnAt_append_right hnonneg a b⟩

theorem parse_two_documents_of_seams :
    (Story.parse "+INPUT".toList = .error ⟨.missingArgument "INPUT".toList, 0⟩ ∧
        Story.parse "+INPUT\nx".toList = .error ⟨.missingArgument "INPUT".toList, 0⟩) ∧
      (Story.parse "x\n".toList = .ok [.text "x".toList] ∧
        Story.parse "y\n+PAUSE !".toList = .error ⟨.expected .argument, 9⟩ ∧
        Story.parse "x\n\ny\n+PAUSE !".toList = .error ⟨.expected .argument, 12⟩ ∧
        lineAt "x\n\ny\n+PAUSE !".toList 12 = 4 ∧ columnAt "x\n\ny\n+PAUSE !".toList 12 = 8) ∧
      (Story.parse "+PAUSE".toList = .ok [.pause] ∧
        Story.parse "x\n\n+PAUSE".toList = .ok [.text "x".toList, .pause]) ∧
      Story.parse " \n\ty".toList = .ok [.text "\ty".toList] ∧
        ∃ gap, '\n' ∈ gap ∧
          Story.parse "x\n\n \n\ty".toList = .ok [.text ("x".toList ++ gap ++ "\ty".toList)] := by
  have hinput : Story.parse "+INPUT".toList = .error ⟨.missingArgument "INPUT".toList, 0⟩ := by
    rw [parse_eq_readBlocks]
    decide
  have hx : Story.parse "x\n".toList = .ok [.text "x".toList] := by
    rw [parse_eq_readBlocks]
    decide
  have hy : Story.parse "y\n+PAUSE !".toList = .error ⟨.expected .argument, 9⟩ := by
    rw [parse_eq_readBlocks]
    decide
  have hpause : Story.parse "+PAUSE".toList = .ok [.pause] := by
    rw [parse_eq_readBlocks]
    decide
  have htab : Story.parse " \n\ty".toList = .ok [.text "\ty".toList] := by
    rw [parse_eq_readBlocks]
    decide
  obtain ⟨hparse, hline, hcolumn⟩ := (parse_two_documents "x\n".toList _).2.1 _ _ hx hy
  obtain ⟨gap, -, hnewline, hgap⟩ := (parse_two_documents "x\n".toList _).2.2.2 [] [] _ _ hx htab
  refine ⟨⟨hinput, ((parse_two_documents _ "x".toList).1 _ hinput).1⟩,
    ⟨hx, hy, hparse, hline.trans (by decide), hcolumn.trans (by decide)⟩, ⟨hpause, ?_⟩,
    htab, gap, hnewline, hgap⟩
  exact (parse_two_documents "x\n".toList _).2.2.1 _ _ hx hpause (by decide)

end StoryPlayer
