import Mathlib.Data.List.Infix
import StoryPlayer.Proofs.Story.Reading

/-!
# Markup of well formed stories

The stories that can be read from some document are the well formed ones, and each of them is read
from its own markup.
-/

namespace StoryPlayer

def Event.isText : Event → Bool
  | .text _ => true
  | _ => false

/-- An event whose markup is read as this event. -/
def Event.WellFormed : Event → Prop
  | .text content =>
    content ≠ [] ∧ content.head? ≠ some '+' ∧ ¬ ['\n', '+'] <:+: content ∧
      (∀ c ∈ content.getLast?, isGap c = false) ∧
      ∃ c ∈ content.takeWhile (· != '\n'), isInline c = false
  | .input label => label ≠ [] ∧ ∀ c ∈ label, isGap c = false
  | .pause | .clear => True

instance : DecidablePred Event.WellFormed
  | .text content =>
    decidable_of_iff (content ≠ [] ∧ content.head? ≠ some '+' ∧ ¬ ['\n', '+'] <:+: content ∧
        content.getLast?.all (!isGap ·) ∧ (content.takeWhile (· != '\n')).any (!isInline ·))
      (by simp [Event.WellFormed, Option.all_eq_true])
  | .input label =>
    decidable_of_iff (label ≠ [] ∧ label.all (!isGap ·)) (by simp [Event.WellFormed])
  | .pause | .clear => .isTrue trivial

structure Story.WellFormed (story : Story) : Prop where
  events : ∀ e ∈ story, e.WellFormed
  apart : story.IsChain fun a b => ¬ (a.isText ∧ b.isText)

instance (story : Story) : Decidable (Story.WellFormed story) :=
  decidable_of_iff ((∀ e ∈ story, e.WellFormed) ∧ story.IsChain fun a b => ¬ (a.isText ∧ b.isText))
    ⟨fun h => ⟨h.1, h.2⟩, fun h => ⟨h.events, h.apart⟩⟩

theorem exists_commandLine_iff {t : Text} :
    (∃ line ∈ Text.split '\n' t, isCommandLine line) ↔
      t.head? = some '+' ∨ ['\n', '+'] <:+: t := by
  constructor
  · rintro ⟨line, hmem, hcommand⟩
    obtain ⟨before, after, hsplit⟩ := List.append_of_mem hmem
    have hjoin := Text.join_split '\n' t
    rw [hsplit] at hjoin
    have hline := eq_cons_of_isCommandLine hcommand
    by_cases hbefore : before = []
    · subst before
      left
      rw [← hjoin, List.nil_append, Text.join_cons_eq_append_following, hline]
      rfl
    · right
      rw [Text.join_append '\n' hbefore (List.cons_ne_nil line after),
        Text.join_cons_eq_append_following, hline] at hjoin
      exact ⟨Text.join '\n' before, line.tail ++ Text.following after, by simpa using hjoin⟩
  · have hfirst : ∀ u : Text, ∃ line ∈ Text.split '\n' ('+' :: u), isCommandLine line := by
      intro u
      have hhead := Text.head?_split '\n' ('+' :: u)
      exact ⟨_, List.mem_of_mem_head? hhead, by simp [isCommandLine]⟩
    rintro (hhead | ⟨a, b, rfl⟩)
    · obtain ⟨u, rfl⟩ := List.head?_eq_some_iff.mp hhead
      exact hfirst u
    · obtain ⟨line, hmem, hline⟩ := hfirst b
      refine ⟨line, ?_, hline⟩
      rw [List.append_assoc, List.cons_append, Text.split_append]
      exact List.mem_append_right _ hmem

theorem CommandLine.wellFormed {line : Text} {e : Event} (h : CommandLine line e)
    (hline : '\n' ∉ line) : e.WellFormed := by
  cases h with
  | pause => trivial
  | clear => trivial
  | input htail =>
    cases htail with
    | labelled hbefore hbetween hne htoken hafter =>
      refine ⟨hne, fun c hc => ?_⟩
      have hnewline : c ≠ '\n' := by
        rintro rfl
        exact hline (by simp [hc])
      simp [isGap, htoken c hc, hnewline]

private theorem not_isText_of_commandLine {line : Text} {e : Event} (h : CommandLine line e) :
    e.isText = false := by
  cases h <;> rfl

private theorem split_join_of_lines {lines : List Text} (hne : lines ≠ [])
    (hlines : ∀ line ∈ lines, '\n' ∉ line) : Text.split '\n' (Text.join '\n' lines) = lines := by
  rw [Text.split_join hne]
  induction lines with
  | nil => rfl
  | cons line lines ih =>
    rw [List.flatMap_cons, Text.split_of_notMem (hlines line List.mem_cons_self)]
    by_cases hnil : lines = []
    · subst lines
      rfl
    · rw [ih hnil fun l h => hlines l (List.mem_cons_of_mem _ h)]
      rfl

/-- The text of a passage is the text of a line that is not blank and the lines after it. -/
private theorem exists_passageText_eq {lines : List Text} (h : passageText lines ≠ []) :
    ∃ line run, ¬ isBlankLine line ∧ (∀ l ∈ line :: run, l ∈ lines) ∧
      passageText lines = (Text.join '\n' (line :: run)).trimEnd isGap := by
  cases hkept : lines.dropWhile isBlankLine with
  | nil =>
    rw [passageText, hkept] at h
    exact absurd rfl h
  | cons line run =>
    refine ⟨line, run, ?_, ?_, by rw [passageText, hkept]⟩
    · have := List.head?_dropWhile_not isBlankLine lines
      simpa [hkept] using this
    · intro l hl
      exact List.dropWhile_subset _ (hkept ▸ hl)

private theorem wellFormed_text_of_lines {line : Text} {run : List Text}
    (hblank : ¬ isBlankLine line)
    (hlines : ∀ l ∈ line :: run, '\n' ∉ l) (hrun : ∀ l ∈ line :: run, ¬ isCommandLine l) :
    (Event.text ((Text.join '\n' (line :: run)).trimEnd isGap)).WellFormed := by
  have hcommands : ¬ ∃ l ∈ Text.split '\n' (Text.join '\n' (line :: run)), isCommandLine l := by
    rw [split_join_of_lines (List.cons_ne_nil line run) hlines]
    rintro ⟨l, hl, hcommand⟩
    exact hrun l hl hcommand
  rw [exists_commandLine_iff, not_or] at hcommands
  have hline := hlines line List.mem_cons_self
  obtain ⟨c, hc, hgapc⟩ := exists_not_isGap hline hblank
  have hlast := Text.getLast?_trimEnd isGap (Text.join '\n' (line :: run))
  obtain ⟨gap, hgap, happend⟩ := Text.exists_trimEnd_append isGap (Text.join '\n' (line :: run))
  have hne : (Text.join '\n' (line :: run)).trimEnd isGap ≠ [] := by
    rw [← passageText_of_not_blank hblank]
    exact passageText_ne_nil hline hblank run
  have hfirst : (Text.join '\n' (line :: run)).takeWhile (· != '\n') = line := by
    rw [Text.join_cons_eq_append_following, takeWhile_line (by decide) line (endsLine_following run)]
    refine List.takeWhile_eq_self_iff.mpr fun d hd => ?_
    have hd' : d ≠ '\n' := fun h => hline (h ▸ hd)
    simpa using hd'
  generalize (Text.join '\n' (line :: run)).trimEnd isGap = content at hlast happend hne ⊢
  rw [← happend] at hcommands hfirst
  refine ⟨hne, ?_, ?_, hlast, c, ?_, ?_⟩
  · intro hhead
    obtain ⟨u, rfl⟩ := List.head?_eq_some_iff.mp hhead
    exact hcommands.1 rfl
  · intro hwithin
    exact hcommands.2 (hwithin.trans (List.prefix_append content gap).isInfix)
  · -- The gap has no character but gaps, so it does not hold the one that makes the line a text.
    rw [← hfirst, List.takeWhile_append] at hc
    split at hc
    · rename_i hlength
      rcases List.mem_append.mp hc with hc | hc
      · rwa [(List.takeWhile_prefix _).eq_of_length hlength]
      · have := hgap c (List.takeWhile_subset _ hc)
        simp [hgapc] at this
    · exact hc
  · have hnot : ¬ isInline c := fun h => by simp [isGap_of_isInline h] at hgapc
    simpa using hnot

theorem Block.Means.wellFormed {b : Block} {events : Story} (h : b.Means events) (hb : b.Valid)
    (hlines : ∀ line ∈ b.lines, '\n' ∉ line) : ∀ e ∈ events, e.WellFormed := by
  intro e he
  cases h with
  | command h =>
    obtain rfl := List.mem_singleton.mp he
    exact h.wellFormed (hlines _ (List.mem_singleton.mpr rfl))
  | passage lines =>
    rw [passageEvents] at he
    split at he
    · cases he
    · rename_i hne
      obtain rfl := List.mem_singleton.mp he
      obtain ⟨line, run, hblank, hsub, htext⟩ := exists_passageText_eq (mt List.isEmpty_iff.mpr hne)
      rw [htext]
      exact wellFormed_text_of_lines hblank (fun l hl => hlines l (hsub l hl))
        (fun l hl => hb l (hsub l hl))

/-- Texts stand apart, since passages do. The second part carries the induction: a story that does
not start with a passage does not start with a text. -/
private theorem isChain_flatten_of_means {bs : List Block} {parts : List Story}
    (h : List.Forall₂ Block.Means bs parts) (hapart : bs.IsChain Block.Apart) :
    parts.flatten.IsChain (fun a b => ¬ (a.isText ∧ b.isText)) ∧
      ((∀ lines, .passage lines ∉ bs.head?) → ∀ e ∈ parts.flatten.head?, e.isText = false) := by
  induction h with
  | nil => exact ⟨.nil, fun _ e he => by cases he⟩
  | @cons b events bs parts hmeans _ ih =>
    obtain ⟨hchain, hhead⟩ := ih hapart.tail
    cases hmeans with
    | command hline =>
      have hnot := not_isText_of_commandLine hline
      refine ⟨hchain.cons fun e _ => by simp [hnot], fun _ e he => ?_⟩
      obtain rfl : _ = e := by simpa using he
      exact hnot
    | passage lines =>
      have hnext : ∀ lines', Block.passage lines' ∉ bs.head? := by
        intro lines' hlines'
        exact hapart.rel_head? hlines'
      have hrest := hhead hnext
      refine ⟨?_, fun hpassage => absurd rfl (hpassage lines)⟩
      rw [List.flatten_cons, passageEvents]
      split
      · exact hchain
      · exact hchain.cons fun e he => by simp [hrest e he]

private theorem wellFormed_of_mem_flatten {bs : List Block} {parts : List Story}
    (h : List.Forall₂ Block.Means bs parts) (hvalid : ∀ b ∈ bs, b.Valid)
    (hlines : ∀ b ∈ bs, ∀ line ∈ b.lines, '\n' ∉ line) : ∀ e ∈ parts.flatten, e.WellFormed := by
  induction h with
  | nil => simp
  | @cons b events bs parts hmeans _ ih =>
    intro e he
    rw [List.flatten_cons] at he
    rcases List.mem_append.mp he with he | he
    · exact hmeans.wellFormed (hvalid b List.mem_cons_self) (hlines b List.mem_cons_self) e he
    · exact ih (fun b hb => hvalid b (List.mem_cons_of_mem _ hb))
        (fun b hb => hlines b (List.mem_cons_of_mem _ hb)) e he

theorem wellFormed_of_parse {source : Text} {story : Story} (h : Story.parse source = .ok story) :
    Story.WellFormed story := by
  obtain ⟨parts, hparts, rfl⟩ := parse_eq_ok_iff_lineReading.mp h
  have hlines : ∀ line ∈ Text.split '\n' source, '\n' ∉ line := fun _ => Text.notMem_of_mem_split
  exact ⟨wellFormed_of_mem_flatten hparts (fun b hb => valid_of_mem_blocks hb)
    (fun b hb => notMem_newline_of_mem_blocks hlines hb),
    (isChain_flatten_of_means hparts (isChain_apart_blocks _)).1⟩

def Event.block : Event → Block
  | .text content => .passage (Text.split '\n' content)
  | e => .command e.markup

theorem Event.WellFormed.means {e : Event} (h : e.WellFormed) : e.block.Means [e] := by
  cases e with
  | text content =>
    obtain ⟨hne, -, -, hlast, c, hc, hinline⟩ := h
    have hhead := Text.head?_split '\n' content
    obtain ⟨run, hrun⟩ := List.head?_eq_some_iff.mp hhead
    have hblank : ¬ isBlankLine (content.takeWhile (· != '\n')) := by
      intro hblank
      have := List.all_eq_true.mp hblank c hc
      simp [hinline] at this
    have htext : passageText (Text.split '\n' content) = content := by
      rw [hrun, passageText_of_not_blank hblank, ← hrun, Text.join_split]
      exact Text.trimEnd_eq_self_iff.mpr hlast
    have hmeans := Block.Means.passage (Text.split '\n' content)
    rwa [passageEvents, htext, if_neg (by simpa using hne)] at hmeans
  | input label =>
    have hlabel : ∀ c ∈ label, ¬ isInline c := by
      intro c hc hinline
      simpa [isGap_of_isInline hinline] using h.2 c hc
    have htail : CommandTail ([] ++ ':' :: ([] ++ (label ++ []))) (some label) :=
      .labelled (by simp) (by simp) h.1 hlabel (by simp)
    rw [List.append_nil] at htail
    exact .command (.input htail)
  | pause =>
    have htail : CommandTail [] none := .bare (by simp)
    exact .command (.pause htail)
  | clear =>
    have htail : CommandTail [] none := .bare (by simp)
    exact .command (.clear htail)

private theorem Event.WellFormed.lines_block {e : Event} (h : e.WellFormed) :
    e.block.lines = Text.split '\n' e.markup := by
  cases e with
  | text content => rfl
  | input label =>
    have hnewline : '\n' ∉ (Event.input label).markup := by
      intro hmem
      rcases List.mem_append.mp hmem with hmem | hmem
      · exact absurd hmem (by decide)
      · exact absurd (h.2 _ hmem) (by decide)
    rw [Text.split_of_notMem hnewline]
    rfl
  | pause => rfl
  | clear => rfl

private theorem Event.WellFormed.valid_block {e : Event} (h : e.WellFormed) : e.block.Valid := by
  cases e with
  | text content =>
    obtain ⟨-, hhead, hwithin, -⟩ := h
    intro line hline hcommand
    rcases exists_commandLine_iff.mp ⟨line, hline, hcommand⟩ with h | h
    · exact hhead h
    · exact hwithin h
  | input label => rfl
  | pause => rfl
  | clear => rfl

private theorem Event.block_of_not_isText {e : Event} (h : e.isText = false) :
    e.block = .command e.markup := by
  cases e with
  | text content => cases h
  | input label => rfl
  | pause => rfl
  | clear => rfl

def Story.lines (story : Story) : List Text := story.flatMap fun e => Text.split '\n' e.markup

private theorem isCommandLine_head_lines {story : Story} (hevents : ∀ e ∈ story, e.WellFormed)
    (hhead : ∀ e ∈ story.head?, e.isText = false) :
    ∀ line ∈ (Story.lines story).head?, isCommandLine line := by
  cases story with
  | nil =>
    intro line hline
    cases hline
  | cons e story =>
    have he := hevents e List.mem_cons_self
    have hblock := Event.block_of_not_isText (hhead e rfl)
    have hvalid := he.valid_block
    rw [hblock] at hvalid
    intro line hline
    rw [Story.lines, List.flatMap_cons, ← he.lines_block, hblock] at hline
    obtain rfl : e.markup = line := by simpa [Block.lines] using hline
    exact hvalid

/-- The lines of a well formed story's markup fall into the blocks of its events. -/
private theorem blocks_lines {story : Story} (h : Story.WellFormed story) :
    blocks (Story.lines story) = story.map Event.block := by
  obtain ⟨hevents, hapart⟩ := h
  induction story with
  | nil => rfl
  | cons e story ih =>
    have he := hevents e List.mem_cons_self
    have hrest : ∀ e ∈ story, e.WellFormed := fun e h => hevents e (List.mem_cons_of_mem _ h)
    have ih := ih hrest hapart.tail
    have hvalid := he.valid_block
    have hlines := he.lines_block
    rw [Story.lines] at ih
    rw [Story.lines, List.flatMap_cons, List.map_cons, ← ih, ← hlines]
    cases htext : e.isText with
    | false =>
      rw [Event.block_of_not_isText htext] at hvalid ⊢
      exact blocks_command hvalid _
    | true =>
      have hnext : ∀ e' ∈ story.head?, e'.isText = false := by
        intro e' he'
        have := hapart.rel_head? he'
        simpa [htext] using this
      obtain ⟨content, rfl⟩ : ∃ content, e = .text content := by
        cases e with
        | text content => exact ⟨content, rfl⟩
        | input label => cases htext
        | pause => cases htext
        | clear => cases htext
      exact blocks_run_append (Text.split_ne_nil '\n' content) hvalid
        (isCommandLine_head_lines hrest hnext)

private theorem split_markup {story : Story} (hne : story ≠ []) :
    Text.split '\n' (Story.markup story) = Story.lines story := by
  rw [Story.markup, Text.split_join (by simpa using hne), List.flatMap_map, Story.lines]

theorem parse_markup {story : Story} (h : Story.WellFormed story) :
    Story.parse (Story.markup story) = .ok story := by
  by_cases hne : story = []
  · subst story
    rw [parse_eq_readBlocks]
    rfl
  · rw [parse_eq_ok_iff_lineReading, LineReading, split_markup hne, blocks_lines h]
    refine ⟨story.map ([·]), ?_, (List.flatMap_singleton' story).symm⟩
    have hmeans : ∀ e ∈ story, e.block.Means [e] := fun e he => (h.events e he).means
    rw [List.forall₂_map_left_iff, List.forall₂_map_right_iff, List.forall₂_same]
    exact hmeans

/-- What can be read is what is well formed, and markup is read as the story that it marks up. -/
theorem parse_image_and_round_trip :
    (∀ source story, Story.parse source = .ok story → Story.WellFormed story) ∧
      (∀ story, Story.WellFormed story → Story.parse (Story.markup story) = .ok story) ∧
      (∀ story, (∃ source, Story.parse source = .ok story) ↔ Story.WellFormed story) ∧
      ∀ source story, Story.parse source = .ok story →
        Story.parse (Story.markup story) = Story.parse source := by
  refine ⟨fun _ _ => wellFormed_of_parse, fun _ => parse_markup, ?_, ?_⟩
  · intro story
    exact ⟨fun ⟨_, h⟩ => wellFormed_of_parse h, fun h => ⟨_, parse_markup h⟩⟩
  · intro source story h
    rw [h, parse_markup (wellFormed_of_parse h)]

def quizStory : Story := [.text " a\n\t+".toList, .input ":\r".toList, .text ":".toList, .clear]

theorem parse_image_and_round_trip_of_quizStory :
    Story.WellFormed quizStory ∧
      Story.markup quizStory = " a\n\t+\n+INPUT::\r\n:\n+CLEAR".toList ∧
      Story.parse (Story.markup quizStory) = .ok quizStory := by
  have hstory : Story.WellFormed quizStory := by decide +kernel
  exact ⟨hstory, by decide +kernel, parse_image_and_round_trip.2.1 quizStory hstory⟩

end StoryPlayer
