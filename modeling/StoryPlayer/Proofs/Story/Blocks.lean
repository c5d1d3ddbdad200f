import Mathlib.Data.List.Chain
import StoryPlayer.Proofs.Story.CommandLine
import StoryPlayer.Proofs.Text.Lines

/-!
# Blocks of a document

The lines of a document fall into blocks: each command line is one, and so is each longest run of
other lines, a passage. A command line stands for its event, and a passage for at most one text.
-/

namespace StoryPlayer

inductive Block where
  | command (line : Text)
  | passage (lines : List Text)
deriving Repr, DecidableEq

def isCommandLine (line : Text) : Bool := line.head? == some '+'

def isBlankLine (line : Text) : Bool := line.all isInline

def blocks : List Text → List Block
  | [] => []
  | line :: lines =>
    if isCommandLine line then .command line :: blocks lines
    else
      match blocks lines with
      | .passage run :: bs => .passage (line :: run) :: bs
      | bs => .passage [line] :: bs

/-- The text of a passage, without its leading blank lines and the gaps at its end. -/
def passageText (lines : List Text) : Text :=
  (Text.join '\n' (lines.dropWhile isBlankLine)).trimEnd isGap

def passageEvents (lines : List Text) : Story :=
  if (passageText lines).isEmpty then [] else [.text (passageText lines)]

namespace Block

def lines : Block → List Text
  | command line => [line]
  | passage lines => lines

/-- The events that a block stands for. -/
inductive Means : Block → Story → Prop where
  | command {line : Text} {e : Event} (h : CommandLine line e) : Means (command line) [e]
  | passage (lines : List Text) : Means (passage lines) (passageEvents lines)

/-- The events of a block that starts at an offset, or its fault. -/
def read (start : Nat) : Block → Except Fault Story
  | command line => (commandAt start line.tail).map ([·])
  | passage lines => .ok (passageEvents lines)

end Block

/-- The events of blocks that follow each other from an offset on, or their first fault. -/
def readBlocks (start : Nat) : List Block → Except Fault Story
  | [] => .ok []
  | b :: bs =>
    match b.read start with
    | .error fault => .error fault
    | .ok events => (readBlocks (start + Text.extent b.lines) bs).map (events ++ ·)

theorem blocks_command {line : Text} (h : isCommandLine line) (lines : List Text) :
    blocks (line :: lines) = .command line :: blocks lines := by
  rw [blocks, if_pos h]

theorem blocks_append_command (before : List Text) {line : Text} (h : isCommandLine line)
    (after : List Text) :
    blocks (before ++ line :: after) = blocks before ++ .command line :: blocks after := by
  induction before with
  | nil => exact blocks_command h after
  | cons first before ih =>
    rw [List.cons_append, blocks, blocks, ih]
    split
    · rfl
    · cases blocks before with
      | nil => rfl
      | cons b bs => cases b <;> rfl

/-- A run of lines that are no commands is one passage. -/
private theorem blocks_run {run : List Text} (hne : run ≠ [])
    (hrun : ∀ line ∈ run, ¬ isCommandLine line) : blocks run = [.passage run] := by
  induction run with
  | nil => exact absurd rfl hne
  | cons line run ih =>
    rw [blocks, if_neg (hrun line List.mem_cons_self)]
    by_cases hnil : run = []
    · subst run
      rfl
    · rw [ih hnil fun l hl => hrun l (List.mem_cons_of_mem _ hl)]

theorem blocks_run_append {run after : List Text} (hne : run ≠ [])
    (hrun : ∀ line ∈ run, ¬ isCommandLine line) (hafter : ∀ line ∈ after.head?, isCommandLine line) :
    blocks (run ++ after) = .passage run :: blocks after := by
  cases after with
  | nil =>
    rw [List.append_nil, blocks_run hne hrun]
    rfl
  | cons line after =>
    have hline := hafter line rfl
    rw [blocks_append_command run hline, blocks_run hne hrun, blocks_command hline]
    rfl

/-- The blocks hold the lines, all of them and in order. -/
theorem flatMap_lines_blocks (lines : List Text) : (blocks lines).flatMap Block.lines = lines := by
  induction lines with
  | nil => rfl
  | cons line lines ih =>
    rw [blocks]
    split
    · rw [List.flatMap_cons, ih]
      rfl
    · split
      · rename_i run bs hblocks
        rw [hblocks, List.flatMap_cons] at ih
        rw [List.flatMap_cons, ← ih]
        rfl
      · rw [List.flatMap_cons, ih]
        rfl

/-- Whether a block may stand right before another: two passages would be one. -/
def Block.Apart : Block → Block → Prop
  | .passage _, .passage _ => False
  | _, _ => True

theorem isChain_apart_blocks (lines : List Text) : (blocks lines).IsChain Block.Apart := by
  induction lines with
  | nil => exact .nil
  | cons line lines ih =>
    rw [blocks]
    split
    · exact ih.cons fun b _ => by cases b <;> trivial
    · split
      · rename_i run bs hblocks
        rw [hblocks] at ih
        exact ih.imp_head fun {b} h => by cases b <;> exact h
      · rename_i hblocks
        refine ih.cons fun b hb => ?_
        cases b with
        | command line => trivial
        | passage run =>
          obtain ⟨bs, hbs⟩ := List.head?_eq_some_iff.mp hb
          exact absurd hbs (hblocks run bs)

/-- What a block of its kind may hold. -/
def Block.Valid : Block → Prop
  | .command line => isCommandLine line
  | .passage lines => ∀ line ∈ lines, ¬ isCommandLine line

theorem valid_of_mem_blocks {lines : List Text} {b : Block} (h : b ∈ blocks lines) : b.Valid := by
  induction lines generalizing b with
  | nil => cases h
  | cons first lines ih =>
    rw [blocks] at h
    split at h
    · rename_i hfirst
      rcases List.mem_cons.mp h with rfl | h
      · exact hfirst
      · exact ih h
    · rename_i hfirst
      split at h
      · rename_i run bs hblocks
        rw [hblocks] at ih
        rcases List.mem_cons.mp h with rfl | h
        · intro line hline
          rcases List.mem_cons.mp hline with rfl | hline
          · exact hfirst
          · exact ih List.mem_cons_self line hline
        · exact ih (List.mem_cons_of_mem _ h)
      · rcases List.mem_cons.mp h with rfl | h
        · intro line hline
          rw [List.mem_singleton.mp hline]
          exact hfirst
        · exact ih h

theorem notMem_newline_of_mem_blocks {lines : List Text} (hlines : ∀ line ∈ lines, '\n' ∉ line)
    {b : Block} (h : b ∈ blocks lines) : ∀ line ∈ b.lines, '\n' ∉ line := by
  intro line hline
  apply hlines
  rw [← flatMap_lines_blocks lines]
  exact List.mem_flatMap.mpr ⟨b, h, hline⟩

theorem eq_cons_of_isCommandLine {line : Text} (h : isCommandLine line) :
    line = '+' :: line.tail := by
  obtain ⟨t, rfl⟩ := List.head?_eq_some_iff.mp (beq_iff_eq.mp h)
  rfl

theorem length_tail_of_isCommandLine {line : Text} (h : isCommandLine line) :
    line.tail.length + 1 = line.length := by
  conv_rhs => rw [eq_cons_of_isCommandLine h]
  rfl

private theorem Block.read_eq_ok_iff {b : Block} {start : Nat} {events : Story} (hb : b.Valid)
    (hlines : ∀ line ∈ b.lines, '\n' ∉ line) : b.read start = .ok events ↔ b.Means events := by
  cases b with
  | command line =>
    have hline := eq_cons_of_isCommandLine hb
    have htail : '\n' ∉ line.tail := fun h => hlines line (by simp [lines]) (List.mem_of_mem_tail h)
    constructor
    · intro h
      cases hcommand : commandAt start line.tail with
      | error fault =>
        rw [read, hcommand] at h
        cases h
      | ok e =>
        rw [read, hcommand] at h
        cases h
        refine .command ?_
        rw [hline]
        exact (commandAt_eq_ok_iff htail).mp hcommand
    · rintro (h | _)
      rw [hline] at h
      rw [read, (commandAt_eq_ok_iff htail).mpr h]
      rfl
  | passage lines =>
    constructor
    · intro h
      cases h
      exact .passage lines
    · rintro ⟨⟩
      rfl

/-- Blocks are read without a fault exactly when each of them stands for its events. -/
private theorem readBlocks_eq_ok_iff {bs : List Block} {start : Nat} {story : Story}
    (hvalid : ∀ b ∈ bs, b.Valid) (hlines : ∀ b ∈ bs, ∀ line ∈ b.lines, '\n' ∉ line) :
    readBlocks start bs = .ok story ↔
      ∃ parts, List.Forall₂ Block.Means bs parts ∧ story = parts.flatten := by
  induction bs generalizing start story with
  | nil =>
    constructor
    · intro h
      cases h
      exact ⟨[], .nil, rfl⟩
    · rintro ⟨parts, hparts, rfl⟩
      cases hparts
      rfl
  | cons b bs ih =>
    have hb := hvalid b List.mem_cons_self
    have hbl := hlines b List.mem_cons_self
    have hvalid' : ∀ b ∈ bs, b.Valid := fun b h => hvalid b (List.mem_cons_of_mem _ h)
    have hlines' : ∀ b ∈ bs, ∀ line ∈ b.lines, '\n' ∉ line :=
      fun b h => hlines b (List.mem_cons_of_mem _ h)
    rw [readBlocks]
    constructor
    · intro h
      cases hread : b.read start with
      | error fault =>
        rw [hread] at h
        cases h
      | ok events =>
        cases hrest : readBlocks (start + Text.extent b.lines) bs with
        | error fault =>
          rw [hread, hrest] at h
          cases h
        | ok rest =>
          rw [hread, hrest] at h
          cases h
          obtain ⟨parts, hparts, rfl⟩ := (ih hvalid' hlines').mp hrest
          exact ⟨events :: parts, .cons ((Block.read_eq_ok_iff hb hbl).mp hread) hparts, rfl⟩
    · rintro ⟨parts, hparts, rfl⟩
      obtain _ | ⟨hmeans, hparts⟩ := hparts
      rw [(Block.read_eq_ok_iff hb hbl).mpr hmeans, (ih hvalid' hlines').mpr ⟨_, hparts, rfl⟩]
      rfl

theorem readBlocks_blocks_eq_ok_iff {lines : List Text} (hlines : ∀ line ∈ lines, '\n' ∉ line)
    {start : Nat} {story : Story} :
    readBlocks start (blocks lines) = .ok story ↔
      ∃ parts, List.Forall₂ Block.Means (blocks lines) parts ∧ story = parts.flatten :=
  readBlocks_eq_ok_iff (fun _ hb => valid_of_mem_blocks hb)
    (fun _ hb => notMem_newline_of_mem_blocks hlines hb)

theorem exists_parts {bs : List Block} (h : ∀ b ∈ bs, ∃ events, b.Means events) :
    ∃ parts, List.Forall₂ Block.Means bs parts := by
  induction bs with
  | nil => exact ⟨[], .nil⟩
  | cons b bs ih =>
    obtain ⟨events, hevents⟩ := h b List.mem_cons_self
    obtain ⟨parts, hparts⟩ := ih fun b hb => h b (List.mem_cons_of_mem _ hb)
    exact ⟨events :: parts, .cons hevents hparts⟩

theorem exists_of_map_eq_ok {ε α β : Type} {x : Except ε α} {f : α → β} {b : β}
    (h : x.map f = .ok b) : ∃ a, x = .ok a ∧ b = f a := by
  cases x with
  | error e => cases h
  | ok a =>
    cases h
    exact ⟨a, rfl, rfl⟩

theorem eq_error_of_map_eq_error {ε α β : Type} {x : Except ε α} {f : α → β} {e : ε}
    (h : x.map f = .error e) : x = .error e := by
  cases x with
  | error e' =>
    cases h
    rfl
  | ok a => cases h

theorem readBlocks_append (start : Nat) (bs cs : List Block) :
    readBlocks start (bs ++ cs) =
      match readBlocks start bs with
      | .error fault => .error fault
      | .ok events =>
        (readBlocks (start + Text.extent (bs.flatMap Block.lines)) cs).map (events ++ ·) := by
  induction bs generalizing start with
  | nil =>
    simp only [List.nil_append, readBlocks, List.flatMap_nil, Text.extent_nil, Nat.add_zero]
    cases readBlocks start cs <;> rfl
  | cons b bs ih =>
    rw [List.cons_append, readBlocks, readBlocks, ih, List.flatMap_cons, Text.extent_append,
      ← Nat.add_assoc]
    cases b.read start with
    | error fault => rfl
    | ok events =>
      cases readBlocks (start + Text.extent b.lines) bs with
      | error fault => rfl
      | ok rest =>
        dsimp only [Except.map]
        cases readBlocks (start + Text.extent b.lines + Text.extent (bs.flatMap Block.lines)) cs with
        | error fault => rfl
        | ok others => simp

end StoryPlayer
