import StoryPlayer.Proofs.Story.Blocks

/-!
# Places in a document

The line and the column of an offset when one document follows another, and the offsets at which
faults can lie.
-/

namespace StoryPlayer

theorem textBefore_of_nonneg {position : Int} (h : 0 ≤ position) (source : Text) :
    textBefore source position = source.take position.toNat := if_pos h

private theorem textBefore_append_left {a : Text} {position : Int} (h : 0 ≤ position)
    (hle : position ≤ a.length) (b : Text) :
    textBefore (a ++ b) position = textBefore a position := by
  rw [textBefore_of_nonneg h, textBefore_of_nonneg h, List.take_append_of_le_length (by omega)]

private theorem textBefore_append_right {b : Text} {position : Int} (h : 0 ≤ position) (a : Text) :
    textBefore (a ++ '\n' :: b) (position + (a.length + 1 : Nat)) =
      a ++ '\n' :: textBefore b position := by
  have hoffset : (position + (a.length + 1 : Nat)).toNat = a.length + (position.toNat + 1) := by
    omega
  rw [textBefore_of_nonneg (by omega), textBefore_of_nonneg h, hoffset, List.take_length_add_append,
    List.take_succ_cons]

theorem lineAt_append_left {a : Text} {position : Int} (h : 0 ≤ position)
    (hle : position ≤ a.length) (b : Text) : lineAt (a ++ b) position = lineAt a position := by
  rw [lineAt, lineAt, textBefore_append_left h hle]

theorem columnAt_append_left {a : Text} {position : Int} (h : 0 ≤ position)
    (hle : position ≤ a.length) (b : Text) : columnAt (a ++ b) position = columnAt a position := by
  rw [columnAt, columnAt, textBefore_append_left h hle]

theorem lineAt_append_right {position : Int} (h : 0 ≤ position) (a b : Text) :
    lineAt (a ++ '\n' :: b) (position + (a.length + 1 : Nat)) =
      lineAt b position + 1 + a.count '\n' := by
  rw [lineAt, lineAt, textBefore_append_right h, List.count_append, List.count_cons_self]
  omega

theorem columnAt_append_right {position : Int} (h : 0 ≤ position) (a b : Text) :
    columnAt (a ++ '\n' :: b) (position + (a.length + 1 : Nat)) = columnAt b position := by
  -- The column is counted on the line alone, and the line starts behind the seam.
  have hline : (a ++ '\n' :: textBefore b position).reverse.takeWhile (· != '\n') =
      (textBefore b position).reverse.takeWhile (· != '\n') := by
    rw [List.reverse_append, List.reverse_cons, List.append_assoc]
    exact takeWhile_line (by decide) _ (endsLine_newline _)
  have hle := (List.takeWhile_prefix (· != '\n') (l := (textBefore b position).reverse)).length_le
  rw [List.length_reverse] at hle
  rw [columnAt, columnAt, textBefore_append_right h, hline]
  simp only [List.length_append, List.length_cons]
  omega

def Fault.shift (n : Nat) (fault : Fault) : Fault := { fault with position := fault.position + n }

private theorem judge_shift (n : Nat) {start stop : Nat} {name excess : Text} {label : Option Text}
    (hexcess : excess.length ≤ stop) :
    judge (start + n) (stop + n) name label excess =
      (judge start stop name label excess).mapError (Fault.shift n) := by
  unfold judge
  split
  · simp [Except.mapError, Fault.shift]
  · split
    · simp [Except.mapError, Fault.shift]
    · split
      · rfl
      · simp only [Except.mapError, Fault.shift, Except.error.injEq, Fault.mk.injEq, true_and]
        omega

private theorem commandAt_shift (n start : Nat) (line : Text) :
    commandAt (start + n) line = (commandAt start line).mapError (Fault.shift n) := by
  have hstop : start + n + 1 + line.length = start + 1 + line.length + n := by omega
  unfold commandAt
  dsimp only
  rw [hstop]
  split
  · simp only [Except.mapError, Fault.shift, Except.error.injEq, Fault.mk.injEq, true_and]
    omega
  · split
    · rfl
    · rename_i label excess hargument
      have hexcess : excess.length ≤ line.length :=
        ((readArgument?_suffix hargument).trans <| (List.dropWhile_suffix _).trans
          (List.dropWhile_suffix _)).length_le
      exact judge_shift n (by omega)

private theorem Block.read_shift (n start : Nat) (b : Block) :
    b.read (start + n) = (b.read start).mapError (Fault.shift n) := by
  cases b with
  | command line =>
    rw [read, read, commandAt_shift]
    cases commandAt start line.tail <;> rfl
  | passage lines => rfl

/-- Blocks that start at a later offset have the same events and the same faults, moved. -/
theorem readBlocks_shift (n start : Nat) (bs : List Block) :
    readBlocks (start + n) bs = (readBlocks start bs).mapError (Fault.shift n) := by
  induction bs generalizing start with
  | nil => rfl
  | cons b bs ih =>
    have hstart : start + n + Text.extent b.lines = start + Text.extent b.lines + n := by omega
    rw [readBlocks, readBlocks, Block.read_shift, hstart, ih]
    cases b.read start with
    | error fault => rfl
    | ok events =>
      dsimp only [Except.mapError]
      cases readBlocks (start + Text.extent b.lines) bs <;> rfl

private theorem Block.read_fault {b : Block} {start : Nat} {fault : Fault} (hb : b.Valid)
    (h : b.read start = .error fault) :
    start ≤ fault.position ∧ fault.position < start + Text.extent b.lines := by
  cases b with
  | passage lines => cases h
  | command line =>
    obtain ⟨-, hstart, hstop⟩ := commandAt_fault (eq_error_of_map_eq_error h)
    have hlength := length_tail_of_isCommandLine hb
    simp only [lines, Text.extent_cons, Text.extent_nil]
    omega

theorem readBlocks_fault {bs : List Block} {start : Nat} {fault : Fault}
    (hvalid : ∀ b ∈ bs, b.Valid) (h : readBlocks start bs = .error fault) :
    start ≤ fault.position ∧ fault.position < start + Text.extent (bs.flatMap Block.lines) := by
  induction bs generalizing start with
  | nil => cases h
  | cons b bs ih =>
    rw [List.flatMap_cons, Text.extent_append]
    rw [readBlocks] at h
    cases hread : b.read start with
    | error fault' =>
      rw [hread] at h
      cases h
      have := Block.read_fault (hvalid b List.mem_cons_self) hread
      omega
    | ok events =>
      rw [hread] at h
      have := ih (fun b hb => hvalid b (List.mem_cons_of_mem _ hb)) (eq_error_of_map_eq_error h)
      omega

end StoryPlayer
