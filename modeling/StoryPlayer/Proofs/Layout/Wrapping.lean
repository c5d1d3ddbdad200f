import Mathlib.Data.List.Forall2
import Mathlib.Data.List.TakeWhile
import StoryPlayer.Layout.Wrap

/-!
# Wrapping

Wrapping moves the marks of a text, which are its characters other than blanks, but it neither
drops nor adds nor swaps one of them, and no wrapped line is longer than the width. Both are read
off from one line of the filling. The lines that are left alone, and those with nothing to show,
are told apart by their chunks.
-/

namespace StoryPlayer

namespace Text

/-- The characters other than blanks, in order. -/
def marks (t : Text) : Text := t.filter fun c => !isBlank c

@[simp]
theorem marks_append (t u : Text) : marks (t ++ u) = marks t ++ marks u := List.filter_append t u

private theorem marks_cons (c : Char) (t : Text) :
    marks (c :: t) = if isBlank c then marks t else c :: marks t := by
  by_cases h : isBlank c
  · simp [marks, h]
  · simp [marks, h]

private theorem marks_eq_nil {t : Text} (h : allBlank t) : marks t = [] := by
  have hblank : ∀ c ∈ t, isBlank c = true := by simpa [allBlank] using h
  rw [marks, List.filter_eq_nil_iff]
  intro c hc
  simp [hblank c hc]

end Text

open Text

/-! ### Spacing -/

private theorem isBlank_space : isBlank ' ' = true := by decide

private theorem allBlank_spaces (n : Nat) : allBlank (List.replicate n ' ') := by
  simp [allBlank, isBlank_space]

private theorem marks_expandTabs (column : Nat) (line : Text) :
    marks (expandTabs column line) = marks line := by
  induction line generalizing column with
  | nil => rfl
  | cons c t ih =>
    rw [expandTabs]
    split
    · rename_i htab
      rw [marks_append, marks_eq_nil (allBlank_spaces _), ih, marks_cons, htab,
        if_pos (by decide)]
      rfl
    · split
      · rw [marks_cons, marks_cons, ih]
      · rw [marks_cons, marks_cons, ih]

private theorem marks_evenSpacing (line : Text) : marks (evenSpacing line) = marks line := by
  have heven (t : Text) : marks (t.map fun c => if isAsciiBlank c then ' ' else c) = marks t := by
    induction t with
    | nil => rfl
    | cons c t ih =>
      rw [List.map_cons, marks_cons, marks_cons, ih]
      by_cases hc : isAsciiBlank c
      · simp [hc, isBlank_of_isAsciiBlank hc, isBlank_space]
      · simp [hc]
  rw [evenSpacing, heven, marks_expandTabs]

/-! ### One line of the filling -/

private theorem marks_dropBlankStart (first : Bool) (chunks : List Text) :
    marks (dropBlankStart first chunks).flatten = marks chunks.flatten := by
  cases chunks with
  | nil => rfl
  | cons chunk chunks =>
    rw [dropBlankStart]
    split
    · rename_i hdrop
      have hblank : allBlank chunk := by
        simp only [Bool.and_eq_true] at hdrop
        exact hdrop.2
      rw [List.flatten_cons, marks_append, marks_eq_nil hblank, List.nil_append]
    · rfl

private theorem flatten_cutOverlong (width : Nat) (taken left : List Text) :
    (cutOverlong width taken left).1.flatten ++ (cutOverlong width taken left).2.flatten =
      taken.flatten ++ left.flatten := by
  cases left with
  | nil => rfl
  | cons chunk chunks =>
    rw [cutOverlong]
    split
    · simp only [List.flatten_append, List.flatten_cons, List.flatten_nil, List.append_nil,
        List.append_assoc]
      rw [← List.append_assoc (List.take _ chunk), List.take_append_drop]
    · rfl

/-- A line loses at most a blank end. -/
private theorem exists_dropBlankEnd_append (line : List Text) :
    ∃ dropped, line = dropBlankEnd line ++ dropped ∧ marks dropped.flatten = [] := by
  rw [dropBlankEnd]
  split
  · rename_i hlast
    obtain ⟨chunk, hchunk, hblank⟩ := (Option.any_eq_true _ _).mp hlast
    refine ⟨[chunk], (List.dropLast_append_getLast? chunk hchunk).symm, ?_⟩
    rw [List.flatten_singleton, marks_eq_nil hblank]
  · exact ⟨[], (List.append_nil line).symm, rfl⟩

private theorem marks_dropBlankEnd (line : List Text) :
    marks (dropBlankEnd line).flatten = marks line.flatten := by
  obtain ⟨dropped, hline, hdropped⟩ := exists_dropBlankEnd_append line
  calc marks (dropBlankEnd line).flatten
      = marks (dropBlankEnd line ++ dropped).flatten := by
        rw [List.flatten_append, marks_append, hdropped, List.append_nil]
    _ = marks line.flatten := by rw [← hline]

private theorem length_dropBlankEnd_le (line : List Text) :
    (dropBlankEnd line).flatten.length ≤ line.flatten.length := by
  obtain ⟨dropped, hline, -⟩ := exists_dropBlankEnd_append line
  calc (dropBlankEnd line).flatten.length
      ≤ (dropBlankEnd line ++ dropped).flatten.length := by
        rw [List.flatten_append, List.length_append]
        exact Nat.le_add_right _ _
    _ = line.flatten.length := by rw [← hline]

/-- What is put on a line and what is left for the next ones have all marks between them. -/
theorem marks_nextLine (width : Nat) (first : Bool) (chunks : List Text) :
    marks (nextLine width first chunks).1.flatten ++ marks (nextLine width first chunks).2.flatten =
      marks chunks.flatten := by
  let started := dropBlankStart first chunks
  let fitting := takeFitting width started
  have hcut := flatten_cutOverlong width fitting.1 fitting.2
  calc marks (nextLine width first chunks).1.flatten ++
        marks (nextLine width first chunks).2.flatten
      = marks ((cutOverlong width fitting.1 fitting.2).1.flatten ++
          (cutOverlong width fitting.1 fitting.2).2.flatten) := by
        rw [marks_append]
        exact congrArg (· ++ _) (marks_dropBlankEnd _)
    _ = marks (fitting.1 ++ fitting.2).flatten := by rw [hcut, List.flatten_append]
    _ = marks started.flatten := by rw [takeFitting_append]
    _ = marks chunks.flatten := marks_dropBlankStart first chunks

private theorem takeFitting_fits (room : Nat) (chunks : List Text) :
    (takeFitting room chunks).1.flatten.length ≤ room := by
  induction chunks generalizing room with
  | nil => exact Nat.zero_le _
  | cons chunk chunks ih =>
    rw [takeFitting]
    split
    · have hrest := ih (room - chunk.length)
      simp only [List.flatten_cons, List.length_append]
      omega
    · exact Nat.zero_le _

private theorem cutPoint_le (room : Nat) (chunk : Text) : cutPoint room chunk ≤ room := by
  rw [cutPoint]
  split
  · have hdrop := (List.dropWhile_suffix (· != '-') (l := (chunk.take room).reverse)).length_le
    simp only [List.length_reverse, List.length_take] at hdrop ⊢
    omega
  · exact Nat.le_refl _

private theorem cutOverlong_fits {width : Nat} {taken : List Text}
    (h : taken.flatten.length ≤ width)
    (left : List Text) : (cutOverlong width taken left).1.flatten.length ≤ width := by
  cases left with
  | nil => exact h
  | cons chunk chunks =>
    rw [cutOverlong]
    split
    · have hcut := cutPoint_le (width - taken.flatten.length) chunk
      simp only [List.flatten_append, List.flatten_cons, List.flatten_nil, List.append_nil,
        List.length_append, List.length_take]
      omega
    · exact h

theorem nextLine_fits (width : Nat) (first : Bool) (chunks : List Text) :
    (nextLine width first chunks).1.flatten.length ≤ width := by
  have htaken := takeFitting_fits width (dropBlankStart first chunks)
  have hcut := cutOverlong_fits htaken (takeFitting width (dropBlankStart first chunks)).2
  exact Nat.le_trans (length_dropBlankEnd_le _) hcut

/-! ### Whole fillings -/

variable {width : Width} {line : Text}

theorem marks_fillLines (width : Width) (first : Bool) (chunks : List Text) :
    (fillLines width first chunks).flatMap marks = marks chunks.flatten := by
  fun_induction fillLines width first chunks with
  | case1 first => rfl
  | case2 first chunk chunks filled hempty ih =>
    have hline := marks_nextLine width.1 first (chunk :: chunks)
    rw [← hline, ih]
    rw [List.isEmpty_iff] at hempty
    rw [hempty]
    rfl
  | case3 first chunk chunks filled hempty ih =>
    rw [List.flatMap_cons, ih]
    exact marks_nextLine width.1 first (chunk :: chunks)

theorem length_le_of_mem_fillLines {first : Bool} {chunks : List Text} {row : Text}
    (h : row ∈ fillLines width first chunks) : row.length ≤ width.1 := by
  fun_induction fillLines width first chunks with
  | case1 first => cases h
  | case2 first chunk chunks filled hempty ih => exact ih h
  | case3 first chunk chunks filled hempty ih =>
    rcases List.mem_cons.mp h with rfl | h
    · exact nextLine_fits width.1 first (chunk :: chunks)
    · exact ih h

/-! ### Lines with nothing to show -/

private theorem evenSpacing_of_spaces (h : ∀ c ∈ line, c = ' ' ∨ c = '\t') :
    ∃ n, evenSpacing line = List.replicate n ' ' := by
  have hexpand (column : Nat) : ∃ n, expandTabs column line = List.replicate n ' ' := by
    induction line generalizing column with
    | nil => exact ⟨0, rfl⟩
    | cons c t ih =>
      have hrest := ih fun c hc => h c (List.mem_cons_of_mem _ hc)
      obtain rfl | rfl := h c List.mem_cons_self
      · obtain ⟨n, hn⟩ := hrest (column + 1)
        exact ⟨n + 1, by simp [expandTabs, hn, List.replicate_succ]⟩
      · obtain ⟨n, hn⟩ := hrest (column + (tabStop - column % tabStop))
        refine ⟨tabStop - column % tabStop + n, ?_⟩
        simp [expandTabs, hn, List.replicate_append_replicate]
  obtain ⟨n, hn⟩ := hexpand 0
  exact ⟨n, by simp [evenSpacing, hn, List.map_replicate, isAsciiBlank]⟩

/-- Spaces are one chunk, however many there are. -/
private theorem chunksAfter_spaces (past : Text) (n : Nat) :
    chunksAfter past (List.replicate (n + 1) ' ') = [List.replicate (n + 1) ' '] := by
  induction n generalizing past with
  | zero => rfl
  | succ n ih =>
    have hbreak : breaksBetween (' ' :: past) (List.replicate (n + 1) ' ') = false := by
      have hword : isWordChar ' ' = false := by decide
      have hends : endsWord ' ' = false := by decide
      simp [breaksBetween, List.replicate_succ, hword, hends]
    rw [List.replicate_succ, chunksAfter, ih, hbreak]
    rfl

private theorem cutPoint_of_no_hyphen {room : Nat} {chunk : Text} (h : '-' ∉ chunk) :
    cutPoint room chunk = room := by
  have hnone : (chunk.take room).reverse.dropWhile (· != '-') = [] := by
    rw [List.dropWhile_eq_nil_iff]
    intro c hc
    have hmem : c ∈ chunk := List.mem_of_mem_take (List.mem_reverse.mp hc)
    simpa using fun e : c = '-' => h (e ▸ hmem)
  simp [cutPoint, hnone]

private theorem nextLine_spaces (width n : Nat) :
    nextLine width true [List.replicate n ' '] =
      ([], if n ≤ width then [] else [List.replicate (n - width) ' ']) := by
  by_cases hfits : n ≤ width
  · simp [nextLine, dropBlankStart, takeFitting, hfits, cutOverlong, dropBlankEnd, allBlank_spaces]
  · have hcut : cutPoint width (List.replicate n ' ') = width :=
      cutPoint_of_no_hyphen (by simp [List.mem_replicate])
    simp [nextLine, dropBlankStart, takeFitting, hfits, cutOverlong, dropBlankEnd, hcut,
      Nat.lt_of_not_le hfits, allBlank_spaces]

private theorem fillLines_spaces (width : Width) (n : Nat) :
    fillLines width true [List.replicate n ' '] = [] := by
  -- Each line takes its width in spaces and is dropped.
  induction n using Nat.strongRecOn with
  | ind n ih =>
    rw [fillLines, nextLine_spaces]
    rw [List.isEmpty_nil, if_pos rfl]
    split
    · rw [fillLines]
    · rename_i hlong
      exact ih (n - width.1) (by have := width.2; omega)

theorem fillLine_of_spaces (width : Width) (h : ∀ c ∈ line, c = ' ' ∨ c = '\t') :
    fillLine width line = [] := by
  obtain ⟨n, hn⟩ := evenSpacing_of_spaces h
  rw [fillLine, hn, chunks]
  cases n with
  | zero => rw [List.replicate_zero, chunksAfter, fillLines]
  | succ n => rw [chunksAfter_spaces, fillLines_spaces]

/-! ### Lines that are left alone -/

private theorem ne_nil_of_mem_chunksAfter {past chunk : Text} (h : chunk ∈ chunksAfter past line) :
    chunk ≠ [] := by
  induction line generalizing past chunk with
  | nil => cases h
  | cons c rest ih =>
    rw [chunksAfter] at h
    split at h
    · obtain rfl := List.mem_singleton.mp h
      exact List.cons_ne_nil _ _
    · rename_i next more hnext
      have hmore : ∀ other ∈ next :: more, other ≠ [] := by
        rw [← hnext]
        exact fun other => ih
      split at h
      · obtain rfl | h := List.mem_cons.mp h
        · exact List.cons_ne_nil _ _
        · exact hmore chunk h
      · obtain rfl | h := List.mem_cons.mp h
        · exact List.cons_ne_nil _ _
        · exact hmore chunk (List.mem_cons_of_mem _ h)

private theorem takeFitting_of_fits {room : Nat} {chunks : List Text}
    (h : chunks.flatten.length ≤ room) : takeFitting room chunks = (chunks, []) := by
  induction chunks generalizing room with
  | nil => rfl
  | cons chunk chunks ih =>
    rw [List.flatten_cons, List.length_append] at h
    rw [takeFitting, if_pos (by omega), ih (by omega)]

/-- The last chunk of a line holds the line's last character. -/
private theorem dropBlankEnd_chunks (h : ∀ c ∈ line.getLast?, isBlank c = false) :
    dropBlankEnd (chunks line) = chunks line := by
  rw [dropBlankEnd, if_neg]
  intro hlast
  obtain ⟨chunk, hchunk, hblank⟩ := (Option.any_eq_true _ _).mp hlast
  have hne : chunk ≠ [] := ne_nil_of_mem_chunksAfter (List.mem_of_getLast? hchunk)
  obtain ⟨c, hc⟩ := Option.isSome_iff_exists.mp (List.getLast?_isSome.mpr hne)
  have hline : line.getLast? = some c := by
    rw [← flatten_chunks line, ← List.dropLast_append_getLast? chunk hchunk]
    simp [List.getLast?_append, hc]
  have hmark := h c hline
  have : isBlank c = true := by
    have hall : ∀ c ∈ chunk, isBlank c = true := by simpa [allBlank] using hblank
    exact hall c (List.mem_of_getLast? hc)
  simp [this] at hmark

theorem fillLine_eq_self (hne : line ≠ []) (hfits : line.length ≤ width.1)
    (hspaces : ∀ c ∈ line, isAsciiBlank c → c = ' ')
    (hend : ∀ c ∈ line.getLast?, isBlank c = false) : fillLine width line = [line] := by
  have hflat := flatten_chunks line
  have hline : nextLine width.1 true (chunks line) = (chunks line, []) := by
    have hstart : dropBlankStart true (chunks line) = chunks line := by
      cases chunks line <;> rfl
    simp only [nextLine, hstart, takeFitting_of_fits (hflat.symm ▸ hfits), cutOverlong,
      dropBlankEnd_chunks hend]
  rw [fillLine, evenSpacing_eq_self hspaces]
  cases hchunks : chunks line with
  | nil => exact absurd (chunksAfter_eq_nil_iff.mp hchunks) hne
  | cons chunk more =>
    rw [hchunks] at hline hflat
    rw [fillLines, hline]
    simp [fillLines, hflat]

/-! ### Blocks -/

theorem marks_wrapLine (width : Width) (line : Text) :
    (wrapLine width line).flatMap marks = marks line := by
  have hfill : (fillLine width line).flatMap marks = marks line := by
    rw [fillLine, marks_fillLines, flatten_chunks, marks_evenSpacing]
  rw [wrapLine]
  split
  · rename_i hnone
    rw [← hfill, hnone]
    rfl
  · exact hfill

theorem length_le_of_mem_wrapLine {row : Text} (h : row ∈ wrapLine width line) :
    row.length ≤ width.1 := by
  rw [wrapLine] at h
  split at h
  · obtain rfl := List.mem_singleton.mp h
    exact Nat.zero_le _
  · exact length_le_of_mem_fillLines h

/-- The block of lines that one line may be wrapped into. -/
structure Wraps (width : Nat) (line : Text) (block : List Text) : Prop where
  nonempty : block ≠ []
  fits : ∀ row ∈ block, row.length ≤ width
  marks : block.flatMap marks = marks line
  /-- A line without anything to show stays as an empty line. -/
  blank : (∀ c ∈ line, c = ' ' ∨ c = '\t') → block = [[]]
  /-- A line that fits is left as it is. -/
  short : line ≠ [] → line.length ≤ width →
    (∀ c ∈ line, c ∉ ['\t', '\n', '\x0b', '\x0c', '\r']) →
    (∀ c ∈ line.getLast?, isBlank c = false) → block = [line]

private theorem eq_space_of_isAsciiBlank {c : Char} (h : isAsciiBlank c)
    (hc : c ∉ ['\t', '\n', '\x0b', '\x0c', '\r']) : c = ' ' := by
  simp only [isAsciiBlank, Bool.or_eq_true, beq_iff_eq, Bool.and_eq_true, decide_eq_true_eq] at h
  obtain rfl | ⟨hlow, hhigh⟩ := h
  · rfl
  · have hcases : c.toNat = 9 ∨ c.toNat = 10 ∨ c.toNat = 11 ∨ c.toNat = 12 ∨ c.toNat = 13 := by
      omega
    have hof := Char.ofNat_toNat c
    obtain hn | hn | hn | hn | hn := hcases <;> rw [hn] at hof <;> simp [← hof] at hc

theorem wraps_wrapLine (width : Width) (line : Text) :
    Wraps width.1 line (wrapLine width line) where
  nonempty := wrapLine_ne_nil width line
  fits _ := length_le_of_mem_wrapLine
  marks := marks_wrapLine width line
  blank h := by rw [wrapLine, fillLine_of_spaces width h]
  short hne hfits hspaces hend := by
    rw [wrapLine, fillLine_eq_self hne hfits
      (fun c hc hblank => eq_space_of_isAsciiBlank hblank (hspaces c hc)) hend]

/-- Lines are wrapped one by one, each into a block of its own: no line of a block is too long, its
marks are those of the line, and a line that is short enough or has nothing to show is one line. -/
theorem wrapLines_in_blocks {width : Int} (hwidth : 1 ≤ width) (lines : List Text) :
    ∃ blocks, wrapLines? width lines = .ok blocks.flatten ∧
      List.Forall₂ (Wraps width.toNat) lines blocks := by
  let columns : Width := ⟨width.toNat, by omega⟩
  refine ⟨lines.map (wrapLine columns), ?_, ?_⟩
  · rw [wrapLines?, dif_pos (by omega), wrapLines, List.flatMap]
    rfl
  · rw [List.forall₂_map_right_iff, List.forall₂_same]
    exact fun line _ => wraps_wrapLine columns line

/-- The first line is full before its overlong word begins, and so it keeps its blank end. -/
theorem wrapLines_in_blocks_of_overlong_word :
    ∃ blocks,
      wrapLines? 4 ["ab  cdefgh i ".toList, "\t ".toList, " hi".toList] = .ok blocks.flatten ∧
      List.Forall₂ (Wraps 4) ["ab  cdefgh i ".toList, "\t ".toList, " hi".toList] blocks ∧
      blocks.flatten = ["ab  ".toList, "cdef".toList, "gh i".toList, [], " hi".toList] := by
  obtain ⟨blocks, hwrap, hblocks⟩ := wrapLines_in_blocks (show (1 : Int) ≤ 4 by decide)
    ["ab  cdefgh i ".toList, "\t ".toList, " hi".toList]
  have hlines : (wrapLines? 4 ["ab  cdefgh i ".toList, "\t ".toList, " hi".toList]).toOption =
      some ["ab  ".toList, "cdef".toList, "gh i".toList, [], " hi".toList] := by
    decide +kernel
  rw [hwrap] at hlines
  exact ⟨blocks, hwrap, hblocks, Option.some.inj hlines⟩

end StoryPlayer
