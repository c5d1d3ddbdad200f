import Mathlib.Data.Set.Function
import StoryPlayer.Proofs.Story.Flaws
import StoryPlayer.Proofs.Story.Seam

/-!
# Lines and columns

The line and the column of an offset are found by looking back from it. They are the coordinates of
the offset on the lines of the document: each offset has its own, the end of the document included,
and those of a fault lie on a command line.
-/

namespace StoryPlayer

private theorem lineAt_of_le {line : Text} (hline : '\n' ∉ line) {k : Nat} (hk : k ≤ line.length)
    (after : Text) : lineAt (line ++ after) k = 1 := by
  have hbefore : '\n' ∉ line.take k := fun h => hline (List.mem_of_mem_take h)
  rw [lineAt_append_left (by omega) (by omega), lineAt, textBefore_of_nonneg (by omega),
    Int.toNat_natCast, List.count_eq_zero.mpr hbefore]

private theorem columnAt_of_le {line : Text} (hline : '\n' ∉ line) {k : Nat} (hk : k ≤ line.length)
    (after : Text) : columnAt (line ++ after) k = k + 1 := by
  have hbefore : (line.take k).reverse.takeWhile (· != '\n') = (line.take k).reverse := by
    rw [List.takeWhile_eq_self_iff]
    intro c hc
    have hmem : c ∈ line := List.mem_of_mem_take (List.mem_reverse.mp hc)
    have hne : c ≠ '\n' := fun h => hline (h ▸ hmem)
    simpa using hne
  rw [columnAt_append_left (by omega) (by omega), columnAt, textBefore_of_nonneg (by omega),
    Int.toNat_natCast, hbefore]
  simp

/-- The coordinates of an offset that is counted on its line. -/
private theorem coordinates_of_line {before : List Text} {line : Text}
    (hbefore : ∀ l ∈ before, '\n' ∉ l)
    (hline : '\n' ∉ line) {k : Nat} (hk : k ≤ line.length) (after : List Text) :
    lineAt (Text.join '\n' (before ++ line :: after)) (Text.extent before + k : Nat) =
        before.length + 1 ∧
      columnAt (Text.join '\n' (before ++ line :: after)) (Text.extent before + k : Nat) =
        k + 1 := by
  induction before with
  | nil =>
    rw [List.nil_append, Text.join_cons_eq_append_following, Text.extent_nil, Nat.zero_add]
    exact ⟨lineAt_of_le hline hk _, columnAt_of_le hline hk _⟩
  | cons first before ih =>
    obtain ⟨ihline, ihcolumn⟩ := ih fun l hl => hbefore l (List.mem_cons_of_mem _ hl)
    have hfirst : first.count '\n' = 0 := List.count_eq_zero.mpr (hbefore first List.mem_cons_self)
    have hoffset : ((Text.extent (first :: before) + k : Nat) : Int) =
        (Text.extent before + k : Nat) + (first.length + 1 : Nat) := by
      rw [Text.extent_cons]
      omega
    rw [List.cons_append, Text.join_cons '\n' first (by simp), hoffset,
      lineAt_append_right (by omega), columnAt_append_right (by omega), ihline, ihcolumn, hfirst]
    exact ⟨rfl, rfl⟩

/-- Every offset lies on a line or at its end. -/
private theorem exists_line_of_lt_extent {lines : List Text} {n : Nat} (h : n < Text.extent lines) :
    ∃ before line after k, lines = before ++ line :: after ∧ k ≤ line.length ∧
      n = Text.extent before + k := by
  induction lines generalizing n with
  | nil => simp at h
  | cons first lines ih =>
    rw [Text.extent_cons] at h
    by_cases hfirst : n ≤ first.length
    · exact ⟨[], first, lines, n, rfl, hfirst, by simp⟩
    · obtain ⟨before, line, after, k, rfl, hk, hn⟩ :=
        ih (n := n - (first.length + 1)) (by omega)
      refine ⟨first :: before, line, after, k, rfl, hk, ?_⟩
      rw [Text.extent_cons]
      omega

theorem coordinates_of_split {source : Text} {before after : List Text} {line : Text}
    (hsplit : Text.split '\n' source = before ++ line :: after) {k : Nat} (hk : k ≤ line.length) :
    lineAt source (Text.extent before + k : Nat) = before.length + 1 ∧
      columnAt source (Text.extent before + k : Nat) = k + 1 := by
  have hlines : ∀ l ∈ before ++ line :: after, '\n' ∉ l := by
    rw [← hsplit]
    exact fun l => Text.notMem_of_mem_split
  have h := coordinates_of_line (fun l hl => hlines l (List.mem_append_left _ hl))
    (hlines line (by simp)) hk after
  rwa [← hsplit, Text.join_split] at h

/-- The offsets of a document, its end included. -/
def offsets (source : Text) : Set Int := {position | 0 ≤ position ∧ position ≤ source.length}

private theorem exists_line_of_position {source : Text} {position : Int}
    (h : position ∈ offsets source) :
    ∃ before line after k, Text.split '\n' source = before ++ line :: after ∧ k ≤ line.length ∧
      position = (Text.extent before + k : Nat) := by
  obtain ⟨hnonneg, hle⟩ := h
  have hlength := Text.length_join_add_one '\n' (Text.split_ne_nil '\n' source)
  rw [Text.join_split] at hlength
  have hlt : position.toNat < Text.extent (Text.split '\n' source) := by omega
  obtain ⟨before, line, after, k, hsplit, hk, hposition⟩ := exists_line_of_lt_extent hlt
  exact ⟨before, line, after, k, hsplit, hk, by omega⟩

/-- A line and a column, both counted from one, that lead to an offset: over the lines before, and
then along the line at most to its end. -/
structure LeadsTo (lines : List Text) (line : Nat) (column position : Int) : Prop where
  line_pos : 1 ≤ line
  line_le : line ≤ lines.length
  column_pos : 1 ≤ column
  column_le : ∃ content, lines[line - 1]? = some content ∧ column ≤ content.length + 1
  position_eq : Text.extent (lines.take (line - 1)) + (column - 1) = position

theorem leadsTo_of_position {source : Text} {position : Int} (h : position ∈ offsets source) :
    LeadsTo (Text.split '\n' source) (lineAt source position) (columnAt source position)
      position := by
  obtain ⟨before, line, after, k, hsplit, hk, rfl⟩ := exists_line_of_position h
  obtain ⟨hline, hcolumn⟩ := coordinates_of_split hsplit hk
  rw [hline, hcolumn, hsplit]
  refine ⟨by omega, ?_, by omega, ⟨line, ?_, by omega⟩, ?_⟩
  · rw [List.length_append, List.length_cons]
    omega
  · simp
  · rw [Nat.add_sub_cancel, List.take_left]
    omega

theorem position_eq_of_coordinates {source : Text} {p q : Int} (hp : p ∈ offsets source)
    (hq : q ∈ offsets source) (hline : lineAt source p = lineAt source q)
    (hcolumn : columnAt source p = columnAt source q) : p = q := by
  have hleads := (leadsTo_of_position hp).position_eq
  rw [hline, hcolumn, (leadsTo_of_position hq).position_eq] at hleads
  exact hleads.symm

/-- The line of a fault is the flaw's. -/
private theorem isCommandLine_at_fault {source : Text} {fault : Fault}
    (h : Story.parse source = .error fault) :
    ∃ line, (Text.split '\n' source)[lineAt source fault.position - 1]? = some line ∧
      isCommandLine line := by
  obtain ⟨flaw, -, hstart, hstop⟩ := exists_flaw_within h
  obtain ⟨k, hk⟩ := Int.eq_ofNat_of_zero_le (Int.sub_nonneg.mpr hstart)
  have hposition : fault.position = (flaw.start + k : Nat) := by omega
  have hline := (coordinates_of_split flaw.split_eq (k := k) (by omega)).1
  rw [Flaw.start] at hposition
  rw [hposition, hline, flaw.split_eq]
  exact ⟨flaw.line, by simp, flaw.isCommandLine_line⟩

/-- The line and the column of an offset lead to it, so each offset has its own; and a fault is on a
command line. -/
theorem line_and_column_of_position (source : Text) :
    (∀ position ∈ offsets source,
        LeadsTo (Text.split '\n' source) (lineAt source position) (columnAt source position)
          position) ∧
      Set.InjOn (fun position => (lineAt source position, columnAt source position))
        (offsets source) ∧
      ∀ fault, Story.parse source = .error fault →
        fault.position ∈ offsets source ∧
        ∃ line, (Text.split '\n' source)[lineAt source fault.position - 1]? = some line ∧
          isCommandLine line := by
  refine ⟨fun position => leadsTo_of_position, ?_, ?_⟩
  · intro p hp q hq heq
    obtain ⟨hline, hcolumn⟩ := Prod.mk.inj heq
    exact position_eq_of_coordinates hp hq hline hcolumn
  · intro fault h
    exact ⟨parse_fault h, isCommandLine_at_fault h⟩

theorem line_and_column_of_line_ends :
    LeadsTo ["One".toList, [], "+WAIT".toList] 1 4 3 ∧
      LeadsTo ["One".toList, [], "+WAIT".toList] 2 1 4 ∧
      LeadsTo ["One".toList, [], "+WAIT".toList] 3 6 10 ∧
      ((1, 4) : Nat × Int) ≠ (2, 1) ∧
      Story.parse "One\n\n+WAIT".toList = .error ⟨.unknownCommand "WAIT".toList, 5⟩ ∧
      ∃ line, ["One".toList, [], "+WAIT".toList][2]? = some line ∧ isCommandLine line := by
  have hfault : Story.parse "One\n\n+WAIT".toList =
      .error ⟨.unknownCommand "WAIT".toList, 5⟩ := by
    rw [parse_eq_readBlocks]
    decide
  have hthree : 3 ∈ offsets "One\n\n+WAIT".toList := ⟨by decide, by decide⟩
  have hfour : 4 ∈ offsets "One\n\n+WAIT".toList := ⟨by decide, by decide⟩
  have hend : 10 ∈ offsets "One\n\n+WAIT".toList := ⟨by decide, by decide⟩
  obtain ⟨hleads, hinj, hline⟩ := line_and_column_of_position "One\n\n+WAIT".toList
  exact ⟨hleads 3 hthree, hleads 4 hfour, hleads 10 hend, hinj.ne hthree hfour (by decide), hfault,
    (hline _ hfault).2⟩

end StoryPlayer
