import StoryPlayer.Terminal.Surface

/-!
# Columns

A text is cut at a number of characters, but a character may take two columns, or none. What a text
does on a terminal with cells follows from what each character does: it stays clear of the last
column exactly if its columns are fewer than those of the window.
-/

namespace StoryPlayer

/-- What is assumed of a terminal with cells, on which a character takes the given columns. Nothing
is assumed of the row after one that is full. -/
structure Surface.HasCells (surface : Surface) (columns : Char → Option Nat) : Prop where
  objection : ∀ {text : Text}, (∀ c ∈ text, (columns c).isSome) → surface.objection? text = none
  reaches : ∀ {size : WindowSize} {cell : Cell}, cell.inside size → surface.reaches size cell
  /-- A character that ends before the last column takes cells up to its end. One that takes no
  columns needs one before it. -/
  stays : ∀ {size : WindowSize} {cell : Cell} {c : Char} {n : Nat}, columns c = some n →
    cell.inside size → 0 < cell.column + n → cell.column + n < size.width →
    ∃ cells, surface.put? size cell c = some (cells, ⟨cell.row, cell.column + n⟩) ∧
      ∀ taken ∈ cells, taken.row = cell.row ∧ 0 ≤ taken.column ∧ taken.column < cell.column + n
  /-- One that does not leaves nothing of its row free. -/
  edge : ∀ {size : WindowSize} {cell next : Cell} {c : Char} {n : Nat} {cells : List Cell},
    columns c = some n → cell.inside size → size.width ≤ cell.column + n →
    surface.put? size cell c = some (cells, next) → ⟨cell.row, size.width - 1⟩ ∈ cells

namespace Cell

variable {size : WindowSize} {cell : Cell}

theorem inside_iff :
    cell.inside size ↔
      0 ≤ cell.row ∧ cell.row < size.height ∧ 0 ≤ cell.column ∧ cell.column < size.width := by
  simp [inside, and_assoc]

private theorem mem_run {taken : Cell} {n : Nat} :
    taken ∈ cell.run n ↔
      taken.row = cell.row ∧ cell.column ≤ taken.column ∧ taken.column < cell.column + n := by
  rw [run, List.mem_map]
  constructor
  · rintro ⟨i, hi, rfl⟩
    rw [List.mem_range] at hi
    exact ⟨rfl, by simp; omega⟩
  · rintro ⟨hrow, hfrom, hto⟩
    refine ⟨(taken.column - cell.column).toNat, List.mem_range.mpr (by omega), ?_⟩
    have hcolumn : cell.column + Int.ofNat (taken.column - cell.column).toNat = taken.column := by
      simp; omega
    rw [hcolumn, ← hrow]

/-- In the given row, and clear of the last column. -/
def IsClear (size : WindowSize) (row : Int) (cell : Cell) : Prop :=
  cell.row = row ∧ 0 ≤ cell.column ∧ cell.column < size.width - 1

end Cell

namespace Surface

variable {columns : Char → Option Nat} {size : WindowSize} {cell next : Cell} {n : Nat}

private theorem putColumns?_of_lt (hroom : cell.column + n < size.width) :
    putColumns? size cell n = some (cell.run n, ⟨cell.row, cell.column + n⟩) := by
  rw [putColumns?, if_pos (by omega), Cell.wrapped?, if_pos hroom]
  rfl

private theorem edge_mem_of_putColumns? {cells : List Cell} (hcell : cell.inside size)
    (hpos : 0 < n) (hfull : size.width ≤ cell.column + n)
    (hput : putColumns? size cell n = some (cells, next)) :
    ⟨cell.row, size.width - 1⟩ ∈ cells := by
  rw [Cell.inside_iff] at hcell
  rw [putColumns?] at hput
  split at hput
  · -- The character ends in the last column.
    obtain ⟨next, -, hput⟩ := Option.bind_eq_some_iff.mp hput
    cases hput
    exact Cell.mem_run.mpr ⟨rfl, by dsimp only; omega⟩
  · split at hput
    · -- The rest of the row is left blank.
      obtain ⟨next, -, hput⟩ := Option.bind_eq_some_iff.mp hput
      cases hput
      exact List.mem_append_left _ (Cell.mem_run.mpr ⟨rfl, by dsimp only; omega⟩)
    · cases hput

private theorem put?_grid_of_pos {c : Char} (hc : columns c = some n) (hpos : 0 < n) :
    (grid columns).put? size cell c = putColumns? size cell n := by
  obtain ⟨m, rfl⟩ := Nat.exists_eq_succ_of_ne_zero (Nat.ne_of_gt hpos)
  simp only [grid, hc]

private theorem put?_grid_of_zero {c : Char} (hc : columns c = some 0) (hpos : 0 < cell.column) :
    (grid columns).put? size cell c = some ([⟨cell.row, cell.column - 1⟩], cell) := by
  simp only [grid, hc]
  rw [cellBefore, if_pos hpos]

theorem hasCells_grid (hnull : columns '\x00' = none) : (grid columns).HasCells columns where
  objection := by
    intro text htext
    have habsent : '\x00' ∉ text := by
      intro hmem
      have hsome := htext _ hmem
      rw [hnull] at hsome
      cases hsome
    exact if_neg habsent
  reaches := id
  stays := by
    intro size cell c n hc hcell hpos hroom
    rw [Cell.inside_iff] at hcell
    rcases Nat.eq_zero_or_pos n with rfl | hn
    · rw [put?_grid_of_zero hc (by omega)]
      refine ⟨[⟨cell.row, cell.column - 1⟩], by simp, ?_⟩
      intro taken htaken
      obtain rfl := List.mem_singleton.mp htaken
      exact ⟨rfl, by dsimp only; omega⟩
    · rw [put?_grid_of_pos hc hn, putColumns?_of_lt hroom]
      refine ⟨_, rfl, ?_⟩
      intro taken htaken
      obtain ⟨hrow, hfrom, hto⟩ := Cell.mem_run.mp htaken
      exact ⟨hrow, by omega, hto⟩
  edge := by
    intro size cell next c n cells hc hcell hfull hput
    have hn : 0 < n := by
      rw [Cell.inside_iff] at hcell
      omega
    rw [put?_grid_of_pos hc hn] at hput
    exact edge_mem_of_putColumns? hcell hn hfull hput

end Surface

namespace Text

variable {columns : Char → Option Nat} {text : Text}

def columnCount (columns : Char → Option Nat) : Text → Nat
  | [] => 0
  | c :: text => (columns c).getD 0 + columnCount columns text

/-- The terminal shows all of a text, and the first character has a cell of its own. -/
structure IsLegible (columns : Char → Option Nat) (text : Text) : Prop where
  all : ∀ c ∈ text, (columns c).isSome
  first : ∀ c ∈ text.head?, columns c ≠ some 0

def IsNarrow (columns : Char → Option Nat) (text : Text) : Prop := ∀ c ∈ text, columns c = some 1

private theorem isLegible_iff_all :
    text.all (fun c => (columns c).isSome) ∧ text.head?.all (fun c => columns c != some 0) ↔
      text.IsLegible columns := by
  rw [List.all_eq_true, Option.all_eq_true]
  constructor
  · rintro ⟨hall, hfirst⟩
    exact ⟨hall, fun c hc => by simpa using hfirst c hc⟩
  · rintro ⟨hall, hfirst⟩
    exact ⟨hall, fun c hc => by simpa using hfirst c hc⟩

private theorem isNarrow_iff_all :
    text.all (fun c => columns c == some 1) ↔ text.IsNarrow columns := by
  rw [List.all_eq_true, IsNarrow]
  simp only [beq_iff_eq]

instance (columns : Char → Option Nat) (text : Text) : Decidable (text.IsLegible columns) :=
  decidable_of_iff _ isLegible_iff_all

instance (columns : Char → Option Nat) (text : Text) : Decidable (text.IsNarrow columns) :=
  decidable_of_iff _ isNarrow_iff_all

private theorem columnCount_cons {c : Char} {n : Nat} (h : columns c = some n) (text : Text) :
    Text.columnCount columns (c :: text) = n + text.columnCount columns := by
  rw [columnCount, h, Option.getD_some]

theorem IsNarrow.columnCount_eq (h : text.IsNarrow columns) :
    text.columnCount columns = text.length := by
  induction text with
  | nil => rfl
  | cons c text ih =>
    rw [columnCount_cons (h c (List.mem_cons_self ..)), List.length_cons,
      ih fun d hd => h d (List.mem_cons_of_mem c hd), Nat.add_comm]

theorem IsNarrow.isLegible (h : text.IsNarrow columns) : text.IsLegible columns where
  all c hc := by
    rw [h c hc]
    rfl
  first c hc := by
    rw [h c (List.mem_of_mem_head? hc)]
    simp

end Text

namespace Surface

variable {surface : Surface} {columns : Char → Option Nat} {size : WindowSize}

/-- All of a text is written in its row and clear of the last column. -/
def WritesClear (surface : Surface) (size : WindowSize) (cell : Cell) (text : Text) : Prop :=
  ∃ cells, surface.write? size cell text = some cells ∧
    ∀ taken ∈ cells, taken.IsClear size cell.row

private theorem write?_cons {cell next : Cell} {c : Char} {cells : List Cell} (text : Text)
    (hput : surface.put? size cell c = some (cells, next)) :
    surface.write? size cell (c :: text) = (surface.write? size next text).map (cells ++ ·) := by
  rw [write?, hput]
  change ((surface.write? size next text).bind fun rest => some (cells ++ rest)) = _
  exact Option.map_eq_bind.symm

private theorem writesClear_cons {cell next : Cell} {c : Char} {cells : List Cell} {text : Text}
    (hput : surface.put? size cell c = some (cells, next)) (hrow : next.row = cell.row)
    (hcells : ∀ taken ∈ cells, taken.IsClear size cell.row) :
    surface.WritesClear size cell (c :: text) ↔ surface.WritesClear size next text := by
  rw [WritesClear, write?_cons text hput, WritesClear, hrow]
  constructor
  · rintro ⟨all, hall, hclear⟩
    obtain ⟨rest, hrest, rfl⟩ := Option.map_eq_some_iff.mp hall
    exact ⟨rest, hrest, fun taken htaken => hclear taken (List.mem_append_right _ htaken)⟩
  · rintro ⟨rest, hrest, hclear⟩
    refine ⟨cells ++ rest, by rw [hrest]; rfl, ?_⟩
    intro taken htaken
    exact (List.mem_append.mp htaken).elim (hcells taken) (hclear taken)

/-- A text that meets the last column does not stay clear of it, wherever the rest of it goes. -/
private theorem not_writesClear_of_edge {cell : Cell} {c : Char} {text : Text} {n : Nat}
    (h : surface.HasCells columns) (hc : columns c = some n) (hcell : cell.inside size)
    (hfull : size.width ≤ cell.column + n) : ¬ surface.WritesClear size cell (c :: text) := by
  rintro ⟨all, hall, hclear⟩
  rw [write?] at hall
  obtain ⟨⟨cells, next⟩, hput, hrest⟩ := Option.bind_eq_some_iff.mp hall
  obtain ⟨rest, -, heq⟩ := Option.bind_eq_some_iff.mp hrest
  cases heq
  obtain ⟨-, -, hlast⟩ := hclear _ (List.mem_append_left _ (h.edge hc hcell hfull hput))
  exact absurd hlast (by simp)

/-- A text stays clear of the last column exactly if its columns end before it. -/
theorem writesClear_iff (h : surface.HasCells columns) {cell : Cell} {text : Text}
    (hcell : cell.inside size) (hall : ∀ c ∈ text, (columns c).isSome)
    (hfirst : 0 < cell.column ∨ ∀ c ∈ text.head?, columns c ≠ some 0) :
    surface.WritesClear size cell text ↔
      cell.column + text.columnCount columns ≤ size.width - 1 := by
  induction text generalizing cell with
  | nil =>
    have hend : cell.column + Text.columnCount columns [] ≤ size.width - 1 := by
      rw [Cell.inside_iff] at hcell
      rw [Text.columnCount]
      omega
    exact iff_of_true ⟨[], rfl, by simp⟩ hend
  | cons c text ih =>
    obtain ⟨n, hc⟩ := Option.isSome_iff_exists.mp (hall c (List.mem_cons_self ..))
    obtain ⟨htop, hbottom, hleft, hright⟩ := Cell.inside_iff.mp hcell
    have hpos : 0 < cell.column + n := by
      rcases hfirst with hfirst | hfirst
      · omega
      · have hn : n ≠ 0 := fun hn => hfirst c rfl (hn ▸ hc)
        omega
    rw [Text.columnCount_cons hc]
    by_cases hroom : cell.column + n < size.width
    · obtain ⟨cells, hput, hcells⟩ := h.stays hc hcell hpos hroom
      have hnext : Cell.inside size ⟨cell.row, cell.column + n⟩ :=
        Cell.inside_iff.mpr ⟨htop, hbottom, Int.le_of_lt hpos, hroom⟩
      rw [writesClear_cons hput rfl, ih hnext (fun d hd => hall d (List.mem_cons_of_mem c hd))
        (.inl hpos)]
      · dsimp only
        omega
      · intro taken htaken
        obtain ⟨hrow, hfrom, hto⟩ := hcells taken htaken
        exact ⟨hrow, hfrom, by omega⟩
    · refine iff_of_false (not_writesClear_of_edge h hc hcell (by omega)) ?_
      omega

end Surface

namespace DrawCall

variable {surface : Surface} {columns : Char → Option Nat} {size : WindowSize}

/-- What a call is given to write, before it is cut. -/
def text : DrawCall → Text
  | line _ text _ | prompt _ text _ _ => text
  | cursor _ | moveCursor _ _ => []

def limit : DrawCall → Int
  | line _ _ limit | prompt _ _ limit _ => limit
  | cursor _ | moveCursor _ _ => 0

def row? : DrawCall → Option Int
  | line row _ _ | prompt row _ _ _ => some row
  | cursor _ | moveCursor _ _ => none

/-- A call is carried out, and what it writes is in its row and clear of the last column. -/
def IsClear (surface : Surface) (size : WindowSize) (call : DrawCall) : Prop :=
  ∃ cells, call.cells surface size = .ok cells ∧
    ∀ cell ∈ cells, ∃ row ∈ call.row?, cell.IsClear size row

/-- A call that writes a row of the window is clear exactly if the columns of its text, cut, end
before the last one. -/
theorem isClear_iff_of_writeRow (h : surface.HasCells columns) {call : DrawCall} {row limit : Int}
    {text : Text} (hrow : call.row? = some row)
    (hcells : call.cells surface size = surface.writeRow size row text limit) (htop : 0 ≤ row)
    (hbottom : row < size.height) (hwidth : 0 < size.width) (hlimit : 0 < limit)
    (htext : text.IsLegible columns) :
    call.IsClear surface size ↔
      ((text.cutAt limit).columnCount columns : Int) ≤ size.width - 1 := by
  have hcell : Cell.inside size ⟨row, 0⟩ :=
    Cell.inside_iff.mpr ⟨htop, hbottom, Int.le_refl 0, hwidth⟩
  have hcut : ∀ c ∈ text.cutAt limit, (columns c).isSome :=
    fun c hc => htext.all c (List.mem_of_mem_take hc)
  have hfirst : ∀ c ∈ (text.cutAt limit).head?, columns c ≠ some 0 := by
    rw [Text.cutAt, List.head?_take, if_neg (by omega)]
    exact htext.first
  have hwritten := Surface.writesClear_iff h hcell hcut (.inr hfirst)
  rw [Int.zero_add] at hwritten
  rw [← hwritten, IsClear, hcells, Surface.writeRow, h.objection htext.all,
    if_pos (h.reaches hcell), Surface.WritesClear, hrow]
  cases surface.write? size ⟨row, 0⟩ (text.cutAt limit) with
  | none => simp
  | some cells => simp

end DrawCall
end StoryPlayer
