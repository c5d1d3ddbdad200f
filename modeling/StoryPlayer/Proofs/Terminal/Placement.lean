import StoryPlayer.Proofs.Layout.Wrapping
import StoryPlayer.Proofs.Terminal.Columns
import StoryPlayer.Proofs.Terminal.Rendering

/-!
# Placement of a frame

On a window with a row for the prompt and two columns, a frame is to show the newest lines above the
prompt, none of them cut, and to leave the last column to the cursor. It counts characters, so this
holds of characters that take one column each, and not of a text with more columns than there are.
-/

namespace StoryPlayer

def DrawCall.target? : DrawCall → Option Cell
  | moveCursor row column => some ⟨row, column⟩
  | line _ _ _ | prompt _ _ _ _ | cursor _ => none

/-- The calls `shown` are to place a view on a window. The view is wrapped into `lines`, the last of
which are drawn by `rows`, and the prompt has the row below them. -/
structure Placed (size : WindowSize) (view : View) (lines : List Text) (rows : List DrawCall)
    (style : Style) (shown : List DrawCall) : Prop where
  wraps : wrapLines? (size.width - 1) view.displayLines = .ok lines
  calls : shown = rows ++
    .prompt (size.height - 1) view.prompt (size.width - 1) style ::
      if view.mode = .awaitingInput then
        [.cursor true,
          .moveCursor (size.height - 1) (view.prompt.cutAt (size.width - 1)).length]
      else [.cursor false]
  /-- There are as many rows as there is room above the prompt, or lines. -/
  length_rows : rows.length = min (size.height - 1).toNat lines.length
  /-- Each row is above the prompt and holds its line in full. -/
  row : ∀ i < rows.length, (i : Int) < size.height - 1 ∧
    ∃ line, lines[lines.length - rows.length + i]? = some line ∧
      rows[i]? = some (.line i line (size.width - 1)) ∧ (line.length : Int) ≤ size.width - 1 ∧
      line.cutAt (size.width - 1) = line
  target : ∀ call ∈ shown, ∀ cell ∈ call.target?, cell.inside size

section

variable {size : WindowSize} {view : View}

private theorem WindowSize.span_eq (hwidth : 2 ≤ size.width) : size.span = size.width - 1 := by
  rw [span]
  omega

private theorem WindowSize.textWidth_val (hwidth : 2 ≤ size.width) :
    size.textWidth.1 = (size.width - 1).toNat :=
  congrArg Int.toNat (span_eq hwidth)

private theorem wrapLines?_textWidth (hwidth : 2 ≤ size.width) (lines : List Text) :
    wrapLines? (size.width - 1) lines = .ok (wrapLines size.textWidth lines) := by
  have hcolumns : size.textWidth = ⟨(size.width - 1).toNat, by omega⟩ :=
    Subtype.ext (WindowSize.textWidth_val hwidth)
  rw [wrapLines?, dif_pos (by omega), hcolumns]
  rfl

private theorem length_le_of_mem_wrapLines {width : Width} {lines : List Text} {row : Text}
    (h : row ∈ wrapLines width lines) : row.length ≤ width.1 := by
  obtain ⟨line, -, hrow⟩ := List.mem_flatMap.mp h
  exact length_le_of_mem_wrapLine hrow

private theorem length_lastEntries {α : Type} (n : Nat) (entries : List α) :
    (lastEntries n entries).length = min n entries.length := by
  rw [lastEntries, List.length_drop]
  omega

private theorem getElem?_lastEntries {α : Type} (n i : Nat) (entries : List α) :
    (lastEntries n entries)[i]? =
      entries[entries.length - (lastEntries n entries).length + i]? := by
  rw [length_lastEntries, lastEntries, List.getElem?_drop]
  congr 1
  omega

private theorem getElem?_drawLines (size : WindowSize) (lines : List Text) (i : Nat) :
    (drawLines size lines)[i]? = lines[i]?.map fun line => .line i line size.span := by
  rw [drawLines, List.getElem?_map, List.getElem?_zipIdx, Option.map_map, Nat.zero_add]
  rfl

@[simp]
private theorem length_drawLines (size : WindowSize) (lines : List Text) :
    (drawLines size lines).length = lines.length := by
  simp [drawLines]

private theorem cursorColumn_eq (hwidth : 2 ≤ size.width) (view : View) :
    cursorColumn size view = (view.prompt.cutAt (size.width - 1)).length := by
  rw [cursorColumn, Text.cutAt, List.length_take]
  omega

private theorem drawCursor_eq (hwidth : 2 ≤ size.width) (view : View) :
    drawCursor size view =
      if view.mode = .awaitingInput then
        [.cursor true,
          .moveCursor (size.height - 1) (view.prompt.cutAt (size.width - 1)).length]
      else [.cursor false] := by
  rw [drawCursor, cursorColumn_eq hwidth, WindowSize.promptRow, View.showsCursor]
  simp only [beq_iff_eq]

/-- Each row of text shows a line that fits. -/
private theorem exists_row (hwidth : 2 ≤ size.width) {i : Nat}
    (hi : i < (drawLines size (visibleLines size view)).length) :
    ∃ line, (visibleLines size view)[i]? = some line ∧
      (drawLines size (visibleLines size view))[i]? = some (.line i line (size.width - 1)) ∧
      line.length ≤ (size.width - 1).toNat := by
  rw [length_drawLines] at hi
  have hline := List.getElem?_eq_getElem hi
  refine ⟨(visibleLines size view)[i], hline, ?_, ?_⟩
  · rw [getElem?_drawLines, hline, WindowSize.span_eq hwidth]
    rfl
  · have hwrapped := List.mem_of_mem_drop (List.getElem_mem hi)
    rw [← WindowSize.textWidth_val hwidth]
    exact length_le_of_mem_wrapLines hwrapped

private theorem length_rows_le (size : WindowSize) (view : View) :
    (drawLines size (visibleLines size view)).length ≤ size.textRows := by
  rw [length_drawLines, visibleLines, length_lastEntries]
  exact Nat.min_le_left _ _

/-- The calls of a frame, each with the place that it draws on. -/
private theorem mem_frame {style : Style} {call : DrawCall} (hwidth : 2 ≤ size.width)
    (h : call ∈ frame size style view) :
    (∃ (i : Nat) (line : Text), i < size.textRows ∧ call = .line i line (size.width - 1)) ∨
      call = .prompt (size.height - 1) view.prompt (size.width - 1) style ∨
      (∃ visible, call = .cursor visible) ∨
      call = .moveCursor (size.height - 1) (view.prompt.cutAt (size.width - 1)).length := by
  rw [frame, List.mem_append, List.mem_cons, drawCursor_eq hwidth] at h
  obtain hrow | rfl | hcursor := h
  · obtain ⟨i, hi, rfl⟩ := List.getElem_of_mem hrow
    obtain ⟨line, -, hcall, -⟩ := exists_row hwidth hi
    rw [List.getElem?_eq_getElem hi] at hcall
    exact .inl ⟨i, line, Nat.lt_of_lt_of_le hi (length_rows_le size view), Option.some.inj hcall⟩
  · rw [drawPrompt, WindowSize.span_eq hwidth, WindowSize.promptRow]
    exact .inr (.inl rfl)
  · split at hcursor
    · simp only [List.mem_cons, List.not_mem_nil, or_false] at hcursor
      obtain rfl | rfl := hcursor
      · exact .inr (.inr (.inl ⟨true, rfl⟩))
      · exact .inr (.inr (.inr rfl))
    · obtain rfl := List.mem_singleton.mp hcursor
      exact .inr (.inr (.inl ⟨false, rfl⟩))

private theorem inside_cursorCell (hheight : 1 ≤ size.height) (hwidth : 2 ≤ size.width)
    (view : View) :
    Cell.inside size ⟨size.height - 1, (view.prompt.cutAt (size.width - 1)).length⟩ := by
  rw [← cursorColumn_eq hwidth, cursorColumn, Cell.inside_iff]
  dsimp only
  omega

theorem placed_frame (hheight : 1 ≤ size.height) (hwidth : 2 ≤ size.width) (view : View)
    (style : Style) :
    Placed size view (wrapLines size.textWidth view.displayLines)
      (drawLines size (visibleLines size view)) style (frame size style view) where
  wraps := wrapLines?_textWidth hwidth _
  calls := by
    rw [frame, drawCursor_eq hwidth, drawPrompt, WindowSize.span_eq hwidth, WindowSize.promptRow]
  length_rows := by rw [length_drawLines, visibleLines, length_lastEntries, WindowSize.textRows]
  row i hi := by
    obtain ⟨line, hline, hcall, hfits⟩ := exists_row hwidth hi
    have habove := length_rows_le size view
    rw [WindowSize.textRows] at habove
    refine ⟨by omega, line, ?_, hcall, by omega, List.take_of_length_le hfits⟩
    rwa [length_drawLines, visibleLines, ← getElem?_lastEntries]
  target call hcall cell hcell := by
    obtain ⟨i, line, hi, rfl⟩ | rfl | ⟨visible, rfl⟩ | rfl := mem_frame hwidth hcall
    · cases hcell
    · cases hcell
    · cases hcell
    · cases hcell
      exact inside_cursorCell hheight hwidth view

end

section

variable {surface : Surface} {columns : Char → Option Nat} {size : WindowSize} {style : Style}
  {view : View} {call : DrawCall}

/-- A call of a frame is clear exactly if the columns of what it writes end before the last one. -/
theorem isClear_iff_of_mem_frame (h : surface.HasCells columns) (hheight : 1 ≤ size.height)
    (hwidth : 2 ≤ size.width) (hcall : call ∈ frame size style view)
    (htext : call.text.IsLegible columns) :
    call.IsClear surface size ↔
      ((call.text.cutAt call.limit).columnCount columns : Int) ≤ size.width - 1 := by
  have hlimit : 0 < size.width - 1 := by omega
  obtain ⟨i, line, hi, rfl⟩ | rfl | ⟨visible, rfl⟩ | rfl := mem_frame hwidth hcall
  · rw [WindowSize.textRows] at hi
    exact DrawCall.isClear_iff_of_writeRow h rfl rfl (by omega) (by omega) (by omega) hlimit htext
  · exact DrawCall.isClear_iff_of_writeRow h rfl rfl (by omega) (by omega) (by omega) hlimit htext
  · refine iff_of_true ⟨[], rfl, by simp⟩ ?_
    change (0 : Int) ≤ size.width - 1
    omega
  · refine iff_of_true ⟨[], ?_, by simp⟩ ?_
    · rw [DrawCall.cells, if_pos (h.reaches (inside_cursorCell hheight hwidth view))]
    · change (0 : Int) ≤ size.width - 1
      omega

private theorem length_cutAt_le_of_mem_frame (hwidth : 2 ≤ size.width)
    (hcall : call ∈ frame size style view) :
    ((call.text.cutAt call.limit).length : Int) ≤ size.width - 1 := by
  have hcut : (call.text.cutAt call.limit).length ≤ call.limit.toNat := List.length_take_le ..
  have hlimit : call.limit ≤ size.width - 1 := by
    obtain ⟨i, line, hi, rfl⟩ | rfl | ⟨visible, rfl⟩ | rfl := mem_frame hwidth hcall
    · exact Int.le_refl _
    · exact Int.le_refl _
    · change (0 : Int) ≤ size.width - 1
      omega
    · change (0 : Int) ≤ size.width - 1
      omega
  omega

/-- Characters of one column each are as many as their columns, so nothing of a frame of them
reaches the last column. -/
theorem isClear_of_narrow (h : surface.HasCells columns) (hheight : 1 ≤ size.height)
    (hwidth : 2 ≤ size.width) (hcall : call ∈ frame size style view)
    (hnarrow : call.text.IsNarrow columns) : call.IsClear surface size := by
  have hcut : (call.text.cutAt call.limit).IsNarrow columns :=
    fun c hc => hnarrow c (List.mem_of_mem_take hc)
  rw [isClear_iff_of_mem_frame h hheight hwidth hcall hnarrow.isLegible, hcut.columnCount_eq]
  exact length_cutAt_le_of_mem_frame hwidth hcall

end

private theorem Stage.canShow_of_isClear {stage : Stage} {view : View}
    (h : ∀ call ∈ stage.frameOf view, call.IsClear stage.surface stage.size) :
    stage.CanShow view := by
  intro call hcall
  obtain ⟨cells, hcells, -⟩ := h call hcall
  exact takes_iff.mpr ⟨cells, hcells⟩

private theorem Stage.eq_frameOf_of_render_eq_ok {stage : Stage} {view : View}
    {shown : List DrawCall} (hdraw : stage.CanDraw)
    (h : render view stage = .ok () (stage.showing shown)) :
    shown = stage.frameOf view := by
  have houtcome := render_outcome hdraw view
  generalize hresult : render view stage = result at houtcome
  rw [h] at hresult
  cases houtcome with
  | refused _ _ _ => cases hresult
  | shown _ =>
    have hlast := congrArg (fun stage => stage.framesBack.head?) (EStateM.Result.ok.inj hresult).2
    simpa using hlast

/-- On a window of at least one row and two columns, a rendering is to show the newest lines above
the prompt, each in full, and stops at the first call that the window has no room for. On a terminal
with cells, what a call writes stays in its row and clear of the last column exactly if its columns
are fewer than those of the window, so all of it is shown if each character takes one column. -/
theorem render_places_view {stage : Stage} (hdraw : stage.CanDraw)
    (hheight : 1 ≤ stage.size.height) (hwidth : 2 ≤ stage.size.width) (view : View) :
    ∃ lines rows shown, Placed stage.size view lines rows (stage.styleOf view.mode) shown ∧
      stage.Rendered shown (Stage.render view stage) ∧
      ∀ columns, stage.surface.HasCells columns →
        (∀ call ∈ shown, call.text.IsLegible columns →
          (call.IsClear stage.surface stage.size ↔
            ((call.text.cutAt call.limit).columnCount columns : Int) ≤ stage.size.width - 1)) ∧
        ((∀ call ∈ shown, call.text.IsNarrow columns) →
          Stage.render view stage = .ok () (stage.showing shown) ∧
            ∀ call ∈ shown, call.IsClear stage.surface stage.size) := by
  refine ⟨_, _, _, placed_frame hheight hwidth view _, Stage.render_outcome hdraw view, ?_⟩
  intro columns hcells
  refine ⟨fun call hcall htext => isClear_iff_of_mem_frame hcells hheight hwidth hcall htext, ?_⟩
  intro hnarrow
  have hclear : ∀ call ∈ stage.frameOf view, call.IsClear stage.surface stage.size :=
    fun call hcall => isClear_of_narrow hcells hheight hwidth hcall (hnarrow call hcall)
  exact ⟨Stage.render_eq_ok hdraw (Stage.canShow_of_isClear hclear), hclear⟩

/-- A window with room for two of four lines and for five characters of a longer prompt, on a
terminal that refuses to show its cursor. -/
theorem render_places_view_of_small_window :
    let columns : Char → Option Nat := fun c => if c = '\x00' then none else some 1
    let stage : Stage :=
      { size := ⟨3, 6⟩, surface := .grid columns, refusals := [(.cursor, "no cursor".toList)] }
    let view : View :=
      { mode := .awaitingInput, phase := .waiting, inputBuffer := "abcdef".toList,
        outputLog := ["ab cd efgh".toList], revealing := some "i\nj".toList }
    ∃ lines rows shown, Placed stage.size view lines rows .plain shown ∧
      Stage.render view stage = .ok () (stage.showing shown) ∧
      (∀ call ∈ shown, call.IsClear stage.surface stage.size) ∧
      lines = ["ab cd".toList, "efgh".toList, ['i'], ['j']] ∧ rows.length = 2 := by
  intro columns stage view
  have hdraw : stage.CanDraw := by simp [Stage.CanDraw, Stage.Grants, stage]
  obtain ⟨lines, rows, shown, hplaced, hrendered, hcells⟩ :=
    render_places_view hdraw (by decide) (by decide) view
  have hlines : (wrapLines? 5 view.displayLines).toOption =
      some ["ab cd".toList, "efgh".toList, ['i'], ['j']] := by
    decide +kernel
  have hwraps : wrapLines? 5 view.displayLines = .ok lines := hplaced.wraps
  rw [hwraps] at hlines
  obtain rfl := Option.some.inj hlines
  have hletters : ∀ line ∈ ["ab cd".toList, "efgh".toList, ['i'], ['j']],
      Text.IsNarrow columns line := by
    decide +kernel
  have hnarrow : ∀ call ∈ shown, call.text.IsNarrow columns := by
    intro call hcall
    rw [hplaced.calls, List.mem_append] at hcall
    rcases hcall with hrow | hrest
    · obtain ⟨i, hi, rfl⟩ := List.getElem_of_mem hrow
      obtain ⟨-, line, hline, hcall, -⟩ := hplaced.row i hi
      rw [List.getElem?_eq_getElem hi] at hcall
      rw [Option.some.inj hcall]
      exact hletters line (List.mem_of_getElem? hline)
    · revert call
      decide +kernel
  obtain ⟨hrender, hclear⟩ := (hcells columns (Surface.hasCells_grid rfl)).2 hnarrow
  exact ⟨_, rows, shown, hplaced, hrender, hclear, rfl, hplaced.length_rows⟩

/-- Four letters of two columns and one more fill a row of six columns and go on below it, behind
the prompt, as if the last one had been typed. -/
theorem not_forall_render_clear :
    ¬ ∀ (stage : Stage) (view : View) (columns : Char → Option Nat), stage.CanDraw →
      1 ≤ stage.size.height → 2 ≤ stage.size.width → stage.surface.HasCells columns →
      (∀ call ∈ stage.frameOf view, call.text.IsLegible columns) →
      ∃ shown, Stage.render view stage = .ok () (stage.showing shown) ∧
        ∀ call ∈ shown, call.IsClear stage.surface stage.size := by
  intro hall
  let columns : Char → Option Nat :=
    fun c => if c = '\x00' then none else if c = 'あ' then some 2 else some 1
  let stage : Stage := { size := ⟨2, 6⟩, surface := .grid columns }
  let view : View :=
    { mode := .disabled, phase := .updating, inputBuffer := [],
      outputLog := ["ああああa".toList], revealing := none }
  have hframe : stage.frameOf view =
      [.line 0 "ああああa".toList 5, .prompt 1 "> ".toList 5 .plain, .cursor false] := by
    decide +kernel
  have hlegible : ∀ call ∈ stage.frameOf view, call.text.IsLegible columns := by
    rw [hframe]
    decide +kernel
  have hdraw : stage.CanDraw := Stage.canDraw_of_refusals_eq_nil rfl
  obtain ⟨shown, hrender, hclear⟩ :=
    hall stage view columns hdraw (by decide) (by decide) (Surface.hasCells_grid rfl) hlegible
  obtain rfl := Stage.eq_frameOf_of_render_eq_ok hdraw hrender
  have hmem : DrawCall.line 0 "ああああa".toList 5 ∈ stage.frameOf view := by
    rw [hframe]
    exact List.mem_cons_self ..
  have hrow := (isClear_iff_of_mem_frame (Surface.hasCells_grid rfl) (by decide) (by decide) hmem
    (hlegible _ hmem)).mp (hclear _ hmem)
  exact absurd hrow (by decide)

end StoryPlayer
