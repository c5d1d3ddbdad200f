import StoryPlayer.Proofs.Playback.Ticks
import StoryPlayer.Terminal.Stage

/-!
# Rendering and polling

On a stage that refuses no call for drawing, a view is shown if the window has room for all of its
frame, and stops at the first call that finds no room if not. Each look for a key uses up one entry
of the script of a stage that refuses nothing.
-/

namespace StoryPlayer

def DrawCall.isPrompt : DrawCall → Bool
  | .prompt _ _ _ _ => true
  | _ => false

/-- A frame has one prompt, whatever the window: on the last row, and cut short of the last column
if there are two. -/
theorem filter_isPrompt_frame (size : WindowSize) (style : Style) (view : View) :
    (frame size style view).filter DrawCall.isPrompt =
      [.prompt (size.height - 1) view.prompt (max 1 (size.width - 1)) style] := by
  have hlines : (drawLines size (visibleLines size view)).filter DrawCall.isPrompt = [] := by
    rw [List.filter_eq_nil_iff]
    intro call hcall
    obtain ⟨line, -, rfl⟩ := List.mem_map.mp hcall
    exact Bool.false_ne_true
  have hcursor : (drawCursor size view).filter DrawCall.isPrompt = [] := by
    unfold drawCursor
    split <;> rfl
  rw [frame, List.filter_append, hlines, List.nil_append, List.filter_cons_of_pos rfl, hcursor]
  rfl

namespace ScriptEntry

/-- Whether an entry is no failure, or one by which the terminal says that no key is there. -/
def isQuiet : ScriptEntry → Bool
  | .failure (.terminal _) => true
  | .failure _ => false
  | _ => true

def raw? : ScriptEntry → Option RawKey
  | .key raw => some raw
  | .resize _ => some .resize
  | _ => none

/-- The key that a look gives. -/
def heard (entry : ScriptEntry) : Option Key :=
  match entry.raw? with
  | some raw => if raw ∈ RawKey.nonKeys then none else some raw.classify
  | none => none

end ScriptEntry

namespace Stage

variable {stage : Stage}

def showing (calls : List DrawCall) (stage : Stage) : Stage :=
  { stage with
    drawnBack := calls.reverse
    renders := stage.renders + 1
    framesBack :=
      if stage.framesBack.head? = some calls then stage.framesBack
      else calls :: stage.framesBack }

@[simp]
theorem head?_framesBack_showing (calls : List DrawCall) (stage : Stage) :
    (stage.showing calls).framesBack.head? = some calls := by
  rw [showing]
  dsimp only
  split
  · assumption
  · rfl

def Grants (stage : Stage) (facility : Facility) : Prop :=
  stage.refusals.find? (·.1 = facility) = none

/-- Nothing that showing a view depends on is refused. The cursor is not among it: a terminal that
can neither show nor hide its cursor is put up with. -/
def CanDraw (stage : Stage) : Prop :=
  ∀ facility ∈ [Facility.size, .erase, .write, .hasColours, .styleAttribute, .moveCursor, .refresh],
    stage.Grants facility

theorem grants_of_refusals_eq_nil (h : stage.refusals = []) (facility : Facility) :
    stage.Grants facility := by
  rw [Grants, h]
  rfl

theorem canDraw_of_refusals_eq_nil (h : stage.refusals = []) : stage.CanDraw :=
  fun facility _ => grants_of_refusals_eq_nil h facility

theorem use_eq_ok {facility : Facility} (h : stage.Grants facility) :
    use facility stage = .ok () stage := by
  rw [use, h]

/-- Whether the window has room for a call. -/
def takes (stage : Stage) (call : DrawCall) : Bool := (call.cells stage.surface stage.size).isOk

def drawing (calls : List DrawCall) (stage : Stage) : Stage :=
  { stage with drawnBack := calls.reverse ++ stage.drawnBack }

private theorem drawing_drawing (calls more : List DrawCall) (stage : Stage) :
    (stage.drawing calls).drawing more = stage.drawing (calls ++ more) := by
  simp [drawing]

theorem takes_iff {call : DrawCall} :
    stage.takes call ↔ ∃ cells, call.cells stage.surface stage.size = .ok cells := by
  rw [takes]
  cases call.cells stage.surface stage.size <;> simp [Except.isOk, Except.toBool]

private theorem exists_of_not_takes {call : DrawCall} (h : ¬ stage.takes call) :
    ∃ failure, call.cells stage.surface stage.size = .error failure := by
  rw [takes_iff] at h
  cases hcells : call.cells stage.surface stage.size with
  | ok cells => exact absurd ⟨cells, hcells⟩ h
  | error failure => exact ⟨failure, rfl⟩

private theorem draw_eq_ok {call : DrawCall} (h : stage.takes call) :
    draw call stage = .ok () (stage.drawing [call]) := by
  obtain ⟨cells, hcells⟩ := takes_iff.mp h
  rw [draw, hcells]
  rfl

private theorem draw_eq_error {call : DrawCall} {failure : Failure}
    (h : call.cells stage.surface stage.size = .error failure) :
    draw call stage = .error failure stage := by
  rw [draw, h]

/-- Only the window decides on a call that nothing else refuses. -/
theorem perform_eq_draw (h : stage.CanDraw) (call : DrawCall) :
    perform call stage = draw call stage := by
  have hwrite := use_eq_ok (h .write (by simp))
  cases call with
  | cursor visible => rfl
  | line row text limit => rw [perform, bind_of_eq_ok hwrite]
  | prompt row text limit style => rw [perform, bind_of_eq_ok hwrite]
  | moveCursor row column => rw [perform, bind_of_eq_ok (use_eq_ok (h .moveCursor (by simp)))]

/-- How a list of calls can be drawn: all of them, or those before the first that finds no room. -/
inductive Drawn (stage : Stage) (calls : List DrawCall) : EStateM.Result Failure Stage Unit → Prop
  | all (htakes : ∀ call ∈ calls, stage.takes call) :
      Drawn stage calls (.ok () (stage.drawing calls))
  | upTo {drawn rest : List DrawCall} {call : DrawCall} {failure : Failure}
      (hcalls : calls = drawn ++ call :: rest) (htakes : ∀ call ∈ drawn, stage.takes call)
      (hrefused : call.cells stage.surface stage.size = .error failure) :
      Drawn stage calls (.error failure (stage.drawing drawn))

theorem drawn_forM (h : stage.CanDraw) (calls : List DrawCall) :
    Drawn stage calls (calls.forM perform stage) := by
  induction calls generalizing stage with
  | nil => exact .all (by simp)
  | cons call calls ih =>
    rw [List.forM]
    by_cases htakes : stage.takes call
    · have hfirst := (perform_eq_draw h call).trans (draw_eq_ok htakes)
      rw [bind_of_eq_ok hfirst]
      -- Drawing touches neither the window nor the refusals, so the next call meets the same ones.
      have hnext : (stage.drawing [call]).CanDraw := h
      have hrest := ih hnext
      generalize calls.forM perform (stage.drawing [call]) = result at hrest
      cases hrest with
      | all hall =>
        rw [drawing_drawing]
        exact .all (List.forall_mem_cons.mpr ⟨htakes, hall⟩)
      | upTo hcalls hdrawn hrefused =>
        rw [drawing_drawing]
        exact .upTo (by rw [hcalls]; rfl) (List.forall_mem_cons.mpr ⟨htakes, hdrawn⟩) hrefused
    · obtain ⟨failure, hfailure⟩ := exists_of_not_takes htakes
      have hfirst := (perform_eq_draw h call).trans (draw_eq_error hfailure)
      rw [bind_of_eq_error hfirst]
      have hnone : Drawn stage (call :: calls) (.error failure (stage.drawing [])) :=
        .upTo rfl (by simp) hfailure
      exact hnone

/-- The style of the prompt: that of the mode, if there are colours. -/
def styleOf (stage : Stage) (mode : Mode) : Style := if stage.colours then mode.style else .plain

private theorem promptStyle_eq_ok (h : stage.CanDraw) (mode : Mode) :
    promptStyle mode stage = .ok (stage.styleOf mode) stage := by
  rw [promptStyle, bind_of_eq_ok (use_eq_ok (h .hasColours (by simp))),
    bind_of_eq_ok (get_eq_ok stage), styleOf]
  cases hcolours : stage.colours with
  | false => rfl
  | true =>
    rw [if_neg (by decide), if_pos rfl]
    by_cases hplain : mode.style = .plain
    · rw [if_pos hplain, hplain]
      rfl
    · rw [if_neg hplain, bind_of_eq_ok (use_eq_ok (h .styleAttribute (by simp)))]
      rfl

private theorem refresh_eq_ok (h : stage.CanDraw) :
    refresh stage = .ok () (stage.showing stage.drawnBack.reverse) := by
  rw [refresh, bind_of_eq_ok (use_eq_ok (h .refresh (by simp))), showing, List.reverse_reverse]
  rfl

/-- All that showing a view on this stage draws. -/
def frameOf (stage : Stage) (view : View) : List DrawCall :=
  frame stage.size (stage.styleOf view.mode) view

/-- The window has room for all of a view. -/
def CanShow (stage : Stage) (view : View) : Prop := ∀ call ∈ stage.frameOf view, stage.takes call

instance (stage : Stage) (view : View) : Decidable (stage.CanShow view) :=
  inferInstanceAs (Decidable (∀ call ∈ stage.frameOf view, stage.takes call))

/-- How showing a view can end that is to draw the given calls. -/
inductive Rendered (stage : Stage) (calls : List DrawCall) :
    EStateM.Result Failure Stage Unit → Prop
  | shown (htakes : ∀ call ∈ calls, stage.takes call) :
      Rendered stage calls (.ok () (stage.showing calls))
  | refused {drawn rest : List DrawCall} {call : DrawCall} {failure : Failure}
      (hcalls : calls = drawn ++ call :: rest) (htakes : ∀ call ∈ drawn, stage.takes call)
      (hrefused : call.cells stage.surface stage.size = .error failure) :
      Rendered stage calls (.error failure { stage with drawnBack := drawn.reverse })

/-- Showing a view draws its frame on an erased window, call by call, and refreshes it. -/
private theorem render_eq_forM (h : stage.CanDraw) (view : View) :
    render view stage =
      ((stage.frameOf view).forM perform >>= fun _ => refresh) { stage with drawnBack := [] } := by
  let blank : Stage := { stage with drawnBack := [] }
  let lines := drawLines stage.size (visibleLines stage.size view)
  have hblank : blank.CanDraw := h
  have herase : erase stage = .ok () blank := by
    rw [erase, bind_of_eq_ok (use_eq_ok (h .erase (by simp)))]
    rfl
  have hframe : (stage.frameOf view).forM perform = (lines.forM perform >>= fun _ => do
      perform (drawPrompt stage.size (stage.styleOf view.mode) view)
      (drawCursor stage.size view).forM perform) := by
    rw [List.forM_eq_forM, frameOf, frame, List.forM_append, List.forM_cons]
  have hlines := drawn_forM hblank lines
  rw [render, bind_of_eq_ok (use_eq_ok (h .size (by simp))), bind_of_eq_ok (get_eq_ok stage),
    bind_of_eq_ok herase, hframe, bind_assoc]
  cases hresult : lines.forM perform blank with
  | error failure last => rw [bind_of_eq_error hresult, bind_of_eq_error hresult]
  | ok value last =>
    rw [hresult] at hlines
    cases hlines with
    | all _ =>
      have hlast : (blank.drawing lines).CanDraw := h
      have hstyle : promptStyle view.mode (blank.drawing lines) =
          .ok (stage.styleOf view.mode) (blank.drawing lines) := promptStyle_eq_ok hlast view.mode
      rw [bind_of_eq_ok hresult, bind_of_eq_ok hresult, bind_of_eq_ok hstyle, bind_assoc]

theorem render_outcome (h : stage.CanDraw) (view : View) :
    Rendered stage (stage.frameOf view) (render view stage) := by
  let blank : Stage := { stage with drawnBack := [] }
  have hblank : blank.CanDraw := h
  have hdrawn := drawn_forM hblank (stage.frameOf view)
  have hback (calls : List DrawCall) : (blank.drawing calls).drawnBack = calls.reverse := by
    simp [drawing, blank]
  rw [render_eq_forM h]
  cases hresult : (stage.frameOf view).forM perform blank with
  | ok value last =>
    rw [hresult] at hdrawn
    rw [bind_of_eq_ok hresult]
    cases hdrawn with
    | all htakes =>
      have hlast : (blank.drawing (stage.frameOf view)).CanDraw := h
      have hrefresh := refresh_eq_ok hlast
      rw [hback, List.reverse_reverse] at hrefresh
      rw [hrefresh]
      exact .shown htakes
  | error failure last =>
    rw [hresult] at hdrawn
    rw [bind_of_eq_error hresult]
    cases hdrawn with
    | @upTo drawn rest call failure hcalls htakes hrefused =>
      have hlast : blank.drawing drawn = { stage with drawnBack := drawn.reverse } := by
        rw [drawing, List.append_nil]
      rw [hlast]
      exact .refused hcalls htakes hrefused

theorem render_eq_ok (h : stage.CanDraw) {view : View} (hroom : stage.CanShow view) :
    render view stage = .ok () (stage.showing (stage.frameOf view)) := by
  have houtcome := render_outcome h view
  generalize render view stage = result at houtcome
  cases houtcome with
  | shown _ => rfl
  | @refused drawn rest call failure hcalls _ hrefused =>
    obtain ⟨cells, hcells⟩ := takes_iff.mp (hroom call (by simp [hcalls]))
    cases hcells.symm.trans hrefused

/-- The stage after a look for a key that gave the entry. -/
def taking (entry : ScriptEntry) (stage : Stage) : Stage :=
  { stage with
    size := match entry with
      | .resize size => size
      | _ => stage.size
    script := stage.script.tail
    polls := stage.polls + 1
    clock := stage.clock + stage.pollCost }

private theorem nextEntry_eq_ok (h : stage.refusals = []) :
    nextEntry stage = .ok (stage.script.headD stage.atEnd)
      { stage with
        script := stage.script.tail, polls := stage.polls + 1,
        clock := stage.clock + stage.pollCost } := by
  let polled : Stage :=
    { stage with polls := stage.polls + 1, clock := stage.clock + stage.pollCost }
  have hpolled : polled.Grants .readKey := grants_of_refusals_eq_nil h _
  have hmodify : (modify fun stage : Stage => { stage with
      polls := stage.polls + 1, clock := stage.clock + stage.pollCost } :
      EStateM Failure Stage Unit) stage = .ok () polled := rfl
  rw [nextEntry, bind_of_eq_ok hmodify, bind_of_eq_ok (use_eq_ok hpolled)]
  rfl

private theorem readKey_eq_ok (h : stage.refusals = []) {entry : ScriptEntry}
    (hentry : stage.script.headD stage.atEnd = entry) (hquiet : entry.isQuiet) :
    readKey stage = .ok entry.raw? (stage.taking entry) := by
  have hnext := nextEntry_eq_ok h
  rw [hentry] at hnext
  change EStateM.bind (EStateM.tryCatch _ _) _ stage = _
  rw [EStateM.bind]
  -- `rw` would make an equation of the library's `tryCatch` anew.
  delta EStateM.tryCatch
  dsimp only
  rw [bind_of_eq_ok hnext]
  cases entry with
  | nothing => rfl
  | key raw => rfl
  | resize size => rfl
  | failure failure =>
    -- Only a refusal of the terminal is caught.
    cases failure with
    | terminal message => rfl
    | _ => cases hquiet

theorem poll_eq_ok (h : stage.refusals = []) {entry : ScriptEntry}
    (hentry : stage.script.headD stage.atEnd = entry) (hquiet : entry.isQuiet) :
    poll stage = .ok entry.heard (stage.taking entry) := by
  rw [poll, bind_of_eq_ok (readKey_eq_ok h hentry hquiet), ScriptEntry.heard]
  cases entry.raw? <;> rfl

end Stage
end StoryPlayer
