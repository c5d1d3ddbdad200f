import Mathlib.Data.List.Induction
import Mathlib.Data.List.Infix
import StoryPlayer.Proofs.Playback.Moves
import StoryPlayer.Proofs.Terminal.Rendering

/-!
# Typing at the terminal

What is typed is what is stored. The raw keys of a terminal go through a look for a key, their
classification, the player and the order of a tick, and what comes out is a fold over the raw keys:
each tick shows the answer typed so far, and the enter key stores it.
-/

namespace StoryPlayer

/-- What a raw key makes of the answer typed so far. -/
def RawKey.edit (answer : Text) : RawKey → Text
  | .typed [c] =>
    if c = '\x7f' ∨ c = '\x08' then answer.dropLast
    else if isPrintable c then answer ++ [c]
    else answer
  | .typed _ => answer
  | .code n => if RawKey.code n = backspace then answer.dropLast else answer

namespace ScriptEntry

def edit (answer : Text) : ScriptEntry → Text
  | .key raw => raw.edit answer
  | _ => answer

def typed (entries : List ScriptEntry) : Text := entries.foldl edit []

private theorem typed_concat (entries : List ScriptEntry) (entry : ScriptEntry) :
    typed (entries ++ [entry]) = entry.edit (typed entries) := by
  rw [typed, List.foldl_append]
  rfl

/-- Whether an entry neither fails nor quits nor submits the answer. -/
def staysOpen : ScriptEntry → Bool
  | .key raw => raw ≠ .home ∧ raw ∉ RawKey.enterKeys
  | entry => entry.isQuiet

private theorem isQuiet_of_staysOpen {entry : ScriptEntry} (h : entry.staysOpen) :
    entry.isQuiet := by
  cases entry with
  | key raw => rfl
  | _ => exact h

end ScriptEntry

namespace RawKey

theorem classify_edit {raw : RawKey} (hhome : raw ≠ home) (henter : raw ∉ enterKeys)
    (answer : Text) : raw.classify.edit answer = raw.edit answer := by
  have hquit : raw ∉ quitKeys := by simpa [quitKeys] using hhome
  unfold classify
  rw [if_neg hquit, if_neg henter]
  cases raw with
  | code n =>
    by_cases hn : RawKey.code n = backspace
    · rw [hn]
      rfl
    · rw [if_neg (by simp [backspaceKeys, hn]), edit, if_neg hn]
      rfl
  | typed text =>
    match text with
    | [] => rfl
    | c :: d :: text =>
      rw [if_neg (by simp [backspaceKeys, backspace])]
      rfl
    | [c] =>
      by_cases hc : c = '\x7f' ∨ c = '\x08'
      · rw [if_pos (by simpa [backspaceKeys, backspace] using hc), edit, if_pos hc]
        rfl
      · rw [if_neg (by simpa [backspaceKeys, backspace] using hc), edit, if_neg hc]
        dsimp only [typedKey]
        split <;> rfl

private theorem kind_typedKey (text : Text) :
    (typedKey text).kind = .char ∨ (typedKey text).kind = .other := by
  unfold typedKey
  split
  · split
    · exact .inl rfl
    · exact .inr rfl
  · exact .inr rfl

theorem classify_kind {raw : RawKey} (hhome : raw ≠ home) (henter : raw ∉ enterKeys) :
    raw.classify.kind ≠ .quit ∧ raw.classify.kind ≠ .enter := by
  have hquit : raw ∉ quitKeys := by simpa [quitKeys] using hhome
  unfold classify
  rw [if_neg hquit, if_neg henter]
  split
  · decide
  · cases raw with
    | code n => simp [Key.other]
    | typed text =>
      rcases kind_typedKey text with hkind | hkind <;> simp [hkind]

private theorem edit_of_mem_nonKeys {raw : RawKey} (h : raw ∈ nonKeys) (answer : Text) :
    raw.edit answer = answer := by
  simp only [nonKeys, List.mem_cons, List.not_mem_nil, or_false] at h
  rcases h with rfl | rfl <;> rfl

private theorem classify_of_mem_enterKeys {raw : RawKey} (h : raw ∈ enterKeys) :
    raw ∉ nonKeys ∧ raw.classify = .enter := by
  revert raw
  decide

end RawKey

namespace Player

variable {p : Player} {key : Key}

private theorem press_edits (hphase : p.phase = .waiting) (hmode : p.mode = .awaitingInput)
    (hquit : key.kind ≠ .quit) (henter : key.kind ≠ .enter) :
    p.press key = .ok { p with inputBuffer := key.edit p.inputBuffer } := by
  rw [press, outcome_eq_ok_iff, takeKey_of_asking hquit hphase hmode, typeKey_of_ne henter]

private theorem press_submits (hphase : p.phase = .waiting) (hmode : p.mode = .awaitingInput) :
    p.press .enter = .ok { p with phase := .committing } := by
  rw [press, outcome_eq_ok_iff, takeKey_of_asking (by decide) hphase hmode,
    typeKey_of_enter hphase rfl]

def hear (p : Player) : Option Key → Except StepError Player
  | some key => p.press key
  | none => .ok p

end Player

open Run

variable {p p' : Player} {stage : Stage} {entry : ScriptEntry}

private theorem tick_of_waiting (hphase : p.phase = .waiting) (hstage : stage.refusals = [])
    (hroom : stage.CanShow p.view) (hentry : stage.script.headD stage.atEnd = entry)
    (hquiet : entry.isQuiet) (hquit : ∀ key, entry.heard = some key → key.kind ≠ .quit)
    (hhear : p.hear entry.heard = .ok p') (hlive : p'.finished = false) :
    tick Stage.host ⟨p, stage⟩ =
      .ok true ⟨p', (stage.showing (stage.frameOf p.view)).taking entry⟩ := by
  have hrender := Stage.render_eq_ok (Stage.canDraw_of_refusals_eq_nil hstage) hroom
  let shown := stage.showing (stage.frameOf p.view)
  have hshown : shown.refusals = [] := hstage
  have hpoll : Stage.poll shown = .ok entry.heard (shown.taking entry) :=
    Stage.poll_eq_ok hshown hentry hquiet
  -- A step of a player that waits changes nothing and writes no notes.
  have hstep : step Stage.host ⟨p, stage⟩ = .ok () ⟨p, stage⟩ := by
    rw [step_of_timeless (p := p) (by simp [Player.readsClock, hphase])
      (Player.outcome_eq_ok_iff.mpr (Player.takeStep_of_waiting hphase))]
    simp [Player.stepNotes, hphase, noted]
  have hshow : showAndPoll Stage.host ⟨p, stage⟩ = .ok () ⟨p', shown.taking entry⟩ := by
    cases hheard : entry.heard with
    | none =>
      rw [hheard] at hhear hpoll
      cases hhear
      exact showAndPoll_of_none hrender hpoll
    | some key =>
      rw [hheard] at hhear hpoll
      have hpress : (⟨p, shown.taking entry⟩ : Run Stage).player.press key = .ok p' := hhear
      rw [showAndPoll_of_some hrender hpoll, press_of_ok hpress, Player.pressNotes,
        if_neg (hquit key hheard)]
      rfl
  rw [tick_of_ok hstep (by simp [Player.finished, hphase]) hshow, hlive]
  rfl

namespace Stage

/-- One frame more was shown. Its only prompt has the given text, which is written on the last row
of the window, in the style of a question, and cut short of the last column if there are two. -/
def Shows (prompt : Text) (before after : Stage) : Prop :=
  after.renders = before.renders + 1 ∧
    ∃ shown, after.framesBack.head? = some shown ∧
      shown.filter DrawCall.isPrompt =
        [.prompt (before.size.height - 1) prompt (max 1 (before.size.width - 1))
          (before.styleOf .awaitingInput)]

private theorem shows_taking {view : View} (hmode : view.mode = .awaitingInput) (stage : Stage)
    (entry : ScriptEntry) :
    Stage.Shows view.prompt stage ((stage.showing (stage.frameOf view)).taking entry) := by
  refine ⟨rfl, _, head?_framesBack_showing _ stage, ?_⟩
  rw [frameOf, filter_isPrompt_frame, hmode]

def takingAll (entries : List ScriptEntry) (stage : Stage) : Stage :=
  entries.foldl (fun stage entry => stage.taking entry) stage

private theorem takingAll_concat (entries : List ScriptEntry) (entry : ScriptEntry)
    (stage : Stage) :
    stage.takingAll (entries ++ [entry]) = (stage.takingAll entries).taking entry := by
  rw [takingAll, List.foldl_append]
  rfl

/-- What can be shown depends on nothing else. -/
structure SameWindow (stage other : Stage) : Prop where
  size : stage.size = other.size
  colours : stage.colours = other.colours
  surface : stage.surface = other.surface

namespace SameWindow

variable {other : Stage}

theorem canShow_iff (h : stage.SameWindow other) (view : View) :
    stage.CanShow view ↔ other.CanShow view := by
  have hframe : stage.frameOf view = other.frameOf view := by
    rw [frameOf, frameOf, styleOf, styleOf, h.size, h.colours]
  have htakes : stage.takes = other.takes := by
    funext call
    rw [takes, takes, h.surface, h.size]
  rw [CanShow, CanShow, hframe, htakes]

private theorem showing_taking (h : stage.SameWindow other) (calls : List DrawCall)
    (entry : ScriptEntry) :
    ((stage.showing calls).taking entry).SameWindow (other.taking entry) where
  size := by
    cases entry with
    | resize size => rfl
    | _ => exact h.size
  colours := h.colours
  surface := h.surface

end SameWindow
end Stage

private theorem hear_of_staysOpen (hphase : p.phase = .waiting) (hmode : p.mode = .awaitingInput)
    (hopen : entry.staysOpen) :
    p.hear entry.heard = .ok { p with inputBuffer := entry.edit p.inputBuffer } ∧
      ∀ key, entry.heard = some key → key.kind ≠ .quit := by
  cases entry with
  | nothing => exact ⟨rfl, by simp [ScriptEntry.heard, ScriptEntry.raw?]⟩
  | failure failure => exact ⟨rfl, by simp [ScriptEntry.heard, ScriptEntry.raw?]⟩
  | resize size =>
    have hnone : (ScriptEntry.resize size).heard = none := rfl
    rw [hnone]
    exact ⟨rfl, by simp⟩
  | key raw =>
    obtain ⟨hhome, henter⟩ : raw ≠ .home ∧ raw ∉ RawKey.enterKeys := by
      simpa [ScriptEntry.staysOpen] using hopen
    obtain ⟨hquit, hsubmit⟩ := RawKey.classify_kind hhome henter
    rw [ScriptEntry.heard, ScriptEntry.raw?, ScriptEntry.edit]
    dsimp only
    by_cases hraw : raw ∈ RawKey.nonKeys
    · rw [if_pos hraw, RawKey.edit_of_mem_nonKeys hraw]
      exact ⟨rfl, by simp⟩
    · rw [if_neg hraw, ← RawKey.classify_edit hhome henter]
      refine ⟨Player.press_edits hphase hmode hquit hsubmit, ?_⟩
      rintro key ⟨⟩
      exact hquit

theorem tick_types (hphase : p.phase = .waiting) (hmode : p.mode = .awaitingInput)
    (hstage : stage.refusals = []) (hroom : stage.CanShow p.view)
    (hentry : stage.script.head? = some entry) (hopen : entry.staysOpen) :
    tick Stage.host ⟨p, stage⟩ =
      .ok true ⟨{ p with inputBuffer := entry.edit p.inputBuffer },
        (stage.showing (stage.frameOf p.view)).taking entry⟩ := by
  obtain ⟨hhear, hquit⟩ := hear_of_staysOpen hphase hmode hopen
  refine tick_of_waiting hphase hstage hroom ?_ (ScriptEntry.isQuiet_of_staysOpen hopen) hquit hhear
    (by simp [Player.finished, hphase])
  rw [List.headD_eq_head?_getD, hentry, Option.getD_some]

theorem tick_submits {submit : RawKey} (hphase : p.phase = .waiting)
    (hmode : p.mode = .awaitingInput) (hstage : stage.refusals = [])
    (hroom : stage.CanShow p.view) (hentry : stage.script.head? = some (.key submit))
    (hsubmit : submit ∈ RawKey.enterKeys) :
    tick Stage.host ⟨p, stage⟩ =
      .ok true ⟨{ p with phase := .committing },
        (stage.showing (stage.frameOf p.view)).taking (.key submit)⟩ := by
  obtain ⟨hkey, hclass⟩ := RawKey.classify_of_mem_enterKeys hsubmit
  have hheard : (ScriptEntry.key submit).heard = some .enter := by
    rw [ScriptEntry.heard, ScriptEntry.raw?]
    dsimp only
    rw [if_neg hkey, hclass]
  refine tick_of_waiting hphase hstage hroom ?_ rfl ?_ ?_ rfl
  · rw [List.headD_eq_head?_getD, hentry, Option.getD_some]
  · rintro key hsome
    rw [hheard] at hsome
    cases hsome
    decide
  · rw [hheard]
    exact Player.press_submits hphase hmode

/-- The window has room for each of the views that come while the entries are read. -/
def Stage.CanShowTyping (stage : Stage) (p : Player) (entries : List ScriptEntry) : Prop :=
  ∀ before, before <+: entries →
    (stage.takingAll before).CanShow { p with inputBuffer := ScriptEntry.typed before }.view

/-- After as many ticks as there are entries, the answer is what the entries type. -/
theorem ticks_type {entries rest : List ScriptEntry} (hphase : p.phase = .waiting)
    (hmode : p.mode = .awaitingInput) (hbuffer : p.inputBuffer = [])
    (hstage : stage.refusals = []) (hscript : stage.script = entries ++ rest)
    (hentries : ∀ entry ∈ entries, entry.staysOpen) (hroom : stage.CanShowTyping p entries) :
    ∃ after, Ticks Stage.host ⟨p, stage⟩ entries.length
        ⟨{ p with inputBuffer := ScriptEntry.typed entries }, after⟩ ∧
      after.SameWindow (stage.takingAll entries) ∧ after.refusals = [] ∧ after.script = rest := by
  -- The last entry is taken off, since the last tick is the one that reads it.
  induction entries using List.reverseRecOn generalizing rest with
  | nil =>
    refine ⟨stage, ?_, ⟨rfl, rfl, rfl⟩, hstage, hscript⟩
    have hsame : { p with inputBuffer := ScriptEntry.typed [] } = p := by
      rw [← hbuffer.trans (show [] = ScriptEntry.typed [] from rfl)]
    rw [hsame]
    exact .none
  | append_singleton entries entry ih =>
    have hsplit : stage.script = entries ++ entry :: rest := by simpa using hscript
    obtain ⟨before, hticks, hwindow, hbefore, hleft⟩ := ih hsplit
      (fun other hother => hentries other (List.mem_append_left _ hother))
      fun first hfirst => hroom first (hfirst.trans (List.prefix_append _ _))
    have htick := tick_types (p := { p with inputBuffer := ScriptEntry.typed entries }) hphase hmode
      hbefore ((hwindow.canShow_iff _).mpr (hroom entries (List.prefix_append _ _)))
      (by rw [hleft]; rfl) (hentries entry (by simp))
    rw [List.length_append, ScriptEntry.typed_concat, Stage.takingAll_concat]
    exact ⟨_, .more hticks htick, hwindow.showing_taking _ entry, hbefore,
      congrArg List.tail hleft⟩

private theorem step_stores {label : Text} (hphase : p.phase = .committing)
    (hlabel : p.label = some label) :
    ∃ stored, step Stage.host ⟨p, stage⟩ = .ok () stored ∧
      stored.player.answers = p.answers.insert label p.inputBuffer := by
  have hstep : p.step 0.0 = .ok { p with
      answers := p.answers.insert label p.inputBuffer, inputBuffer := [], label := none,
      mode := .disabled, phase := .updating } := by
    rw [Player.step, Player.outcome_eq_ok_iff, Player.takeStep_of_committing hphase,
      Player.commitInput_of_label hphase hlabel]
  exact ⟨_, step_of_timeless (by simp [Player.readsClock, hphase]) hstep, rfl⟩

/-- What is typed is what is stored. While a question is open and nothing fails, each tick shows the
answer that the entries before it typed; when they are used up and an enter key comes, the next step
stores what all of them typed, and no other answer changes. -/
theorem ticks_store_what_is_typed {label : Text} {entries rest : List ScriptEntry}
    {submit : RawKey} (hphase : p.phase = .waiting) (hmode : p.mode = .awaitingInput)
    (hlabel : p.label = some label) (hbuffer : p.inputBuffer = []) (hstage : stage.refusals = [])
    (hscript : stage.script = entries ++ .key submit :: rest)
    (hentries : ∀ entry ∈ entries, entry.staysOpen) (hsubmit : submit ∈ RawKey.enterKeys)
    (hroom : stage.CanShowTyping p entries) :
    (∀ i ≤ entries.length, ∃ before after, Ticks Stage.host ⟨p, stage⟩ i before ∧
      tick Stage.host before = .ok true after ∧
      Stage.Shows ('>' :: ' ' :: ScriptEntry.typed (entries.take i)) before.world after.world) ∧
    ∃ last stored, Ticks Stage.host ⟨p, stage⟩ (entries.length + 1) last ∧
      step Stage.host last = .ok () stored ∧
      stored.player.answers.find? label = some (ScriptEntry.typed entries) ∧
      ∀ other ≠ label, stored.player.answers.find? other = p.answers.find? other := by
  obtain ⟨full, hfull, hwindow, hfullStage, hfullScript⟩ :=
    ticks_type hphase hmode hbuffer hstage hscript hentries hroom
  have hlast := tick_submits (p := { p with inputBuffer := ScriptEntry.typed entries }) hphase hmode
    hfullStage ((hwindow.canShow_iff _).mpr (hroom entries List.prefix_rfl))
    (by rw [hfullScript]; rfl) hsubmit
  refine ⟨fun i hi => ?_, ?_⟩
  · rcases Nat.lt_or_eq_of_le hi with hlt | rfl
    · -- The ticks up to this one have read the first entries and no more.
      have hsplit : stage.script =
          entries.take i ++ entries[i] :: (entries.drop (i + 1) ++ .key submit :: rest) := by
        rw [hscript, ← List.cons_append, ← List.drop_eq_getElem_cons hlt, ← List.append_assoc,
          List.take_append_drop]
      obtain ⟨before, hticks, hwindow, hbefore, hleft⟩ :=
        ticks_type hphase hmode hbuffer hstage hsplit
          (fun entry hentry => hentries entry (List.mem_of_mem_take hentry))
          fun first hfirst => hroom first (hfirst.trans (List.take_prefix i entries))
      have htick := tick_types
        (p := { p with inputBuffer := ScriptEntry.typed (entries.take i) }) hphase hmode hbefore
        ((hwindow.canShow_iff _).mpr (hroom _ (List.take_prefix i entries)))
        (by rw [hleft]; rfl) (hentries _ (List.getElem_mem hlt))
      rw [List.length_take_of_le hi] at hticks
      exact ⟨_, _, hticks, htick, Stage.shows_taking hmode before _⟩
    · rw [List.take_length]
      exact ⟨_, _, hfull, hlast, Stage.shows_taking hmode full _⟩
  · obtain ⟨stored, hstep, hanswers⟩ := step_stores
      (p := { p with inputBuffer := ScriptEntry.typed entries, phase := .committing }) rfl hlabel
    refine ⟨_, stored, .more hfull hlast, hstep, ?_, ?_⟩
    · rw [hanswers]
      exact OrderedMap.find?_insert_self _ _ _
    · intro other hother
      rw [hanswers]
      exact OrderedMap.find?_insert_of_ne _ _ hother

/-- A code is never the character of the same number, and a window that shrinks in the middle, the
mouse, a control character and a text of two characters type nothing. -/
theorem ticks_store_what_is_typed_of_mixed_keys :
    let p : Player := {
      upcoming := [], charDuration := 0.05, answers := ⟨[(['x'], ['1'])]⟩, phase := .waiting,
      mode := .awaitingInput, label := some ['n'] }
    let entries : List ScriptEntry := [
      .key (.typed ['a']), .nothing, .key (.code 98), .resize ⟨2, 7⟩, .key (.typed ['q']),
      .key .mouse, .key (.typed ['\x08']), .key (.typed ['\x1b']), .key (.typed ['b', 'c']),
      .failure (.terminal []), .key (.typed ['é']), .key .backspace, .key (.typed ['Z'])]
    let stage : Stage := {
      colours := true, surface := .grid fun _ => some 1, script := entries ++ [.key .enter] }
    (∃ before after, Ticks Stage.host ⟨p, stage⟩ 5 before ∧
      tick Stage.host before = .ok true after ∧
      Stage.Shows ['>', ' ', 'a', 'q'] before.world after.world) ∧
    ∃ last stored, Ticks Stage.host ⟨p, stage⟩ 14 last ∧ step Stage.host last = .ok () stored ∧
      stored.player.answers.find? ['n'] = some ['a', 'Z'] ∧
      stored.player.answers.find? ['x'] = some ['1'] := by
  intro p entries stage
  have hentries : ∀ entry ∈ entries, entry.staysOpen := by decide
  have hroom : stage.CanShowTyping p entries := by
    intro before hbefore
    rw [← List.mem_inits] at hbefore
    revert before
    decide +kernel
  have hfive : ScriptEntry.typed (entries.take 5) = ['a', 'q'] := by decide +kernel
  have hall : ScriptEntry.typed entries = ['a', 'Z'] := by decide +kernel
  obtain ⟨hshown, last, stored, hticks, hstep, hlabel, hothers⟩ :=
    ticks_store_what_is_typed (p := p) rfl rfl rfl rfl (show stage.refusals = [] from rfl)
      (show stage.script = entries ++ .key .enter :: [] from rfl) hentries (by decide)
      hroom
  have htick := hshown 5 (by decide)
  rw [hfive] at htick
  rw [hall] at hlabel
  exact ⟨htick, last, stored, hticks, hstep, hlabel, hothers ['x'] (by decide)⟩

end StoryPlayer
