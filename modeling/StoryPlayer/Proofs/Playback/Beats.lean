import StoryPlayer.Playback.Rehearsal
import StoryPlayer.Proofs.Playback.Rounds

/-!
# Beats of a playback

The calls that a playback makes have the form of a rhythm. Each round that goes on is a beat: one
view is shown, one key is polled, and what is left of the tick is slept away. The last tick makes no
call at all if its step exhausts the story; otherwise it shows a view and polls the quit key.
-/

namespace StoryPlayer

namespace Player

def taking (key : Option Key) (p : Player) : Player :=
  match key with
  | some key => p.after (.press key)
  | none => p

variable {p p' : Player} {now : Float}

theorem move_of_step (h : p.step now = .ok p') : Move p (.step now) p' := move_of_apply h

/-- A step never leaves an answer to be stored. -/
private theorem step_ne_committing (h : p.step now = .ok p') : p'.phase ≠ .committing := by
  have hmove := move_of_step h
  cases hmove with
  | reveals hphase => simp [hphase]
  | waits hphase => simp [hphase]
  | isOver hphase => simp [hphase]
  | quits hop => cases hop
  | _ => simp

/-- A step finishes a player only if nothing but clearings is left to play. -/
theorem exhausted_of_step (h : p.step now = .ok p') (hlive : p.phase ≠ .finished)
    (hover : p'.phase = .finished) :
    p.phase = .updating ∧ (∀ e ∈ p.upcoming, e = .clear) ∧ p'.upcoming = [] := by
  have hmove := move_of_step h
  cases hmove with
  | ends hphase hclears => exact ⟨hphase, hclears, rfl⟩
  | quits hop => cases hop
  | waits => exact absurd hover hlive
  | isOver hphase => exact absurd hphase hlive
  | reveals hphase => exact absurd hover hlive
  | _ => cases hover

/-- Only the quit key finishes a player. -/
private theorem quit_of_taking {key : Option Key} (hlive : p.phase ≠ .finished)
    (hover : (p.taking key).phase = .finished) : ∃ quit, key = some quit ∧ quit.kind = .quit := by
  cases key with
  | none => exact absurd hover hlive
  | some key =>
    refine ⟨key, rfl, ?_⟩
    rw [taking] at hover
    obtain hsame | hmove := p.after_eq_or_move (.press key)
    · rw [hsame] at hover
      exact absurd hover hlive
    · generalize p.after (.press key) = p' at hmove hover
      cases hmove with
      | quits hop => simpa [Operation.isQuit] using hop
      | types hphase => exact absurd hover hlive
      | ignores => exact absurd hover hlive
      | isOver hphase => exact absurd hphase hlive
      | submits => cases hover
      | resumes => cases hover

end Player

/-- The calls of a tick after which playback goes on. -/
structure Beat where
  view : View
  key : Option Key
  /-- How long is slept, if at all. -/
  padding : Option Float

def Beat.calls (beat : Beat) : List Call :=
  .render beat.view :: .poll beat.key :: beat.padding.toList.map .sleep

def Cue.giving : Option Key → Cue
  | some pressed => .key pressed
  | none => .nothing

theorem Cue.eq_some_of_giving {key : Option Key} {pressed : Key} (h : giving key = .key pressed) :
    key = some pressed := by
  cases key with
  | none => cases h
  | some other =>
    cases h
    rfl

namespace Call

def isRender : Call → Bool
  | render _ => true
  | poll _ | pollFailed | sleep _ => false

def isPoll : Call → Bool
  | poll _ | pollFailed => true
  | render _ | sleep _ => false

end Call

/-- If there is one call of a kind in each beat, there are as many as there are beats. -/
theorem countP_beats {kind : Call → Bool} (hbeat : ∀ beat : Beat, beat.calls.countP kind = 1)
    (beats : List Beat) : (beats.flatMap Beat.calls).countP kind = beats.length := by
  induction beats with
  | nil => rfl
  | cons beat beats ih =>
    rw [List.flatMap_cons, List.countP_append, hbeat, ih, List.length_cons, Nat.add_comm]

theorem countP_isRender (beat : Beat) : beat.calls.countP Call.isRender = 1 := by
  obtain ⟨view, key, padding⟩ := beat
  cases padding with
  | none => rfl
  | some seconds => rfl

theorem countP_isPoll (beat : Beat) : beat.calls.countP Call.isPoll = 1 := by
  obtain ⟨view, key, padding⟩ := beat
  cases padding with
  | none => rfl
  | some seconds => rfl

namespace Rehearsal

open Run

variable {τ : Type} {timing : Timing τ} {interval : Float} {r r' r'' : Rehearsal τ}
  {run shown polled next last : Run (Rehearsal τ)} {key : Option Key}

/-- Nothing was called in between: at most the clock moved and notes were written. -/
def Idles (r r' : Rehearsal τ) : Prop := ∃ clock notesBack, r' = { r with clock, notesBack }

theorem Idles.refl (r : Rehearsal τ) : r.Idles r := ⟨r.clock, r.notesBack, rfl⟩

theorem Idles.trans (h : r.Idles r') (h' : r'.Idles r'') : r.Idles r'' := by
  obtain ⟨clock, notesBack, rfl⟩ := h
  obtain ⟨clock', notesBack', rfl⟩ := h'
  exact ⟨clock', notesBack', rfl⟩

theorem Idles.calls (h : r.Idles r') : r'.calls = r.calls := by
  obtain ⟨clock, notesBack, rfl⟩ := h
  rfl

theorem Idles.goodRenders (h : r.Idles r') : r'.goodRenders = r.goodRenders := by
  obtain ⟨clock, notesBack, rfl⟩ := h
  rfl

theorem Idles.renderFailure (h : r.Idles r') : r'.renderFailure = r.renderFailure := by
  obtain ⟨clock, notesBack, rfl⟩ := h
  rfl

theorem Idles.cue (h : r.Idles r') : r'.cues.headD r'.atEnd = r.cues.headD r.atEnd := by
  obtain ⟨clock, notesBack, rfl⟩ := h
  rfl

private theorem idles_now (timing : Timing τ) (r : Rehearsal τ) : r.Idles ((host timing).now r).2 :=
  ⟨_, _, rfl⟩

private theorem idles_noted (timing : Timing τ) (notes : List Note) (r : Rehearsal τ) :
    r.Idles (noted (host timing) notes r) := by
  induction notes generalizing r with
  | nil => exact .refl r
  | cons note notes ih =>
    have hnote : r.Idles ((host timing).note note r) := ⟨_, _, rfl⟩
    exact hnote.trans (ih _)

theorem calls_noted (timing : Timing τ) (notes : List Note) (r : Rehearsal τ) :
    (noted (host timing) notes r).calls = r.calls :=
  (idles_noted timing notes r).calls

private theorem idles_reading (timing : Timing τ) (run : Run (Rehearsal τ)) :
    run.world.Idles (run.reading (host timing)).2 := by
  have hnoted := idles_noted timing run.player.stepNotes run.world
  rw [reading]
  split
  · exact hnoted.trans (idles_now timing _)
  · exact hnoted

private theorem idles_timed_reading (timing : Timing τ) (run : Run (Rehearsal τ)) :
    run.world.Idles ((run.timed (host timing)).reading (host timing)).2 :=
  (idles_now timing run.world).trans (idles_reading timing (run.timed (host timing)))

/-- What the step of a tick does: it moves the player and makes no call. -/
theorem step_timed (h : step (host timing) (run.timed (host timing)) = .ok () shown) :
    (∃ now, run.player.step now = .ok shown.player) ∧ run.world.Idles shown.world := by
  rw [step_eq] at h
  split at h
  · rename_i p hstep
    cases h
    exact ⟨⟨_, hstep⟩, idles_timed_reading timing run⟩
  · cases h

/-- A step that fails makes no call either. -/
theorem step_timed_error {failure : Failure}
    (h : step (host timing) (run.timed (host timing)) = .error failure last) :
    (∃ error, failure = .step error) ∧ run.world.Idles last.world := by
  rw [step_eq] at h
  split at h
  · cases h
  · rename_i error hstep
    cases h
    exact ⟨⟨error, rfl⟩, idles_timed_reading timing run⟩

theorem calls_of_step (h : step (host timing) (run.timed (host timing)) = .ok () shown) :
    shown.world.calls = run.world.calls :=
  (step_timed h).2.calls

/-- The rehearsal after a view was shown and a poll gave a key or nothing. -/
def heard (timing : Timing τ) (view : View) (key : Option Key) (r : Rehearsal τ) : Rehearsal τ :=
  { r with
    clock := timing.polled (timing.rendered r.clock), cues := r.cues.tail,
    goodRenders := r.goodRenders.map Nat.pred,
    callsBack := .poll key :: .render view :: r.callsBack }

/-- The run after the player was shown and got what the poll gave. -/
def hearing (timing : Timing τ) (key : Option Key) (shown : Run (Rehearsal τ)) :
    Run (Rehearsal τ) :=
  ⟨shown.player.taking key,
    noted (host timing) (key.toList.flatMap shown.player.pressNotes)
      (shown.world.heard timing shown.player.view key)⟩

def rendered (timing : Timing τ) (view : View) (r : Rehearsal τ) : Rehearsal τ :=
  { r with
    callsBack := .render view :: r.callsBack, goodRenders := r.goodRenders.map Nat.pred,
    clock := timing.rendered r.clock }

theorem render_of_good (timing : Timing τ) (hgood : r.goodRenders ≠ some 0) (view : View) :
    (host timing).render view r = .ok () (r.rendered timing view) := by
  change render timing view r = _
  rw [render, rendered]
  match h : r.goodRenders with
  | none => rfl
  | some 0 => exact absurd h hgood
  | some (n + 1) => rfl

theorem render_of_refused (timing : Timing τ) (h : r.goodRenders = some 0) (view : View) :
    (host timing).render view r = .error r.renderFailure (r.record (.render view)) := by
  change render timing view r = _
  rw [render, h]

theorem poll_of_cue (timing : Timing τ) {cue : Cue} (h : r.cues.headD r.atEnd = cue) :
    (host timing).poll r =
      follow { r with clock := timing.polled r.clock, cues := r.cues.tail } cue := by
  change poll timing r = _
  rw [poll, h]

theorem exists_poll_of_cue (h : r.cues.headD r.atEnd = .giving key) :
    ∃ polled, (host timing).poll r = .ok key polled := by
  rw [poll_of_cue timing h]
  cases key with
  | none => exact ⟨_, rfl⟩
  | some key => exact ⟨_, rfl⟩

theorem showAndPoll_of_cue (hgood : shown.world.goodRenders ≠ some 0)
    (hcue : shown.world.cues.headD shown.world.atEnd = .giving key) :
    showAndPoll (host timing) shown = .ok () (hearing timing key shown) := by
  have hrender := render_of_good timing hgood shown.player.view
  have hpoll := poll_of_cue timing
    (r := shown.world.rendered timing shown.player.view) hcue
  cases key with
  | none => exact showAndPoll_of_none hrender hpoll
  | some key =>
    rw [showAndPoll_of_some hrender hpoll, press_of_ok (Player.press_eq_ok key _), hearing,
      Option.toList_some, List.flatMap_singleton]
    rfl

theorem exists_of_showAndPoll (h : showAndPoll (host timing) shown = .ok () polled) :
    shown.world.goodRenders ≠ some 0 ∧ ∃ key,
      shown.world.cues.headD shown.world.atEnd = .giving key ∧ polled = hearing timing key shown := by
  have hgood : shown.world.goodRenders ≠ some 0 := by
    intro hrefused
    rw [showAndPoll_of_render_error (render_of_refused timing hrefused _)] at h
    cases h
  have hrender := render_of_good timing hgood shown.player.view
  have hpoll := poll_of_cue timing
    (r := shown.world.rendered timing shown.player.view) rfl
  obtain ⟨key, hcue⟩ : ∃ key, shown.world.cues.headD shown.world.atEnd = .giving key := by
    change _ = follow _ (shown.world.cues.headD shown.world.atEnd) at hpoll
    cases hcue : shown.world.cues.headD shown.world.atEnd with
    | nothing => exact ⟨none, rfl⟩
    | key pressed => exact ⟨some pressed, rfl⟩
    | unknownKey kind =>
      rw [hcue] at hpoll
      rw [showAndPoll_of_poll_error hrender hpoll] at h
      cases h
    | failure failure =>
      rw [hcue] at hpoll
      rw [showAndPoll_of_poll_error hrender hpoll] at h
      cases h
  rw [showAndPoll_of_cue hgood hcue] at h
  cases h
  exact ⟨hgood, key, hcue, rfl⟩

/-- What is slept in a tick that is padded. -/
theorem exists_padded (timing : Timing τ) (interval started : Float) (run : Run (Rehearsal τ)) :
    ∃ (padding : Option Float) (clock : τ),
      (∀ seconds ∈ padding, 0.0 < interval ∧ 0.0 < seconds) ∧
      run.padded (host timing) interval started =
        ⟨run.player, { run.world with
          clock, callsBack := padding.toList.map .sleep ++ run.world.callsBack }⟩ := by
  rw [padded]
  split
  · rename_i hinterval
    dsimp only
    split
    · rename_i hremaining
      refine ⟨some _, _, ?_, rfl⟩
      intro seconds hseconds
      cases hseconds
      exact ⟨hinterval, hremaining⟩
    · exact ⟨none, _, by simp, rfl⟩
  · exact ⟨none, _, by simp, rfl⟩

/-- Where a rehearsal stands after so many views were shown and keys polled. -/
structure Advances (n : Nat) (r r' : Rehearsal τ) : Prop where
  cues : r'.cues = r.cues.drop n
  atEnd : r'.atEnd = r.atEnd
  goodRenders : r'.goodRenders = r.goodRenders.map (· - n)
  renderFailure : r'.renderFailure = r.renderFailure

theorem Advances.refl (r : Rehearsal τ) : Advances 0 r r := ⟨rfl, rfl, by simp, rfl⟩

theorem Advances.trans {m n : Nat} (h : Advances m r r') (h' : Advances n r' r'') :
    Advances (m + n) r r'' where
  cues := by rw [h'.cues, h.cues, List.drop_drop]
  atEnd := h'.atEnd.trans h.atEnd
  goodRenders := by
    rw [h'.goodRenders, h.goodRenders, Option.map_map]
    congr 1
    funext renders
    exact Nat.sub_sub renders m n
  renderFailure := h'.renderFailure.trans h.renderFailure

/-- What a tick after which playback goes on leaves in a rehearsal. -/
structure Plays (beat : Beat) (r r' : Rehearsal τ) : Prop extends Advances 1 r r' where
  calls : r'.calls = r.calls ++ beat.calls

private theorem plays_hearing (timing : Timing τ) (key : Option Key) (hidle : r.Idles shown.world) :
    Plays ⟨shown.player.view, key, none⟩ r (hearing timing key shown).world := by
  obtain ⟨clock, notesBack, hnoted⟩ := idles_noted timing
    (key.toList.flatMap shown.player.pressNotes) (shown.world.heard timing shown.player.view key)
  obtain ⟨clock', notesBack', hshown⟩ := hidle
  rw [hearing, hnoted, hshown]
  exact ⟨⟨by simp [heard], rfl, rfl, rfl⟩, by simp [calls, heard, Beat.calls]⟩

theorem Plays.padded {view : View} {padding : Option Float} {clock : τ}
    (h : Plays ⟨view, key, none⟩ r r') :
    Plays ⟨view, key, padding⟩ r
      { r' with clock, callsBack := padding.toList.map .sleep ++ r'.callsBack } := by
  refine ⟨⟨h.cues, h.atEnd, h.goodRenders, h.renderFailure⟩, ?_⟩
  have hcalls : r'.callsBack.reverse = r.calls ++ [.render view, .poll key] := h.calls
  cases padding with
  | none => exact hcalls
  | some seconds => simp [Rehearsal.calls, Beat.calls, hcalls]

/-- A round after which playback goes on, taken apart: `shown` is the run as the step left it. -/
structure Beats (timing : Timing τ) (interval : Float) (run shown next : Run (Rehearsal τ))
    (beat : Beat) : Prop where
  step : Run.step (host timing) (run.timed (host timing)) = .ok () shown
  live : shown.player.finished = false
  view : beat.view = shown.player.view
  player : next.player = shown.player.taking beat.key
  goesOn : next.player.finished = false
  padding : ∀ seconds ∈ beat.padding, 0.0 < interval ∧ 0.0 < seconds
  good : run.world.goodRenders ≠ some 0
  cue : run.world.cues.headD run.world.atEnd = .giving beat.key
  world : Plays beat run.world next.world

theorem exists_beat (h : round (host timing) interval run = .ok true next) :
    ∃ shown beat, Beats timing interval run shown next beat := by
  have houtcome := round_outcome (host timing) interval run
  rw [h] at houtcome
  cases houtcome with
  | @goesOn shown polled hstep hlive hshow hlive' =>
    obtain ⟨-, hidle⟩ := step_timed hstep
    obtain ⟨hgood, key, hcue, rfl⟩ := exists_of_showAndPoll hshow
    obtain ⟨padding, clock, hpositive, hpadded⟩ := exists_padded timing interval
      ((host timing).now run.world).1 (hearing timing key shown)
    have hplays : Plays ⟨shown.player.view, key, none⟩ run.world (hearing timing key shown).world :=
      plays_hearing timing key hidle
    rw [hidle.goodRenders] at hgood
    rw [hidle.cue] at hcue
    rw [hpadded]
    exact ⟨shown, ⟨shown.player.view, key, padding⟩, hstep, hlive, rfl, rfl, hlive', hpositive,
      hgood, hcue, hplays.padded⟩

/-- The calls of the tick that ends a playback and leaves this player: none if its step exhausts the
story, and else a view that is shown and the quit key that is polled. -/
inductive LastCalls (timing : Timing τ) (run : Run (Rehearsal τ)) (ended : Player) :
    List Call → Prop
  | exhausts {world : Rehearsal τ}
      (hstep : step (host timing) (run.timed (host timing)) = .ok () ⟨ended, world⟩)
      (hphase : run.player.phase = .updating) (hclears : ∀ e ∈ run.player.upcoming, e = .clear)
      (hleft : ended.upcoming = []) (hover : ended.finished = true) :
      LastCalls timing run ended []
  | quits {shown : Run (Rehearsal τ)} {quit : Key}
      (hstep : step (host timing) (run.timed (host timing)) = .ok () shown)
      (hlive : shown.player.finished = false)
      (hcue : run.world.cues.headD run.world.atEnd = .giving (some quit))
      (hkey : quit.kind = .quit) (hplayer : ended = shown.player.after (.press quit)) :
      LastCalls timing run ended [.render shown.player.view, .poll (some quit)]

theorem exists_lastCalls (h : round (host timing) interval run = .ok false last)
    (hlive : run.player.finished = false) :
    ∃ calls, LastCalls timing run last.player calls ∧
      last.world.calls = run.world.calls ++ calls := by
  have houtcome := round_outcome (host timing) interval run
  rw [h] at houtcome
  cases houtcome with
  | ends hstep hover =>
    obtain ⟨⟨now, hmoved⟩, hidle⟩ := step_timed hstep
    obtain ⟨hphase, hclears, hleft⟩ := Player.exhausted_of_step hmoved
      (by simpa [Player.finished] using hlive) (by simpa [Player.finished] using hover)
    exact ⟨[], .exhausts hstep hphase hclears hleft hover, by simp [hidle.calls]⟩
  | @quits shown _ hstep hlive' hshow hover =>
    obtain ⟨-, hidle⟩ := step_timed hstep
    obtain ⟨-, key, hcue, rfl⟩ := exists_of_showAndPoll hshow
    have hquit : (shown.player.taking key).finished = true := hover
    obtain ⟨quit, rfl, hkey⟩ := Player.quit_of_taking (by simpa [Player.finished] using hlive')
      (by simpa [Player.finished] using hquit)
    have hcalls := (plays_hearing timing (some quit) hidle).calls
    rw [hidle.cue] at hcue
    exact ⟨_, .quits hstep hlive' hcue hkey rfl, hcalls⟩

variable {start : Run (Rehearsal τ)} {n : Nat}

theorem live_of_rounds (h : Rounds (host timing) interval start n run)
    (hlive : start.player.finished = false) : run.player.finished = false := by
  cases h with
  | none => exact hlive
  | more hrounds hround =>
    obtain ⟨shown, beat, hbeat⟩ := exists_beat hround
    exact hbeat.goesOn

theorem advances_of_rounds (h : Rounds (host timing) interval start n run) :
    Advances n start.world run.world := by
  induction h with
  | none => exact .refl _
  | more hrounds hround ih =>
    obtain ⟨shown, beat, hbeat⟩ := exists_beat hround
    exact ih.trans hbeat.world.toAdvances

/-- A screen that never fails stays one. -/
theorem goodRenders_of_rounds (h : Rounds (host timing) interval start n run)
    (hsound : start.world.goodRenders = none) : run.world.goodRenders = none := by
  rw [(advances_of_rounds h).goodRenders, hsound, Option.map_none]

/-- What the polls give, counted from zero. -/
def cueAt (r : Rehearsal τ) (i : Nat) : Cue := r.cues.getD i r.atEnd

private theorem headD_eq_cueAt (r : Rehearsal τ) : r.cues.headD r.atEnd = r.cueAt 0 := by
  rw [cueAt]
  cases r.cues with
  | nil => rfl
  | cons cue cues => rfl

theorem cue_of_rounds (h : Rounds (host timing) interval start n run) :
    run.world.cues.headD run.world.atEnd = start.world.cueAt n := by
  have hadvances := advances_of_rounds h
  rw [headD_eq_cueAt, cueAt, cueAt, hadvances.cues, hadvances.atEnd]
  simp [List.getD_eq_getElem?_getD]

/-- The beat of the tick that comes after so many rounds. -/
def BeatAt (timing : Timing τ) (interval : Float) (start : Run (Rehearsal τ)) (n : Nat)
    (beat : Beat) : Prop :=
  ∃ run shown next, Rounds (host timing) interval start n run ∧
    Rounds (host timing) interval start (n + 1) next ∧ Beats timing interval run shown next beat

/-- So many rounds make as many beats. -/
theorem exists_beats (h : Rounds (host timing) interval start n run) :
    ∃ beats : List Beat, beats.length = n ∧
      run.world.calls = start.world.calls ++ beats.flatMap Beat.calls ∧
      ∀ i beat, beats[i]? = some beat → BeatAt timing interval start i beat := by
  induction h with
  | none => exact ⟨[], rfl, by simp, by simp⟩
  | @more n run next hrounds hround ih =>
    obtain ⟨beats, hlength, hcalls, hbeats⟩ := ih
    obtain ⟨shown, beat, hbeat⟩ := exists_beat hround
    refine ⟨beats ++ [beat], by simp [hlength], ?_, ?_⟩
    · rw [hbeat.world.calls, hcalls]
      simp
    · intro i other hother
      rcases Nat.lt_or_ge i n with hi | hi
      · rw [List.getElem?_append_left (by omega)] at hother
        exact hbeats i other hother
      · obtain ⟨hlt, -⟩ := List.getElem?_eq_some_iff.mp hother
        obtain rfl : i = n := by
          simp only [List.length_append, List.length_singleton] at hlt
          omega
        rw [List.getElem?_append_right (by omega), hlength, Nat.sub_self] at hother
        cases hother
        exact ⟨run, shown, next, hrounds, .more hrounds hround, hbeat⟩

/-- The calls of a playback that a round ends. -/
theorem exists_calls (hrounds : Rounds (host timing) interval start n run)
    (hround : round (host timing) interval run = .ok false last)
    (hlive : start.player.finished = false) (notes : List Note) :
    ∃ (beats : List Beat) (lastCalls : List Call), beats.length = n ∧
      (∀ i beat, beats[i]? = some beat → BeatAt timing interval start i beat) ∧
      LastCalls timing run last.player lastCalls ∧
      (noted (host timing) notes last.world).calls =
        start.world.calls ++ (beats.flatMap Beat.calls ++ lastCalls) := by
  obtain ⟨beats, hlength, hcalls, hbeats⟩ := exists_beats hrounds
  obtain ⟨lastCalls, hlast, hlastCalls⟩ := exists_lastCalls hround (live_of_rounds hrounds hlive)
  refine ⟨beats, lastCalls, hlength, hbeats, hlast, ?_⟩
  rw [calls_noted, hlastCalls, hcalls, List.append_assoc]

theorem finished_of_new {story : Story} {charDuration : Float} {answers : Answers} {p : Player}
    (h : Player.new story charDuration answers = .ok p) : p.finished = false := by
  rw [Player.eq_of_new h]
  rfl

/-- A view shows what there is of a player, and the text that is being revealed just while there is
one. -/
structure IsViewOf (p : Player) (view : View) : Prop where
  phase : view.phase = p.phase
  mode : view.mode = p.mode
  inputBuffer : view.inputBuffer = p.inputBuffer
  outputLog : view.outputLog = p.output
  revealing : ∀ text, view.revealing = some text ↔ p.phase = .revealing ∧ text = p.revealedText

private theorem isViewOf_view (p : Player) : IsViewOf p p.view where
  phase := rfl
  mode := rfl
  inputBuffer := rfl
  outputLog := rfl
  revealing text := by
    by_cases hphase : p.phase = .revealing
    · simp [Player.view, hphase, eq_comm]
    · simp [Player.view, hphase]

/-- A view of a player that is still playing, taken right after the step of a tick. -/
def ShownAfterStep (timing : Timing τ) (interval : Float) (start : Run (Rehearsal τ))
    (view : View) : Prop :=
  ∃ n run shown, Rounds (host timing) interval start n run ∧
    step (host timing) (run.timed (host timing)) = .ok () shown ∧ IsViewOf shown.player view ∧
    shown.player.phase ≠ .finished ∧ shown.player.phase ≠ .committing

private theorem shownAfterStep_view (hrounds : Rounds (host timing) interval start n run)
    (hstep : step (host timing) (run.timed (host timing)) = .ok () shown)
    (hlive : shown.player.finished = false) :
    ShownAfterStep timing interval start shown.player.view := by
  obtain ⟨⟨now, hmoved⟩, -⟩ := step_timed hstep
  exact ⟨n, run, shown, hrounds, hstep, isViewOf_view _, by simpa [Player.finished] using hlive,
    Player.step_ne_committing hmoved⟩

private theorem shownAfterStep_of_beat {beat : Beat} {view : View}
    (hbeat : BeatAt timing interval start n beat) (hview : .render view ∈ beat.calls) :
    ShownAfterStep timing interval start view := by
  obtain ⟨run, shown, next, hrounds, -, hbeats⟩ := hbeat
  obtain rfl : view = beat.view := by simpa [Beat.calls] using hview
  rw [hbeats.view]
  exact shownAfterStep_view hrounds hbeats.step hbeats.live

theorem LastCalls.shownAfterStep {ended : Player} {calls : List Call} {view : View}
    (hrounds : Rounds (host timing) interval start n run) (h : LastCalls timing run ended calls)
    (hview : .render view ∈ calls) : ShownAfterStep timing interval start view := by
  cases h with
  | exhausts => cases hview
  | @quits shown quit hstep hlive =>
    obtain rfl : view = shown.player.view := by simpa using hview
    exact shownAfterStep_view hrounds hstep hlive

/-- The calls of a playback that returns are those of its beats, one for each tick but the last, and
then those of the last tick. In each of them the view is the player's after the step of the tick
and before its key. -/
theorem play_makes_beats {story : Story} {charDuration : Float} {answers : Answers} {p : Player}
    (hnew : Player.new story charDuration answers = .ok p) {limit ticks : Nat}
    {final : Run (Rehearsal τ)}
    (hplay : play (host timing) interval limit 0 ⟨p, r⟩ = .ok (some ticks) final) :
    ∃ (beats : List Beat) (lastCalls : List Call),
      final.world.calls = r.calls ++ (beats.flatMap Beat.calls ++ lastCalls) ∧
      ticks = beats.length + 1 ∧
      (∀ i beat, beats[i]? = some beat → BeatAt timing interval ⟨p, r⟩ i beat) ∧
      (∃ run, Rounds (host timing) interval ⟨p, r⟩ beats.length run ∧
        LastCalls timing run final.player lastCalls) ∧
      ∀ view, .render view ∈ beats.flatMap Beat.calls ++ lastCalls →
        ShownAfterStep timing interval ⟨p, r⟩ view := by
  have houtcome := play_outcome (host timing) interval limit ⟨p, r⟩
  rw [hplay] at houtcome
  cases houtcome with
  | @returns n run last hn hrounds hround =>
    obtain ⟨beats, lastCalls, rfl, hbeats, hlast, hcalls⟩ :=
      exists_calls hrounds hround (finished_of_new hnew) [.playbackEnded (n + 1)]
    refine ⟨beats, lastCalls, hcalls, rfl, hbeats, ⟨run, hrounds, hlast⟩, ?_⟩
    intro view hview
    rcases List.mem_append.mp hview with hview | hview
    · obtain ⟨beat, hmem, hview⟩ := List.mem_flatMap.mp hview
      obtain ⟨i, hi⟩ := List.getElem?_of_mem hmem
      exact shownAfterStep_of_beat (hbeats i beat hi) hview
    · exact LastCalls.shownAfterStep hrounds hlast hview

/-- A text, a clearing and a question, in ticks of which some are slept away in part. -/
theorem play_makes_beats_of_quit :
    let r : Rehearsal SteppedClock := {
      clock := { renderCost := 0.5 },
      cues := [.nothing, .key .enter, .nothing, .key (.ofChar 'a'), .key .quit] }
    ∃ p final, Player.new [.text ['H', 'i'], .clear, .input ['n']] 0.5 ⟨[]⟩ = .ok p ∧
      play (host SteppedClock.timing) 0.75 9 0 ⟨p, r⟩ = .ok (some 5) final ∧
      ∃ (beats : List Beat) (lastCalls : List Call),
        final.world.calls = beats.flatMap Beat.calls ++ lastCalls ∧ beats.length = 4 ∧
        ∀ view, .render view ∈ beats.flatMap Beat.calls ++ lastCalls →
          ShownAfterStep SteppedClock.timing 0.75 ⟨p, r⟩ view := by
  intro r
  have hnew : Player.new [.text ['H', 'i'], .clear, .input ['n']] 0.5 ⟨[]⟩ =
      .ok { upcoming := [.text ['H', 'i'], .clear, .input ['n']], charDuration := 0.5,
            answers := ⟨[]⟩ } := by
    rw [Player.new, if_neg (by decide)]
  have hticks : ticks? (play (host SteppedClock.timing) 0.75 9 0
      ⟨{ upcoming := [.text ['H', 'i'], .clear, .input ['n']], charDuration := 0.5,
         answers := ⟨[]⟩ }, r⟩) = some 5 := by decide +kernel
  obtain ⟨final, hplay⟩ := exists_of_ticks? hticks
  obtain ⟨beats, lastCalls, hcalls, hticks, -, -, hviews⟩ := play_makes_beats hnew hplay
  exact ⟨_, final, hnew, hplay, beats, lastCalls, hcalls, by omega, hviews⟩

end Rehearsal
end StoryPlayer
