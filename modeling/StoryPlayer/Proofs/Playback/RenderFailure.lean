import StoryPlayer.Proofs.Playback.Agreement
import StoryPlayer.Proofs.Playback.Beats

/-!
# A render that fails

A playback whose screen fails at some render is, up to that render, the playback on a screen that
never fails. At the failure nothing is half done: the player stands as its step left it, and the key
that would have been polled next is still to come.
-/

namespace StoryPlayer
namespace Rehearsal

open Run

variable {τ : Type} {timing : Timing τ} {interval : Float} {r r' : Rehearsal τ}
  {run run' shown shown' last final : Run (Rehearsal τ)} {p : Player} {m n : Nat}

/-- The same rehearsal on a screen that never fails. -/
def sound (r : Rehearsal τ) : Rehearsal τ := { r with goodRenders := none }

/-- The first rehearsal is the second on a screen that never fails. -/
def IsSound (r r' : Rehearsal τ) : Prop := r = r'.sound

private theorem respects_isSound (timing : Timing τ) : (host timing).Respects IsSound where
  time := by
    rintro w w' rfl
    rfl
  now := by
    rintro w w' rfl
    rfl
  sleep := by
    rintro w w' seconds rfl
    rfl
  note := by
    rintro w w' note rfl
    rfl

private theorem showAndPoll_isSound (h : Agree IsSound shown shown')
    (hgood : shown'.world.goodRenders ≠ some 0) :
    SameResult (Agree IsSound) (showAndPoll (host timing) shown)
      (showAndPoll (host timing) shown') := by
  have hworld : shown.world = shown'.world.sound := h.world
  apply showAndPoll_agree (respects_isSound timing) h
  · rw [hworld, render_of_good timing (by simp [sound]), render_of_good timing hgood]
    exact .ok () rfl
  · rintro w w' - - rfl
    rw [poll_of_cue timing rfl, poll_of_cue timing rfl]
    apply follow_agree
    · rintro r r' call rfl
      rfl
    · rfl

/-- A round does not notice a screen that may fail, unless it shows a view at which it fails. -/
theorem round_isSound (h : Agree IsSound run run')
    (hgood : ∀ shown, step (host timing) (run.timed (host timing)) = .ok () shown →
      shown.player.finished = false → run'.world.goodRenders ≠ some 0) :
    SameResult (Agree IsSound) (round (host timing) interval run)
      (round (host timing) interval run') := by
  apply round_agree (respects_isSound timing) h
  intro shown shown' hstep hlive hstep' hagree
  apply showAndPoll_isSound hagree
  rw [(step_timed hstep').2.goodRenders]
  exact hgood shown hstep hlive

/-- The playback on the screen that fails goes on as long as its screen does not fail. -/
theorem exists_rounds_of_isSound (hrenders : r.goodRenders = some m) (hn : n ≤ m)
    (h : Rounds (host timing) interval ⟨p, r.sound⟩ n run) :
    ∃ run', Rounds (host timing) interval ⟨p, r⟩ n run' ∧ Agree IsSound run run' ∧
      run'.world.goodRenders = some (m - n) ∧ run'.world.renderFailure = r.renderFailure := by
  have hleft : ∀ {k run'}, Rounds (host timing) interval ⟨p, r⟩ k run' →
      run'.world.goodRenders = some (m - k) := by
    intro k run' hrounds
    rw [(advances_of_rounds hrounds).goodRenders, hrenders, Option.map_some]
  obtain ⟨run', hrounds, hagree⟩ : ∃ run', Rounds (host timing) interval ⟨p, r⟩ n run' ∧
      Agree IsSound run run' := by
    have hstart : Agree IsSound ⟨p, r.sound⟩ ⟨p, r⟩ := ⟨rfl, rfl⟩
    apply h.transfer hstart
    intro k run run' hk _ hrounds' hagree
    apply round_isSound hagree
    intro shown _ _
    rw [hleft hrounds']
    simp only [ne_eq, Option.some.injEq]
    omega
  exact ⟨run', hrounds, hagree, hleft hrounds, (advances_of_rounds hrounds).renderFailure⟩

variable {start : Run (Rehearsal τ)} {before trace : List Call} {key : Option Key}

/-- In the tick after so many rounds a view is shown and then a key polled; `before` are the calls
that were made until then. -/
structure PollsAt (timing : Timing τ) (interval : Float) (start : Run (Rehearsal τ)) (n : Nat)
    (run shown : Run (Rehearsal τ)) (key : Option Key) (before : List Call) : Prop where
  rounds : Rounds (host timing) interval start n run
  step : Run.step (host timing) (run.timed (host timing)) = .ok () shown
  live : shown.player.finished = false
  cue : run.world.cues.headD run.world.atEnd = .giving key
  calls : run.world.calls = start.world.calls ++ before
  renders : before.countP Call.isRender = n

private theorem exists_pollsAt (hrounds : Rounds (host timing) interval start n run)
    (hstep : Run.step (host timing) (run.timed (host timing)) = .ok () shown)
    (hlive : shown.player.finished = false)
    (hcue : run.world.cues.headD run.world.atEnd = .giving key) :
    ∃ before, PollsAt timing interval start n run shown key before := by
  obtain ⟨beats, hlength, hcalls, -⟩ := exists_beats hrounds
  have hcount := countP_beats countP_isRender beats
  exact ⟨beats.flatMap Beat.calls, hrounds, hstep, hlive, hcue, hcalls, hcount.trans hlength⟩

/-- Where a playback that returns makes its renders. -/
private theorem exists_pollsAt_of_renders (hrounds : Rounds (host timing) interval start n run)
    (hround : round (host timing) interval run = .ok false last)
    (hlive : start.player.finished = false) {notes : List Note}
    (htrace : (noted (host timing) notes last.world).calls = start.world.calls ++ trace)
    (hm : m < trace.countP Call.isRender) :
    m ≤ n ∧ ∃ middle shown key before rest, PollsAt timing interval start m middle shown key before ∧
      trace = before ++ .render shown.player.view :: .poll key :: rest := by
  obtain ⟨lastCalls, hlast, hlastCalls⟩ := exists_lastCalls hround (live_of_rounds hrounds hlive)
  rw [calls_noted, hlastCalls] at htrace
  rcases Nat.lt_or_ge m n with hmn | hmn
  · -- The render is that of a beat, with rounds behind it.
    obtain ⟨k, rfl⟩ : ∃ k, n = m + 1 + k := Nat.exists_eq_add_of_le hmn
    obtain ⟨next, hfirst, hrest⟩ := hrounds.split
    cases hfirst with
    | @more _ middle _ hmiddle hnext =>
      obtain ⟨shown, beat, hbeat⟩ := exists_beat hnext
      obtain ⟨before, hpolls⟩ := exists_pollsAt hmiddle hbeat.step hbeat.live hbeat.cue
      obtain ⟨more, -, hmore, -⟩ := exists_beats hrest
      rw [hmore, hbeat.world.calls, hpolls.calls, Beat.calls, hbeat.view] at htrace
      simp only [List.append_assoc, List.cons_append] at htrace
      have hsame := List.append_cancel_left htrace
      exact ⟨by omega, middle, shown, beat.key, before, _, hpolls, hsame.symm⟩
  · obtain ⟨beats, hlength, hcalls, -⟩ := exists_beats hrounds
    have hcount := countP_beats countP_isRender beats
    rw [hcalls, List.append_assoc] at htrace
    have hsame : beats.flatMap Beat.calls ++ lastCalls = trace := List.append_cancel_left htrace
    rw [← hsame, List.countP_append, hcount, hlength] at hm
    cases hlast with
    | exhausts =>
      rw [List.countP_nil] at hm
      omega
    | @quits shown quit hstep hlive' hcue =>
      have hone : [Call.render shown.player.view, .poll (some quit)].countP Call.isRender = 1 := rfl
      obtain rfl : m = n := by omega
      obtain ⟨before, hpolls⟩ := exists_pollsAt hrounds hstep hlive' hcue
      have hbefore : before = beats.flatMap Beat.calls :=
        List.append_cancel_left (hpolls.calls.symm.trans hcalls)
      exact ⟨Nat.le_refl m, run, _, _, before, [], hpolls, by rw [← hsame, hbefore]⟩

/-- The playback on the screen that fails stops in the middle of the tick that shows the view at
which it fails. -/
private theorem play_of_pollsAt {limit : Nat} (hrenders : r.goodRenders = some m) (hm : m < limit)
    (h : PollsAt timing interval ⟨p, r.sound⟩ m run shown key before) :
    ∃ failed, play (host timing) interval limit 0 ⟨p, r⟩ = .error r.renderFailure failed ∧
      failed.player = shown.player ∧
      failed.world = { shown.world.record (.render shown.player.view) with goodRenders := some 0 } := by
  obtain ⟨run', hrounds', hagree, hleft, hfailure⟩ :=
    exists_rounds_of_isSound hrenders (Nat.le_refl m) h.rounds
  have hstep := step_agree (respects_isSound timing) (timed_agree (respects_isSound timing) hagree)
  rw [h.step] at hstep
  obtain ⟨shown', hstep', hshown⟩ := hstep.exists_of_ok
  have hworld : shown.world = shown'.world.sound := hshown.world
  obtain ⟨-, hidle⟩ := step_timed hstep'
  have hzero : shown'.world.goodRenders = some 0 := by rw [hidle.goodRenders, hleft, Nat.sub_self]
  have hsame : shown'.world.renderFailure = r.renderFailure := hidle.renderFailure.trans hfailure
  have hshow := showAndPoll_of_render_error (render_of_refused timing hzero _)
  have houtcome : RoundOutcome (host timing) interval run' _ :=
    .showFails hstep' (hshown.player ▸ h.live) hshow
  have hround := houtcome.eq
  rw [hsame] at hround
  refine ⟨_, (PlayOutcome.fails hm hrounds' hround).eq, hshown.player.symm, ?_⟩
  rw [hshown.player, hworld]
  simp only [record, sound, ← hzero]

/-- A last tick that shows a view makes one render. -/
theorem LastCalls.countP_isRender {ended : Player} {calls : List Call}
    (h : LastCalls timing run ended calls)
    (hstep : step (host timing) (run.timed (host timing)) = .ok () shown)
    (hlive : shown.player.finished = false) : calls.countP Call.isRender = 1 := by
  cases h with
  | exhausts hends _ _ _ hover =>
    rw [hends] at hstep
    cases hstep
    rw [hlive] at hover
    cases hover
  | quits => rfl

/-- The playback on the screen that fails returns if no render is left for it to fail at. -/
theorem play_of_few_renders {limit : Nat} (hrenders : r.goodRenders = some m) (hn : n < limit)
    (hrounds : Rounds (host timing) interval ⟨p, r.sound⟩ n run)
    (hround : round (host timing) interval run = .ok false last) (hcount : n ≤ m)
    (hshows : ∀ shown, step (host timing) (run.timed (host timing)) = .ok () shown →
      shown.player.finished = false → n < m) :
    ∃ final, play (host timing) interval limit 0 ⟨p, r⟩ = .ok (some (n + 1)) final ∧
      Agree IsSound ⟨last.player, noted (host timing) [.playbackEnded (n + 1)] last.world⟩ final := by
  obtain ⟨run', hrounds', hagree, hleft, -⟩ := exists_rounds_of_isSound hrenders hcount hrounds
  have hresult : SameResult (Agree IsSound) (round (host timing) interval run)
      (round (host timing) interval run') := by
    apply round_isSound hagree
    intro shown hstep hlive
    have hlt := hshows shown hstep hlive
    rw [hleft]
    simp only [ne_eq, Option.some.injEq]
    omega
  rw [hround] at hresult
  obtain ⟨last', hround', hlast⟩ := hresult.exists_of_ok
  refine ⟨_, (PlayOutcome.returns hn hrounds' hround').eq, hlast.player, ?_⟩
  exact noted_respects (respects_isSound timing) _ hlast.world

/-- Two playbacks that differ in the screen alone, of which one fails at the render after the first
`m` and the other never does. If the other returns and makes no more than `m` renders, both do the
same. Otherwise the one stops at the render at which its screen fails; the other has at that render
the same player, and the key that it polls next is still to be polled. -/
theorem play_until_render_fails {story : Story} {charDuration : Float} {answers : Answers}
    (hnew : Player.new story charDuration answers = .ok p) (hrenders : r.goodRenders = some m)
    {limit ticks : Nat}
    (hplay : play (host timing) interval limit 0 ⟨p, r.sound⟩ = .ok (some ticks) final)
    (htrace : final.world.calls = r.calls ++ trace) :
    (trace.countP Call.isRender ≤ m →
      ∃ final', play (host timing) interval limit 0 ⟨p, r⟩ = .ok (some ticks) final' ∧
        final'.player = final.player ∧ final'.world.sound = final.world) ∧
    (m < trace.countP Call.isRender →
      ∃ shown failed key before rest, Shows (host timing) interval ⟨p, r.sound⟩ m shown ∧
        trace = before ++ .render shown.player.view :: .poll key :: rest ∧
        before.countP Call.isRender = m ∧
        play (host timing) interval limit 0 ⟨p, r⟩ = .error r.renderFailure failed ∧
        failed.world.calls = r.calls ++ before ++ [.render shown.player.view] ∧
        failed.player = shown.player ∧
        ∃ polled, (host timing).poll failed.world = .ok key polled) := by
  have hlive := finished_of_new hnew
  have houtcome := play_outcome (host timing) interval limit ⟨p, r.sound⟩
  rw [hplay] at houtcome
  cases houtcome with
  | @returns n run last hn hrounds hround =>
    constructor
    · intro hcount
      obtain ⟨beats, lastCalls, hlength, -, hlast, hcalls⟩ :=
        exists_calls hrounds hround hlive [.playbackEnded (n + 1)]
      have hsame : trace = beats.flatMap Beat.calls ++ lastCalls :=
        List.append_cancel_left (htrace.symm.trans hcalls)
      rw [hsame, List.countP_append, countP_beats countP_isRender, hlength] at hcount
      have hshows : ∀ shown, step (host timing) (run.timed (host timing)) = .ok () shown →
          shown.player.finished = false → n < m := by
        intro shown hstep hshown
        rw [hlast.countP_isRender hstep hshown] at hcount
        exact hcount
      obtain ⟨final', hplay', hagree⟩ :=
        play_of_few_renders hrenders hn hrounds hround (by omega) hshows
      exact ⟨final', hplay', hagree.player.symm, hagree.world.symm⟩
    · intro hcount
      obtain ⟨hm, middle, shown, key, before, rest, hpolls, hsplit⟩ :=
        exists_pollsAt_of_renders hrounds hround hlive htrace hcount
      obtain ⟨failed, hfails, hplayer, hworld⟩ :=
        play_of_pollsAt hrenders (Nat.lt_of_le_of_lt hm hn) hpolls
      have hcalls : shown.world.calls = r.calls ++ before :=
        (calls_of_step hpolls.step).trans hpolls.calls
      have hcue : failed.world.cues.headD failed.world.atEnd = .giving key := by
        rw [hworld]
        exact (step_timed hpolls.step).2.cue.trans hpolls.cue
      refine ⟨shown, failed, key, before, rest, ⟨⟨middle, hpolls.rounds, hpolls.step⟩, hpolls.live⟩,
        hsplit, hpolls.renders, hfails, ?_, hplayer, exists_poll_of_cue hcue⟩
      rw [hworld, ← hcalls]
      simp [calls, record]

/-- The screen fails while an answer is typed. -/
theorem play_until_render_fails_of_question :
    let r : Rehearsal SteppedClock := {
      clock := { renderCost := 1.0 },
      cues := [.nothing, .nothing, .key (.ofChar 'a'), .key (.ofChar 'b'), .key .enter, .key .quit],
      goodRenders := some 3, renderFailure := .terminal ['x'] }
    ∃ p final shown failed, Player.new [.text ['H', 'i'], .input ['n']] 0.5 ⟨[]⟩ = .ok p ∧
      play (host SteppedClock.timing) 0.25 9 0 ⟨p, r.sound⟩ = .ok (some 6) final ∧
      Shows (host SteppedClock.timing) 0.25 ⟨p, r.sound⟩ 3 shown ∧
      play (host SteppedClock.timing) 0.25 9 0 ⟨p, r⟩ = .error (.terminal ['x']) failed ∧
      failed.player = shown.player := by
  intro r
  have hnew : Player.new [.text ['H', 'i'], .input ['n']] 0.5 ⟨[]⟩ =
      .ok { upcoming := [.text ['H', 'i'], .input ['n']], charDuration := 0.5,
            answers := ⟨[]⟩ } := by
    rw [Player.new, if_neg (by decide)]
  let start : Run (Rehearsal SteppedClock) :=
    ⟨{ upcoming := [.text ['H', 'i'], .input ['n']], charDuration := 0.5, answers := ⟨[]⟩ }, r.sound⟩
  have hticks : ticks? (play (host SteppedClock.timing) 0.25 9 0 start) = some 6 := by
    decide +kernel
  obtain ⟨final, hplay⟩ := exists_of_ticks? hticks
  have hrenders : (outcomeRun (play (host SteppedClock.timing) 0.25 9 0 start)).world.calls.countP
      Call.isRender = 6 := by decide +kernel
  rw [hplay, outcomeRun] at hrenders
  have hcalls : final.world.calls = r.calls ++ final.world.calls := rfl
  obtain ⟨-, hfails⟩ := play_until_render_fails hnew (r := r) (m := 3) rfl hplay hcalls
  obtain ⟨shown, failed, -, -, -, hshows, -, -, hfailed, -, hplayer, -⟩ :=
    hfails (by rw [hrenders]; decide)
  exact ⟨_, final, shown, failed, hnew, hplay, hshows, hfailed, hplayer⟩

end Rehearsal
end StoryPlayer
