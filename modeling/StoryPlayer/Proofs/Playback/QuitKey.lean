import StoryPlayer.Proofs.Playback.Agreement
import StoryPlayer.Proofs.Playback.Beats

/-!
# The quit key

Each tick after which playback goes on polls one key, and the quit key is heeded in every phase. So
a playback whose keys come to a quit key ends there at the latest, however slow the clock is, and
what the keys behind it would have been makes no difference.
-/

namespace StoryPlayer

theorem Player.finished_after_quit {key : Key} (hkey : key.kind = .quit) (p : Player) :
    (p.after (.press key)).finished = true := by
  by_cases hphase : p.phase = .finished
  · rw [after_of_finished hphase]
    simpa [finished] using hphase
  · rw [after_of_isQuit (by simpa [Operation.isQuit] using hkey) hphase]
    rfl

namespace Rehearsal

open Run

variable {τ : Type} {timing : Timing τ} {interval : Float} {r r' : Rehearsal τ}
  {run run' shown shown' last : Run (Rehearsal τ)} {p : Player} {i n : Nat}

/-- The poll of this number is the first to give the quit key, and none before it fails. -/
structure QuitsAt (r : Rehearsal τ) (i : Nat) : Prop where
  before : ∀ j < i, ∃ key, r.cueAt j = .giving key ∧ ∀ pressed ∈ key, pressed.kind ≠ .quit
  quit : ∃ key, r.cueAt i = .key key ∧ key.kind = .quit

private theorem QuitsAt.exists_giving (h : r.QuitsAt i) (hn : n ≤ i) :
    ∃ key, r.cueAt n = .giving key := by
  rcases Nat.lt_or_eq_of_le hn with hlt | rfl
  · obtain ⟨key, hcue, -⟩ := h.before n hlt
    exact ⟨key, hcue⟩
  · obtain ⟨key, hcue, -⟩ := h.quit
    exact ⟨some key, hcue⟩

/-- Playback does not go on after the quit key. -/
theorem rounds_le_of_quitsAt (hquit : r.QuitsAt i)
    (h : Rounds (host timing) interval ⟨p, r⟩ n run) : n ≤ i := by
  rcases Nat.lt_or_ge i n with hlt | hle
  · obtain ⟨k, rfl⟩ : ∃ k, n = i + 1 + k := Nat.exists_eq_add_of_le hlt
    obtain ⟨next, hfirst, -⟩ := h.split
    cases hfirst with
    | more hrounds hround =>
      obtain ⟨shown, beat, hbeat⟩ := exists_beat hround
      obtain ⟨key, hcue, hkey⟩ := hquit.quit
      have hgiving : Cue.giving beat.key = .key key :=
        hbeat.cue.symm.trans ((cue_of_rounds hrounds).trans hcue)
      have hsome : beat.key = some key := Cue.eq_some_of_giving hgiving
      have hover : next.player.finished = true := by
        rw [hbeat.player, hsome]
        exact Player.finished_after_quit hkey shown.player
      rw [hbeat.goesOn] at hover
      cases hover
  · exact hle

/-- A round on a screen that never fails, with a poll that does not fail, fails only at its step. -/
private theorem round_error {failure : Failure} {key : Option Key}
    (hsound : run.world.goodRenders = none)
    (hcue : run.world.cues.headD run.world.atEnd = .giving key)
    (h : round (host timing) interval run = .error failure last) :
    (∃ error, failure = .step error) ∧ last.world.calls = run.world.calls := by
  have houtcome := round_outcome (host timing) interval run
  rw [h] at houtcome
  cases houtcome with
  | stepFails hstep =>
    obtain ⟨hfailure, hidle⟩ := step_timed_error hstep
    exact ⟨hfailure, hidle.calls⟩
  | @showFails _ shown _ hstep hlive hshow =>
    obtain ⟨-, hidle⟩ := step_timed hstep
    have hgood : shown.world.goodRenders ≠ some 0 := by simp [hidle.goodRenders, hsound]
    rw [showAndPoll_of_cue hgood (hidle.cue.trans hcue)] at hshow
    cases hshow

private theorem LastCalls.countP_isPoll_le {ended : Player} {calls : List Call}
    (h : LastCalls timing run ended calls) : calls.countP Call.isPoll ≤ 1 := by
  cases h with
  | exhausts => exact Nat.zero_le 1
  | quits => exact Nat.le_refl 1

/-- The two rehearsals differ at most in what polls give from now on. -/
def SameButScript (r r' : Rehearsal τ) : Prop := ∃ cues atEnd, r' = { r with cues, atEnd }

private theorem respects_sameButScript (timing : Timing τ) :
    (host timing).Respects SameButScript where
  time := by
    rintro w w' ⟨cues, atEnd, rfl⟩
    rfl
  now := by
    rintro w w' ⟨cues, atEnd, rfl⟩
    exact ⟨cues, atEnd, rfl⟩
  sleep := by
    rintro w w' seconds ⟨cues, atEnd, rfl⟩
    exact ⟨cues, atEnd, rfl⟩
  note := by
    rintro w w' note ⟨cues, atEnd, rfl⟩
    exact ⟨cues, atEnd, rfl⟩

private theorem showAndPoll_sameButScript (h : Agree SameButScript shown shown')
    (hsound : shown.world.goodRenders = none)
    (hcue : shown'.world.cues.headD shown'.world.atEnd =
      shown.world.cues.headD shown.world.atEnd) :
    SameResult (Agree SameButScript) (showAndPoll (host timing) shown)
      (showAndPoll (host timing) shown') := by
  obtain ⟨cues, atEnd, hworld⟩ : SameButScript shown.world shown'.world := h.world
  have hgood : shown.world.goodRenders ≠ some 0 := by simp [hsound]
  have hgood' : shown'.world.goodRenders ≠ some 0 := by
    rw [hworld]
    exact hgood
  have hrender := render_of_good timing hgood shown.player.view
  have hrender' := render_of_good timing hgood' shown.player.view
  have hrelated : SameButScript (shown.world.rendered timing shown.player.view)
      (shown'.world.rendered timing shown.player.view) := by
    rw [hworld]
    exact ⟨cues, atEnd, rfl⟩
  apply showAndPoll_agree (respects_sameButScript timing) h
  · rw [hrender, hrender']
    exact .ok () hrelated
  · intro w w' hw hw' _
    rw [hrender] at hw
    rw [hrender'] at hw'
    cases hw
    cases hw'
    rw [poll_of_cue timing (r := shown.world.rendered timing shown.player.view) rfl,
      poll_of_cue timing (r := shown'.world.rendered timing shown.player.view) hcue]
    apply follow_agree
    · rintro r r' call ⟨cues, atEnd, rfl⟩
      exact ⟨cues, atEnd, rfl⟩
    · rw [hworld]
      exact ⟨_, _, rfl⟩

private theorem round_sameButScript (h : Agree SameButScript run run')
    (hsound : run.world.goodRenders = none)
    (hcue : run'.world.cues.headD run'.world.atEnd = run.world.cues.headD run.world.atEnd) :
    SameResult (Agree SameButScript) (round (host timing) interval run)
      (round (host timing) interval run') := by
  apply round_agree (respects_sameButScript timing) h
  intro shown shown' hstep _ hstep' hagree
  obtain ⟨-, hidle⟩ := step_timed hstep
  obtain ⟨-, hidle'⟩ := step_timed hstep'
  apply showAndPoll_sameButScript hagree
  · rw [hidle.goodRenders, hsound]
  · rw [hidle.cue, hidle'.cue, hcue]

theorem play_sameButScript (hsound : r.goodRenders = none) (hquit : r.QuitsAt i)
    (h : SameButScript r r') (hcues : ∀ j ≤ i, r'.cueAt j = r.cueAt j) (limit : Nat) :
    SameResult (Agree SameButScript) (play (host timing) interval limit 0 ⟨p, r⟩)
      (play (host timing) interval limit 0 ⟨p, r'⟩) := by
  have hstart : Agree SameButScript ⟨p, r⟩ ⟨p, r'⟩ := ⟨rfl, h⟩
  apply play_agree (respects_sameButScript timing) hstart
  intro n run run' hrounds hrounds' hagree
  have hn : n ≤ i := rounds_le_of_quitsAt hquit hrounds
  apply round_sameButScript hagree
  · exact goodRenders_of_rounds hrounds hsound
  · rw [cue_of_rounds hrounds, cue_of_rounds hrounds']
    exact hcues n hn

/-- How a playback that gets the quit key can end: it returns or its step fails, with so many ticks
and polls at most. -/
inductive EndsBy (r : Rehearsal τ) (most : Nat) :
    EStateM.Result Failure (Run (Rehearsal τ)) (Option Nat) → Prop
  | returns {ticks : Nat} {final : Run (Rehearsal τ)} {trace : List Call} (hticks : ticks ≤ most)
      (hcalls : final.world.calls = r.calls ++ trace) (hpolls : trace.countP Call.isPoll ≤ most) :
      EndsBy r most (.ok (some ticks) final)
  | fails {error : StepError} {final : Run (Rehearsal τ)} {trace : List Call}
      (hcalls : final.world.calls = r.calls ++ trace) (hpolls : trace.countP Call.isPoll < most) :
      EndsBy r most (.error (.step error) final)

theorem play_endsBy_quit (hlive : p.finished = false) (hsound : r.goodRenders = none)
    (hquit : r.QuitsAt i) :
    ∃ result, EndsBy r (i + 1) result ∧
      ∀ limit, i < limit → play (host timing) interval limit 0 ⟨p, r⟩ = result := by
  have houtcome := play_outcome (host timing) interval (i + 1) ⟨p, r⟩
  generalize play (host timing) interval (i + 1) 0 ⟨p, r⟩ = result at houtcome
  cases houtcome with
  | isCut hrounds =>
    have hle := rounds_le_of_quitsAt hquit hrounds
    omega
  | @returns n run last hn hrounds hround =>
    obtain ⟨beats, lastCalls, hlength, -, hlast, hcalls⟩ :=
      exists_calls hrounds hround hlive [.playbackEnded (n + 1)]
    have hpolls : (beats.flatMap Beat.calls ++ lastCalls).countP Call.isPoll ≤ i + 1 := by
      have hlastPolls := hlast.countP_isPoll_le
      rw [List.countP_append, countP_beats countP_isPoll, hlength]
      omega
    refine ⟨.ok (some (n + 1)) ⟨last.player, _⟩, .returns hn hcalls hpolls, ?_⟩
    intro limit hlimit
    exact (PlayOutcome.returns (by omega) hrounds hround).eq
  | @fails n run last failure hn hrounds hround =>
    obtain ⟨key, hcue⟩ := hquit.exists_giving (Nat.le_of_lt_succ hn)
    have hsound' : run.world.goodRenders = none := goodRenders_of_rounds hrounds hsound
    obtain ⟨⟨error, rfl⟩, hidle⟩ := round_error hsound' ((cue_of_rounds hrounds).trans hcue) hround
    obtain ⟨beats, hlength, hcalls, -⟩ := exists_beats hrounds
    have hpolls : (beats.flatMap Beat.calls).countP Call.isPoll < i + 1 := by
      rw [countP_beats countP_isPoll, hlength]
      exact hn
    refine ⟨.error (.step error) last, .fails (hidle.trans hcalls) hpolls, ?_⟩
    intro limit hlimit
    exact (PlayOutcome.fails (by omega) hrounds hround).eq

/-- A playback that is given the quit key ends in that tick at the latest, on every clock, and what
later polls would have given makes no difference to it. -/
theorem play_ends_at_quit (timing : Timing τ) (interval : Float) {story : Story}
    {charDuration : Float} {answers : Answers}
    (hnew : Player.new story charDuration answers = .ok p) (hsound : r.goodRenders = none)
    (hquit : r.QuitsAt i) :
    (∃ result, EndsBy r (i + 1) result ∧
      ∀ limit, i < limit → play (host timing) interval limit 0 ⟨p, r⟩ = result) ∧
    ∀ r' : Rehearsal τ, SameButScript r r' → (∀ j ≤ i, r'.cueAt j = r.cueAt j) →
      ∀ limit, SameResult (Agree SameButScript) (play (host timing) interval limit 0 ⟨p, r⟩)
        (play (host timing) interval limit 0 ⟨p, r'⟩) := by
  constructor
  · exact play_endsBy_quit (finished_of_new hnew) hsound hquit
  · intro r' h hcues limit
    exact play_sameButScript hsound hquit h hcues limit

/-- The quit key comes in the middle of an answer, and the clock stands still: an enter key that
would have followed is not polled. -/
theorem play_ends_at_quit_of_question :
    let cues := [Cue.nothing, .key (.ofChar 'a'), .nothing, .key .quit]
    let r : Rehearsal SteppedClock := { clock := {}, cues }
    let r' : Rehearsal SteppedClock := { clock := {}, cues := cues ++ [.key .enter], atEnd := .nothing }
    ∃ p result result', Player.new [.input ['n'], .text ['H', 'i']] 0.5 ⟨[]⟩ = .ok p ∧ r.QuitsAt 3 ∧
      play (host SteppedClock.timing) 0.25 9 0 ⟨p, r⟩ = result ∧
      play (host SteppedClock.timing) 0.25 9 0 ⟨p, r'⟩ = result' ∧
      EndsBy r 4 result ∧ SameResult (Agree SameButScript) result result' := by
  intro cues r r'
  have hnew : Player.new [.input ['n'], .text ['H', 'i']] 0.5 ⟨[]⟩ =
      .ok { upcoming := [.input ['n'], .text ['H', 'i']], charDuration := 0.5,
            answers := ⟨[]⟩ } := by
    rw [Player.new, if_neg (by decide)]
  have hquit : r.QuitsAt 3 := by
    refine ⟨?_, .quit, rfl, rfl⟩
    intro j hj
    obtain rfl | rfl | rfl : j = 0 ∨ j = 1 ∨ j = 2 := by omega
    · exact ⟨none, rfl, by simp⟩
    · exact ⟨some (.ofChar 'a'), rfl, by simp [Key.ofChar]⟩
    · exact ⟨none, rfl, by simp⟩
  have hcues : ∀ j ≤ 3, r'.cueAt j = r.cueAt j := by decide
  obtain ⟨⟨result, hends, hplay⟩, hsame⟩ := play_ends_at_quit SteppedClock.timing 0.25
    hnew (r := r) rfl hquit
  have hresult := hsame r' ⟨_, _, rfl⟩ hcues 9
  rw [hplay 9 (by decide)] at hresult
  exact ⟨_, result, _, hnew, hquit, hplay 9 (by decide), rfl, hends, hresult⟩

end Rehearsal
end StoryPlayer
