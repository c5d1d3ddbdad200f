import StoryPlayer.Playback.Rehearsal
import StoryPlayer.Proofs.Playback.Rounds

/-!
# Runs that agree

Two runs agree up to a relation of their surroundings if they have the same player and the relation
holds. Where the clock, the sleep and the journal of a host respect the relation, two runs that
agree take steps that agree; where showing a view and polling a key respect it too, whole playbacks
agree.
-/

namespace StoryPlayer

/-- The clock, the sleep and the journal show nothing that the relation leaves open. -/
structure Host.Respects {σ : Type} (host : Host σ) (R : σ → σ → Prop) : Prop where
  time : ∀ {w w'}, R w w' → (host.now w).1 = (host.now w').1
  now : ∀ {w w'}, R w w' → R (host.now w).2 (host.now w').2
  sleep : ∀ {w w'} (seconds : Float), R w w' → R (host.sleep seconds w) (host.sleep seconds w')
  note : ∀ {w w'} (note : Note), R w w' → R (host.note note w) (host.note note w')

/-- The same value or the same failure, in states that are related. -/
inductive SameResult {σ α : Type} (R : σ → σ → Prop) :
    EStateM.Result Failure σ α → EStateM.Result Failure σ α → Prop
  | ok (a : α) {s s' : σ} (h : R s s') : SameResult R (.ok a s) (.ok a s')
  | error (failure : Failure) {s s' : σ} (h : R s s') :
      SameResult R (.error failure s) (.error failure s')

namespace SameResult

variable {σ α : Type} {R : σ → σ → Prop} {s : σ} {result : EStateM.Result Failure σ α}

theorem exists_of_ok {a : α} (h : SameResult R (.ok a s) result) :
    ∃ s', result = .ok a s' ∧ R s s' := by
  cases h with
  | ok _ hrelated => exact ⟨_, rfl, hrelated⟩

theorem exists_of_error {failure : Failure} (h : SameResult R (.error failure s) result) :
    ∃ s', result = .error failure s' ∧ R s s' := by
  cases h with
  | error _ hrelated => exact ⟨_, rfl, hrelated⟩

end SameResult

namespace Run

variable {σ : Type} {host : Host σ} {R : σ → σ → Prop} {interval : Float}
  {start start' run run' : Run σ} {n : Nat}

structure Agree (R : σ → σ → Prop) (run run' : Run σ) : Prop where
  player : run.player = run'.player
  world : R run.world run'.world

theorem noted_respects (hhost : host.Respects R) (notes : List Note) {w w' : σ} (h : R w w') :
    R (noted host notes w) (noted host notes w') := by
  induction notes generalizing w w' with
  | nil => exact h
  | cons note notes ih =>
    apply ih
    exact hhost.note note h

theorem timed_agree (hhost : host.Respects R) (h : Agree R run run') :
    Agree R (run.timed host) (run'.timed host) :=
  ⟨h.player, hhost.now h.world⟩

private theorem reading_agree (hhost : host.Respects R) (h : Agree R run run') :
    (run.reading host).1 = (run'.reading host).1 ∧
      R (run.reading host).2 (run'.reading host).2 := by
  have hnoted := noted_respects hhost run'.player.stepNotes h.world
  rw [reading, reading, h.player]
  cases run'.player.readsClock with
  | false => exact ⟨rfl, hnoted⟩
  | true => exact ⟨hhost.time hnoted, hhost.now hnoted⟩

theorem step_agree (hhost : host.Respects R) (h : Agree R run run') :
    SameResult (Agree R) (step host run) (step host run') := by
  obtain ⟨htime, hworld⟩ := reading_agree hhost h
  rw [step_eq, step_eq, h.player, htime]
  cases run'.player.step (run'.reading host).1 with
  | ok p => exact .ok () ⟨rfl, hworld⟩
  | error error => exact .error _ ⟨rfl, hworld⟩

private theorem padded_agree (hhost : host.Respects R) (h : Agree R run run') (started : Float) :
    Agree R (run.padded host interval started) (run'.padded host interval started) := by
  rw [padded, padded, hhost.time h.world]
  split
  · refine ⟨h.player, ?_⟩
    dsimp only
    split
    · exact hhost.sleep _ (hhost.now h.world)
    · exact hhost.now h.world
  · exact h

theorem showAndPoll_agree (hhost : host.Respects R) (h : Agree R run run')
    (hrender : SameResult R (host.render run.player.view run.world)
      (host.render run.player.view run'.world))
    (hpoll : ∀ w w', host.render run.player.view run.world = .ok () w →
      host.render run.player.view run'.world = .ok () w' → R w w' →
      SameResult R (host.poll w) (host.poll w')) :
    SameResult (Agree R) (showAndPoll host run) (showAndPoll host run') := by
  rw [h.player] at hrender hpoll
  cases hfirst : host.render run'.player.view run.world with
  | error failure w =>
    rw [hfirst] at hrender
    obtain ⟨w', hsecond, hrelated⟩ := hrender.exists_of_error
    rw [showAndPoll_of_render_error (h.player ▸ hfirst), showAndPoll_of_render_error hsecond]
    exact .error _ ⟨h.player, hrelated⟩
  | ok _ w =>
    rw [hfirst] at hrender
    obtain ⟨w', hsecond, hrelated⟩ := hrender.exists_of_ok
    have hsame := hpoll w w' hfirst hsecond hrelated
    rw [← h.player] at hfirst
    cases hpolled : host.poll w with
    | error failure v =>
      rw [hpolled] at hsame
      obtain ⟨v', hpolled', hrelated'⟩ := hsame.exists_of_error
      rw [showAndPoll_of_poll_error hfirst hpolled, showAndPoll_of_poll_error hsecond hpolled']
      exact .error _ ⟨h.player, hrelated'⟩
    | ok key v =>
      rw [hpolled] at hsame
      obtain ⟨v', hpolled', hrelated'⟩ := hsame.exists_of_ok
      cases key with
      | none =>
        rw [showAndPoll_of_none hfirst hpolled, showAndPoll_of_none hsecond hpolled']
        exact .ok _ ⟨h.player, hrelated'⟩
      | some key =>
        rw [showAndPoll_of_some hfirst hpolled, showAndPoll_of_some hsecond hpolled',
          press_of_ok (Player.press_eq_ok key _), press_of_ok (Player.press_eq_ok key _), h.player]
        exact .ok _ ⟨rfl, noted_respects hhost _ hrelated'⟩

/-- Rounds of runs that agree have the same outcome, provided that showing and polling have. -/
theorem round_agree (hhost : host.Respects R) (h : Agree R run run')
    (hshow : ∀ shown shown', step host (run.timed host) = .ok () shown →
      shown.player.finished = false → step host (run'.timed host) = .ok () shown' →
      Agree R shown shown' → SameResult (Agree R) (showAndPoll host shown) (showAndPoll host shown')) :
    SameResult (Agree R) (round host interval run) (round host interval run') := by
  have hstep := step_agree hhost (timed_agree hhost h)
  have houtcome := round_outcome host interval run
  generalize round host interval run = result at houtcome
  cases houtcome with
  | stepFails hfirst =>
    rw [hfirst] at hstep
    obtain ⟨after', hsecond, hagree⟩ := hstep.exists_of_error
    rw [(RoundOutcome.stepFails hsecond).eq]
    exact .error _ hagree
  | ends hfirst hover =>
    rw [hfirst] at hstep
    obtain ⟨stepped', hsecond, hagree⟩ := hstep.exists_of_ok
    rw [(RoundOutcome.ends hsecond (hagree.player ▸ hover)).eq]
    exact .ok _ hagree
  | showFails hfirst hlive hshown =>
    rw [hfirst] at hstep
    obtain ⟨stepped', hsecond, hagree⟩ := hstep.exists_of_ok
    have hsame := hshow _ _ hfirst hlive hsecond hagree
    rw [hshown] at hsame
    obtain ⟨after', hshown', hafter⟩ := hsame.exists_of_error
    rw [(RoundOutcome.showFails hsecond (hagree.player ▸ hlive) hshown').eq]
    exact .error _ hafter
  | quits hfirst hlive hshown hover =>
    rw [hfirst] at hstep
    obtain ⟨stepped', hsecond, hagree⟩ := hstep.exists_of_ok
    have hsame := hshow _ _ hfirst hlive hsecond hagree
    rw [hshown] at hsame
    obtain ⟨polled', hshown', hpolled⟩ := hsame.exists_of_ok
    rw [(RoundOutcome.quits hsecond (hagree.player ▸ hlive) hshown' (hpolled.player ▸ hover)).eq]
    exact .ok _ hpolled
  | goesOn hfirst hlive hshown hlive' =>
    rw [hfirst] at hstep
    obtain ⟨stepped', hsecond, hagree⟩ := hstep.exists_of_ok
    have hsame := hshow _ _ hfirst hlive hsecond hagree
    rw [hshown] at hsame
    obtain ⟨polled', hshown', hpolled⟩ := hsame.exists_of_ok
    rw [(RoundOutcome.goesOn hsecond (hagree.player ▸ hlive) hshown'
      (hpolled.player ▸ hlive')).eq, hhost.time h.world]
    exact .ok _ (padded_agree hhost hpolled _)

/-- Where the rounds of one run have the same outcome as those of another, the other goes on as
long. -/
theorem Rounds.transfer (h : Rounds host interval start n run) (hstart : Agree R start start')
    (hround : ∀ k run run', k < n → Rounds host interval start k run →
      Rounds host interval start' k run' → Agree R run run' →
      SameResult (Agree R) (round host interval run) (round host interval run')) :
    ∃ run', Rounds host interval start' n run' ∧ Agree R run run' := by
  induction h with
  | none => exact ⟨start', .none, hstart⟩
  | @more n run next hrounds hnext ih =>
    obtain ⟨run', hrounds', hagree⟩ := ih fun k run run' hk =>
      hround k run run' (Nat.lt_succ_of_lt hk)
    have hsame := hround n run run' (Nat.lt_succ_self n) hrounds hrounds' hagree
    rw [hnext] at hsame
    obtain ⟨next', hnext', hagree'⟩ := hsame.exists_of_ok
    exact ⟨next', .more hrounds' hnext', hagree'⟩

theorem play_agree (hhost : host.Respects R) (hstart : Agree R start start')
    (hround : ∀ n run run', Rounds host interval start n run →
      Rounds host interval start' n run' → Agree R run run' →
      SameResult (Agree R) (round host interval run) (round host interval run')) (limit : Nat) :
    SameResult (Agree R) (play host interval limit 0 start) (play host interval limit 0 start') := by
  have houtcome := play_outcome host interval limit start
  generalize play host interval limit 0 start = result at houtcome
  cases houtcome with
  | isCut hrounds =>
    obtain ⟨run', hrounds', hagree⟩ := hrounds.transfer hstart fun k run run' _ => hround k run run'
    rw [(PlayOutcome.isCut hrounds').eq]
    exact .ok _ hagree
  | returns hn hrounds hlast =>
    obtain ⟨run', hrounds', hagree⟩ := hrounds.transfer hstart fun k run run' _ => hround k run run'
    have hsame := hround _ _ _ hrounds hrounds' hagree
    rw [hlast] at hsame
    obtain ⟨last', hlast', hagree'⟩ := hsame.exists_of_ok
    rw [(PlayOutcome.returns hn hrounds' hlast').eq]
    exact .ok _ ⟨hagree'.player, noted_respects hhost _ hagree'.world⟩
  | fails hn hrounds hlast =>
    obtain ⟨run', hrounds', hagree⟩ := hrounds.transfer hstart fun k run run' _ => hround k run run'
    have hsame := hround _ _ _ hrounds hrounds' hagree
    rw [hlast] at hsame
    obtain ⟨after', hlast', hagree'⟩ := hsame.exists_of_error
    rw [(PlayOutcome.fails hn hrounds' hlast').eq]
    exact .error _ hagree'

end Run

/-- A cue comes to the same in rehearsals that are related. -/
theorem Rehearsal.follow_agree {τ : Type} {R : Rehearsal τ → Rehearsal τ → Prop}
    (hrecord : ∀ {r r'} (call : Call), R r r' → R (r.record call) (r'.record call))
    {r r' : Rehearsal τ} (h : R r r') (cue : Cue) :
    SameResult R (r.follow cue) (r'.follow cue) := by
  cases cue with
  | nothing => exact .ok none (hrecord (.poll none) h)
  | key key => exact .ok (some key) (hrecord (.poll (some key)) h)
  | unknownKey kind => exact .error (.unknownKey kind) h
  | failure failure => exact .error failure (hrecord .pollFailed h)

end StoryPlayer
