import StoryPlayer.Proofs.Playback.Moves
import StoryPlayer.Proofs.Playback.Ticks

/-!
# Rounds of the playback loop

A round is a tick with its padding. `RoundOutcome` says once how a round can turn out, and playback
is described by its rounds: so many of them go on, and then one ends playback or fails.
-/

namespace StoryPlayer

/-- No key press fails. -/
theorem Player.press_eq_ok (key : Key) (p : Player) : p.press key = .ok (p.after (.press key)) := by
  obtain ⟨p', hact, hpress, -⟩ | ⟨error, -, -, hfails⟩ := apply_cases (.press key) p
  · rw [after_of_act hact]
    exact hpress
  · cases hfails

namespace Run

variable {σ : Type} {host : Host σ} {interval : Float} {start run : Run σ}

/-- The clock reading that the next step gets, and the surroundings once its notes are written and
the clock is read. A step that needs no clock does not look at it. -/
def reading (host : Host σ) (run : Run σ) : Float × σ :=
  let world := noted host run.player.stepNotes run.world
  if run.player.readsClock then host.now world else (0.0, world)

theorem step_eq (run : Run σ) :
    step host run =
      match run.player.step (run.reading host).1 with
      | .ok p => .ok () ⟨p, (run.reading host).2⟩
      | .error error => .error (.step error) ⟨run.player, (run.reading host).2⟩ := by
  have hstep : step host run =
      onPlayer (Player.takeStep (run.reading host).1) ⟨run.player, (run.reading host).2⟩ := by
    rw [step, bind_of_eq_ok (get_eq_ok run), bind_of_eq_ok (writeNotes_eq_ok _ run), reading]
    cases hclock : run.player.readsClock with
    | false => rfl
    | true => rfl
  rw [hstep, onPlayer]
  -- A failed step leaves the player as it was.
  obtain ⟨p', hact, happly, -⟩ | ⟨error, hact, happly, -⟩ :=
    Player.apply_cases (.step (run.reading host).1) run.player
  · rw [show Player.takeStep _ run.player = _ from hact,
      show run.player.step _ = _ from happly]
  · rw [show Player.takeStep _ run.player = _ from hact,
      show run.player.step _ = _ from happly]

/-- The run once the time is taken at which a tick begins. -/
def timed (host : Host σ) (run : Run σ) : Run σ := ⟨run.player, (host.now run.world).2⟩

/-- The run after a tick that began at the given time was padded. -/
def padded (host : Host σ) (interval started : Float) (run : Run σ) : Run σ :=
  if 0.0 < interval then
    let remaining := interval - ((host.now run.world).1 - started)
    ⟨run.player, if 0.0 < remaining then host.sleep remaining (host.now run.world).2
      else (host.now run.world).2⟩
  else run

private theorem padTick_eq_ok (started : Float) (run : Run σ) :
    padTick host interval started run = .ok () (run.padded host interval started) := by
  rw [padTick, padded]
  split
  · rw [bind_of_eq_ok (show readClock host run = .ok _ _ from rfl)]
    dsimp only
    split
    · rfl
    · rfl
  · rfl

/-- One round of the loop; tells whether playback goes on. -/
def round (host : Host σ) (interval : Float) : EStateM Failure (Run σ) Bool := do
  let started ← readClock host
  if ← tick host then
    padTick host interval started
    return true
  else return false

inductive RoundOutcome (host : Host σ) (interval : Float) (run : Run σ) :
    EStateM.Result Failure (Run σ) Bool → Prop
  | stepFails {failure : Failure} {after : Run σ}
      (hstep : step host (run.timed host) = .error failure after) :
      RoundOutcome host interval run (.error failure after)
  /-- The step finishes the player, and nothing is shown any more. -/
  | ends {stepped : Run σ} (hstep : step host (run.timed host) = .ok () stepped)
      (hover : stepped.player.finished = true) : RoundOutcome host interval run (.ok false stepped)
  | showFails {failure : Failure} {stepped after : Run σ}
      (hstep : step host (run.timed host) = .ok () stepped)
      (hlive : stepped.player.finished = false)
      (hshow : showAndPoll host stepped = .error failure after) :
      RoundOutcome host interval run (.error failure after)
  /-- The key that was polled finishes the player. -/
  | quits {stepped polled : Run σ} (hstep : step host (run.timed host) = .ok () stepped)
      (hlive : stepped.player.finished = false)
      (hshow : showAndPoll host stepped = .ok () polled) (hover : polled.player.finished = true) :
      RoundOutcome host interval run (.ok false polled)
  | goesOn {stepped polled : Run σ} (hstep : step host (run.timed host) = .ok () stepped)
      (hlive : stepped.player.finished = false)
      (hshow : showAndPoll host stepped = .ok () polled)
      (hlive' : polled.player.finished = false) :
      RoundOutcome host interval run
        (.ok true (polled.padded host interval (host.now run.world).1))

private theorem tick_of_step_error {failure : Failure} {after : Run σ}
    (hstep : step host run = .error failure after) : tick host run = .error failure after := by
  rw [tick, bind_of_eq_error hstep]

private theorem tick_of_over {stepped : Run σ} (hstep : step host run = .ok () stepped)
    (hover : stepped.player.finished = true) : tick host run = .ok false stepped := by
  rw [tick, bind_of_eq_ok hstep, bind_of_eq_ok (get_eq_ok stepped), if_pos hover]
  rfl

private theorem tick_of_show_error {failure : Failure} {stepped after : Run σ}
    (hstep : step host run = .ok () stepped) (hlive : stepped.player.finished = false)
    (hshow : showAndPoll host stepped = .error failure after) :
    tick host run = .error failure after := by
  rw [tick, bind_of_eq_ok hstep, bind_of_eq_ok (get_eq_ok stepped), hlive,
    if_neg Bool.false_ne_true, bind_of_eq_error hshow]

private theorem round_eq_bind (run : Run σ) :
    round host interval run =
      (tick host >>= fun goesOn =>
        if goesOn then padTick host interval (host.now run.world).1 >>= fun _ => pure true
        else pure false) (run.timed host) := by
  rw [round, bind_of_eq_ok (show readClock host run = .ok _ (run.timed host) from rfl)]

theorem RoundOutcome.eq {result : EStateM.Result Failure (Run σ) Bool}
    (h : RoundOutcome host interval run result) : round host interval run = result := by
  rw [round_eq_bind]
  cases h with
  | stepFails hstep => exact bind_of_eq_error (tick_of_step_error hstep)
  | ends hstep hover => exact bind_of_eq_ok (tick_of_over hstep hover)
  | showFails hstep hlive hshow => exact bind_of_eq_error (tick_of_show_error hstep hlive hshow)
  | quits hstep hlive hshow hover =>
    rw [bind_of_eq_ok (tick_of_ok hstep hlive hshow), hover]
    rfl
  | goesOn hstep hlive hshow hlive' =>
    rw [bind_of_eq_ok (tick_of_ok hstep hlive hshow), hlive']
    exact bind_of_eq_ok (padTick_eq_ok _ _)

theorem round_outcome (host : Host σ) (interval : Float) (run : Run σ) :
    RoundOutcome host interval run (round host interval run) := by
  suffices h : ∃ result, RoundOutcome host interval run result by
    obtain ⟨result, houtcome⟩ := h
    rwa [houtcome.eq]
  cases hstep : step host (run.timed host) with
  | error failure after => exact ⟨_, .stepFails hstep⟩
  | ok _ stepped =>
    cases hlive : stepped.player.finished with
    | true => exact ⟨_, .ends hstep hlive⟩
    | false =>
      cases hshow : showAndPoll host stepped with
      | error failure after => exact ⟨_, .showFails hstep hlive hshow⟩
      | ok _ polled =>
        cases hlive' : polled.player.finished with
        | true => exact ⟨_, .quits hstep hlive hshow hlive'⟩
        | false => exact ⟨_, .goesOn hstep hlive hshow hlive'⟩

/-- So many rounds lead from one run to the other, and playback goes on after each of them. -/
inductive Rounds (host : Host σ) (interval : Float) (start : Run σ) : Nat → Run σ → Prop
  | none : Rounds host interval start 0 start
  | more {n : Nat} {run next : Run σ} (hrounds : Rounds host interval start n run)
      (hround : round host interval run = .ok true next) : Rounds host interval start (n + 1) next

/-- The run in the tick that comes after so many rounds, once its step is taken and before its view
is shown. -/
structure Shows (host : Host σ) (interval : Float) (start : Run σ) (n : Nat) (shown : Run σ) :
    Prop where
  step : ∃ run, Rounds host interval start n run ∧ step host (run.timed host) = .ok () shown
  live : shown.player.finished = false

/-- Rounds can be divided at every moment. -/
theorem Rounds.split {m n : Nat} (h : Rounds host interval start (m + n) run) :
    ∃ middle, Rounds host interval start m middle ∧ Rounds host interval middle n run := by
  induction n generalizing run with
  | zero => exact ⟨run, h, .none⟩
  | succ n ih =>
    cases h with
    | more hrounds hround =>
      obtain ⟨middle, hfirst, hrest⟩ := ih hrounds
      exact ⟨middle, hfirst, .more hrest hround⟩

private theorem play_succ (limit ticks : Nat) (run : Run σ) :
    play host interval (limit + 1) ticks run =
      match round host interval run with
      | .ok true next => play host interval limit (ticks + 1) next
      | .ok false last =>
        .ok (some (ticks + 1)) ⟨last.player, noted host [.playbackEnded (ticks + 1)] last.world⟩
      | .error failure after => .error failure after := by
  have hread : readClock host run = .ok (host.now run.world).1 (run.timed host) := rfl
  rw [play, bind_of_eq_ok hread, round_eq_bind]
  cases htick : tick host (run.timed host) with
  | error failure after => rw [bind_of_eq_error htick, bind_of_eq_error htick]
  | ok goesOn ticked =>
    rw [bind_of_eq_ok htick, bind_of_eq_ok htick]
    cases goesOn with
    | false => rfl
    | true =>
      rw [if_pos rfl, if_pos rfl, bind_of_eq_ok (padTick_eq_ok _ _),
        bind_of_eq_ok (padTick_eq_ok _ _)]
      rfl

/-- Playback that has gone on for some rounds does what playback from there does. -/
theorem Rounds.play_eq {n : Nat} (h : Rounds host interval start n run) (limit ticks : Nat) :
    play host interval (n + limit) ticks start = play host interval limit (ticks + n) run := by
  induction h generalizing limit with
  | none => rw [Nat.zero_add, Nat.add_zero]
  | @more n run next hrounds hround ih =>
    have hlimit : n + 1 + limit = n + (limit + 1) := by omega
    rw [hlimit, ih, play_succ, hround, ← Nat.add_assoc]

inductive PlayOutcome (host : Host σ) (interval : Float) (start : Run σ) (limit : Nat) :
    EStateM.Result Failure (Run σ) (Option Nat) → Prop
  | isCut {run : Run σ} (hrounds : Rounds host interval start limit run) :
      PlayOutcome host interval start limit (.ok none run)
  | returns {n : Nat} {run last : Run σ} (hn : n < limit)
      (hrounds : Rounds host interval start n run)
      (hround : round host interval run = .ok false last) :
      PlayOutcome host interval start limit
        (.ok (some (n + 1)) ⟨last.player, noted host [.playbackEnded (n + 1)] last.world⟩)
  | fails {n : Nat} {run after : Run σ} {failure : Failure} (hn : n < limit)
      (hrounds : Rounds host interval start n run)
      (hround : round host interval run = .error failure after) :
      PlayOutcome host interval start limit (.error failure after)

def ticks? : EStateM.Result Failure (Run σ) (Option Nat) → Option Nat
  | .ok ticks _ => ticks
  | .error _ _ => none

def outcomeRun : EStateM.Result Failure (Run σ) (Option Nat) → Run σ
  | .ok _ run | .error _ run => run

theorem exists_of_ticks? {result : EStateM.Result Failure (Run σ) (Option Nat)} {ticks : Nat}
    (h : ticks? result = some ticks) : ∃ final, result = .ok (some ticks) final := by
  cases result with
  | ok ticks' final =>
    cases h
    exact ⟨final, rfl⟩
  | error failure final => cases h

theorem PlayOutcome.eq {limit : Nat} {result : EStateM.Result Failure (Run σ) (Option Nat)}
    (h : PlayOutcome host interval start limit result) :
    play host interval limit 0 start = result := by
  cases h with
  | isCut hrounds => exact hrounds.play_eq 0 0
  | returns hn hrounds hround =>
    obtain ⟨more, rfl⟩ := Nat.exists_eq_add_of_lt hn
    rw [Nat.add_assoc, hrounds.play_eq, play_succ, hround, Nat.zero_add]
  | fails hn hrounds hround =>
    obtain ⟨more, rfl⟩ := Nat.exists_eq_add_of_lt hn
    rw [Nat.add_assoc, hrounds.play_eq, play_succ, hround]

theorem play_outcome (host : Host σ) (interval : Float) (limit : Nat) (start : Run σ) :
    PlayOutcome host interval start limit (play host interval limit 0 start) := by
  suffices h : ∃ result, PlayOutcome host interval start limit result by
    obtain ⟨result, houtcome⟩ := h
    rwa [houtcome.eq]
  induction limit with
  | zero => exact ⟨_, .isCut .none⟩
  | succ limit ih =>
    obtain ⟨result, houtcome⟩ := ih
    cases houtcome with
    | returns hn hrounds hround => exact ⟨_, .returns (Nat.lt_succ_of_lt hn) hrounds hround⟩
    | fails hn hrounds hround => exact ⟨_, .fails (Nat.lt_succ_of_lt hn) hrounds hround⟩
    | @isCut run hrounds =>
      cases hround : round host interval run with
      | error failure after => exact ⟨_, .fails (Nat.lt_succ_self limit) hrounds hround⟩
      | ok goesOn next =>
        cases goesOn with
        | false => exact ⟨_, .returns (Nat.lt_succ_self limit) hrounds hround⟩
        | true => exact ⟨_, .isCut (.more hrounds hround)⟩

end Run
end StoryPlayer
