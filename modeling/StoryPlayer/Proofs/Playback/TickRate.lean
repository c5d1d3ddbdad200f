import StoryPlayer.Proofs.Playback.Moves

/-!
# Reveals at any rate of ticks

Each step of a reveal counts the characters afresh, from the clock and from when the reveal began.
So all that happens in the middle of a reveal leaves no trace but the last count, and the next step
that succeeds writes over it: ticking more often shows more of the way, and changes nothing about
where it leads.
-/

namespace StoryPlayer
namespace Player

variable {p : Player} {ops : List Operation} {now : Float}

/-- Operations that a reveal outlasts: steps that do not complete it, be it that they fail, and keys
that do not quit. -/
inductive Lingers : Player → List Operation → Prop where
  | nil {p : Player} : Lingers p []
  | step {p : Player} {now : Float} {ops : List Operation}
      (hphase : (p.after (.step now)).phase = .revealing)
      (hops : Lingers (p.after (.step now)) ops) : Lingers p (.step now :: ops)
  | press {p : Player} {key : Key} {ops : List Operation} (hkey : key.kind ≠ .quit)
      (hops : Lingers (p.after (.press key)) ops) : Lingers p (.press key :: ops)

/-- The same result, but a failure leaves the given count of revealed characters. -/
def failingAt (count : Int) :
    EStateM.Result StepError Player Unit → EStateM.Result StepError Player Unit
  | .ok _ p => .ok () p
  | .error error p => .error error { p with revealed := count }

private theorem after_step (hphase : p.phase = .revealing)
    (hleft : (p.after (.step now)).phase = .revealing) :
    ∃ count, p.after (.step now) = { p with revealed := count } := by
  rw [after, Operation.act, takeStep_of_revealing hphase] at hleft ⊢
  cases hcount : p.paceCount now with
  | error cause =>
    rw [advanceReveal_of_uncounted hcount]
    exact ⟨p.revealed, rfl⟩
  | ok count =>
    by_cases hle : p.response.length ≤ count
    · rw [advanceReveal_of_le hphase hcount hle] at hleft
      cases hleft
    · rw [advanceReveal_of_lt hcount (Nat.lt_of_not_le hle)]
      exact ⟨count, rfl⟩

/-- Whatever a reveal outlasts changes the count of revealed characters and nothing else. -/
theorem Lingers.run (hops : Lingers p ops) (hphase : p.phase = .revealing) :
    ∃ count, p.run ops = { p with revealed := count } := by
  induction hops with
  | nil => exact ⟨_, rfl⟩
  | step hleft _ ih =>
    obtain ⟨count, hcount⟩ := after_step hphase hleft
    obtain ⟨last, hlast⟩ := ih hleft
    refine ⟨last, ?_⟩
    rw [Player.run, List.foldl_cons, ← Player.run, hlast, hcount]
  | @press p key _ hkey _ ih =>
    have hsame : p.after (.press key) = p := after_press_of_ne (by simp [hphase]) hkey
    rw [hsame] at ih
    rw [Player.run, List.foldl_cons, hsame]
    exact ih hphase

/-- A step of a reveal writes over the count that it finds, unless it fails. -/
theorem takeStep_revealed (hphase : p.phase = .revealing) (count : Int) :
    takeStep now { p with revealed := count } = failingAt count (takeStep now p) := by
  let q : Player := { p with revealed := count }
  have hq : q.phase = .revealing := hphase
  have hpace : q.paceCount now = p.paceCount now := rfl
  rw [takeStep_of_revealing hphase, show takeStep now q = _ from takeStep_of_revealing hq]
  cases hcount : p.paceCount now with
  | error cause =>
    rw [advanceReveal_of_uncounted hcount, advanceReveal_of_uncounted (hpace.trans hcount)]
    rfl
  | ok total =>
    by_cases hle : p.response.length ≤ total
    · rw [advanceReveal_of_le hphase hcount hle,
        advanceReveal_of_le hq (hpace.trans hcount) hle]
      rfl
    · have hlt : total < p.response.length := Nat.lt_of_not_le hle
      rw [advanceReveal_of_lt hcount hlt, advanceReveal_of_lt (hpace.trans hcount) hlt]
      rfl

/-- In the middle of a reveal, whatever happens that does not end it and however often: a step then
gives what it would have given at once, the whole player or the error. Only a step that fails does
not write over the count that was reached on the way. -/
theorem reveal_at_any_tick_rate (hphase : p.phase = .revealing) (hops : Lingers p ops)
    (now : Float) :
    takeStep now (p.run ops) = failingAt (p.run ops).revealed (takeStep now p) := by
  obtain ⟨count, hcount⟩ := hops.run hphase
  rw [hcount]
  exact takeStep_revealed hphase count

/-- A reveal of three characters, half a second each, that begins in the tenth second. -/
def threeCharacters : Player :=
  { upcoming := [.pause], charDuration := 0.5, answers := ⟨[]⟩, phase := .revealing,
    response := ['a', 'b', 'c'], startedAt := 10.0 }

/-- Two characters are revealed by a clock that gives no count in between and once runs backwards,
while keys are pressed. -/
def unsteadyTicks : List Operation :=
  [.step 10.6, .press (.ofChar 'x'), .step (1.0 / 0.0), .step 3.0, .press .enter, .step 11.2]

private theorem lingers_unsteadyTicks : Lingers threeCharacters unsteadyTicks := by
  refine .step (by decide +kernel) (.press (by decide) (.step (by decide +kernel) ?_))
  exact .step (by decide +kernel) (.press (by decide) (.step (by decide +kernel) .nil))

theorem reveal_at_any_tick_rate_of_unsteady_clock :
    (∃ p, new [.text ['a', 'b', 'c'], .pause] 0.5 ⟨[]⟩ = .ok p ∧
      p.after (.step 10.0) = threeCharacters) ∧
    Lingers threeCharacters unsteadyTicks ∧ (threeCharacters.run unsteadyTicks).revealed = 2 ∧
    (∃ p', takeStep 11.5 (threeCharacters.run unsteadyTicks) = .ok () p' ∧
      takeStep 11.5 threeCharacters = .ok () p') ∧
    takeStep (1.0 / 0.0) (threeCharacters.run unsteadyTicks) =
      .error (.reveal .infinite) { threeCharacters with revealed := 2 } := by
  have hnew : new [.text ['a', 'b', 'c'], .pause] 0.5 ⟨[]⟩ =
      .ok { upcoming := [.text ['a', 'b', 'c'], .pause], charDuration := 0.5,
            answers := ⟨[]⟩ } := by
    rw [new, if_neg (by decide)]
  have hphase : threeCharacters.phase = .revealing := rfl
  have hrevealed : (threeCharacters.run unsteadyTicks).revealed = 2 := by decide +kernel
  have hfull : threeCharacters.paceCount 11.5 = .ok 3 := by rfl
  have hlast : takeStep 11.5 threeCharacters = _ :=
    (takeStep_of_revealing hphase).trans (advanceReveal_of_le hphase hfull (by decide))
  have hendless : threeCharacters.paceCount (1.0 / 0.0) = .error .infinite := by rfl
  have hfails : takeStep (1.0 / 0.0) threeCharacters = _ :=
    (takeStep_of_revealing hphase).trans (advanceReveal_of_uncounted hendless)
  refine ⟨⟨_, hnew, rfl⟩, lingers_unsteadyTicks, hrevealed, ⟨_, ?_, hlast⟩, ?_⟩
  · rw [reveal_at_any_tick_rate hphase lingers_unsteadyTicks, hlast]
    rfl
  · rw [reveal_at_any_tick_rate hphase lingers_unsteadyTicks, hfails, hrevealed]
    rfl

end Player
end StoryPlayer
