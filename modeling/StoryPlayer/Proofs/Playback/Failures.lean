import StoryPlayer.Playback.Failure
import StoryPlayer.Proofs.Number.Finite
import StoryPlayer.Proofs.Playback.Moves

/-!
# Failures of a player

An action changes a player field by field, and the signal that moves it to the next phase comes
last. Still no player is left half changed, not even one whose fields do not fit its phase: an
action fails only before its first change. Here the reasons to fail are given by the clock and the
fields alone.
-/

namespace StoryPlayer
namespace Player

variable {p left : Player} {now : Float} {op : Operation} {error : StepError}

/-- An operation fails just for a reason to fail, and changes nothing then. -/
theorem act_eq_error_iff : op.act p = .error error left ↔ left = p ∧ Fails p op error := by
  constructor
  · intro herror
    have houtcome := outcome_act op p
    rw [herror] at houtcome
    cases houtcome with
    | failed hfails => exact ⟨rfl, hfails⟩
  · rintro ⟨rfl, hfails⟩
    exact act_of_fails hfails

private theorem fails_step_iff :
    Fails p (.step now) error ↔
      p.phase = .revealing ∧ (p.elapsed now / p.charDuration).isNaN = true ∧
          error = .reveal .undefined ∨
        p.phase = .revealing ∧ (p.elapsed now / p.charDuration).isInf = true ∧
          error = .reveal .infinite ∨
        p.phase = .committing ∧ p.label = none ∧ error = .noLabel := by
  constructor
  · intro hfails
    cases hfails with
    | uncounted hphase hcount =>
      rw [paceCount, wholePart_eq_error_iff] at hcount
      obtain ⟨hpace, rfl⟩ | ⟨hpace, rfl⟩ := hcount
      · exact .inl ⟨hphase, hpace, rfl⟩
      · exact .inr (.inl ⟨hphase, hpace, rfl⟩)
    | unlabelled hphase hlabel => exact .inr (.inr ⟨hphase, hlabel, rfl⟩)
  · rintro (⟨hphase, hpace, rfl⟩ | ⟨hphase, hpace, rfl⟩ | ⟨hphase, hlabel, rfl⟩)
    · exact .uncounted hphase ((wholePart_eq_error_iff _ _).mpr (.inl ⟨hpace, rfl⟩))
    · exact .uncounted hphase ((wholePart_eq_error_iff _ _).mpr (.inr ⟨hpace, rfl⟩))
    · exact .unlabelled hphase hlabel

/-- The reasons for a step to fail, by the kind of failure that they give. -/
private theorem exists_fails_step_iff {kind : String} :
    (∃ error, Fails p (.step now) error ∧ (Failure.step error).kind = kind) ↔
      p.phase = .revealing ∧ (p.elapsed now / p.charDuration).isNaN = true ∧ kind = "ValueError" ∨
      p.phase = .revealing ∧ (p.elapsed now / p.charDuration).isInf = true ∧
        kind = "OverflowError" ∨
      p.phase = .committing ∧ p.label = none ∧ kind = "RuntimeError" := by
  constructor
  · rintro ⟨error, hfails, rfl⟩
    obtain ⟨hphase, hpace, rfl⟩ | ⟨hphase, hpace, rfl⟩ | ⟨hphase, hlabel, rfl⟩ :=
      fails_step_iff.mp hfails
    · exact .inl ⟨hphase, hpace, rfl⟩
    · exact .inr (.inl ⟨hphase, hpace, rfl⟩)
    · exact .inr (.inr ⟨hphase, hlabel, rfl⟩)
  · rintro (⟨hphase, hpace, rfl⟩ | ⟨hphase, hpace, rfl⟩ | ⟨hphase, hlabel, rfl⟩)
    · exact ⟨_, fails_step_iff.mpr (.inl ⟨hphase, hpace, rfl⟩), rfl⟩
    · exact ⟨_, fails_step_iff.mpr (.inr (.inl ⟨hphase, hpace, rfl⟩)), rfl⟩
    · exact ⟨_, fails_step_iff.mpr (.inr (.inr ⟨hphase, hlabel, rfl⟩)), rfl⟩

private theorem exists_act_of_not_fails (hop : ∀ error, ¬ Fails p op error) :
    ∃ p', op.act p = .ok () p' := by
  obtain ⟨p', hact, -⟩ | ⟨error, -, -, hfails⟩ := apply_cases op p
  · exact ⟨p', hact⟩
  · exact absurd hfails (hop error)

/-- A player in any state, at any clock reading: a step fails just if it is to reveal text and the
time since the reveal began, over the time for each character, is no number or is infinite, or if
it is to store an answer without a label. A failed step leaves the whole player as it was, and
neither a key nor a quit fails. -/
theorem operations_fail_without_effect (p : Player) (now : Float) :
    (∀ kind, (∃ error left, takeStep now p = .error error left ∧
        (Failure.step error).kind = kind) ↔
      p.phase = .revealing ∧ (p.elapsed now / p.charDuration).isNaN = true ∧ kind = "ValueError" ∨
      p.phase = .revealing ∧ (p.elapsed now / p.charDuration).isInf = true ∧
        kind = "OverflowError" ∨
      p.phase = .committing ∧ p.label = none ∧ kind = "RuntimeError") ∧
    (∀ error left, takeStep now p = .error error left → left = p) ∧
    (∀ key, ∃ p', takeKey key p = .ok () p') ∧ ∃ p', stop p = .ok () p' := by
  have hstep (error : StepError) (left : Player) :
      takeStep now p = .error error left ↔ left = p ∧ Fails p (.step now) error := by
    rw [← act_eq_error_iff, Operation.act]
  refine ⟨fun kind => ?_, fun error left h => ((hstep error left).mp h).1, fun key => ?_, ?_⟩
  · rw [← exists_fails_step_iff]
    constructor
    · rintro ⟨error, left, herror, hkind⟩
      exact ⟨error, ((hstep error left).mp herror).2, hkind⟩
    · rintro ⟨error, hfails, hkind⟩
      exact ⟨error, p, (hstep error p).mpr ⟨rfl, hfails⟩, hkind⟩
  · have hkey : ∀ error, ¬ Fails p (.press key) error := by
      intro error hfails
      cases hfails
    exact exists_act_of_not_fails hkey
  · have hquit : ∀ error, ¬ Fails p .quit error := by
      intro error hfails
      cases hfails
    exact exists_act_of_not_fails hquit

/-- A player that no operation leads to: it reveals a text at an infinite clock reading while a
question is open. -/
theorem operations_fail_without_effect_of_endless_clock :
    let p : Player :=
      { upcoming := [.clear], charDuration := 0.5, answers := ⟨[]⟩, phase := .revealing,
        mode := .awaitingInput, response := ['a', 'b'], revealed := -1, inputBuffer := ['c'],
        output := [['d']] }
    ∃ error left, takeStep (1.0 / 0.0) p = .error error left ∧
      (Failure.step error).kind = "OverflowError" ∧ left = p := by
  intro p
  obtain ⟨hkinds, hleft, -⟩ := operations_fail_without_effect p (1.0 / 0.0)
  obtain ⟨error, left, herror, hkind⟩ :=
    (hkinds "OverflowError").mpr (.inr (.inl ⟨rfl, by decide +kernel, rfl⟩))
  exact ⟨error, left, herror, hkind, hleft error left herror⟩

end Player
end StoryPlayer
