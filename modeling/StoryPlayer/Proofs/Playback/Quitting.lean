import StoryPlayer.Proofs.Playback.Consistency

/-!
# What a quit leaves

A quit ends playback in every phase and drops what is under way: a text that is revealed in part,
and an answer that is typed or even submitted but not stored yet. Nothing brings it back, since no
operation changes a finished player.
-/

namespace StoryPlayer
namespace Player

variable {p : Player} {op : Operation}

/-- All that is under way in `p` is dropped in `last`, and all that is done or still to come is
kept. -/
structure Discards (p last : Player) : Prop where
  phase : last.phase = .finished
  deaf : last.Deaf
  silent : last.Silent
  answers : last.answers = p.answers
  output : last.output = p.output
  upcoming : last.upcoming = p.upcoming
  charDuration : last.charDuration = p.charDuration
  startedAt : last.startedAt = p.startedAt

private theorem discards_stopped (p : Player) : Discards p p.stopped where
  phase := rfl
  deaf := ⟨rfl, rfl, rfl⟩
  silent := ⟨rfl, rfl⟩
  answers := rfl
  output := rfl
  upcoming := rfl
  charDuration := rfl
  startedAt := rfl

/-- No operation on a finished player fails or changes it, and so no sequence of them does. -/
private theorem forM_act_of_finished (hphase : p.phase = .finished) (ops : List Operation) :
    ops.forM Operation.act p = .ok () p := by
  induction ops with
  | nil => rfl
  | cons op ops ih =>
    change EStateM.bind op.act (fun _ => ops.forM Operation.act) p = _
    rwa [EStateM.bind, act_of_finished hphase op]

/-- A quit of a player that is not finished, by call or by key, never fails. It drops what is under
way and keeps the answers, the output and the rest of the story, and whatever is done to the player
afterwards leaves every field as it is. -/
theorem quit_discards_for_good (hphase : p.phase ≠ .finished) (hop : op.isQuit) :
    ∃ last, op.act p = .ok () last ∧ Discards p last ∧
      ∀ more : List Operation, more.forM Operation.act last = .ok () last := by
  have hact : op.act p = .ok () p.stopped := (act_of_isQuit hop).trans (stop_of_ne hphase)
  exact ⟨p.stopped, hact, discards_stopped p, forM_act_of_finished rfl⟩

/-- An answer is submitted and the next step would store it, but a quit comes first. -/
theorem quit_discards_for_good_of_submitted :
    ∃ p, new [.text ['t'], .input ['n'], .text ['u']] 0.5 ⟨[]⟩ = .ok p ∧
      let asked := p.run [.step 0.0, .step 0.5, .step 0.5, .press (.ofChar 'x'), .press .enter]
      asked.phase = .committing ∧ asked.inputBuffer = ['x'] ∧
      ∃ last, Operation.act (.press .quit) asked = .ok () last ∧ Discards asked last ∧
        last.answers = ⟨[]⟩ ∧ last.output = [['t']] ∧
        [.step 0.5, .press .enter, .step 1.0, .quit].forM Operation.act last = .ok () last := by
  have hnew : new [.text ['t'], .input ['n'], .text ['u']] 0.5 ⟨[]⟩ =
      .ok { upcoming := [.text ['t'], .input ['n'], .text ['u']], charDuration := 0.5,
            answers := ⟨[]⟩ } := by
    rw [new, if_neg (by decide)]
  refine ⟨_, hnew, ?_⟩
  intro asked
  have hphase : asked.phase = .committing := by decide +kernel
  have hquit : (Operation.press .quit).isQuit := rfl
  have hlive : asked.phase ≠ .finished := by simp [hphase]
  obtain ⟨last, hact, hdiscards, hmore⟩ := quit_discards_for_good hlive hquit
  have hanswers : asked.answers = ⟨[]⟩ := by decide +kernel
  have houtput : asked.output = [['t']] := by decide +kernel
  exact ⟨hphase, by decide +kernel, last, hact, hdiscards, hdiscards.answers.trans hanswers,
    hdiscards.output.trans houtput, hmore _⟩

end Player
end StoryPlayer
