import StoryPlayer.Proofs.Playback.Moves

/-!
# Consistency of a player

In each phase only some of a player's fields are in use. A player that is `Consistent` holds nothing
in the others, and every operation keeps it so. It follows that an operation fails only where the
clock gives no count of characters.
-/

namespace StoryPlayer
namespace Player

/-- No key but the quit key means anything, and no question is open. -/
structure Deaf (p : Player) : Prop where
  mode : p.mode = .disabled
  label : p.label = none
  inputBuffer : p.inputBuffer = []

structure Silent (p : Player) : Prop where
  response : p.response = []
  revealed : p.revealed = 0

/-- A text is revealed in part only; of an empty text nothing is left to reveal. -/
structure Midway (p : Player) : Prop where
  nonneg : 0 ≤ p.revealed
  incomplete : p.revealed < p.response.length ∨ p.revealed = 0 ∧ p.response.length = 0

structure Asking (p : Player) : Prop where
  mode : p.mode = .awaitingInput
  label : ∃ label, p.label = some label

structure Pausing (p : Player) : Prop where
  mode : p.mode = .awaitingAnyKey
  label : p.label = none
  inputBuffer : p.inputBuffer = []

/-- The fields of the player are as the phase needs them. -/
def Fits (p : Player) : Phase → Prop
  | .updating | .finished => p.Deaf ∧ p.Silent
  | .revealing => p.Deaf ∧ p.Midway
  | .waiting => p.Silent ∧ (p.Asking ∨ p.Pausing)
  | .committing => p.Silent ∧ p.Asking

def Consistent (p : Player) : Prop := p.Fits p.phase

variable {p p' : Player} {op : Operation}

theorem Consistent.fits {phase : Phase} (hp : p.Consistent) (h : p.phase = phase) :
    p.Fits phase := h ▸ hp

private theorem Consistent.of_fits {phase : Phase} (h : p.phase = phase) (hp : p.Fits phase) :
    p.Consistent := by
  rw [Consistent, h]
  exact hp

theorem Asking.of_mode (h : p.Asking ∨ p.Pausing) (hmode : p.mode = .awaitingInput) : p.Asking := by
  obtain hasking | hpausing := h
  · exact hasking
  · have := hpausing.mode.symm.trans hmode
    contradiction

theorem Pausing.of_mode (h : p.Asking ∨ p.Pausing) (hmode : p.mode = .awaitingAnyKey) :
    p.Pausing := by
  obtain hasking | hpausing := h
  · have := hasking.mode.symm.trans hmode
    contradiction
  · exact hpausing

theorem consistent_new {story : Story} {charDuration : Float} {answers : Answers}
    (h : new story charDuration answers = .ok p) : p.Consistent := by
  rw [eq_of_new h]
  exact ⟨⟨rfl, rfl, rfl⟩, ⟨rfl, rfl⟩⟩

theorem consistent_move (hmove : Move p op p') (hp : p.Consistent) : p'.Consistent := by
  cases hmove with
  | @opensText _ _ _ content hphase =>
    obtain ⟨hdeaf, -⟩ := hp.fits hphase
    -- An empty text is open until the next step, with nothing of it left to reveal.
    have hincomplete : (0 : Int) < content.length ∨ (0 : Int) = 0 ∧ content.length = 0 := by omega
    exact ⟨⟨rfl, hdeaf.label, hdeaf.inputBuffer⟩, ⟨Int.le_refl 0, hincomplete⟩⟩
  | asks hphase =>
    obtain ⟨-, hsilent⟩ := hp.fits hphase
    exact ⟨⟨hsilent.response, hsilent.revealed⟩, .inl ⟨rfl, _, rfl⟩⟩
  | pauses hphase =>
    obtain ⟨hdeaf, hsilent⟩ := hp.fits hphase
    exact ⟨⟨hsilent.response, hsilent.revealed⟩, .inr ⟨rfl, hdeaf.label, hdeaf.inputBuffer⟩⟩
  | ends hphase =>
    obtain ⟨hdeaf, hsilent⟩ := hp.fits hphase
    exact ⟨⟨hdeaf.mode, hdeaf.label, hdeaf.inputBuffer⟩, ⟨hsilent.response, hsilent.revealed⟩⟩
  | reveals hphase _ hlt =>
    obtain ⟨hdeaf, -⟩ := hp.fits hphase
    refine .of_fits hphase ⟨⟨hdeaf.mode, hdeaf.label, hdeaf.inputBuffer⟩, ?_⟩
    exact ⟨Int.natCast_nonneg _, .inl (Int.ofNat_lt.mpr hlt)⟩
  | logs hphase =>
    obtain ⟨hdeaf, -⟩ := hp.fits hphase
    exact ⟨⟨hdeaf.mode, hdeaf.label, hdeaf.inputBuffer⟩, ⟨rfl, rfl⟩⟩
  | commits hphase =>
    obtain ⟨hsilent, -⟩ := hp.fits hphase
    exact ⟨⟨rfl, rfl, rfl⟩, ⟨hsilent.response, hsilent.revealed⟩⟩
  | waits => exact hp
  | types hphase hmode =>
    obtain ⟨hsilent, hkeys⟩ := hp.fits hphase
    have hasking := Asking.of_mode hkeys hmode
    exact .of_fits hphase ⟨⟨hsilent.response, hsilent.revealed⟩, .inl ⟨hmode, hasking.label⟩⟩
  | submits hphase hmode =>
    obtain ⟨hsilent, hkeys⟩ := hp.fits hphase
    have hasking := Asking.of_mode hkeys hmode
    exact ⟨⟨hsilent.response, hsilent.revealed⟩, ⟨hmode, hasking.label⟩⟩
  | resumes hphase hmode =>
    obtain ⟨hsilent, hkeys⟩ := hp.fits hphase
    have hpausing := Pausing.of_mode hkeys hmode
    exact ⟨⟨rfl, hpausing.label, hpausing.inputBuffer⟩, ⟨hsilent.response, hsilent.revealed⟩⟩
  | ignores => exact hp
  | quits => exact ⟨⟨rfl, rfl, rfl⟩, ⟨rfl, rfl⟩⟩
  | isOver => exact hp

theorem Consistent.after (hp : p.Consistent) (op : Operation) : (p.after op).Consistent := by
  obtain hsame | hmove := p.after_eq_or_move op
  · rwa [hsame]
  · exact consistent_move hmove hp

theorem Consistent.run (hp : p.Consistent) (ops : List Operation) : (p.run ops).Consistent :=
  run_induction hp consistent_move ops

private theorem label_iff_of_none (hlabel : p.label = none) (hmode : p.mode ≠ .awaitingInput) :
    p.label.isSome ↔ p.mode = .awaitingInput := by
  simp [hlabel, hmode]

private theorem Deaf.label_iff (h : p.Deaf) : p.label.isSome ↔ p.mode = .awaitingInput :=
  label_iff_of_none h.label (by simp [h.mode])

private theorem Asking.label_iff (h : p.Asking) : p.label.isSome ↔ p.mode = .awaitingInput := by
  obtain ⟨hmode, label, hlabel⟩ := h
  simp [hmode, hlabel]

theorem Consistent.label_iff (hp : p.Consistent) : p.label.isSome ↔ p.mode = .awaitingInput := by
  cases hphase : p.phase with
  | updating => exact (hp.fits hphase).1.label_iff
  | revealing => exact (hp.fits hphase).1.label_iff
  | waiting =>
    obtain ⟨-, hasking | hpausing⟩ := hp.fits hphase
    · exact hasking.label_iff
    · exact label_iff_of_none hpausing.label (by simp [hpausing.mode])
  | committing => exact (hp.fits hphase).2.label_iff
  | finished => exact (hp.fits hphase).1.label_iff

/-- A consistent player fails at an operation only if the operation is a step in the middle of a
text and the clock gives no count. -/
theorem Consistent.apply_eq_error_iff (hp : p.Consistent) (error : StepError) :
    op.apply p = .error error ↔
      ∃ now cause, op = .step now ∧ p.phase = .revealing ∧ p.paceCount now = .error cause ∧
        error = .reveal cause := by
  constructor
  · intro herror
    cases fails_of_apply herror with
    | uncounted hphase hcount => exact ⟨_, _, rfl, hphase, hcount, rfl⟩
    | unlabelled hphase hlabel =>
      obtain ⟨-, -, label, hsome⟩ := hp.fits hphase
      have := hlabel.symm.trans hsome
      contradiction
  · rintro ⟨now, cause, rfl, hphase, hcount, rfl⟩
    exact apply_of_act_error (act_of_fails (.uncounted hphase hcount))

/-- A consistent player moves at every operation, unless the clock gives no count. -/
theorem Consistent.after_cases (hp : p.Consistent) (op : Operation) :
    Move p op (p.after op) ∨
      ∃ now cause, op = .step now ∧ p.phase = .revealing ∧ p.paceCount now = .error cause ∧
        p.after op = p := by
  obtain ⟨p', hact, -, hmove⟩ | ⟨error, hact, happly, -⟩ := apply_cases op p
  · rw [after_of_act hact]
    exact .inl hmove
  · obtain ⟨now, cause, hop, hphase, hcount, -⟩ := (hp.apply_eq_error_iff error).mp happly
    exact .inr ⟨now, cause, hop, hphase, hcount, after_of_act_error hact⟩

/-- However a new player is operated, its fields fit its phase, a label is set just while an answer
is typed, no signal is refused and no answer is without a label. -/
theorem run_consistent {story : Story} {charDuration : Float} {answers : Answers}
    (hnew : new story charDuration answers = .ok p) (ops : List Operation) :
    (p.run ops).Consistent ∧
      ((p.run ops).label.isSome ↔ (p.run ops).mode = .awaitingInput) ∧
      ∀ (op : Operation) (error : StepError), op.apply (p.run ops) = .error error ↔
        ∃ now cause, op = .step now ∧ (p.run ops).phase = .revealing ∧
          (p.run ops).paceCount now = .error cause ∧ error = .reveal cause := by
  have hconsistent : (p.run ops).Consistent := (consistent_new hnew).run ops
  exact ⟨hconsistent, hconsistent.label_iff, fun _ => hconsistent.apply_eq_error_iff⟩

theorem run_consistent_of_question :
    ∃ p p', new [.text [], .input ['n']] 0.5 ⟨[]⟩ = .ok p ∧
      p.run [.step 0.0, .step 0.0, .step 0.0, .press (.ofChar 'x'), .press .enter] = p' ∧
      p'.phase = .committing ∧ p'.Consistent := by
  have hnew : new [.text [], .input ['n']] 0.5 ⟨[]⟩ =
      .ok { upcoming := [.text [], .input ['n']], charDuration := 0.5, answers := ⟨[]⟩ } := by
    rw [new, if_neg (by decide)]
  exact ⟨_, _, hnew, rfl, by decide +kernel, (run_consistent hnew _).1⟩

end Player
end StoryPlayer
