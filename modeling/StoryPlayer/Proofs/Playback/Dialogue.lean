import Mathlib.Data.List.ModifyLast
import Mathlib.Data.List.TakeWhile
import StoryPlayer.Proofs.Playback.Consistency
import StoryPlayer.Proofs.Playback.Progress

/-!
# The dialogue of a player

A run of a player is a dialogue: questions are asked in the order of the story, and keys are pressed
at them. The dialogue is kept beside the player, as a list of exchanges, and is read off from the
operations alone. What the player has stored is what the keys of the finished exchanges type.
-/

namespace StoryPlayer

def Event.label? : Event → Option Text
  | input label => some label
  | text _ | pause | clear => none

def Story.labels (story : Story) : List Text := story.filterMap Event.label?

theorem Story.labels_append (story more : Story) :
    Story.labels (story ++ more) = Story.labels story ++ Story.labels more :=
  List.filterMap_append

theorem Story.labels_eq_nil_of_clears {clears : Story} (hclears : ∀ e ∈ clears, e = .clear) :
    Story.labels clears = [] := by
  rw [Story.labels, List.filterMap_eq_nil_iff]
  intro e he
  rw [hclears e he]
  rfl

/-- The answer that keys type, up to the first key that submits it. -/
def typedBy (keys : List Key) : Text :=
  (keys.takeWhile (·.kind != .enter)).foldl (fun answer key => key.edit answer) []

private theorem typedBy_concat {keys : List Key} (hkeys : ∀ key ∈ keys, key.kind ≠ .enter)
    (key : Key) :
    typedBy (keys ++ [key]) =
      if key.kind = .enter then typedBy keys else key.edit (typedBy keys) := by
  have hall : ∀ key ∈ keys, (key.kind != .enter) = true := by simpa using hkeys
  have hself : keys.takeWhile (·.kind != .enter) = keys := List.takeWhile_eq_self_iff.mpr hall
  rw [typedBy, typedBy, List.takeWhile_append_of_pos hall, hself]
  by_cases hkey : key.kind = .enter
  · simp [hkey]
  · simp [hkey]

/-- A question that was asked, and the keys pressed while it waited for its answer. -/
structure Exchange where
  label : Text
  keys : List Key
deriving Repr, DecidableEq

namespace Exchange

def hear (key : Key) (exchange : Exchange) : Exchange :=
  { exchange with keys := exchange.keys ++ [key] }

def store (answers : Answers) (exchange : Exchange) : Answers :=
  answers.insert exchange.label (typedBy exchange.keys)

end Exchange

namespace Player

/-- The label of the question that waits for its answer, if one does. -/
def question (p : Player) : Option Text :=
  if p.phase = .waiting ∧ p.mode = .awaitingInput then p.label else none

/-- The dialogue after an operation that led from `p` to `p'`. A key counts if a question waits for
its answer; a question that did not wait before opens an exchange. -/
def listen (p p' : Player) (op : Operation) (dialogue : List Exchange) : List Exchange :=
  if op.isQuit then dialogue
  else
    match p.question, op with
    | some _, .press key => dialogue.modifyLast (·.hear key)
    | some _, _ => dialogue
    | none, _ => dialogue ++ p'.question.toList.map (⟨·, []⟩)

/-- The dialogue of a run, after the given one. -/
def dialogue (p : Player) (before : List Exchange) : List Operation → List Exchange
  | [] => before
  | op :: ops => (p.after op).dialogue (p.listen (p.after op) op before) ops

def isCommit (p : Player) : Operation → Bool
  | .step _ => p.phase = .committing
  | .press _ | .quit => false

/-- How many answers the operations store. -/
def commits (p : Player) : List Operation → Nat
  | [] => 0
  | op :: ops => (p.isCommit op).toNat + (p.after op).commits ops

/-- What the dialogue so far says about a player that no quit cut off: which questions were asked,
which answers are stored, and what is typed at the question that has no answer yet. -/
structure Converses (story : Story) (initial : Answers) (dialogue : List Exchange) (stored : Nat)
    (p : Player) : Prop where
  asked : dialogue.map Exchange.label ++ Story.labels p.upcoming = Story.labels story
  answers : p.answers = (dialogue.take stored).foldl Exchange.store initial
  settled : p.label = none → dialogue.length = stored
  pending : ∀ label, p.label = some label → ∃ done keys, dialogue = done ++ [⟨label, keys⟩] ∧
    done.length = stored ∧ p.inputBuffer = typedBy keys ∧
    (p.phase = .waiting → ∀ key ∈ keys, key.kind ≠ .enter)

variable {p p' : Player} {op : Operation} {story : Story} {initial : Answers}
  {dialogue : List Exchange} {stored : Nat}

private theorem question_of_ne (h : p.phase ≠ .waiting) : p.question = none :=
  if_neg fun hp => h hp.1

private theorem question_of_mode (h : p.mode ≠ .awaitingInput) : p.question = none :=
  if_neg fun hp => h hp.2

private theorem question_of_asking (hphase : p.phase = .waiting) (hmode : p.mode = .awaitingInput) :
    p.question = p.label := if_pos ⟨hphase, hmode⟩

private theorem listen_of_isQuit (hop : op.isQuit) : p.listen p' op dialogue = dialogue :=
  if_pos hop

private theorem listen_step (now : Float) (h : p'.question = p.question ∨ p'.question = none) :
    p.listen p' (.step now) dialogue = dialogue := by
  unfold listen
  cases hquestion : p.question with
  | none => simp_all [Operation.isQuit]
  | some label => rfl

private theorem listen_press {key : Key} (hkey : key.kind ≠ .quit) (h : p.question = none)
    (h' : p'.question = none) : p.listen p' (.press key) dialogue = dialogue := by
  simp [listen, h, h', Operation.isQuit, hkey]

private theorem listen_asking {key : Key} {label : Text} (hkey : key.kind ≠ .quit)
    (h : p.question = some label) :
    p.listen p' (.press key) dialogue = dialogue.modifyLast (·.hear key) := by
  simp [listen, h, Operation.isQuit, hkey]

private theorem listen_of_finished (hphase : p.phase = .finished) (op : Operation) :
    p.listen p op dialogue = dialogue := by
  have hnone : p.question = none := question_of_ne (by simp [hphase])
  simp [listen, hnone]

private theorem isCommit_of_ne (hphase : p.phase ≠ .committing) (op : Operation) :
    p.isCommit op = false := by
  cases op with
  | step now => simpa [isCommit] using hphase
  | press key => rfl
  | quit => rfl

theorem converses_new {charDuration : Float} {answers : Answers}
    (h : new story charDuration answers = .ok p) : Converses story answers [] 0 p := by
  rw [eq_of_new h]
  exact ⟨rfl, rfl, fun _ => rfl, fun _ hlabel => by cases hlabel⟩

theorem Converses.stays (h : Converses story initial dialogue stored p)
    (hupcoming : Story.labels p'.upcoming = Story.labels p.upcoming)
    (hanswers : p'.answers = p.answers) (hlabel : p'.label = p.label)
    (hbuffer : p'.inputBuffer = p.inputBuffer) (hphase : p'.phase = .waiting → p.phase = .waiting) :
    Converses story initial dialogue stored p' where
  asked := by rw [hupcoming, h.asked]
  answers := by rw [hanswers, h.answers]
  settled := by rw [hlabel]; exact h.settled
  pending label hsome := by
    obtain ⟨done, keys, hdialogue, hdone, htyped, hkeys⟩ := h.pending label (hlabel ▸ hsome)
    exact ⟨done, keys, hdialogue, hdone, hbuffer.trans htyped, fun hw => hkeys (hphase hw)⟩

theorem Converses.asks (h : Converses story initial dialogue stored p) {label : Text}
    (hnone : p.label = none)
    (hupcoming : Story.labels p.upcoming = label :: Story.labels p'.upcoming)
    (hanswers : p'.answers = p.answers) (hlabel : p'.label = some label)
    (hbuffer : p'.inputBuffer = []) :
    Converses story initial (dialogue ++ [⟨label, []⟩]) stored p' where
  asked := by
    rw [← h.asked, hupcoming]
    simp
  answers := by
    have hlength := h.settled hnone
    rw [hanswers, h.answers, List.take_append_of_le_length (Nat.le_of_eq hlength.symm)]
  settled hlabel' := by simp [hlabel] at hlabel'
  pending other hother := by
    obtain rfl : label = other := Option.some.inj (hlabel.symm.trans hother)
    refine ⟨dialogue, [], rfl, h.settled hnone, hbuffer, ?_⟩
    intro _ key hkey
    exact absurd hkey List.not_mem_nil

private theorem Converses.hears (h : Converses story initial dialogue stored p) {label : Text}
    {key : Key} (hsome : p.label = some label) (hphase : p.phase = .waiting)
    (hupcoming : p'.upcoming = p.upcoming) (hanswers : p'.answers = p.answers)
    (hlabel : p'.label = some label)
    (hbuffer : p'.inputBuffer = if key.kind = .enter then p.inputBuffer else key.edit p.inputBuffer)
    (hwaits : p'.phase = .waiting → key.kind ≠ .enter) :
    Converses story initial (dialogue.modifyLast (·.hear key)) stored p' := by
  obtain ⟨done, keys, rfl, hdone, htyped, hkeys⟩ := h.pending label hsome
  have hkeys := hkeys hphase
  have hasked := h.asked
  have hstored := h.answers
  rw [List.take_append_of_le_length (Nat.le_of_eq hdone.symm)] at hstored
  rw [List.modifyLast_concat]
  refine ⟨?_, ?_, ?_, ?_⟩
  · rw [hupcoming, ← hasked]
    simp [Exchange.hear]
  · rw [hanswers, hstored, List.take_append_of_le_length (Nat.le_of_eq hdone.symm)]
  · intro hnone
    simp [hlabel] at hnone
  · intro other hother
    obtain rfl : label = other := Option.some.inj (hlabel.symm.trans hother)
    refine ⟨done, keys ++ [key], rfl, hdone, ?_, ?_⟩
    · rw [hbuffer, typedBy_concat hkeys, htyped]
    · intro hwaiting
      simpa [or_imp, forall_and] using ⟨hkeys, hwaits hwaiting⟩

theorem Converses.commits (h : Converses story initial dialogue stored p) {label : Text}
    (hsome : p.label = some label) (hupcoming : p'.upcoming = p.upcoming)
    (hanswers : p'.answers = p.answers.insert label p.inputBuffer) (hlabel : p'.label = none) :
    Converses story initial dialogue (stored + 1) p' := by
  obtain ⟨done, keys, rfl, hdone, htyped, -⟩ := h.pending label hsome
  have hasked := h.asked
  have hstored := h.answers
  rw [List.take_append_of_le_length (Nat.le_of_eq hdone.symm), List.take_of_length_le (by omega)]
    at hstored
  refine ⟨by rw [hupcoming, hasked], ?_, fun _ => by simp [hdone], fun _ hother => ?_⟩
  · rw [hanswers, hstored, htyped, List.take_of_length_le (by simp [hdone]), List.foldl_append]
    rfl
  · simp [hlabel] at hother

theorem converses_move (hmove : Move p op p') (hop : ¬ (op.isQuit ∧ p.phase ≠ .finished))
    (hp : p.Consistent) (h : Converses story initial dialogue stored p) :
    Converses story initial (p.listen p' op dialogue) (stored + (p.isCommit op).toNat) p' := by
  cases hmove with
  | opensText hphase hclears hnext =>
    rw [listen_step _ (.inr (question_of_ne (by simp))), isCommit, hphase]
    refine h.stays ?_ rfl rfl rfl (by simp)
    rw [hnext, Story.labels_append, Story.labels_eq_nil_of_clears hclears]
    rfl
  | @asks now clears rest label hphase hclears hnext =>
    obtain ⟨hdeaf, -⟩ := hp.fits hphase
    have hlisten : p.listen { p with
        phase := .waiting, upcoming := rest, output := clears.foldl Event.addTo p.output,
        label := some label, mode := .awaitingInput } (.step now) dialogue =
          dialogue ++ [⟨label, []⟩] := by
      simp [listen, question, hphase, Operation.isQuit]
    rw [hlisten, isCommit, hphase]
    refine h.asks hdeaf.label ?_ rfl rfl hdeaf.inputBuffer
    rw [hnext, Story.labels_append, Story.labels_eq_nil_of_clears hclears]
    rfl
  | pauses hphase hclears hnext =>
    rw [listen_step _ (.inr (question_of_mode (by simp))), isCommit, hphase]
    obtain ⟨hdeaf, -⟩ := hp.fits hphase
    refine ⟨?_, h.answers, h.settled, fun label hlabel => ?_⟩
    · rw [← h.asked, hnext, Story.labels_append, Story.labels_eq_nil_of_clears hclears]
      rfl
    · simp [hdeaf.label] at hlabel
  | ends hphase hclears =>
    rw [listen_step _ (.inr (question_of_ne (by simp))), isCommit, hphase]
    refine h.stays ?_ rfl rfl rfl (by simp)
    rw [Story.labels_eq_nil_of_clears hclears]
    rfl
  | reveals hphase =>
    rw [listen_step _ (.inr (question_of_ne (by simp [hphase]))), isCommit, hphase]
    exact h.stays rfl rfl rfl rfl (by simp [hphase])
  | logs hphase =>
    rw [listen_step _ (.inr (question_of_ne (by simp))), isCommit, hphase]
    exact h.stays rfl rfl rfl rfl (by simp)
  | commits hphase hlabel =>
    rw [listen_step _ (.inr (question_of_ne (by simp))), isCommit, hphase]
    exact h.commits hlabel rfl rfl rfl
  | waits hphase =>
    rw [listen_step _ (.inl rfl), isCommit, hphase]
    exact h
  | @types key hphase hmode henter hquit =>
    obtain ⟨-, hkeys⟩ := hp.fits hphase
    obtain ⟨-, label, hlabel⟩ := Asking.of_mode hkeys hmode
    rw [listen_asking hquit ((question_of_asking hphase hmode).trans hlabel)]
    exact h.hears hlabel hphase rfl rfl hlabel (by rw [if_neg henter]) (fun _ => henter)
  | @submits key hphase hmode hkey =>
    obtain ⟨-, hkeys⟩ := hp.fits hphase
    obtain ⟨-, label, hlabel⟩ := Asking.of_mode hkeys hmode
    rw [listen_asking (by simp [hkey]) ((question_of_asking hphase hmode).trans hlabel)]
    exact h.hears hlabel hphase rfl rfl hlabel (by rw [if_pos hkey]) (by simp)
  | resumes hphase hmode hkey =>
    rw [listen_press hkey (question_of_mode (by simp [hmode])) (question_of_ne (by simp))]
    exact h.stays rfl rfl rfl rfl (by simp)
  | @ignores key hkey hdeaf =>
    have hnone : p.question = none := by
      obtain hphase | hmode := hdeaf
      · exact question_of_ne hphase
      · exact question_of_mode (by simp [hmode])
    rw [listen_press hkey hnone hnone]
    exact h
  | quits hquit hphase => exact absurd ⟨hquit, hphase⟩ hop
  | isOver hphase =>
    rw [listen_of_finished hphase, isCommit_of_ne (by simp [hphase])]
    exact h

theorem converses_after (hop : ¬ (op.isQuit ∧ p.phase ≠ .finished)) (hp : p.Consistent)
    (h : Converses story initial dialogue stored p) :
    Converses story initial (p.listen (p.after op) op dialogue)
      (stored + (p.isCommit op).toNat) (p.after op) := by
  obtain hmove | ⟨now, -, rfl, hphase, -, hsame⟩ := hp.after_cases op
  · exact converses_move hmove hop hp h
  · rw [hsame, listen_step now (.inl rfl), isCommit, hphase]
    exact h

private theorem dialogue_of_finished (hphase : p.phase = .finished) (ops : List Operation) :
    p.dialogue dialogue ops = dialogue := by
  induction ops with
  | nil => rfl
  | cons op ops ih =>
    rw [Player.dialogue, after_of_finished hphase, listen_of_finished hphase]
    exact ih

private theorem commits_of_finished (hphase : p.phase = .finished) (ops : List Operation) :
    p.commits ops = 0 := by
  induction ops with
  | nil => rfl
  | cons op ops ih =>
    rw [Player.commits, after_of_finished hphase, isCommit_of_ne (by simp [hphase]), ih]
    rfl

/-- A run carries the dialogue on up to its end, or up to the quit that cuts it off. -/
theorem converses_run (hp : p.Consistent) (h : Converses story initial dialogue stored p)
    (ops : List Operation) :
    Converses story initial (p.dialogue dialogue ops) (stored + p.commits ops)
      ((p.cutOff ops).getD (p.run ops)) := by
  induction ops generalizing p dialogue stored with
  | nil => exact h
  | cons op ops ih =>
    by_cases hop : op.isQuit ∧ p.phase ≠ .finished
    · -- The dialogue is over, though the player after the quit has no label any more.
      have hstopped : p.after op = p.stopped := after_of_isQuit hop.1 hop.2
      have hcommit : p.isCommit op = false := by
        cases op with
        | step now => cases hop.1
        | press key => rfl
        | quit => rfl
      rw [cutOff_cons_of_isQuit hop.1 hop.2, Player.dialogue, Player.commits, hstopped, hcommit,
        listen_of_isQuit hop.1, dialogue_of_finished rfl, commits_of_finished rfl]
      exact h
    · rw [cutOff_cons_of_not hop, Player.dialogue, Player.commits, ← Nat.add_assoc]
      exact ih (hp.after op) (converses_after hop hp h)

private theorem answers_getD_cutOff (p : Player) (ops : List Operation) :
    ((p.cutOff ops).getD (p.run ops)).answers = (p.run ops).answers := by
  cases hcut : p.cutOff ops with
  | none => rfl
  | some q =>
    rw [run_of_cutOff hcut]
    rfl

theorem Converses.stored_le (h : Converses story initial dialogue stored p) :
    stored ≤ dialogue.length := by
  cases hlabel : p.label with
  | none => exact Nat.le_of_eq (h.settled hlabel).symm
  | some label =>
    obtain ⟨done, keys, rfl, hdone, -⟩ := h.pending label hlabel
    simp [hdone]

theorem Converses.stored_of_finished (h : Converses story initial dialogue stored p)
    (hp : p.Consistent) (hphase : p.phase = .finished) (hupcoming : p.upcoming = []) :
    stored = (Story.labels story).length := by
  obtain ⟨hdeaf, -⟩ := hp.fits hphase
  rw [← h.settled hdeaf.label, ← h.asked, hupcoming]
  simp [Story.labels]

private theorem answers_move (hmove : Move p op p') (h : p'.answers ≠ p.answers) :
    p.phase = .committing ∧ ∃ now, op = .step now := by
  cases hmove with
  | commits hphase => exact ⟨hphase, _, rfl⟩
  | _ => exact absurd rfl h

/-- However a new player is operated, what it has stored is what was typed: for each question whose
answer was stored, in the order of the story, the keys pressed while it waited, up to the first
that submits the answer. Nothing but a step that stores an answer changes the answers, and keys
pressed while the player does not wait are lost. -/
theorem run_stores_what_is_typed {charDuration : Float} {answers : Answers}
    (hnew : new story charDuration answers = .ok p) (ops : List Operation) :
    ((p.dialogue [] ops).map Exchange.label <+: Story.labels story ∧
        p.commits ops ≤ (p.dialogue [] ops).length ∧
        (p.run ops).answers =
          ((p.dialogue [] ops).take (p.commits ops)).foldl Exchange.store answers) ∧
      ((p.run ops).phase = .finished → p.cutOff ops = none →
        p.commits ops = (Story.labels story).length) ∧
      (∀ op, ((p.run ops).after op).answers ≠ (p.run ops).answers →
        (p.run ops).phase = .committing ∧ ∃ now, op = .step now) ∧
      ∀ key : Key, (p.run ops).phase ≠ .waiting → key.kind ≠ .quit →
        (p.run ops).after (.press key) = p.run ops := by
  have hp := consistent_new hnew
  have h := converses_run hp (converses_new hnew) ops
  rw [Nat.zero_add] at h
  refine ⟨⟨⟨_, h.asked⟩, h.stored_le, ?_⟩, ?_, ?_, fun key => after_press_of_ne⟩
  · rw [← answers_getD_cutOff, h.answers]
  · intro hphase hcut
    obtain ⟨shown, hprogress⟩ := progress_run (progress_new hnew) ops
    rw [hcut] at h hprogress
    exact h.stored_of_finished (hp.run ops) hphase (hprogress.ended hphase)
  · intro op hchanged
    obtain hsame | hmove := (p.run ops).after_eq_or_move op
    · exact absurd (congrArg Player.answers hsame) hchanged
    · exact answers_move hmove hchanged

/-- One answer is stored, and a quit takes away the next one. -/
theorem run_stores_what_is_typed_of_quit :
    ∃ p ops, new [.input ['n'], .pause, .input ['k']] 0.5 ⟨[(['k'], ['o'])]⟩ = .ok p ∧
      p.dialogue [] ops = [⟨['n'], [.ofChar 'a', .ofChar 'b', .backspace, .enter]⟩,
        ⟨['k'], [.ofChar 'x']⟩] ∧
      p.commits ops = 1 ∧ (p.run ops).answers = ⟨[(['k'], ['o']), (['n'], ['a'])]⟩ := by
  have hnew : new [.input ['n'], .pause, .input ['k']] 0.5 ⟨[(['k'], ['o'])]⟩ =
      .ok { upcoming := [.input ['n'], .pause, .input ['k']], charDuration := 0.5,
            answers := ⟨[(['k'], ['o'])]⟩ } := by
    rw [new, if_neg (by decide)]
  obtain ⟨⟨-, -, hanswers⟩, -⟩ := run_stores_what_is_typed hnew
    [.press (.ofChar 'z'), .step 0.0, .press (.ofChar 'a'), .step 0.0, .press (.ofChar 'b'),
      .press .backspace, .press .enter, .press (.ofChar 'c'), .step 0.0, .step 0.0,
      .press (.ofChar 'd'), .step 0.0, .press (.ofChar 'x'), .quit]
  exact ⟨_, _, hnew, by decide +kernel, by decide +kernel, hanswers.trans (by decide +kernel)⟩

end Player
end StoryPlayer
