import StoryPlayer.Proofs.Playback.Moves

/-!
# Progress of a player

A player that was operated in any way has played a first part of its story. What is on its screen is
the log of that part, up to a text that is not wholly revealed yet or that a quit cut off.

The history of a run is kept beside the player: `logged` collects the texts that operations put on
the screen, and `cutOff` is the player that a quit found unfinished.
-/

namespace StoryPlayer

def Event.content? : Event → Option Text
  | text content => some content
  | input _ | pause | clear => none

def Story.texts (story : Story) : List Text := story.filterMap Event.content?

theorem Story.texts_append (story more : Story) :
    Story.texts (story ++ more) = Story.texts story ++ Story.texts more :=
  List.filterMap_append

private theorem Story.texts_eq_nil_of_clears {clears : Story} (hclears : ∀ e ∈ clears, e = .clear) :
    Story.texts clears = [] := by
  rw [Story.texts, List.filterMap_eq_nil_iff]
  intro e he
  rw [hclears e he]
  rfl

/-- Events other than texts put nothing on the screen. -/
private theorem drop_foldl_addTo {story : Story} (h : Story.texts story = []) (output : List Text) :
    (story.foldl Event.addTo output).drop output.length = [] := by
  rw [List.drop_eq_nil_iff]
  induction story generalizing output with
  | nil => exact Nat.le_refl _
  | cons e story ih =>
    rw [Story.texts, List.filterMap_eq_nil_iff] at h
    have hrest : Story.texts story = [] :=
      List.filterMap_eq_nil_iff.mpr fun e he => h e (List.mem_cons_of_mem _ he)
    have hadd : (Event.addTo output e).length ≤ output.length := by
      cases e with
      | text content => simpa [Event.content?] using h _ List.mem_cons_self
      | input label => exact Nat.le_refl _
      | pause => exact Nat.le_refl _
      | clear => exact Nat.zero_le _
    exact Nat.le_trans (ih hrest _) hadd

namespace Player

/-- The event that is played but not over. -/
def underWay (p : Player) : Story := if p.phase = .revealing then [.text p.response] else []

/-- The player waits for the key that this event asks for. -/
def WaitsFor (p : Player) : Event → Prop
  | .input label => p.mode = .awaitingInput ∧ p.label = some label
  | .pause => p.mode = .awaitingAnyKey
  | .text _ | .clear => False

/-- The player as a quit found it, if a quit ended its playback. -/
def cutOff (p : Player) : List Operation → Option Player
  | [] => none
  | op :: ops => if op.isQuit ∧ p.phase ≠ .finished then some p else (p.after op).cutOff ops

/-- The texts that the operations put on the screen, oldest first. -/
def logged (p : Player) : List Operation → List Text
  | [] => []
  | op :: ops => (p.after op).output.drop p.output.length ++ (p.after op).logged ops

variable {p p' : Player} {op : Operation} {story shown : Story} {log : List Text}

theorem underWay_of_revealing (h : p.phase = .revealing) : p.underWay = [.text p.response] :=
  if_pos h

theorem underWay_of_ne (h : p.phase ≠ .revealing) : p.underWay = [] := if_neg h

private theorem underWay_eq_of_ne (h : p.phase ≠ .revealing) (h' : p'.phase ≠ .revealing) :
    p'.underWay = p.underWay := by
  rw [underWay_of_ne h, underWay_of_ne h']

private theorem WaitsFor.of_eq {e : Event} (h : p.WaitsFor e) (hmode : p'.mode = p.mode)
    (hlabel : p'.label = p.label) : p'.WaitsFor e := by
  cases e with
  | input label => exact ⟨hmode.trans h.1, hlabel.trans h.2⟩
  | pause => exact hmode.trans h
  | text content => exact h
  | clear => exact h

/-- How far a player that no quit cut off has come: `shown` is the part of the story that is over,
and `log` holds the texts that were put on the screen on the way. -/
structure Progress (story shown : Story) (log : List Text) (p : Player) : Prop where
  split : story = shown ++ p.underWay ++ p.upcoming
  output : p.output = Story.log shown
  logged : log = Story.texts shown
  asked : p.phase = .waiting ∨ p.phase = .committing →
    ∃ e, shown.getLast? = some e ∧ p.WaitsFor e
  ended : p.phase = .finished → p.upcoming = []

theorem progress_new {charDuration : Float} {answers : Answers}
    (h : new story charDuration answers = .ok p) : Progress story [] [] p := by
  rw [eq_of_new h]
  exact ⟨rfl, rfl, rfl, by simp, by simp⟩

/-- An update of the player takes events other than texts from the head of the story. -/
private theorem Progress.plays (h : Progress story shown log p) (hphase : p.phase = .updating)
    {next : Story} (htexts : Story.texts next = [])
    (hnext : p.upcoming = next ++ (p'.underWay ++ p'.upcoming))
    (houtput : p'.output = next.foldl Event.addTo p.output)
    (hasked : p'.phase = .waiting ∨ p'.phase = .committing →
      ∃ e, next.getLast? = some e ∧ p'.WaitsFor e)
    (hended : p'.phase = .finished → p'.upcoming = []) :
    Progress story (shown ++ next) (log ++ p'.output.drop p.output.length) p' where
  split := by
    rw [h.split, underWay_of_ne (by simp [hphase]), hnext]
    simp only [List.append_nil, List.append_assoc]
  output := by rw [houtput, h.output, Story.log_append]
  logged := by
    rw [houtput, drop_foldl_addTo htexts, Story.texts_append, htexts, h.logged]
  asked hwaiting := by
    obtain ⟨e, hlast, he⟩ := hasked hwaiting
    exact ⟨e, by simp [List.getLast?_append, hlast], he⟩
  ended := hended

/-- An update that ends at an event which asks for a key. -/
private theorem Progress.suspends (h : Progress story shown log p) (hphase : p.phase = .updating)
    {clears : Story} {e : Event} (hclears : ∀ e ∈ clears, e = .clear)
    (hnext : p.upcoming = clears ++ e :: p'.upcoming)
    (houtput : p'.output = clears.foldl Event.addTo p.output) (hphase' : p'.phase = .waiting)
    (hwaits : p'.WaitsFor e) :
    Progress story (shown ++ (clears ++ [e])) (log ++ p'.output.drop p.output.length) p' := by
  have htexts : Story.texts [e] = [] ∧ ∀ output, Event.addTo output e = output := by
    cases e with
    | text content => exact hwaits.elim
    | clear => exact hwaits.elim
    | input label => exact ⟨rfl, fun _ => rfl⟩
    | pause => exact ⟨rfl, fun _ => rfl⟩
  refine h.plays hphase ?_ ?_ ?_ ?_ (by simp [hphase'])
  · rw [Story.texts_append, Story.texts_eq_nil_of_clears hclears, htexts.1]
    rfl
  · rw [hnext, underWay_of_ne (by simp [hphase']), List.append_assoc]
    rfl
  · rw [houtput, List.foldl_append, List.foldl_cons, htexts.2]
    rfl
  · exact fun _ => ⟨e, List.getLast?_concat, hwaits⟩

/-- An operation that puts nothing on the screen and takes nothing from the story. -/
theorem Progress.stays (h : Progress story shown log p) (hunder : p'.underWay = p.underWay)
    (hupcoming : p'.upcoming = p.upcoming) (houtput : p'.output = p.output)
    (hasked : p'.phase = .waiting ∨ p'.phase = .committing →
      ∃ e, shown.getLast? = some e ∧ p'.WaitsFor e)
    (hended : p'.phase = .finished → p'.upcoming = []) :
    Progress story (shown ++ []) (log ++ p'.output.drop p.output.length) p' where
  split := by rw [h.split, hunder, hupcoming, List.append_nil]
  output := by rw [houtput, h.output, List.append_nil]
  logged := by rw [houtput, List.drop_length, List.append_nil, List.append_nil, h.logged]
  asked := by rwa [List.append_nil]
  ended := hended

private theorem Progress.rests (h : Progress story shown log p) :
    Progress story (shown ++ []) (log ++ p.output.drop p.output.length) p :=
  h.stays rfl rfl rfl h.asked h.ended

theorem progress_move (hmove : Move p op p') (hop : ¬ (op.isQuit ∧ p.phase ≠ .finished))
    (h : Progress story shown log p) :
    ∃ next, Progress story (shown ++ next) (log ++ p'.output.drop p.output.length) p' := by
  cases hmove with
  | @opensText _ clears _ _ hphase hclears hnext =>
    have htexts := Story.texts_eq_nil_of_clears hclears
    exact ⟨clears, h.plays hphase htexts hnext rfl (by simp) (by simp)⟩
  | asks hphase hclears hnext =>
    exact ⟨_, h.suspends hphase hclears hnext rfl rfl ⟨rfl, rfl⟩⟩
  | pauses hphase hclears hnext =>
    exact ⟨_, h.suspends hphase hclears hnext rfl rfl rfl⟩
  | ends hphase hclears =>
    refine ⟨p.upcoming, h.plays hphase (Story.texts_eq_nil_of_clears hclears) ?_ rfl (by simp) ?_⟩
    · exact (List.append_nil _).symm
    · exact fun _ => rfl
  | reveals hphase =>
    exact ⟨[], h.stays rfl rfl rfl (by simp [hphase]) (by simp [hphase])⟩
  | logs hphase =>
    refine ⟨[.text p.response], ?_, ?_, ?_, by simp, by simp⟩
    · rw [h.split, underWay_of_revealing hphase]
      simp [underWay]
    · rw [Story.log_append, ← h.output]
      rfl
    · rw [List.drop_left, Story.texts_append, h.logged]
      rfl
  | commits hphase =>
    have hne : p.phase ≠ .revealing := by simp [hphase]
    exact ⟨[], h.stays (underWay_eq_of_ne hne (by simp)) rfl rfl (by simp) (by simp)⟩
  | waits => exact ⟨[], h.rests⟩
  | types hphase =>
    refine ⟨[], h.stays rfl rfl rfl ?_ h.ended⟩
    intro hwaiting
    obtain ⟨e, hlast, he⟩ := h.asked hwaiting
    exact ⟨e, hlast, he.of_eq rfl rfl⟩
  | submits hphase =>
    have hne : p.phase ≠ .revealing := by simp [hphase]
    refine ⟨[], h.stays (underWay_eq_of_ne hne (by simp)) rfl rfl ?_ (by simp)⟩
    intro _
    obtain ⟨e, hlast, he⟩ := h.asked (.inl hphase)
    exact ⟨e, hlast, he.of_eq rfl rfl⟩
  | resumes hphase =>
    have hne : p.phase ≠ .revealing := by simp [hphase]
    exact ⟨[], h.stays (underWay_eq_of_ne hne (by simp)) rfl rfl (by simp) (by simp)⟩
  | ignores => exact ⟨[], h.rests⟩
  | quits hquit hphase => exact absurd ⟨hquit, hphase⟩ hop
  | isOver => exact ⟨[], h.rests⟩

theorem progress_after (hop : ¬ (op.isQuit ∧ p.phase ≠ .finished))
    (h : Progress story shown log p) :
    ∃ next, Progress story (shown ++ next) (log ++ (p.after op).output.drop p.output.length)
      (p.after op) := by
  obtain hsame | hmove := p.after_eq_or_move op
  · rw [hsame]
    exact ⟨[], h.rests⟩
  · exact progress_move hmove hop h

private theorem logged_of_finished (hphase : p.phase = .finished) (ops : List Operation) :
    p.logged ops = [] := by
  induction ops with
  | nil => rfl
  | cons op ops ih => rw [logged, after_of_finished hphase, List.drop_length, ih, List.append_nil]

theorem cutOff_cons_of_isQuit (hop : op.isQuit) (hphase : p.phase ≠ .finished)
    (ops : List Operation) : p.cutOff (op :: ops) = some p := by
  rw [cutOff, if_pos ⟨hop, hphase⟩]

theorem cutOff_cons_of_not (hop : ¬ (op.isQuit ∧ p.phase ≠ .finished)) (ops : List Operation) :
    p.cutOff (op :: ops) = (p.after op).cutOff ops := by
  rw [cutOff, if_neg hop]

/-- The quit has the last word: what follows it changes nothing. -/
theorem run_of_cutOff {ops : List Operation} {q : Player} (h : p.cutOff ops = some q) :
    p.run ops = q.stopped := by
  induction ops generalizing p with
  | nil => cases h
  | cons op ops ih =>
    by_cases hop : op.isQuit ∧ p.phase ≠ .finished
    · rw [cutOff_cons_of_isQuit hop.1 hop.2] at h
      cases h
      rw [run, List.foldl_cons, after_of_isQuit hop.1 hop.2]
      exact run_of_finished rfl ops
    · rw [cutOff_cons_of_not hop] at h
      exact ih h

/-- A run carries progress up to its end, or up to the quit that cuts it off. -/
theorem progress_run (h : Progress story shown log p) (ops : List Operation) :
    ∃ next, Progress story (shown ++ next) (log ++ p.logged ops)
      ((p.cutOff ops).getD (p.run ops)) := by
  induction ops generalizing p shown log with
  | nil => exact ⟨[], by simpa [logged, cutOff, run] using h⟩
  | cons op ops ih =>
    by_cases hop : op.isQuit ∧ p.phase ≠ .finished
    · -- The quit finds the player as the induction has it, and a finished player adds nothing.
      refine ⟨[], ?_⟩
      have hlogged : p.logged (op :: ops) = [] := by
        rw [logged, after_of_isQuit hop.1 hop.2, logged_of_finished rfl, List.append_nil]
        exact List.drop_length
      rw [cutOff_cons_of_isQuit hop.1 hop.2, hlogged, List.append_nil, List.append_nil]
      exact h
    · obtain ⟨next, hafter⟩ := progress_after hop h
      obtain ⟨more, hrun⟩ := ih hafter
      refine ⟨next ++ more, ?_⟩
      rw [cutOff_cons_of_not hop, logged, ← List.append_assoc, ← List.append_assoc]
      exact hrun

private theorem upcoming_move (hmove : Move p op p') : p'.upcoming <:+ p.upcoming := by
  cases hmove with
  | opensText _ _ hnext | asks _ _ hnext | pauses _ _ hnext =>
    rw [hnext]
    exact ((List.suffix_cons _ _).trans (List.suffix_append _ _))
  | ends => exact List.nil_suffix
  | _ => exact List.suffix_refl _

theorem upcoming_run (p : Player) (ops : List Operation) : (p.run ops).upcoming <:+ p.upcoming :=
  run_induction (motive := fun p' => p'.upcoming <:+ p.upcoming) List.suffix_rfl
    (fun hmove h => (upcoming_move hmove).trans h) ops

end Player
end StoryPlayer
