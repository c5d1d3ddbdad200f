import StoryPlayer.Playback.Player

/-!
# Moves of a player

Whatever happens to a player comes from one of three operations: a step, a key press and a quit.
`Move` lists all that a successful operation can change and `Fails` why one can fail, for a player
in any state, and `Outcome` says that a failed operation leaves the player as it was. All laws of
runs are read off from these.
-/

namespace StoryPlayer

namespace Event

/-- The texts on the screen once the event is over. -/
def addTo (output : List Text) : Event → List Text
  | text content => output ++ [content]
  | clear => []
  | input _ | pause => output

end Event

/-- The texts on the screen once the whole story is played. -/
def Story.log (story : Story) : List Text := story.foldl Event.addTo []

theorem Story.log_append (story more : Story) :
    Story.log (story ++ more) = more.foldl Event.addTo (Story.log story) := by
  rw [Story.log, List.foldl_append, Story.log]

/-- The answer after a key that neither submits it nor quits. -/
def Key.edit (key : Key) (answer : Text) : Text :=
  match key.kind, key.char with
  | .char, some typed => answer ++ typed
  | .backspace, _ => answer.dropLast
  | _, _ => answer

inductive Operation where
  | step (now : Float)
  | press (key : Key)
  | quit

namespace Operation

/-- The operation as it works on a player in place. -/
def act : Operation → Player.Action
  | step now => Player.takeStep now
  | press key => Player.takeKey key
  | quit => Player.stop

def apply : Operation → Player → Except StepError Player
  | step now => Player.step now
  | press key => Player.press key
  | quit => Player.quit

def isQuit : Operation → Bool
  | step _ => false
  | press key => key.kind = .quit
  | quit => true

end Operation

/-- The state in which an action ends, be it that it fails. -/
def endState {ε σ α : Type} : EStateM.Result ε σ α → σ
  | .ok _ s => s
  | .error _ s => s

/-- What a quit makes of a player that is not finished. -/
def Player.stopped (p : Player) : Player :=
  { p with
    phase := .finished, response := [], revealed := 0, inputBuffer := [], label := none,
    mode := .disabled }

/-- What an operation can make of a player. -/
inductive Move (p : Player) : Operation → Player → Prop
  /-- The clearings at the head of the story are played together with the event after them. -/
  | opensText {now : Float} {clears rest : Story} {content : Text}
      (hphase : p.phase = .updating) (hclears : ∀ e ∈ clears, e = .clear)
      (hnext : p.upcoming = clears ++ .text content :: rest) :
      Move p (.step now) { p with
        phase := .revealing, upcoming := rest, output := clears.foldl Event.addTo p.output,
        response := content, revealed := 0, startedAt := now, mode := .disabled }
  | asks {now : Float} {clears rest : Story} {label : Text}
      (hphase : p.phase = .updating) (hclears : ∀ e ∈ clears, e = .clear)
      (hnext : p.upcoming = clears ++ .input label :: rest) :
      Move p (.step now) { p with
        phase := .waiting, upcoming := rest, output := clears.foldl Event.addTo p.output,
        label := some label, mode := .awaitingInput }
  | pauses {now : Float} {clears rest : Story}
      (hphase : p.phase = .updating) (hclears : ∀ e ∈ clears, e = .clear)
      (hnext : p.upcoming = clears ++ .pause :: rest) :
      Move p (.step now) { p with
        phase := .waiting, upcoming := rest, output := clears.foldl Event.addTo p.output,
        mode := .awaitingAnyKey }
  | ends {now : Float} (hphase : p.phase = .updating) (hclears : ∀ e ∈ p.upcoming, e = .clear) :
      Move p (.step now) { p with
        phase := .finished, upcoming := [], output := p.upcoming.foldl Event.addTo p.output }
  | reveals {now : Float} {count : Nat} (hphase : p.phase = .revealing)
      (hcount : p.paceCount now = .ok count) (hlt : count < p.response.length) :
      Move p (.step now) { p with revealed := count }
  | logs {now : Float} {count : Nat} (hphase : p.phase = .revealing)
      (hcount : p.paceCount now = .ok count) (hle : p.response.length ≤ count) :
      Move p (.step now) { p with
        phase := .updating, output := p.output ++ [p.response], revealed := 0, response := [] }
  | commits {now : Float} {label : Text} (hphase : p.phase = .committing)
      (hlabel : p.label = some label) :
      Move p (.step now) { p with
        phase := .updating, answers := p.answers.insert label p.inputBuffer, inputBuffer := [],
        label := none, mode := .disabled }
  | waits {now : Float} (hphase : p.phase = .waiting) : Move p (.step now) p
  | types {key : Key} (hphase : p.phase = .waiting) (hmode : p.mode = .awaitingInput)
      (henter : key.kind ≠ .enter) (hquit : key.kind ≠ .quit) :
      Move p (.press key) { p with inputBuffer := key.edit p.inputBuffer }
  | submits {key : Key} (hphase : p.phase = .waiting) (hmode : p.mode = .awaitingInput)
      (hkey : key.kind = .enter) : Move p (.press key) { p with phase := .committing }
  | resumes {key : Key} (hphase : p.phase = .waiting) (hmode : p.mode = .awaitingAnyKey)
      (hkey : key.kind ≠ .quit) :
      Move p (.press key) { p with phase := .updating, mode := .disabled }
  | ignores {key : Key} (hkey : key.kind ≠ .quit)
      (hdeaf : p.phase ≠ .waiting ∨ p.mode = .disabled) : Move p (.press key) p
  | quits {op : Operation} (hop : op.isQuit) (hphase : p.phase ≠ .finished) : Move p op p.stopped
  | isOver {op : Operation} (hphase : p.phase = .finished) : Move p op p

inductive Fails (p : Player) : Operation → StepError → Prop
  | uncounted {now : Float} {cause : NotFinite} (hphase : p.phase = .revealing)
      (hcount : p.paceCount now = .error cause) : Fails p (.step now) (.reveal cause)
  | unlabelled {now : Float} (hphase : p.phase = .committing) (hlabel : p.label = none) :
      Fails p (.step now) .noLabel

/-- How an operation can turn out, and what it leaves. -/
inductive Outcome (p : Player) (op : Operation) : EStateM.Result StepError Player Unit → Prop
  | moved {p' : Player} (hmove : Move p op p') : Outcome p op (.ok () p')
  | failed {error : StepError} (hfails : Fails p op error) : Outcome p op (.error error p)

namespace Player

variable {p : Player} {now : Float}

theorem eq_of_new {story : Story} {charDuration : Float} {answers : Answers}
    (h : new story charDuration answers = .ok p) :
    p = { upcoming := story, charDuration, answers } := by
  rw [new] at h
  split at h
  · cases h
  · cases h
    rfl

private theorem get_bind (next : Player → Action) (p : Player) :
    (get >>= next : Action) p = next p p := rfl

private theorem modify_bind (change : Player → Player) (action : Action) (p : Player) :
    (modify change >>= fun _ => action : Action) p = action (change p) := rfl

private theorem fire_of_next? (phase : Phase) {signal : Signal}
    (h : p.phase.next? signal = some phase) : fire signal p = .ok () { p with phase } := by
  rw [fire, Phase.fire, h]

private theorem playFrom_clears {clears rest : Story} (hclears : ∀ e ∈ clears, e = .clear)
    (hnext : p.upcoming = clears ++ rest) :
    playFrom now (clears ++ rest) p =
      playFrom now rest
        { p with upcoming := rest, output := clears.foldl Event.addTo p.output } := by
  induction clears generalizing p with
  | nil =>
    obtain rfl : p.upcoming = rest := hnext
    rfl
  | cons e clears ih =>
    obtain rfl : e = .clear := hclears e List.mem_cons_self
    rw [List.cons_append, playFrom, modify_bind,
      ih (fun e he => hclears e (List.mem_cons_of_mem _ he)) rfl]
    rfl

/-- Where playing stops: behind the clearings, at an event of another kind or at the end. -/
private theorem exists_clears_append (story : Story) :
    ∃ clears rest, story = clears ++ rest ∧ (∀ e ∈ clears, e = .clear) ∧
      rest.head? ≠ some .clear := by
  induction story with
  | nil => exact ⟨[], [], rfl, by simp, by simp⟩
  | cons e story ih =>
    by_cases he : e = .clear
    · obtain ⟨clears, rest, rfl, hclears, hrest⟩ := ih
      exact ⟨e :: clears, rest, rfl, by simpa [he] using hclears, hrest⟩
    · exact ⟨[], e :: story, rfl, by simp, by simpa using he⟩

private theorem outcome_playFrom (hphase : p.phase = .updating) :
    Outcome p (.step now) (playFrom now p.upcoming p) := by
  -- A clearing never suspends playback, so the first event of another kind decides.
  obtain ⟨clears, rest, hnext, hclears, hrest⟩ := exists_clears_append p.upcoming
  rw [hnext, playFrom_clears hclears hnext]
  cases rest with
  | nil =>
    rw [List.append_nil] at hnext
    rw [playFrom, fire_of_next? .finished (by rw [hphase]; rfl), ← hnext]
    exact .moved (.ends hphase (hnext ▸ hclears))
  | cons e rest =>
    cases e with
    | text content =>
      rw [playFrom, modify_bind, fire_of_next? .revealing (by rw [hphase]; rfl)]
      exact .moved (.opensText hphase hclears hnext)
    | input label =>
      rw [playFrom, modify_bind, fire_of_next? .waiting (by rw [hphase]; rfl)]
      exact .moved (.asks hphase hclears hnext)
    | pause =>
      rw [playFrom, modify_bind, fire_of_next? .waiting (by rw [hphase]; rfl)]
      exact .moved (.pauses hphase hclears hnext)
    | clear => exact absurd rfl hrest

section

variable {count : Nat} {cause : NotFinite}

theorem advanceReveal_of_uncounted (hcount : p.paceCount now = .error cause) :
    advanceReveal now p = .error (.reveal cause) p := by
  rw [advanceReveal, get_bind, hcount]
  rfl

theorem advanceReveal_of_lt (hcount : p.paceCount now = .ok count)
    (hlt : count < p.response.length) :
    advanceReveal now p = .ok () { p with revealed := count } := by
  have hcut : min (p.response.length : Int) count = count := by omega
  rw [advanceReveal, get_bind, hcount]
  dsimp only
  rw [revealTo, get_bind, modify_bind, if_neg (Nat.not_le_of_lt hlt), hcut]
  rfl

theorem advanceReveal_of_le (hphase : p.phase = .revealing) (hcount : p.paceCount now = .ok count)
    (hle : p.response.length ≤ count) :
    advanceReveal now p = .ok () { p with
      phase := .updating, output := p.output ++ [p.response], revealed := 0, response := [] } := by
  rw [advanceReveal, get_bind, hcount]
  dsimp only
  rw [revealTo, get_bind, modify_bind, if_pos hle, modify_bind,
    fire_of_next? .updating (by rw [hphase]; rfl)]

end

private theorem outcome_advanceReveal (hphase : p.phase = .revealing) :
    Outcome p (.step now) (advanceReveal now p) := by
  cases hcount : p.paceCount now with
  | error cause =>
    rw [advanceReveal_of_uncounted hcount]
    exact .failed (.uncounted hphase hcount)
  | ok count =>
    by_cases hle : p.response.length ≤ count
    · rw [advanceReveal_of_le hphase hcount hle]
      exact .moved (.logs hphase hcount hle)
    · rw [advanceReveal_of_lt hcount (Nat.lt_of_not_le hle)]
      exact .moved (.reveals hphase hcount (Nat.lt_of_not_le hle))

theorem commitInput_of_label {label : Text} (hphase : p.phase = .committing)
    (hlabel : p.label = some label) :
    commitInput p = .ok () { p with
      phase := .updating, answers := p.answers.insert label p.inputBuffer, inputBuffer := [],
      label := none, mode := .disabled } := by
  rw [commitInput, get_bind, hlabel]
  dsimp only
  rw [modify_bind, modify_bind, fire_of_next? .updating (by rw [hphase]; rfl)]

private theorem takeStep_of_updating (hphase : p.phase = .updating) :
    takeStep now p = playFrom now p.upcoming p := by
  rw [takeStep, get_bind, hphase]

theorem takeStep_of_revealing (hphase : p.phase = .revealing) :
    takeStep now p = advanceReveal now p := by
  rw [takeStep, get_bind, hphase]

theorem takeStep_of_committing (hphase : p.phase = .committing) :
    takeStep now p = commitInput p := by
  rw [takeStep, get_bind, hphase]

theorem takeStep_of_waiting (hphase : p.phase = .waiting) : takeStep now p = .ok () p := by
  rw [takeStep, get_bind, hphase]
  rfl

private theorem takeStep_of_finished (hphase : p.phase = .finished) :
    takeStep now p = .ok () p := by
  rw [takeStep, get_bind, hphase]
  rfl

private theorem outcome_takeStep (now : Float) (p : Player) :
    Outcome p (.step now) (takeStep now p) := by
  cases hphase : p.phase with
  | updating =>
    rw [takeStep_of_updating hphase]
    exact outcome_playFrom hphase
  | revealing =>
    rw [takeStep_of_revealing hphase]
    exact outcome_advanceReveal hphase
  | committing =>
    rw [takeStep_of_committing hphase]
    cases hlabel : p.label with
    | none =>
      rw [commitInput, get_bind, hlabel]
      exact .failed (.unlabelled hphase hlabel)
    | some label =>
      rw [commitInput_of_label hphase hlabel]
      exact .moved (.commits hphase hlabel)
  | waiting =>
    rw [takeStep_of_waiting hphase]
    exact .moved (.waits hphase)
  | finished =>
    rw [takeStep_of_finished hphase]
    exact .moved (.isOver hphase)

private theorem stop_of_finished (h : p.phase = .finished) : stop p = .ok () p := by
  rw [stop, get_bind, finished, if_pos (by simpa using h)]
  rfl

theorem stop_of_ne (h : p.phase ≠ .finished) : stop p = .ok () p.stopped := by
  rw [stop, get_bind, finished, if_neg (by simpa using h), modify_bind,
    fire_of_next? .finished (by exact Phase.next?_finish h), stopped]

private theorem outcome_stop {op : Operation} (hop : op.isQuit) (p : Player) :
    Outcome p op (stop p) := by
  by_cases hphase : p.phase = .finished
  · rw [stop_of_finished hphase]
    exact .moved (.isOver hphase)
  · rw [stop_of_ne hphase]
    exact .moved (.quits hop hphase)

theorem typeKey_of_enter {key : Key} (hphase : p.phase = .waiting) (hkey : key.kind = .enter) :
    typeKey key p = .ok () { p with phase := .committing } := by
  have hfire : typeKey key = fire .submitInput := by
    rw [typeKey, hkey]
  rw [hfire, fire_of_next? .committing (by rw [hphase]; rfl)]

theorem typeKey_of_ne {key : Key} (henter : key.kind ≠ .enter) :
    typeKey key p = .ok () { p with inputBuffer := key.edit p.inputBuffer } := by
  obtain ⟨kind, char⟩ := key
  cases kind with
  | char => cases char <;> rfl
  | enter => exact absurd rfl henter
  | backspace | other | quit => rfl

theorem takeKey_of_isQuit {key : Key} (hkey : key.kind = .quit) : takeKey key p = stop p := by
  rw [takeKey, get_bind, if_pos hkey]
  by_cases hphase : p.phase = .finished
  · rw [stop_of_finished hphase, if_pos (by simpa [finished] using hphase)]
    rfl
  · rw [if_neg (by simpa [finished] using hphase)]

section

variable {key : Key} (hquit : key.kind ≠ .quit)
include hquit

theorem takeKey_of_not_waiting (hphase : p.phase ≠ .waiting) : takeKey key p = .ok () p := by
  rw [takeKey, get_bind, if_neg hquit, if_pos hphase, ite_self]
  rfl

theorem takeKey_of_asking (hphase : p.phase = .waiting) (hmode : p.mode = .awaitingInput) :
    takeKey key p = typeKey key p := by
  rw [takeKey, get_bind, if_neg (by simp [finished, hphase]), if_neg hquit,
    if_neg (by simp [hphase]), hmode]

theorem takeKey_of_pausing (hphase : p.phase = .waiting) (hmode : p.mode = .awaitingAnyKey) :
    takeKey key p = .ok () { p with phase := .updating, mode := .disabled } := by
  rw [takeKey, get_bind, if_neg (by simp [finished, hphase]), if_neg hquit,
    if_neg (by simp [hphase]), hmode]
  dsimp only
  rw [modify_bind, fire_of_next? .updating (by rw [hphase]; rfl)]

private theorem takeKey_of_disabled (hmode : p.mode = .disabled) : takeKey key p = .ok () p := by
  rw [takeKey, get_bind, if_neg hquit, hmode, ite_self, ite_self]
  rfl

end

private theorem outcome_takeKey (key : Key) (p : Player) :
    Outcome p (.press key) (takeKey key p) := by
  by_cases hquit : key.kind = .quit
  · rw [takeKey_of_isQuit hquit]
    exact outcome_stop (by simpa [Operation.isQuit] using hquit) p
  by_cases hphase : p.phase = .waiting
  · cases hmode : p.mode with
    | awaitingInput =>
      rw [takeKey_of_asking hquit hphase hmode]
      by_cases henter : key.kind = .enter
      · rw [typeKey_of_enter hphase henter]
        exact .moved (.submits hphase hmode henter)
      · rw [typeKey_of_ne henter]
        exact .moved (.types hphase hmode henter hquit)
    | awaitingAnyKey =>
      rw [takeKey_of_pausing hquit hphase hmode]
      exact .moved (.resumes hphase hmode hquit)
    | disabled =>
      rw [takeKey_of_disabled hquit hmode]
      exact .moved (.ignores hquit (.inr hmode))
  · rw [takeKey_of_not_waiting hquit hphase]
    exact .moved (.ignores hquit (.inl hphase))

theorem outcome_act (op : Operation) (p : Player) : Outcome p op (op.act p) := by
  cases op with
  | step now => exact outcome_takeStep now p
  | press key => exact outcome_takeKey key p
  | quit => exact outcome_stop rfl p

theorem act_of_isQuit {op : Operation} (hop : op.isQuit) : op.act p = stop p := by
  cases op with
  | step now => cases hop
  | press key => exact takeKey_of_isQuit (by simpa [Operation.isQuit] using hop)
  | quit => rfl

theorem act_of_finished (hphase : p.phase = .finished) (op : Operation) : op.act p = .ok () p := by
  cases op with
  | step now => exact takeStep_of_finished hphase
  | press key =>
    by_cases hquit : key.kind = .quit
    · exact (takeKey_of_isQuit hquit).trans (stop_of_finished hphase)
    · exact takeKey_of_not_waiting hquit (by simp [hphase])
  | quit => exact stop_of_finished hphase

private theorem apply_eq_outcome (op : Operation) (p : Player) : op.apply p = outcome op.act p := by
  cases op <;> rfl

theorem apply_of_act_error {op : Operation} {error : StepError} {left : Player}
    (h : op.act p = .error error left) : op.apply p = .error error := by
  rw [apply_eq_outcome, outcome, h]

/-- An operation either moves the player or fails and leaves it as it was. -/
theorem apply_cases (op : Operation) (p : Player) :
    (∃ p', op.act p = .ok () p' ∧ op.apply p = .ok p' ∧ Move p op p') ∨
      ∃ error, op.act p = .error error p ∧ op.apply p = .error error ∧ Fails p op error := by
  have houtcome := outcome_act op p
  rw [apply_eq_outcome, outcome]
  generalize op.act p = result at houtcome
  cases houtcome with
  | moved hmove => exact .inl ⟨_, rfl, rfl, hmove⟩
  | failed hfails => exact .inr ⟨_, rfl, rfl, hfails⟩

theorem move_of_apply {op : Operation} {p' : Player} (h : op.apply p = .ok p') : Move p op p' := by
  obtain ⟨moved, -, happly, hmove⟩ | ⟨error, -, happly, -⟩ := apply_cases op p
  · cases h.symm.trans happly
    exact hmove
  · cases h.symm.trans happly

theorem fails_of_apply {op : Operation} {error : StepError} (h : op.apply p = .error error) :
    Fails p op error := by
  obtain ⟨moved, -, happly, -⟩ | ⟨cause, -, happly, hfails⟩ := apply_cases op p
  · cases h.symm.trans happly
  · cases h.symm.trans happly
    exact hfails

theorem act_of_fails {op : Operation} {error : StepError} (h : Fails p op error) :
    op.act p = .error error p := by
  cases h with
  | uncounted hphase hcount =>
    rw [Operation.act, takeStep_of_revealing hphase, advanceReveal_of_uncounted hcount]
  | unlabelled hphase hlabel =>
    rw [Operation.act, takeStep_of_committing hphase, commitInput, get_bind, hlabel]
    rfl

/-- The player that an operation leaves, also when it fails. -/
def after (p : Player) (op : Operation) : Player := endState (op.act p)

def run (p : Player) (ops : List Operation) : Player := ops.foldl after p

theorem after_eq_or_move (p : Player) (op : Operation) :
    p.after op = p ∨ Move p op (p.after op) := by
  have houtcome := outcome_act op p
  rw [after]
  generalize op.act p = result at houtcome
  cases houtcome with
  | moved hmove => exact .inr hmove
  | failed _ => exact .inl rfl

theorem after_of_act {op : Operation} {p' : Player} (h : op.act p = .ok () p') :
    p.after op = p' := by
  rw [after, h]
  rfl

theorem after_of_act_error {op : Operation} {error : StepError} {left : Player}
    (h : op.act p = .error error left) : p.after op = left := by
  rw [after, h]
  rfl

theorem after_of_isQuit {op : Operation} (hop : op.isQuit) (hphase : p.phase ≠ .finished) :
    p.after op = p.stopped :=
  after_of_act ((act_of_isQuit hop).trans (stop_of_ne hphase))

theorem after_of_finished (hphase : p.phase = .finished) (op : Operation) : p.after op = p :=
  after_of_act (act_of_finished hphase op)

theorem after_press_of_ne {key : Key} (hphase : p.phase ≠ .waiting) (hkey : key.kind ≠ .quit) :
    p.after (.press key) = p :=
  after_of_act (takeKey_of_not_waiting hkey hphase)

theorem run_append (p : Player) (ops more : List Operation) :
    p.run (ops ++ more) = (p.run ops).run more := List.foldl_append

theorem run_of_finished (hphase : p.phase = .finished) (ops : List Operation) :
    p.run ops = p := by
  induction ops with
  | nil => rfl
  | cons op ops ih => rwa [run, List.foldl_cons, after_of_finished hphase]

/-- What holds at first and is kept by every move holds throughout a run. -/
theorem run_induction {motive : Player → Prop} (hstart : motive p)
    (hmove : ∀ {p p' : Player} {op : Operation}, Move p op p' → motive p → motive p')
    (ops : List Operation) : motive (p.run ops) := by
  induction ops generalizing p with
  | nil => exact hstart
  | cons op ops ih =>
    obtain hsame | hmoved := p.after_eq_or_move op
    · exact ih (hsame.symm ▸ hstart)
    · exact ih (hmove hmoved hstart)

end Player
end StoryPlayer
