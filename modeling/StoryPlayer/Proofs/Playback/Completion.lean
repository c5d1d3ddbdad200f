import Mathlib.Data.List.DropRight
import StoryPlayer.Proofs.Playback.Beats
import StoryPlayer.Proofs.Playback.Dialogue
import StoryPlayer.Proofs.Playback.Progress

/-!
# Stories come to their end

A player whose keys are all the enter key, and whose texts are revealed at one stroke, plays every
story to its end. How many ticks that takes, what is then on the screen and which answers are stored
can be told at each tick: `Due` says so, and each round brings the end one tick nearer.
-/

namespace StoryPlayer

/-- The ticks that an event takes if neither its key nor its text is late. -/
def Event.ticks : Event → Nat
  | text _ | input _ => 2
  | pause => 1
  | clear => 0

namespace Story

/-- The ticks that the events of a story take in all. -/
def ticks (story : Story) : Nat :=
  2 * (texts story).length + 2 * (labels story).length + story.count .pause

private theorem ticks_cons (e : Event) (story : Story) :
    ticks (e :: story) = e.ticks + ticks story := by
  simp only [ticks, texts, labels, List.filterMap_cons, List.count_cons]
  cases e with
  | text content => grind [Event.content?, Event.label?, Event.ticks]
  | input label => grind [Event.content?, Event.label?, Event.ticks]
  | pause => grind [Event.content?, Event.label?, Event.ticks]
  | clear => grind [Event.content?, Event.label?, Event.ticks]

private theorem ticks_clears_append {clears : Story} (hclears : ∀ e ∈ clears, e = .clear)
    (rest : Story) : ticks (clears ++ rest) = ticks rest := by
  induction clears with
  | nil => rfl
  | cons e clears ih =>
    obtain rfl : e = .clear := hclears e List.mem_cons_self
    rw [List.cons_append, ticks_cons, ih fun e he => hclears e (List.mem_cons_of_mem _ he)]
    exact Nat.zero_add _

private theorem labels_clears_append {clears : Story} (hclears : ∀ e ∈ clears, e = .clear)
    (rest : Story) : labels (clears ++ rest) = labels rest := by
  rw [labels_append, labels_eq_nil_of_clears hclears, List.nil_append]

/-- What is on the screen after a story are the texts after its last clearing. -/
private theorem log_eq_texts (story : Story) :
    log story = texts (story.rtakeWhile (· ≠ .clear)) := by
  induction story using List.reverseRecOn with
  | nil => rfl
  | append_singleton story e ih =>
    rw [log_append, ih]
    cases e with
    | clear =>
      rw [List.rtakeWhile_concat_neg _ _ _ (by simp)]
      rfl
    | text content =>
      rw [List.rtakeWhile_concat_pos _ _ _ (by simp), texts_append]
      rfl
    | input label =>
      rw [List.rtakeWhile_concat_pos _ _ _ (by simp), texts_append]
      exact (List.append_nil _).symm
    | pause =>
      rw [List.rtakeWhile_concat_pos _ _ _ (by simp), texts_append]
      exact (List.append_nil _).symm

end Story

/-- The answers once each of these questions was answered with nothing. -/
def Answers.leftBlank (answers : Answers) (labels : List Text) : Answers :=
  labels.foldl (fun answers label => answers.insert label []) answers

namespace Player

variable {p shown : Player} {key : Key} {now : Float} {n : Nat} {output : List Text}
  {answers : Answers}

private theorem after_enter_of_asking (hphase : p.phase = .waiting)
    (hmode : p.mode = .awaitingInput)
    (hkey : key.kind = .enter) : p.after (.press key) = { p with phase := .committing } :=
  after_of_act ((takeKey_of_asking (by simp [hkey]) hphase hmode).trans
    (typeKey_of_enter hphase hkey))

private theorem after_press_of_pausing (hphase : p.phase = .waiting)
    (hmode : p.mode = .awaitingAnyKey) (hkey : key.kind ≠ .quit) :
    p.after (.press key) = { p with phase := .updating, mode := .disabled } :=
  after_of_act (takeKey_of_pausing hkey hphase hmode)

/-- At the start of a tick, the end is so many ticks away, and these are the texts on the screen and
the answers that the story ends with. -/
structure Due (p : Player) (n : Nat) (output : List Text) (answers : Answers) : Prop where
  consistent : p.Consistent
  awake : p.phase ≠ .waiting
  live : p.phase ≠ .finished
  blank : p.inputBuffer = []
  ticks : Story.ticks p.upcoming + (if p.phase = .updating then 0 else 1) = n
  output : (p.underWay ++ p.upcoming).foldl Event.addTo p.output = output
  answers : p.answers.leftBlank (p.label.toList ++ Story.labels p.upcoming) = answers

theorem due_new {story : Story} {charDuration : Float}
    (h : new story charDuration answers = .ok p) :
    p.Due (Story.ticks story) (Story.log story) (answers.leftBlank (Story.labels story)) := by
  have hconsistent := consistent_new h
  rw [eq_of_new h] at hconsistent ⊢
  exact ⟨hconsistent, by simp, by simp, rfl, rfl, rfl, rfl⟩

/-- The text that is being revealed is due in full at this clock reading. -/
def InTime (p : Player) (now : Float) : Prop :=
  p.phase = .revealing → ∃ count, p.paceCount now = .ok count ∧ p.response.length ≤ count

instance (p : Player) (now : Float) : Decidable (p.InTime now) :=
  if hphase : p.phase = .revealing then
    match hcount : p.paceCount now with
    | .ok count =>
      if hle : p.response.length ≤ count then .isTrue fun _ => ⟨count, hcount, hle⟩
      else .isFalse fun h => by
        obtain ⟨count', hcount', hle'⟩ := h hphase
        cases hcount.symm.trans hcount'
        exact hle hle'
    | .error cause => .isFalse fun h => by
      obtain ⟨count, hcount', -⟩ := h hphase
      cases hcount.symm.trans hcount'
  else .isTrue fun h => absurd h hphase

private theorem Due.exists_step (h : p.Due n output answers) (htime : p.InTime now) :
    ∃ shown, p.step now = .ok shown := by
  cases hstep : p.step now with
  | ok shown => exact ⟨shown, rfl⟩
  | error error =>
    have herror : (Operation.step now).apply p = .error error := hstep
    obtain ⟨_, cause, hop, hphase, hcount, -⟩ := (h.consistent.apply_eq_error_iff error).mp herror
    cases hop
    obtain ⟨count, hok, -⟩ := htime hphase
    rw [hok] at hcount
    cases hcount

/-- What is due of a player that is about to play events: the clearings at their head change the
screen alone. -/
private theorem Due.of_updating (h : p.Due n output answers) (hphase : p.phase = .updating)
    {clears rest : Story} (hclears : ∀ e ∈ clears, e = .clear) (hnext : p.upcoming = clears ++ rest) :
    Story.ticks rest = n ∧ rest.foldl Event.addTo (clears.foldl Event.addTo p.output) = output ∧
      p.label = none ∧ p.answers.leftBlank (Story.labels rest) = answers := by
  have hlabel : p.label = none := (h.consistent.fits hphase).1.label
  have hticks := h.ticks
  have houtput := h.output
  have hanswers := h.answers
  rw [if_pos hphase, hnext, Story.ticks_clears_append hclears] at hticks
  rw [underWay_of_ne (by simp [hphase]), List.nil_append, hnext, List.foldl_append] at houtput
  rw [hlabel, hnext, Story.labels_clears_append hclears] at hanswers
  exact ⟨hticks, houtput, hlabel, hanswers⟩

/-- What the step of a tick does: it ends the story, or it leads on to the end that is due. -/
theorem Due.step_cases (h : p.Due n output answers) (htime : p.InTime now)
    (hstep : p.step now = .ok shown) (hkey : key.kind = .enter) :
    (n = 0 ∧ shown.finished = true ∧ shown.output = output ∧ shown.answers = answers) ∨
      ∃ m, n = m + 1 ∧ shown.finished = false ∧ (shown.after (.press key)).Due m output answers := by
  have hquit : key.kind ≠ .quit := by simp [hkey]
  have hmove := move_of_step hstep
  have hconsistent := (consistent_move hmove h.consistent).after (.press key)
  cases hmove with
  | @opensText _ clears rest content hphase hclears hnext =>
    obtain ⟨hticks, houtput, hlabel, hanswers⟩ := h.of_updating hphase hclears hnext
    rw [Story.ticks_cons, Event.ticks] at hticks
    rw [after_press_of_ne (by simp) hquit] at hconsistent ⊢
    refine .inr ⟨Story.ticks rest + 1, by omega, rfl, hconsistent, by simp, by simp, h.blank, rfl,
      houtput, ?_⟩
    rw [hlabel]
    exact hanswers
  | @asks _ clears rest label hphase hclears hnext =>
    obtain ⟨hticks, houtput, -, hanswers⟩ := h.of_updating hphase hclears hnext
    rw [Story.ticks_cons, Event.ticks] at hticks
    rw [after_enter_of_asking rfl rfl hkey] at hconsistent ⊢
    exact .inr ⟨Story.ticks rest + 1, by omega, rfl, hconsistent, by simp, by simp, h.blank, rfl,
      houtput, hanswers⟩
  | @pauses _ clears rest hphase hclears hnext =>
    obtain ⟨hticks, houtput, hlabel, hanswers⟩ := h.of_updating hphase hclears hnext
    rw [Story.ticks_cons, Event.ticks] at hticks
    rw [after_press_of_pausing rfl rfl hquit] at hconsistent ⊢
    refine .inr ⟨Story.ticks rest, by omega, rfl, hconsistent, by simp, by simp, h.blank, rfl,
      houtput, ?_⟩
    rw [hlabel]
    exact hanswers
  | ends hphase hclears =>
    obtain ⟨hticks, houtput, -, hanswers⟩ :=
      h.of_updating hphase hclears (List.append_nil p.upcoming).symm
    exact .inl ⟨hticks.symm, rfl, houtput, hanswers⟩
  | logs hphase hcount hle =>
    have hticks := h.ticks
    have houtput := h.output
    rw [if_neg (by simp [hphase])] at hticks
    rw [underWay_of_revealing hphase] at houtput
    rw [after_press_of_ne (by simp) hquit] at hconsistent ⊢
    exact .inr ⟨Story.ticks p.upcoming, hticks.symm, rfl, hconsistent, by simp, by simp, h.blank, rfl,
      houtput, h.answers⟩
  | @commits _ label hphase hlabel =>
    have hticks := h.ticks
    have houtput := h.output
    have hanswers := h.answers
    rw [if_neg (by simp [hphase])] at hticks
    rw [underWay_of_ne (by simp [hphase])] at houtput
    rw [hlabel] at hanswers
    rw [after_press_of_ne (by simp) hquit] at hconsistent ⊢
    refine .inr ⟨Story.ticks p.upcoming, hticks.symm, rfl, hconsistent, by simp, by simp, rfl, rfl,
      houtput, ?_⟩
    rw [h.blank]
    exact hanswers
  | reveals hphase hcount hlt =>
    obtain ⟨count, hcount', hle⟩ := htime hphase
    cases hcount.symm.trans hcount'
    omega
  | waits hphase => exact absurd hphase h.awake
  | quits hop => cases hop
  | isOver hphase => exact absurd hphase h.live

end Player

namespace Rehearsal

open Run

variable {τ : Type} {timing : Timing τ} {interval : Float} {r : Rehearsal τ}
  {start run : Run (Rehearsal τ)} {p : Player} {n left : Nat} {output : List Text}
  {answers : Answers}

def stepTime (timing : Timing τ) (run : Run (Rehearsal τ)) : Float :=
  ((run.timed (host timing)).reading (host timing)).1

/-- Whenever a text is being revealed, it is due in full at the next step. -/
def NeverLate (timing : Timing τ) (interval : Float) (start : Run (Rehearsal τ)) : Prop :=
  ∀ n run, Rounds (host timing) interval start n run → run.player.InTime (stepTime timing run)

/-- Whether playback ends within so many rounds, with no text late in any of them. -/
def isInTime (timing : Timing τ) (interval : Float) : Nat → Run (Rehearsal τ) → Bool
  | 0, _ => false
  | limit + 1, run =>
    decide (run.player.InTime (stepTime timing run)) &&
      match round (host timing) interval run with
      | .ok true next => isInTime timing interval limit next
      | _ => true

private theorem neverLate_of_isInTime {limit : Nat}
    (h : isInTime timing interval limit start = true) : NeverLate timing interval start := by
  intro n run hrounds
  obtain ⟨limit, hrun⟩ : ∃ limit, isInTime timing interval limit run = true := by
    induction hrounds with
    | none => exact ⟨limit, h⟩
    | more hrounds hround ih =>
      obtain ⟨limit, hrun⟩ := ih
      cases limit with
      | zero => cases hrun
      | succ limit =>
        rw [isInTime, hround, Bool.and_eq_true] at hrun
        exact ⟨limit, hrun.2⟩
  cases limit with
  | zero => cases hrun
  | succ limit =>
    rw [isInTime, Bool.and_eq_true] at hrun
    exact of_decide_eq_true hrun.1

private theorem step_of_player {shown : Player}
    (h : run.player.step (stepTime timing run) = .ok shown) :
    ∃ world, step (host timing) (run.timed (host timing)) = .ok () ⟨shown, world⟩ := by
  have hstep : (run.timed (host timing)).player.step
      ((run.timed (host timing)).reading (host timing)).1 = .ok shown := h
  rw [step_eq, hstep]
  exact ⟨_, rfl⟩

/-- A round before the last one brings the end one tick nearer. -/
theorem round_of_due (interval : Float) {key : Key}
    (hdue : run.player.Due (n + 1) output answers)
    (htime : run.player.InTime (stepTime timing run)) (hgood : run.world.goodRenders ≠ some 0)
    (hcue : run.world.cues.headD run.world.atEnd = .key key) (hkey : key.kind = .enter) :
    ∃ next, round (host timing) interval run = .ok true next ∧
      next.player.Due n output answers := by
  obtain ⟨shown, hmoved⟩ := hdue.exists_step htime
  obtain ⟨world, hstep⟩ := step_of_player hmoved
  obtain ⟨hzero, -⟩ | ⟨m, hm, hlive, hnext⟩ := hdue.step_cases htime hmoved hkey
  · cases hzero
  obtain rfl : n = m := by omega
  obtain ⟨-, hidle⟩ := step_timed hstep
  have hshow : showAndPoll (host timing) ⟨shown, world⟩ =
      .ok () (hearing timing (some key) ⟨shown, world⟩) := by
    apply showAndPoll_of_cue
    · rw [hidle.goodRenders]
      exact hgood
    · rw [hidle.cue]
      exact hcue
  have hlive' : (hearing timing (some key) ⟨shown, world⟩).player.finished = false := by
    simpa [Player.finished, hearing, Player.taking] using hnext.live
  have houtcome : RoundOutcome (host timing) interval run _ := .goesOn hstep hlive hshow hlive'
  refine ⟨_, houtcome.eq, ?_⟩
  obtain ⟨padding, clock', -, hpadded⟩ := exists_padded timing interval
    ((host timing).now run.world).1 (hearing timing (some key) ⟨shown, world⟩)
  rw [hpadded]
  exact hnext

/-- The last round. -/
theorem last_round_of_due (hdue : run.player.Due 0 output answers)
    (htime : run.player.InTime (stepTime timing run)) :
    ∃ last, round (host timing) interval run = .ok false last ∧ last.player.output = output ∧
      last.player.answers = answers ∧ last.world.calls = run.world.calls := by
  obtain ⟨shown, hmoved⟩ := hdue.exists_step htime
  obtain ⟨world, hstep⟩ := step_of_player hmoved
  obtain ⟨-, hover, houtput, hanswers⟩ | ⟨m, hm, -⟩ :=
    hdue.step_cases htime hmoved (show Key.enter.kind = .enter from rfl)
  · have houtcome : RoundOutcome (host timing) interval run _ := .ends hstep hover
    exact ⟨_, houtcome.eq, houtput, hanswers, calls_of_step hstep⟩
  · cases hm

theorem exists_rounds_of_due (hdue : start.player.Due (n + left) output answers)
    (hlate : NeverLate timing interval start) (hsound : start.world.goodRenders = none)
    (hcues : ∀ i < n + left, ∃ key, start.world.cueAt i = .key key ∧ key.kind = .enter) :
    ∃ run, Rounds (host timing) interval start n run ∧ run.player.Due left output answers := by
  induction n generalizing left with
  | zero => exact ⟨start, .none, by simpa using hdue⟩
  | succ n ih =>
    rw [Nat.add_right_comm, Nat.add_assoc] at hdue hcues
    obtain ⟨run, hrounds, hdue'⟩ := ih hdue hcues
    obtain ⟨key, hcue, hkey⟩ := hcues n (by omega)
    have hgood : run.world.goodRenders ≠ some 0 := by
      simp [goodRenders_of_rounds hrounds hsound]
    obtain ⟨next, hround, hnext⟩ := round_of_due interval hdue'
      (hlate n run hrounds) hgood ((cue_of_rounds hrounds).trans hcue) hkey
    exact ⟨next, .more hrounds hround, hnext⟩

/-- No story gets stuck: if the enter key is pressed in every tick and no text is late, playback
returns after two ticks for each text and each question, one for each pause and a last one that
makes no call. -/
theorem play_reaches_end {story : Story} {charDuration : Float}
    (hnew : Player.new story charDuration answers = .ok p) (hsound : r.goodRenders = none)
    (hcues : ∀ i < Story.ticks story, ∃ key, r.cueAt i = .key key ∧ key.kind = .enter)
    (hlate : NeverLate timing interval ⟨p, r⟩) :
    ∃ (final : Run (Rehearsal τ)) (beats : List Beat),
      (∀ limit, Story.ticks story < limit →
        play (host timing) interval limit 0 ⟨p, r⟩ = .ok (some (Story.ticks story + 1)) final) ∧
      beats.length = Story.ticks story ∧
      final.world.calls = r.calls ++ beats.flatMap Beat.calls ∧
      (∀ i beat, beats[i]? = some beat → BeatAt timing interval ⟨p, r⟩ i beat) ∧
      final.player.output = Story.texts (story.rtakeWhile (· ≠ .clear)) ∧
      final.player.answers = answers.leftBlank (Story.labels story) := by
  obtain ⟨run, hrounds, hdue⟩ : ∃ run, Rounds (host timing) interval ⟨p, r⟩ (Story.ticks story) run ∧
      run.player.Due 0 (Story.log story) (answers.leftBlank (Story.labels story)) :=
    exists_rounds_of_due (Player.due_new hnew) hlate hsound hcues
  obtain ⟨last, hround, houtput, hanswers, hcalls⟩ := last_round_of_due hdue (hlate _ run hrounds)
  obtain ⟨beats, hlength, hbeatCalls, hbeats⟩ := exists_beats hrounds
  refine ⟨⟨last.player, noted (host timing) [.playbackEnded (Story.ticks story + 1)] last.world⟩,
    beats, ?_, hlength, ?_, hbeats, ?_, hanswers⟩
  · intro limit hlimit
    exact (PlayOutcome.returns hlimit hrounds hround).eq
  · rw [calls_noted, hcalls, hbeatCalls]
  · rw [← Story.log_eq_texts]
    exact houtput

/-- Events of all kinds, on a screen that is slow enough for two characters a tick. -/
theorem play_reaches_end_of_each_kind :
    let story : Story := [.text ['H', 'i'], .clear, .input ['n'], .pause, .clear, .text ['y']]
    let r : Rehearsal SteppedClock := { clock := { renderCost := 1.0 }, atEnd := .key .enter }
    ∃ p final, Player.new story 0.5 ⟨[]⟩ = .ok p ∧
      NeverLate SteppedClock.timing 0.25 ⟨p, r⟩ ∧
      play (host SteppedClock.timing) 0.25 9 0 ⟨p, r⟩ = .ok (some 8) final ∧
      final.player.output = [['y']] ∧ final.player.answers.entries = [(['n'], [])] := by
  intro story r
  have hnew : Player.new story 0.5 ⟨[]⟩ =
      .ok { upcoming := story, charDuration := 0.5, answers := ⟨[]⟩ } := by
    rw [Player.new, if_neg (by decide)]
  have hinTime : isInTime SteppedClock.timing 0.25 9
      ⟨{ upcoming := story, charDuration := 0.5, answers := ⟨[]⟩ }, r⟩ = true := by
    decide +kernel
  have hlate := neverLate_of_isInTime hinTime
  have hcues : ∀ i < Story.ticks story, ∃ key, r.cueAt i = .key key ∧ key.kind = .enter :=
    fun i _ => ⟨.enter, rfl, rfl⟩
  obtain ⟨final, beats, hplay, -, -, -, houtput, hanswers⟩ := play_reaches_end hnew rfl hcues hlate
  exact ⟨_, final, hnew, hlate, hplay 9 (by decide), houtput, by rw [hanswers]; rfl⟩

end Rehearsal
end StoryPlayer
