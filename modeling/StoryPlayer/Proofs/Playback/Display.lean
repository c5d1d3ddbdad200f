import StoryPlayer.Proofs.Playback.Consistency
import StoryPlayer.Proofs.Playback.Progress
import StoryPlayer.Proofs.Text.Lines

/-!
# The display of a player

What a player displays only grows, as long as the clock does not take revealed characters back, no
clearing is played and nobody quits. A text that is opened, revealed further or handed over to the
output never makes a character vanish.
-/

namespace StoryPlayer

def View.display (view : View) : Text := Text.join '\n' view.displayLines

namespace Player

/-- The texts that the player shows, whole or in part. -/
def shown (p : Player) : List Text :=
  p.output ++ if p.phase = .revealing then [p.revealedText] else []

/-- The count of characters that an operation computes. -/
def counted (p : Player) : Operation → Option Nat
  | .step now => if p.phase = .revealing then (p.paceCount now).toOption else none
  | .press _ | .quit => none

/-- While a text is revealed, no step counts fewer characters than the step before; `last` is the
latest count for the text that is revealed now. -/
def steady (p : Player) (last : Nat) : List Operation → Bool
  | [] => true
  | op :: ops =>
    (p.counted op).all (last ≤ ·) &&
      (p.after op).steady ((p.counted op).getD (if p.phase = .revealing then last else 0)) ops

variable {p p' : Player} {op : Operation} {last : Nat}

private theorem display_view (p : Player) : p.view.display = Text.join '\n' p.shown := by
  rw [View.display, View.displayLines, Text.join_flatMap_split, shown, view]
  by_cases hphase : p.phase = .revealing
  · simp [hphase]
  · simp [hphase]

private theorem shown_of_ne (h : p.phase ≠ .revealing) : p.shown = p.output := by
  rw [shown, if_neg h, List.append_nil]

private theorem shown_of_revealing (h : p.phase = .revealing) :
    p.shown = p.output ++ [p.revealedText] := by
  rw [shown, if_pos h]

private theorem counted_step (hphase : p.phase = .revealing) {now : Float} {count : Nat}
    (hcount : p.paceCount now = .ok count) : p.counted (.step now) = some count := by
  simp [counted, hphase, hcount, Except.toOption]

/-- No more is revealed of a text than was counted last. -/
def Covers (last : Nat) (p : Player) : Prop := p.phase = .revealing → p.revealed ≤ last

private theorem covers_of_ne (h : p.phase ≠ .revealing) : p.Covers last :=
  fun hphase => absurd hphase h

theorem covers_move (hmove : Move p op p') (hp : p.Covers last) :
    p'.Covers ((p.counted op).getD (if p.phase = .revealing then last else 0)) := by
  cases hmove with
  | opensText => exact fun _ => Int.natCast_nonneg _
  | reveals hphase hcount =>
    intro _
    rw [counted_step hphase hcount]
    exact Int.le_refl _
  | waits hphase => exact covers_of_ne (by simp [hphase])
  | types hphase => exact covers_of_ne (by simp [hphase])
  | ignores =>
    intro hphase
    rw [counted, if_pos hphase]
    exact hp hphase
  | isOver hphase => exact covers_of_ne (by simp [hphase])
  | _ => exact covers_of_ne (by simp [stopped])

theorem covers_after (hconsistent : p.Consistent) (hp : p.Covers last) (op : Operation) :
    (p.after op).Covers ((p.counted op).getD (if p.phase = .revealing then last else 0)) := by
  obtain hmove | ⟨now, cause, rfl, hphase, hcount, hsame⟩ := hconsistent.after_cases op
  · exact covers_move hmove hp
  · rw [hsame, counted, if_pos hphase, if_pos hphase, hcount]
    exact hp

theorem Midway.revealedText (h : p.Midway) : p.revealedText = p.response.take p.revealed.toNat := by
  rw [Player.revealedText, Text.takeSigned, if_pos h.nonneg]

private theorem clears_eq_nil {clears rest played later : Story}
    (hclears : ∀ e ∈ clears, e = .clear)
    (hplayed : clears ++ rest = played ++ later) (hlater : later <:+ rest)
    (hclear : .clear ∉ played) : clears = [] := by
  obtain ⟨others, rfl⟩ := hlater
  rw [← List.append_assoc] at hplayed
  obtain rfl := List.append_cancel_right hplayed
  rw [List.eq_nil_iff_forall_not_mem]
  intro e he
  have heq := hclears e he
  subst heq
  exact hclear (List.mem_append_left _ he)

private theorem display_of_output (h : p.phase ≠ .revealing) (h' : p'.phase ≠ .revealing)
    (houtput : p'.output = p.output) : Text.join '\n' p.shown <+: Text.join '\n' p'.shown := by
  have hshown : p'.shown = p.shown := by rw [shown_of_ne h, shown_of_ne h', houtput]
  exact hshown ▸ List.prefix_rfl

theorem display_move (hmove : Move p op p') (hp : p.Consistent) (hcovers : p.Covers last)
    (hcount : (p.counted op).all (last ≤ ·)) (hop : ¬ op.isQuit) {played : Story}
    (hplayed : p.upcoming = played ++ p'.upcoming) (hclear : .clear ∉ played) :
    Text.join '\n' p.shown <+: Text.join '\n' p'.shown := by
  cases hmove with
  | opensText hphase hclears hnext =>
    -- The text is shown as an empty line at first.
    have hnil := clears_eq_nil hclears (hnext ▸ hplayed) (List.suffix_cons _ _) hclear
    subst hnil
    rw [shown_of_ne (by simp [hphase]), shown_of_revealing rfl]
    exact Text.join_prefix_append _ _ _
  | asks hphase hclears hnext | pauses hphase hclears hnext =>
    have hnil := clears_eq_nil hclears (hnext ▸ hplayed) (List.suffix_cons _ _) hclear
    subst hnil
    exact display_of_output (by simp [hphase]) (by simp) rfl
  | ends hphase hclears =>
    have hnext : p.upcoming ++ [] = played ++ [] := by simpa using hplayed
    have hnil := clears_eq_nil hclears hnext List.suffix_rfl hclear
    exact display_of_output (by simp [hphase]) (by simp) (by rw [hnil]; rfl)
  | @reveals _ count hphase hpace hlt =>
    obtain ⟨-, hmidway⟩ := hp.fits hphase
    rw [counted_step hphase hpace] at hcount
    have hlast : last ≤ count := by simpa using hcount
    have hrevealed := hcovers hphase
    have htake : p.response.take p.revealed.toNat <+: p.response.take count :=
      List.take_prefix_take_left (by omega)
    have hshown : ({ p with revealed := count } : Player).shown =
        p.output ++ [p.response.take count] := by
      simp [shown, hphase, revealedText, Text.takeSigned]
    rw [hshown, shown_of_revealing hphase, hmidway.revealedText]
    exact Text.join_concat_prefix _ _ htake
  | logs hphase =>
    obtain ⟨-, hmidway⟩ := hp.fits hphase
    rw [shown_of_revealing hphase, shown_of_ne (by simp), hmidway.revealedText]
    exact Text.join_concat_prefix _ _ (List.take_prefix _ _)
  | commits hphase | submits hphase | resumes hphase =>
    exact display_of_output (by simp [hphase]) (by simp) rfl
  | types hphase => exact display_of_output (by simp [hphase]) (by simp [hphase]) rfl
  | waits => exact List.prefix_rfl
  | ignores => exact List.prefix_rfl
  | quits hquit => exact absurd hquit hop
  | isOver => exact List.prefix_rfl

theorem display_after (hp : p.Consistent) (hcovers : p.Covers last)
    (hcount : (p.counted op).all (last ≤ ·)) (hop : ¬ op.isQuit) {played : Story}
    (hplayed : p.upcoming = played ++ (p.after op).upcoming) (hclear : .clear ∉ played) :
    Text.join '\n' p.shown <+: Text.join '\n' (p.after op).shown := by
  obtain hsame | hmove := p.after_eq_or_move op
  · exact hsame.symm ▸ List.prefix_rfl
  · exact display_move hmove hp hcovers hcount hop hplayed hclear

theorem display_run (hp : p.Consistent) (hcovers : p.Covers last) {ops : List Operation}
    (hops : ∀ op ∈ ops, ¬ op.isQuit) (hsteady : p.steady last ops) {played : Story}
    (hplayed : p.upcoming = played ++ (p.run ops).upcoming) (hclear : .clear ∉ played) :
    Text.join '\n' p.shown <+: Text.join '\n' (p.run ops).shown := by
  induction ops generalizing p last played with
  | nil => exact List.prefix_rfl
  | cons op ops ih =>
    rw [steady, Bool.and_eq_true] at hsteady
    -- What is played in the end is what this operation plays and what the others play.
    obtain ⟨first, hfirst⟩ := upcoming_run p [op]
    obtain ⟨later, hlater⟩ := upcoming_run (p.after op) ops
    change first ++ (p.after op).upcoming = p.upcoming at hfirst
    change p.upcoming = played ++ ((p.after op).run ops).upcoming at hplayed
    have hsplit : first ++ later = played := by
      rw [← hfirst, ← hlater, ← List.append_assoc] at hplayed
      exact List.append_cancel_right hplayed
    rw [← hsplit, List.mem_append, not_or] at hclear
    apply List.IsPrefix.trans
    · exact display_after hp hcovers hsteady.1 (hops op List.mem_cons_self) hfirst.symm hclear.1
    · apply ih (hp.after op) (covers_after hp hcovers op) _ hsteady.2 hlater.symm hclear.2
      intro other hother
      exact hops other (List.mem_cons_of_mem _ hother)

private theorem steady_append (hp : p.Consistent) (hcovers : p.Covers last)
    {ops more : List Operation} (hsteady : p.steady last (ops ++ more)) :
    ∃ last', (p.run ops).Covers last' ∧ (p.run ops).steady last' more := by
  induction ops generalizing p last with
  | nil => exact ⟨last, hcovers, hsteady⟩
  | cons op ops ih =>
    rw [List.cons_append, steady, Bool.and_eq_true] at hsteady
    exact ih (hp.after op) (covers_after hp hcovers op) hsteady.2

/-- Of two moments of a run without a quit, the later one displays all that the earlier one does,
if no clearing is played between them and the clock takes no characters back. -/
theorem run_display_grows {story : Story} {charDuration : Float} {answers : Answers}
    (hnew : new story charDuration answers = .ok p) {ops more : List Operation}
    (hops : ∀ op ∈ ops ++ more, ¬ op.isQuit) (hsteady : p.steady 0 (ops ++ more)) {played : Story}
    (hplayed : (p.run ops).upcoming = played ++ (p.run (ops ++ more)).upcoming)
    (hclear : .clear ∉ played) :
    (p.run ops).view.display <+: (p.run (ops ++ more)).view.display := by
  have hp := consistent_new hnew
  have hcovers : p.Covers 0 := by
    rw [eq_of_new hnew]
    exact covers_of_ne (by simp)
  obtain ⟨last, hcovers, hsteady⟩ := steady_append hp hcovers hsteady
  rw [run_append] at hplayed ⊢
  rw [display_view, display_view]
  apply display_run (hp.run ops) hcovers _ hsteady hplayed hclear
  intro op hop
  exact hops op (List.mem_append_right _ hop)

theorem run_display_grows_of_two_texts :
    ∃ p ops more, new [.text ['a', 'b'], .text ['\n', 'c']] 1.0 ⟨[]⟩ = .ok p ∧
      (∀ op ∈ ops ++ more, ¬ op.isQuit) ∧ p.steady 0 (ops ++ more) ∧
      (p.run ops).upcoming = [.text ['\n', 'c']] ++ (p.run (ops ++ more)).upcoming ∧
      (p.run ops).view.display = ['a'] ∧
      (p.run (ops ++ more)).view.display = ['a', 'b', '\n', '\n'] ∧
      (p.run ops).view.display <+: (p.run (ops ++ more)).view.display := by
  have hnew : new [.text ['a', 'b'], .text ['\n', 'c']] 1.0 ⟨[]⟩ =
      .ok { upcoming := [.text ['a', 'b'], .text ['\n', 'c']], charDuration := 1.0,
            answers := ⟨[]⟩ } := by
    rw [new, if_neg (by decide)]
  have hops : ∀ op ∈ [.step 0.0, .step 1.5] ++ [.step 1.5, .press .enter, .step 3.0, .step 4.0,
      .step 5.0], ¬ Operation.isQuit op := by simp [Operation.isQuit, Key.enter]
  refine ⟨_, [.step 0.0, .step 1.5],
    [.step 1.5, .press .enter, .step 3.0, .step 4.0, .step 5.0], hnew, hops, by decide +kernel,
    by decide +kernel, by decide +kernel, by decide +kernel, ?_⟩
  exact run_display_grows hnew hops (by decide +kernel)
    (show _ = [Event.text ['\n', 'c']] ++ _ by decide +kernel) (by decide)

end Player
end StoryPlayer
