import StoryPlayer.Program
import StoryPlayer.Proofs.Playback.Moves
import StoryPlayer.Proofs.Terminal.Rendering

/-!
# Restoring the terminal

Once a terminal is entered, the session goes on to restore it, whatever happens there. But the calls
that restore it can be refused like all others, and after a refusal the rest of them is not made.
The call that leaves the terminal is the last of them, so it is made just if all before it are
granted.
-/

namespace StoryPlayer

private theorem endState_cleanUp {σ α : Type} (action : EStateM Failure σ Unit)
    (result : EStateM.Result Failure σ α) :
    endState (Failure.cleanUp action result) = endState (action (endState result)) := by
  cases result with
  | ok value s =>
    simp only [Failure.cleanUp, endState]
    cases action s <;> rfl
  | error failure s =>
    simp only [Failure.cleanUp, endState]
    cases action s <;> rfl

namespace Stage

variable {stage : Stage} {facility : Facility}

instance (stage : Stage) : DecidablePred stage.Grants :=
  fun facility => inferInstanceAs (Decidable (stage.refusals.find? (·.1 = facility) = none))

def recording (made : SessionCall) (stage : Stage) : Stage :=
  { stage with sessionBack := made :: stage.sessionBack }

private theorem call_of_grants (h : stage.Grants facility) (made : SessionCall) :
    call facility made stage = .ok () (stage.recording made) :=
  use_eq_ok h

private theorem call_of_not_grants (h : ¬ stage.Grants facility) (made : SessionCall) :
    ∃ failure, call facility made stage = .error failure (stage.recording made) := by
  obtain ⟨refusal, hrefusal⟩ := Option.ne_none_iff_exists'.mp h
  refine ⟨.terminal refusal.2, ?_⟩
  change use facility (stage.recording made) = _
  rw [use, show (stage.recording made).refusals.find? (·.1 = facility) = some refusal from hrefusal]

/-- Calls made one after the other, until one of them is refused. -/
def callAll : List (Facility × SessionCall) → EStateM Failure Stage Unit
  | [] => return ()
  | (facility, made) :: calls => do
    call facility made
    callAll calls

/-- The calls that are made of those in a list: up to the first that is refused. -/
def made (stage : Stage) : List (Facility × SessionCall) → List SessionCall
  | [] => []
  | (facility, call) :: calls => call :: if stage.Grants facility then stage.made calls else []

private theorem made_recording (call : SessionCall) (stage : Stage)
    (calls : List (Facility × SessionCall)) :
    (stage.recording call).made calls = stage.made calls := by
  induction calls with
  | nil => rfl
  | cons next calls ih =>
    rw [made, made, ih]
    rfl

theorem endState_callAll (stage : Stage) (calls : List (Facility × SessionCall)) :
    (endState (callAll calls stage)).sessionBack =
      (stage.made calls).reverse ++ stage.sessionBack := by
  induction calls generalizing stage with
  | nil => rfl
  | cons next calls ih =>
    obtain ⟨facility, first⟩ := next
    rw [callAll, made, List.reverse_cons, List.append_assoc]
    by_cases h : stage.Grants facility
    · rw [bind_of_eq_ok (call_of_grants h first), ih, made_recording, if_pos h]
      rfl
    · obtain ⟨failure, hfailure⟩ := call_of_not_grants h first
      rw [bind_of_eq_error hfailure, if_neg h]
      rfl

theorem mem_made_concat {calls : List (Facility × SessionCall)} {last : SessionCall}
    (hlast : ∀ call ∈ calls, call.2 ≠ last) :
    last ∈ stage.made (calls ++ [(facility, last)]) ↔ ∀ call ∈ calls, stage.Grants call.1 := by
  induction calls with
  | nil => simp [made]
  | cons next calls ih =>
    have hnext := hlast next List.mem_cons_self
    have ih := ih fun call hcall => hlast call (List.mem_cons_of_mem _ hcall)
    rw [List.cons_append, made, List.mem_cons, List.forall_mem_cons, ← ih]
    by_cases h : stage.Grants next.1
    · simp [h, Ne.symm hnext]
    · simp [h, Ne.symm hnext]

/-- What restoring the terminal undoes before it leaves it. -/
def undoing : List (Facility × SessionCall) :=
  [(.keypad false, .keypad false), (.lineByLine, .lineByLine), (.showTyping, .showTyping)]

def restoring : List (Facility × SessionCall) := undoing ++ [(.leave, .leave)]

private theorem restore_eq_callAll :
    restore = (callAll restoring >>= fun _ => modify (writeNote .terminalRestored)) := by
  simp only [restore, callAll, restoring, undoing, List.cons_append, List.nil_append, bind_assoc,
    pure_bind]

theorem sessionBack_restore (stage : Stage) :
    (endState (restore stage)).sessionBack =
      (stage.made restoring).reverse ++ stage.sessionBack := by
  rw [← endState_callAll, restore_eq_callAll]
  cases h : callAll restoring stage with
  | ok value last =>
    rw [bind_of_eq_ok h]
    rfl
  | error failure last =>
    rw [bind_of_eq_error h]

private theorem leave_mem_made_restoring (stage : Stage) :
    .leave ∈ stage.made restoring ↔
      stage.Grants (.keypad false) ∧ stage.Grants .lineByLine ∧ stage.Grants .showTyping := by
  have hlast : ∀ call ∈ undoing, call.2 ≠ .leave := by decide
  rw [restoring, mem_made_concat hlast]
  simp [undoing]

/-- The stage is part of a larger state, and `onStage` makes an action on the stage one on that. -/
def Within {σ : Type} (onStage : EStateM Failure Stage Unit → EStateM Failure σ Unit)
    (stageOf : σ → Stage) : Prop :=
  ∀ action s, stageOf (endState (onStage action s)) = endState (action (stageOf s))

theorem within_id : Within id id := fun _ _ => rfl

theorem within_inWorld : Within Run.inWorld Run.world := by
  intro action run
  cases h : action run.world with
  | ok value stage =>
    rw [Run.inWorld_of_ok h]
    rfl
  | error failure stage =>
    rw [Run.inWorld_of_error h]
    rfl

end Stage

open Stage

variable {σ α : Type} {onStage : EStateM Failure Stage Unit → EStateM Failure σ Unit}
  {stageOf : σ → Stage}

/-- A session ends where restoring the terminal ends, which starts where the work ended. -/
private theorem endState_inSession {s entered : σ} (henter : onStage Stage.enter s = .ok () entered)
    (body : EStateM Failure σ α) :
    endState (inSession onStage body s) =
      endState (onStage restore (endState ((onStage setUp *> body) entered))) := by
  have hsession : inSession onStage body s =
      Failure.cleanUp (onStage restore) ((onStage setUp *> body) entered) := bind_of_eq_ok henter
  rw [hsession, endState_cleanUp]

/-- However the set-up and the body of a session end, and whatever they do: once the terminal is
entered, the calls that restore it are made up to the first that is refused, and the call that
leaves the terminal is among them just if the three before it are granted. -/
theorem session_leaves_iff (hwithin : Within onStage stageOf) {s entered : σ}
    (henter : onStage Stage.enter s = .ok () entered) (body : EStateM Failure σ α) :
    let worked := stageOf (endState ((onStage setUp *> body) entered))
    (stageOf (endState (inSession onStage body s))).sessionBack =
        (worked.made restoring).reverse ++ worked.sessionBack ∧
      (.leave ∈ worked.made restoring ↔
        worked.Grants (.keypad false) ∧ worked.Grants .lineByLine ∧
          worked.Grants .showTyping) := by
  intro worked
  rw [endState_inSession henter, hwithin]
  exact ⟨sessionBack_restore worked, leave_mem_made_restoring worked⟩

def Stage.refusing (facilities : List Facility) : Stage :=
  { refusals := facilities.map fun facility => (facility, "refused".toList) }

/-- An empty story about to be played on a stage. -/
def Run.ofStage (stage : Stage) : Run Stage :=
  ⟨{ upcoming := [], charDuration := 0.5, answers := ⟨[]⟩ }, stage⟩

/-- A terminal that cannot look for keys without waiting is left although its set-up fails, and one
that cannot go back to reading lines is not left although nothing else fails. -/
theorem session_leaves_iff_of_refusals :
    .leave ∈ (endState (inSession id (pure ()) (.refusing [.noDelay, .leave]))).session ∧
    .leave ∉
      (endState (Program.perform 1 0.0 (.ofStage (.refusing [.lineByLine])))).world.session := by
  constructor
  · have henter : id Stage.enter (.refusing [.noDelay, .leave]) = .ok () _ := rfl
    obtain ⟨hrecord, hleave⟩ := session_leaves_iff within_id henter (pure ())
    dsimp only [id] at hrecord
    rw [session, List.mem_reverse, hrecord, List.mem_append, List.mem_reverse]
    exact .inl (hleave.mpr (by decide))
  · have henter : Run.inWorld Stage.enter (.ofStage (.refusing [.lineByLine])) = .ok () _ := rfl
    obtain ⟨hrecord, hleave⟩ :=
      session_leaves_iff within_inWorld henter (Run.play Stage.host 0.0 1 0)
    rw [Program.perform, session, List.mem_reverse, hrecord, List.mem_append, List.mem_reverse,
      hleave]
    decide +kernel

/-- The terminal is not always left: going back to reading lines can fail. -/
theorem not_forall_session_left :
    ¬ ∀ (body : EStateM Failure Stage Unit) (stage entered : Stage),
      Stage.enter stage = .ok () entered →
      .leave ∈ (endState (inSession id body stage)).session := by
  intro h
  have hleave := h (pure ()) (.refusing [.lineByLine]) _ rfl
  revert hleave
  decide

end StoryPlayer
