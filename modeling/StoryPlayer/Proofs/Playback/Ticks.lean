import StoryPlayer.Playback.Loop

/-!
# Ticks

What the actions of the playback loop do, said once for every host: each action starts where the
last one ended.
-/

namespace StoryPlayer

theorem bind_of_eq_ok {ε σ α β : Type} {action : EStateM ε σ α} {next : α → EStateM ε σ β}
    {before after : σ} {a : α} (h : action before = .ok a after) :
    (action >>= next) before = next a after := by
  change EStateM.bind action next before = _
  rw [EStateM.bind, h]

theorem bind_of_eq_error {ε σ α β : Type} {action : EStateM ε σ α} {next : α → EStateM ε σ β}
    {before after : σ} {error : ε} (h : action before = .error error after) :
    (action >>= next) before = .error error after := by
  change EStateM.bind action next before = _
  rw [EStateM.bind, h]

theorem get_eq_ok {ε σ : Type} (s : σ) : (get : EStateM ε σ σ) s = .ok s s := rfl

namespace Run

variable {σ : Type} {host : Host σ}

/-- The surroundings after notes were written. -/
def noted (host : Host σ) (notes : List Note) (world : σ) : σ :=
  notes.foldl (fun w note => host.note note w) world

theorem writeNotes_eq_ok (notes : List Note) (run : Run σ) :
    writeNotes host notes run = .ok () ⟨run.player, noted host notes run.world⟩ := rfl

private theorem onPlayer_of_ok {action : Player.Action} {run : Run σ} {p : Player}
    (h : action run.player = .ok () p) : onPlayer action run = .ok () ⟨p, run.world⟩ := by
  rw [onPlayer, h]

/-- A step that needs no clock leaves the clock alone. -/
theorem step_of_timeless {run : Run σ} {p : Player} (hclock : run.player.readsClock = false)
    (hstep : run.player.step 0.0 = .ok p) :
    step host run = .ok () ⟨p, noted host run.player.stepNotes run.world⟩ := by
  rw [step, bind_of_eq_ok (get_eq_ok run), bind_of_eq_ok (writeNotes_eq_ok _ run), hclock]
  exact onPlayer_of_ok (Player.outcome_eq_ok_iff.mp hstep)

theorem press_of_ok {run : Run σ} {key : Key} {p : Player} (hpress : run.player.press key = .ok p) :
    press host key run = .ok () ⟨p, noted host (run.player.pressNotes key) run.world⟩ := by
  rw [press, bind_of_eq_ok (get_eq_ok run), bind_of_eq_ok (writeNotes_eq_ok _ run)]
  exact onPlayer_of_ok (Player.outcome_eq_ok_iff.mp hpress)

theorem inWorld_of_ok {α : Type} {action : EStateM Failure σ α} {run : Run σ} {a : α} {world : σ}
    (h : action run.world = .ok a world) : inWorld action run = .ok a ⟨run.player, world⟩ := by
  rw [inWorld, h]

theorem inWorld_of_error {α : Type} {action : EStateM Failure σ α} {run : Run σ} {failure : Failure}
    {world : σ} (h : action run.world = .error failure world) :
    inWorld action run = .error failure ⟨run.player, world⟩ := by
  rw [inWorld, h]

theorem showAndPoll_of_render_error {run : Run σ} {failure : Failure} {shown : σ}
    (hrender : host.render run.player.view run.world = .error failure shown) :
    showAndPoll host run = .error failure ⟨run.player, shown⟩ := by
  rw [showAndPoll, bind_of_eq_ok (get_eq_ok run), bind_of_eq_error (inWorld_of_error hrender)]

theorem showAndPoll_of_poll_error {run : Run σ} {failure : Failure} {shown polled : σ}
    (hrender : host.render run.player.view run.world = .ok () shown)
    (hpoll : host.poll shown = .error failure polled) :
    showAndPoll host run = .error failure ⟨run.player, polled⟩ := by
  rw [showAndPoll, bind_of_eq_ok (get_eq_ok run), bind_of_eq_ok (inWorld_of_ok hrender),
    bind_of_eq_error (inWorld_of_error hpoll)]

theorem showAndPoll_of_none {run : Run σ} {shown polled : σ}
    (hrender : host.render run.player.view run.world = .ok () shown)
    (hpoll : host.poll shown = .ok none polled) :
    showAndPoll host run = .ok () ⟨run.player, polled⟩ := by
  rw [showAndPoll, bind_of_eq_ok (get_eq_ok run), bind_of_eq_ok (inWorld_of_ok hrender),
    bind_of_eq_ok (inWorld_of_ok hpoll)]
  rfl

theorem showAndPoll_of_some {run : Run σ} {shown polled : σ} {key : Key}
    (hrender : host.render run.player.view run.world = .ok () shown)
    (hpoll : host.poll shown = .ok (some key) polled) :
    showAndPoll host run = press host key ⟨run.player, polled⟩ := by
  rw [showAndPoll, bind_of_eq_ok (get_eq_ok run), bind_of_eq_ok (inWorld_of_ok hrender),
    bind_of_eq_ok (inWorld_of_ok hpoll)]

theorem tick_of_ok {run stepped polled : Run σ} (hstep : step host run = .ok () stepped)
    (hlive : stepped.player.finished = false)
    (hshow : showAndPoll host stepped = .ok () polled) :
    tick host run = .ok (!polled.player.finished) polled := by
  rw [tick, bind_of_eq_ok hstep, bind_of_eq_ok (get_eq_ok stepped), hlive,
    if_neg Bool.false_ne_true, bind_of_eq_ok hshow]
  rfl

/-- So many ticks lead from one run to the other, and playback goes on after each of them. -/
inductive Ticks (host : Host σ) (start : Run σ) : Nat → Run σ → Prop
  | none : Ticks host start 0 start
  | more {n : Nat} {run next : Run σ} (hticks : Ticks host start n run)
      (htick : tick host run = .ok true next) : Ticks host start (n + 1) next

end Run
end StoryPlayer
