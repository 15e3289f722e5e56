import RunWatch.Proofs.Control.Coherence
import RunWatch.Proofs.Control.Easing

/-!
# Listening

A controller hears of its stream when the stream is opened and when it takes a frame of it. Nothing
else touches the time at which it last did so, and a stream that is open afterwards is the one that
was open before.
-/

namespace RunWatch.Controller

/-- The stream is the same if there is one, and nothing has been heard of it. -/
structure Listens (c c' : Controller) : Prop where
  times : c'.times = c.times
  lastFrame : c'.lastFrame = c.lastFrame
  stream : c'.streaming = true → c.streaming = true ∧ c'.stream = c.stream

variable {c c' d : Controller}

theorem Listens.refl (c : Controller) : c.Listens c :=
  ⟨rfl, rfl, fun open_ => ⟨open_, rfl⟩⟩

theorem Listens.trans (h : c.Listens c') (h' : c'.Listens d) : c.Listens d where
  times := h'.times.trans h.times
  lastFrame := h'.lastFrame.trans h.lastFrame
  stream open_ := by
    obtain ⟨streaming, second⟩ := h'.stream open_
    obtain ⟨before, first⟩ := h.stream streaming
    exact ⟨before, second.trans first⟩

theorem listens_closeStream (c : Controller) : c.Listens c.closeStream := by
  rw [closeStream_eq]
  exact ⟨rfl, rfl, nofun⟩

theorem listens_stopWatchdog (c : Controller) : c.Listens c.stopWatchdog := by
  rw [stopWatchdog_eq]
  exact { Listens.refl c with }

theorem listens_armWatchdog (c : Controller) : c.Listens c.armWatchdog := by
  rw [armWatchdog_eq]
  exact { Listens.refl c with }

theorem listens_publish (c : Controller) : c.Listens c.publish := by
  rw [publish_eq]
  exact { Listens.refl c with }

theorem listens_reply (result : Except ClientFailure Unit) (c : Controller) :
    c.Listens (c.reply result) := by
  have answered : c.Listens ({ c with awaiting := none }.emit (.reply result)) :=
    { Listens.refl c with }
  exact answered.trans (listens_publish _)

theorem listens_openStream (command : RunCommand) (request : StreamRequest) (c : Controller) :
    c.Listens (c.openStream command request) :=
  (listens_closeStream c).trans { Listens.refl c.closeStream with }

theorem listens_settle (x : RunState × Transition) (c : Controller) : c.Listens (c.settle x) := by
  have changed : c.Listens { c with state := x.1 } := { Listens.refl c with }
  have shut (d : Controller) : d.Listens (if x.2.closeStream then d.closeStream else d) := by
    split
    · exact listens_closeStream d
    · exact .refl d
  have ended (d : Controller) :
      d.Listens (if x.2.changed && x.1.isTerminal then d.closeStream.stopWatchdog else d) := by
    split
    · exact (listens_closeStream d).trans (listens_stopWatchdog _)
    · exact .refl d
  exact (changed.trans (shut _)).trans (ended _)

/-! ### Steps -/

theorem listens_command (cmd : Command) (c : Controller) : c.Listens (c.command cmd) := by
  cases cmd with
  | start workflow inputs =>
    simp only [command, start]
    split
    · exact listens_reply _ c
    · split
      · exact listens_reply _ c
      · have placed : c.stopWatchdog.Listens
            { c.stopWatchdog with state := RunState.placeholder workflow } :=
          { Listens.refl c.stopWatchdog with }
        exact ((listens_stopWatchdog c).trans placed).trans (listens_openStream _ _ _)
  | pause =>
    simp only [command, pause]
    split
    · exact listens_reply _ c
    · split
      · exact listens_reply _ c
      · exact { Listens.refl c with }
  | resume =>
    simp only [command, resume]
    split
    · exact listens_openStream _ _ c
    · exact listens_reply _ c
  | cancel =>
    simp only [command, cancel]
    split
    · exact listens_reply _ c
    · split
      · exact (listens_settle _ c).trans (listens_reply _ _)
      · exact { Listens.refl c with }

theorem listens_acknowledged (result : Except ClientFailure Unit) (c : Controller) :
    c.Listens (c.acknowledged result) := by
  unfold acknowledged
  split
  · exact (listens_settle _ c).trans (listens_reply _ _)
  · exact (listens_settle _ c).trans (listens_reply _ _)
  · exact listens_reply _ c
  · exact listens_reply _ c
  · exact .refl c

theorem listens_failUnconfirmed (message : String) (c : Controller) :
    c.Listens (c.failUnconfirmed message) := by
  unfold failUnconfirmed
  split
  · exact .refl c
  · exact (listens_stopWatchdog c).trans (listens_settle _ _)

theorem listens_tick (now : Nat) (c : Controller) : c.Listens (c.tick now) := by
  unfold tick
  split
  · exact listens_stopWatchdog c
  · split
    · exact .refl c
    · split
      · exact .refl c
      · exact { Listens.refl c with }

theorem listens_polled (result : Except PollFailure RunSnapshot) (c : Controller) :
    c.Listens (c.polled result) := by
  have back : c.Listens { c with fetching := false } := { Listens.refl c with }
  unfold polled
  split
  · exact back.trans (listens_settle _ _)
  · exact back.trans ((listens_stopWatchdog _).trans (listens_settle _ _))
  · exact back

/-- After the opening the controller has just heard of the stream. -/
theorem listens_accepted (asked : Operation.awaitsStream c = true) (unclosed : c.closed = false)
    (now : Nat) : (c.install now).Listens (c.step now (.opened (.ok ()))) := by
  rcases step_accepted asked unclosed now with started | resumed
  · rw [started]
    exact (listens_armWatchdog _).trans (listens_reply _ _)
  · rw [resumed]
    exact ((listens_settle _ _).trans (listens_armWatchdog _)).trans (listens_reply _ _)

theorem opened_of_unasked (unasked : Operation.awaitsStream c = false) (now : Nat)
    (result : Except StreamFailure Unit) : c.opened now result = c := by
  unfold opened
  split
  case h_5 => rfl
  all_goals
    rename_i asked
    rw [Operation.awaitsStream, asked] at unasked
    cases unasked

theorem listens_refused (now : Nat) (failure : StreamFailure) (c : Controller) :
    c.Listens (c.opened now (.error failure)) := by
  unfold opened
  split
  · rename_i given; cases given
  · have noted (s : RunState) : c.Listens { c with state := s } := { Listens.refl c with }
    exact (noted _).trans (listens_reply _ _)
  · rename_i given; cases given
  · exact listens_reply _ c
  · exact .refl c

/-- The input is a frame of the open stream. -/
def HearsFrame (c : Controller) (input : Input) : Prop :=
  ∃ n f, input = .message (.signal n (.frame f)) ∧ c.concerns (.signal n (.frame f)) = true

theorem listens_frame (now : Nat) (f : Frame) (c : Controller) :
    Listens { c with lastFrame := now } (c.signal now (.frame f)) := by
  simp only [signal]
  split
  · exact listens_settle _ _
  · exact .refl _

theorem listens_message {now : Nat} {m : Message} (unheard : ¬c.HearsFrame (.message m)) :
    c.Listens (c.message now m) := by
  unfold message
  split
  · exact .refl c
  · rename_i concerned
    rw [Bool.not_eq_false] at concerned
    refine Listens.trans ?_ (listens_publish _)
    cases m with
    | signal n s =>
      cases s with
      | frame f => exact absurd ⟨n, f, rfl, concerned⟩ unheard
      | closed => exact (listens_closeStream c).trans (listens_failUnconfirmed _ _)
      | failed failure => exact (listens_closeStream c).trans (listens_failUnconfirmed _ _)
    | tick n => exact listens_tick now c
    | polled n result => exact listens_polled result c

theorem listens_step (now : Nat) {input : Input} (unheard : ¬c.HearsFrame input)
    (unopened : input = .opened (.ok ()) → Operation.awaitsStream c = false) :
    c.Listens (c.step now input) := by
  unfold step
  split
  · exact .refl c
  · split
    · exact listens_command _ c
    · exact listens_message unheard
    · have given : c.Listens (c.closeStream.stopWatchdog).publish :=
        ((listens_closeStream c).trans (listens_stopWatchdog _)).trans (listens_publish _)
      exact given.trans { Listens.refl _ with }
    · rename_i result _
      cases result with
      | ok =>
        rw [opened_of_unasked (unopened rfl)]
        exact .refl c
      | error failure => exact listens_refused now failure c
    · exact listens_acknowledged _ c
    · exact .refl c

theorem streaming_of_hearsFrame {input : Input} (heard : c.HearsFrame input) :
    c.streaming = true := by
  obtain ⟨n, f, -, concerned⟩ := heard
  simp only [concerns, Bool.and_eq_true] at concerned
  exact concerned.2

/-- A stream is open only if it was open before or has been waited for. -/
theorem streaming_of_step {now : Nat} {input : Input}
    (open_ : (c.step now input).streaming = true) :
    c.streaming = true ∨ Operation.awaitsStream c = true := by
  by_cases heard : c.HearsFrame input
  · exact .inl (streaming_of_hearsFrame heard)
  · cases asks : Operation.awaitsStream c with
    | true => exact .inr rfl
    | false => exact .inl ((listens_step now heard fun _ => asks).stream open_).1

theorem listens_step_frame (now : Nat) {n : Nat} {f : Frame} (unclosed : c.closed = false)
    (idle : c.awaiting = none) (concerned : c.concerns (.signal n (.frame f)) = true) :
    Listens { c with lastFrame := now } (c.step now (.message (.signal n (.frame f)))) := by
  rw [step_message unclosed idle, message, if_neg (ne_false_of_eq_true concerned)]
  exact (listens_frame now f c).trans (listens_publish _)

end RunWatch.Controller
