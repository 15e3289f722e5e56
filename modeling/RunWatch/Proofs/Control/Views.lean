import RunWatch.Proofs.Control.Provenance

/-!
# Views are up to date

A controller that waits for no answer shows what it is: `shown_after`.
-/

namespace RunWatch

namespace Controller

/-- The last view is the view of the present state, unless a request is out. -/
def Shown (c : Controller) : Prop :=
  c.awaiting = none → c.view = c.present

variable {c : Controller}

theorem shown_publish (c : Controller) : Shown c.publish := by
  rw [publish_eq]
  exact fun _ => rfl

theorem shown_reply (result : Except ClientFailure Unit) (c : Controller) :
    Shown (c.reply result) :=
  shown_publish _

theorem Shown.of_awaiting {command : RunCommand} (h : c.awaiting = some command) : Shown c := by
  intro idle
  rw [h] at idle
  cases idle

theorem publish_of_shown (h : c.view = c.present) : c.publish = c := by
  rw [publish, if_pos h]

theorem reply_of_shown (h : c.view = c.present) (result : Except ClientFailure Unit) :
    c.reply result = { c with awaiting := none, outbox := c.outbox ++ [.reply result] } :=
  publish_of_shown (c := { c with awaiting := none, outbox := c.outbox ++ [.reply result] }) h

theorem shown_command (cmd : Command) (c : Controller) : Shown (c.command cmd) := by
  cases cmd with
  | start workflow inputs =>
    simp only [command, start]
    split
    · exact shown_reply _ _
    · split
      · exact shown_reply _ _
      · exact .of_awaiting rfl
  | pause =>
    simp only [command, pause]
    split
    · exact shown_reply _ _
    · split
      · exact shown_reply _ _
      · exact .of_awaiting rfl
  | resume =>
    simp only [command, resume]
    split
    · exact .of_awaiting rfl
    · exact shown_reply _ _
  | cancel =>
    simp only [command, cancel]
    split
    · exact shown_reply _ _
    · split
      · exact shown_reply _ _
      · exact .of_awaiting rfl

theorem shown_opened (h : Shown c) (now : Nat) (result : Except StreamFailure Unit) :
    Shown (c.opened now result) := by
  unfold opened
  split
  · exact shown_reply _ _
  · exact shown_reply _ _
  · exact shown_reply _ _
  · exact shown_reply _ _
  · exact h

theorem shown_acknowledged (h : Shown c) (result : Except ClientFailure Unit) :
    Shown (c.acknowledged result) := by
  unfold acknowledged
  split
  · exact shown_reply _ _
  · exact shown_reply _ _
  · exact shown_reply _ _
  · exact shown_reply _ _
  · exact h

theorem shown_message (h : Shown c) (now : Nat) (m : Message) : Shown (c.message now m) := by
  unfold message
  split
  · exact h
  · exact shown_publish _

theorem shown_step (h : Shown c) (now : Nat) (input : Input) : Shown (c.step now input) := by
  unfold step
  split
  · exact h
  · split
    · exact shown_command _ c
    · exact shown_message h now _
    · exact shown_publish _
    · exact shown_opened h now _
    · exact shown_acknowledged h _
    · exact h

end Controller

namespace Operation

theorem shown_take {o : Operation} (h : o.controller.Shown) (input : Controller.Input) :
    (o.take input).controller.Shown :=
  Controller.shown_step h o.now input

theorem shown_operation_step {o : Operation} (h : o.controller.Shown) (e : Event) :
    (o.step e).controller.Shown := by
  cases e with
  | command | shutDown | commandAnswer => exact shown_take h _
  | streamAnswer result =>
    simp only [step, answerStream]
    split
    · cases result with
      | ok => exact shown_take (o := { o with activity := o.activity.accept }) h _
      | error failure => exact shown_take h _
    · exact h
  | signal | tick | fetched =>
    simp only [step, send]
    split <;> exact h
  | deliver place =>
    simp only [step, deliver]
    split
    · exact shown_take (o := { o with mail := o.mail.eraseIdx place }) h _
    · exact h
  | wait => exact h

theorem shown_after (times : WatchTimes) (events : List Event) :
    (after times events).controller.Shown := by
  have kept (events : List Event) {o : Operation} (h : o.controller.Shown) :
      (events.foldl step o).controller.Shown := by
    induction events generalizing o with
    | nil => exact h
    | cons e events ih => exact ih (shown_operation_step h e)
  exact kept events (o := { controller := { times } }) fun _ => rfl

end Operation

end RunWatch
