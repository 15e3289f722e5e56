import RunWatch.Proofs.Control.Custody
import RunWatch.Proofs.Control.Listening
import RunWatch.Proofs.Control.Stations

/-!
# In touch with the stream

A stream is heard when it is opened and whenever the controller takes a frame of it, whatever the
frame says. `attuned_after` says that a controller knows when its stream was last heard: the time
that it keeps is never that of an earlier stream.
-/

namespace RunWatch

namespace Operation

/-- The letter that the controller takes on an event. -/
def letter? (o : Operation) : Event → Option Letter
  | .deliver place => if o.controller.awaiting = none then o.mail[place]? else none
  | _ => none

/-- The place of the open stream, if the letter is a frame of it. -/
def frameFrom? (o : Operation) (l : Letter) : Option Nat :=
  match l.message with
  | .signal _ (.frame _) => if o.activity.open? = some l.sender then some l.sender else none
  | _ => none

/-- The place of the stream that is heard on an event. -/
def heard? (o : Operation) : Event → Option Nat
  | .streamAnswer (.ok ()) => if awaitsStream o.controller then o.activity.accept.open? else none
  | e => (o.letter? e).bind o.frameFrom?

end Operation

namespace Audit

/-- In the course of the events, the stream at a place was heard at a time. -/
def HeardAt (times : WatchTimes) (events : List Operation.Event) (place time : Nat) : Prop :=
  ∃ before e later, events = before ++ e :: later ∧
    (after times before).operation.heard? e = some place ∧
    (after times before).operation.now = time

end Audit

/-! ### What is open and armed -/

/-- The open stream and the armed timer are the present ones of the controller. -/
structure Mirrors (a : Activity) (c : Controller) : Prop where
  stream : ∀ place, a.open? = some place →
    c.streaming = true ∧ a.streams[place]? = some c.stream
  timer : ∀ place, a.armed? = some place → c.armed = true ∧ a.timers[place]? = some c.watchdog

namespace Mirrors

open Controller

variable {a : Activity} {c c' : Controller}

theorem closeStream (h : Mirrors (a.carryOut c) c) :
    Mirrors (a.carryOut c.closeStream) c.closeStream := by
  have shut : (a.carryOut c.closeStream).open? = none := by
    cases streaming : c.streaming with
    | true =>
      have cut : a.carryOut c.closeStream = (a.carryOut c).perform (.cancelStream c.stream) := by
        rw [← a.carryOut_emit, Controller.closeStream, streaming]
        rfl
      rw [cut]
      rfl
    | false =>
      have same : a.carryOut c.closeStream = a.carryOut c := by
        rw [Controller.closeStream, streaming]
        rfl
      rw [same]
      refine Option.eq_none_iff_forall_ne_some.2 fun place open_ => ?_
      cases streaming.symm.trans (h.stream place open_).1
  refine ⟨fun place open_ => ?_, ?_⟩
  · cases shut.symm.trans open_
  · obtain ⟨open?, e⟩ := a.carryOut_closeStream c
    rw [e, closeStream_eq]
    exact h.timer

theorem stopWatchdog (h : Mirrors (a.carryOut c) c) :
    Mirrors (a.carryOut c.stopWatchdog) c.stopWatchdog := by
  have aborts (d : Controller) :
      (a.carryOut (if d.fetching then d.emit (.abortFetch d.watchdog) else d)).armed? =
        (a.carryOut d).armed? := by
    split
    · rw [a.carryOut_emit]
      rfl
    · rfl
  have stopped : (a.carryOut c.stopWatchdog).armed? = none := by
    refine (aborts (if c.armed then c.emit (.stopTimer c.watchdog) else c)).trans ?_
    split
    · rw [a.carryOut_emit]
      rfl
    · rename_i unarmed
      refine Option.eq_none_iff_forall_ne_some.2 fun place armed => unarmed (h.timer place armed).1
  refine ⟨?_, fun place armed => ?_⟩
  · obtain ⟨armed?, turn, e⟩ := a.carryOut_stopWatchdog c
    rw [e, stopWatchdog_eq]
    exact h.stream
  · cases stopped.symm.trans armed

theorem act (h : Mirrors (a.carryOut c) c) (act : Act c c') : Mirrors (a.carryOut c') c' := by
  cases act with
  | aside aside =>
    obtain ⟨more, outbox, quiet⟩ := aside.outbox
    have same : a.carryOut c' = a.carryOut c := by
      rw [Activity.carryOut, outbox, Activity.performAll, List.foldl_append]
      exact Activity.performAll_aside quiet _
    rw [same]
    refine ⟨fun place open_ => ?_, fun place armed => ?_⟩
    · rw [aside.streaming, aside.stream]
      exact h.stream place open_
    · rw [aside.armed, aside.watchdog]
      exact h.timer place armed
  | closeStream => exact h.closeStream
  | ask request =>
    rw [a.carryOut_emit]
    refine ⟨fun place open_ => ?_, h.timer⟩
    obtain ⟨streaming, at_⟩ := h.stream place open_
    exact ⟨streaming, Activity.getElem?_of_prefix (List.prefix_append _ _) at_⟩
  | install now => exact ⟨fun place open_ => ⟨rfl, (h.stream place open_).2⟩, h.timer⟩
  | stopWatchdog => exact h.stopWatchdog
  | arm unarmed idle =>
    rw [a.carryOut_emit]
    refine ⟨h.stream, fun place armed => ⟨rfl, ?_⟩⟩
    rw [← Option.some.inj armed]
    exact List.getElem?_concat_length
  | fetch run armed known idle =>
    rw [a.carryOut_emit]
    exact ⟨h.stream, h.timer⟩

theorem take {d : Controller} (h : Mirrors a d) (sent : d.outbox = []) (acts : Acts d c') :
    Mirrors (a.performAll c'.outbox) c' := by
  have before : Mirrors (a.carryOut d) d := by
    rw [Activity.carryOut, sent]
    exact h
  induction acts with
  | refl => exact before
  | tail _ act ih => exact ih.act act

theorem step (h : Mirrors a c) (sent : c.outbox = []) (now : Nat) (input : Input) :
    Mirrors (a.performAll (c.step now input).outbox) (c.step now input) := by
  rcases acts_step now c input with acts | ⟨-, acts⟩
  · exact h.take sent acts
  · exact Mirrors.take (d := { c with fetching := false }) ⟨h.stream, h.timer⟩ sent acts

end Mirrors

/-! ### In touch with the stream -/

theorem Activity.open?_performAll {effects : List Effect} {a : Activity} {place : Nat}
    (open_ : (a.performAll effects).open? = some place) : a.open? = some place := by
  induction effects generalizing a with
  | nil => exact open_
  | cons e effects ih =>
    have next : (a.perform e).open? = some place := ih open_
    cases e with
    | cancelStream => cases next
    | openStream | send | armTimer | stopTimer | fetch | abortFetch | reply | publish => exact next

/-- The controller has the open stream and knows when it was last heard. -/
structure InTouch (heard : Nat → Nat → Prop) (a : Activity) (now : Nat)
    (c : Controller) : Prop where
  mirrors : Mirrors a c
  opened : c.streaming = true → ∃ place, a.open? = some place
  past : ∀ place time, heard place time → time ≤ now ∧ place < a.streams.length
  last : ∀ place, a.open? = some place →
    heard place c.lastFrame ∧ ∀ time, heard place time → time ≤ c.lastFrame

/-- What is heard besides is a stream, if there is one, at a time. -/
def Notes (heard heard' : Nat → Nat → Prop) (place? : Option Nat) (now : Nat) : Prop :=
  ∀ place time, heard' place time ↔ heard place time ∨ place? = some place ∧ now = time

/-- The stream that the controller waits for was asked for last, and has not been heard. -/
def Unheard (heard : Nat → Nat → Prop) (a : Activity) (c : Controller) : Prop :=
  Operation.awaitsStream c = true → ∃ place, a.streams[place]? = some c.stream ∧
    place + 1 = a.streams.length ∧ ∀ time, ¬heard place time

namespace InTouch

open Controller

variable {heard heard' : Nat → Nat → Prop} {a : Activity} {now : Nat} {c c' : Controller}

/-- Nothing is heard, and the stream stays or is given up. -/
theorem take (h : InTouch heard a now c) (listens : c.Listens c')
    (mirrors : Mirrors (a.performAll c'.outbox) c')
    (agrees : StreamsAgree (a.performAll c'.outbox) c') :
    InTouch heard (a.performAll c'.outbox) now c' where
  mirrors := mirrors
  opened streaming := by
    obtain ⟨before, number⟩ := listens.stream streaming
    obtain ⟨place, open_⟩ := h.opened before
    have at_ := (h.mirrors.stream place open_).2
    rw [← number] at at_
    have grows := (Activity.grows_performAll c'.outbox a).streams
    exact ⟨place, agrees.opened streaming place (Activity.getElem?_of_prefix grows at_)⟩
  past place time before := by
    obtain ⟨past, inside⟩ := h.past place time before
    have grows := (Activity.grows_performAll c'.outbox a).streams.length_le
    exact ⟨past, Nat.lt_of_lt_of_le inside grows⟩
  last place open_ := by
    rw [listens.lastFrame]
    exact h.last place (Activity.open?_performAll open_)

theorem sent (h : InTouch heard a now c) : InTouch heard a now { c with outbox := [] } :=
  ⟨⟨h.mirrors.stream, h.mirrors.timer⟩, h.opened, h.past, h.last⟩

theorem wait (h : InTouch heard a now c) {later : Nat} (le : now ≤ later) :
    InTouch heard a later c where
  mirrors := h.mirrors
  opened := h.opened
  past place time before := by
    obtain ⟨past, inside⟩ := h.past place time before
    exact ⟨Nat.le_trans past le, inside⟩
  last := h.last

/-- A frame of the open stream is heard. -/
theorem hear (h : InTouch heard a now c) {place : Nat} (open_ : a.open? = some place)
    (notes : Notes heard heard' (some place) now) :
    InTouch heard' a now { c with lastFrame := now } where
  mirrors := ⟨h.mirrors.stream, h.mirrors.timer⟩
  opened := h.opened
  past p t heard_ := by
    rcases (notes p t).1 heard_ with before | ⟨same, rfl⟩
    · exact h.past p t before
    · obtain rfl := Option.some.inj same
      obtain ⟨inside, -⟩ := List.getElem?_eq_some_iff.1 (h.mirrors.stream _ open_).2
      exact ⟨Nat.le_refl _, inside⟩
  last p open_' := by
    obtain rfl := Option.some.inj (open_.symm.trans open_')
    refine ⟨(notes _ _).2 (.inr ⟨rfl, rfl⟩), fun t heard_ => ?_⟩
    rcases (notes _ t).1 heard_ with before | ⟨-, rfl⟩
    · exact (h.past _ t before).1
    · exact Nat.le_refl _

/-- The stream that the controller waits for is opened, and has not been heard before. -/
theorem accept (h : InTouch heard a now c) (unheard : Unheard heard a c)
    (asked : Operation.awaitsStream c = true) {place : Nat} (opens : a.accept.open? = some place)
    (notes : Notes heard heard' (some place) now) :
    InTouch heard' a.accept now (c.install now) := by
  obtain ⟨p, at_, last, never⟩ := unheard asked
  obtain rfl : p = place := by
    rw [Activity.accept, ← last, Nat.add_sub_cancel] at opens
    exact Option.some.inj opens
  refine ⟨⟨fun q open_ => ?_, h.mirrors.timer⟩, fun _ => ⟨p, opens⟩, fun q t heard_ => ?_,
    fun q open_ => ?_⟩
  · obtain rfl := Option.some.inj (opens.symm.trans open_)
    exact ⟨rfl, at_⟩
  · rcases (notes q t).1 heard_ with before | ⟨same, rfl⟩
    · exact h.past q t before
    · obtain rfl := Option.some.inj same
      exact ⟨Nat.le_refl _, Nat.lt_of_succ_le (Nat.le_of_eq last)⟩
  · obtain rfl := Option.some.inj (opens.symm.trans open_)
    refine ⟨(notes _ _).2 (.inr ⟨rfl, rfl⟩), fun t heard_ => ?_⟩
    rcases (notes _ t).1 heard_ with before | ⟨-, rfl⟩
    · exact absurd before (never t)
    · exact Nat.le_refl _

end InTouch

/-- A request for a stream asks for one that is new. -/
theorem unheard_take {heard : Nat → Nat → Prop} {a : Activity} {now : Nat} {c : Controller}
    {input : Controller.Input} (unheard : Unheard heard a c)
    (inside : ∀ place time, heard place time → place < a.streams.length)
    (sent : c.outbox = []) :
    Unheard heard (a.performAll (c.step now input).outbox) (c.step now input) := by
  intro asks
  rcases Controller.asks_of_step asks with same | ⟨d, command, request, -, same⟩
  · rw [same] at asks ⊢
    rw [sent]
    exact unheard asks
  · -- All that has been heard stands before the new stream.
    have streams : (a.performAll (c.step now input).outbox).streams =
        (a.performAll d.closeStream.outbox).streams ++ [(c.step now input).stream] := by
      rw [same]
      exact congrArg Activity.streams (a.carryOut_emit
        { d.closeStream with awaiting := some command } (.openStream d.closeStream.stream request))
    have grows := (Activity.grows_performAll d.closeStream.outbox a).streams.length_le
    refine ⟨(a.performAll d.closeStream.outbox).streams.length, ?_, ?_, fun time before => ?_⟩
    · rw [streams]
      exact List.getElem?_concat_length
    · rw [streams, List.length_append, List.length_singleton]
    · have bound := inside _ time before
      omega

theorem Controller.unasked_of_accepted {c : Controller} (asked : Operation.awaitsStream c = true)
    (unclosed : c.closed = false) (now : Nat) :
    Operation.awaitsStream (c.step now (.opened (.ok ()))) = false := by
  rcases step_accepted asked unclosed now with started | resumed
  · rw [started]
    exact awaitsStream_reply _ _
  · rw [resumed]
    exact awaitsStream_reply _ _

/-! ### Operations -/

namespace Operation

open Controller

variable {o : Operation} {e : Event}

theorem concerns_iff_open (orderly : Orderly o) (mirrors : Mirrors o.activity o.controller)
    {l : Letter} (posted : l ∈ o.mail) {n : Nat} {s : StreamSignal}
    (message : l.message = .signal n s) :
    o.controller.concerns l.message = true ↔ o.activity.open? = some l.sender := by
  have genuine := orderly.genuine l posted
  rw [Activity.Genuine, message] at genuine
  rw [message, concerns, Bool.and_eq_true, beq_iff_eq]
  constructor
  · rintro ⟨rfl, streaming⟩
    exact (orderly.agrees.of_sent orderly.sent).1.opened streaming l.sender genuine
  · intro open_
    obtain ⟨streaming, at_⟩ := mirrors.stream l.sender open_
    exact ⟨Option.some.inj (genuine.symm.trans at_), streaming⟩

theorem armed_of_concerns (orderly : Orderly o) {l : Letter} (posted : l ∈ o.mail) {n : Nat}
    (message : l.message = .tick n) (concerned : o.controller.concerns l.message = true) :
    o.activity.armed? = some l.sender := by
  have genuine := orderly.genuine l posted
  rw [Activity.Genuine, message] at genuine
  rw [message, concerns, Bool.and_eq_true, beq_iff_eq] at concerned
  obtain ⟨rfl, armed⟩ := concerned
  exact (orderly.agrees.of_sent orderly.sent).2.armed armed l.sender genuine

theorem concerns_iff_armed (orderly : Orderly o) (mirrors : Mirrors o.activity o.controller)
    {l : Letter} (posted : l ∈ o.mail) {n : Nat} (message : l.message = .tick n) :
    o.controller.concerns l.message = true ↔ o.activity.armed? = some l.sender := by
  refine ⟨armed_of_concerns orderly posted message, fun armed => ?_⟩
  have genuine := orderly.genuine l posted
  rw [Activity.Genuine, message] at genuine
  rw [message, concerns, Bool.and_eq_true, beq_iff_eq]
  obtain ⟨present, at_⟩ := mirrors.timer l.sender armed
  exact ⟨Option.some.inj (genuine.symm.trans at_), present⟩

/-- What an event is for the stream of an operation. -/
inductive Hearing (o : Operation) (e : Event) : Prop where
  | rests (controller : (o.step e).controller = o.controller)
    (activity : (o.step e).activity = o.activity) (now : o.now ≤ (o.step e).now)
    (silent : o.heard? e = none)
  | takes (input : Input) (mail : List Letter)
    (step : o.step e = Operation.take input { o with mail })
    (other : input ≠ .opened (.ok ())) (unheard : ¬o.controller.HearsFrame input)
    (silent : o.heard? e = none)
  | opens (asked : awaitsStream o.controller = true)
    (step : o.step e = Operation.take (.opened (.ok ())) { o with activity := o.activity.accept })
    (heard : o.heard? e = o.activity.accept.open?)
  | hears (place : Nat) (n : Nat) (f : Frame) (mail : List Letter)
    (open_ : o.activity.open? = some place) (idle : o.controller.awaiting = none)
    (step : o.step e = Operation.take (.message (.signal n (.frame f))) { o with mail })
    (concerned : o.controller.concerns (.signal n (.frame f)) = true)
    (heard : o.heard? e = some place)

theorem Hearing.still (same : o.step e = o) (silent : o.heard? e = none) : Hearing o e :=
  .rests (congrArg Operation.controller same) (congrArg Operation.activity same)
    (Nat.le_of_eq (congrArg Operation.now same.symm)) silent

theorem Hearing.send (sender : Nat) (message? : Option Message)
    (sent : o.step e = o.send sender message?) (silent : o.heard? e = none) : Hearing o e := by
  cases message? with
  | none => exact .still sent silent
  | some m =>
    exact .rests (by rw [sent]; rfl) (by rw [sent]; rfl) (by rw [sent]; exact Nat.le_refl _) silent

theorem hearing_streamAnswer (o : Operation) (result : Except StreamFailure Unit) :
    Hearing o (.streamAnswer result) := by
  cases asked : awaitsStream o.controller with
  | false =>
    refine .still ?_ ?_
    · simp [step, answerStream, asked]
    · cases result <;> simp [heard?, letter?, asked]
  | true =>
    cases result with
    | error failure =>
      refine .takes (.opened (.error failure)) o.mail ?_ ?_ ?_ rfl
      · simp [step, answerStream, asked]
      · intro same
        cases same
      · rintro ⟨n, f, same, -⟩
        cases same
    | ok =>
      refine .opens asked ?_ ?_
      · simp [step, answerStream, asked]
      · simp [heard?, asked]

theorem hearing_deliver (orderly : Orderly o) (mirrors : Mirrors o.activity o.controller)
    (place : Nat) : Hearing o (.deliver place) := by
  have nothing (same : o.deliver place = o) (silent : o.letter? (.deliver place) = none) :
      Hearing o (.deliver place) := by
    refine .still same ?_
    rw [heard?, silent]
    · rfl
    · intro same
      cases same
  cases waits : o.controller.awaiting with
  | some kind => exact nothing (by simp [deliver, waits]) (by simp [letter?, waits])
  | none =>
    cases at_ : o.mail[place]? with
    | none => exact nothing (by simp [deliver, waits, at_]) (by simp [letter?, waits, at_])
    | some l =>
      have posted := List.mem_of_getElem? at_
      have taken : o.step (.deliver place) =
          Operation.take (.message l.message) { o with mail := o.mail.eraseIdx place } := by
        simp [step, deliver, waits, at_]
      have heard : o.heard? (.deliver place) = o.frameFrom? l := by
        simp [heard?, letter?, waits, at_]
      have other (silent : o.frameFrom? l = none)
          (unheard : ¬o.controller.HearsFrame (.message l.message)) : Hearing o (.deliver place) :=
        .takes _ _ taken (fun same => by cases same) unheard (heard.trans silent)
      cases message : l.message with
      | tick n | polled n result =>
        refine other (by rw [frameFrom?, message]) ?_
        rintro ⟨m, f, same, -⟩
        rw [message] at same
        cases same
      | signal n s =>
        cases s with
        | closed | failed failure =>
          refine other (by rw [frameFrom?, message]) ?_
          rintro ⟨m, f, same, -⟩
          rw [message] at same
          cases same
        | frame f =>
          have concerns := concerns_iff_open orderly mirrors posted message
          by_cases open_ : o.activity.open? = some l.sender
          · rw [message] at taken concerns
            refine .hears l.sender n f _ open_ waits taken (concerns.2 open_) ?_
            rw [heard, frameFrom?, message]
            exact if_pos open_
          · refine other ?_ ?_
            · rw [frameFrom?, message]
              exact if_neg open_
            · rintro ⟨m, g, same, concerned⟩
              rw [← Input.message.inj same] at concerned
              exact open_ (concerns.1 concerned)

theorem hearing (orderly : Orderly o) (mirrors : Mirrors o.activity o.controller) (e : Event) :
    Hearing o e := by
  have unheard {input : Input} (other : ∀ m, input ≠ .message m) :
      ¬o.controller.HearsFrame input := by
    rintro ⟨n, f, same, -⟩
    exact other _ same
  cases e with
  | command c => exact .takes (.command c) o.mail rfl nofun (unheard fun _ => nofun) rfl
  | shutDown => exact .takes .shutDown o.mail rfl nofun (unheard fun _ => nofun) rfl
  | commandAnswer result =>
    exact .takes (.acknowledged result) o.mail rfl nofun (unheard fun _ => nofun) rfl
  | streamAnswer result => exact hearing_streamAnswer o result
  | signal place s => exact .send place _ rfl rfl
  | tick place => exact .send place _ rfl rfl
  | fetched place result => exact .send place _ rfl rfl
  | deliver place => exact hearing_deliver orderly mirrors place
  | wait duration => exact .rests rfl rfl (Nat.le_add_right _ _) rfl

/-- The controller is in touch with its stream, and the one that it waits for has not been heard. -/
structure Attuned (times : WatchTimes) (heard : Nat → Nat → Prop) (o : Operation) : Prop where
  touch : InTouch heard o.activity o.now o.controller
  unheard : Unheard heard o.activity o.controller
  kept : o.controller.times = times

variable {times : WatchTimes} {heard heard' : Nat → Nat → Prop}

theorem Attuned.take (h : Attuned times heard o) (orderly : Orderly o) {input : Input}
    {mail : List Letter} (step : o.step e = Operation.take input { o with mail })
    (other : input ≠ .opened (.ok ())) (unheard : ¬o.controller.HearsFrame input) :
    Attuned times heard (o.step e) := by
  have agrees := ((orderly.step e).agrees.of_sent (orderly.step e).sent).1
  have listens := listens_step o.now unheard fun same => absurd same other
  rw [step] at agrees ⊢
  exact {
    touch := (h.touch.take listens (h.touch.mirrors.step orderly.sent o.now input)
      ⟨agrees.bounded, agrees.opened, agrees.asked⟩).sent
    unheard := unheard_take h.unheard (fun _ _ before => (h.touch.past _ _ before).2) orderly.sent
    kept := listens.times.trans h.kept }

theorem Attuned.open_ (h : Attuned times heard o) (orderly : Orderly o)
    (unclosed : o.controller.closed = false) (asked : awaitsStream o.controller = true)
    (step : o.step e = Operation.take (.opened (.ok ())) { o with activity := o.activity.accept })
    (notes : Notes heard heard' o.activity.accept.open? o.now) :
    Attuned times heard' (o.step e) := by
  have agrees := ((orderly.step e).agrees.of_sent (orderly.step e).sent).1
  have listens := listens_accepted asked unclosed o.now
  have begun : InTouch heard' o.activity.accept o.now (o.controller.install o.now) :=
    h.touch.accept h.unheard asked rfl notes
  rw [step] at agrees ⊢
  refine ⟨(begun.take listens ?_ ⟨agrees.bounded, agrees.opened, agrees.asked⟩).sent, ?_,
    listens.times.trans h.kept⟩
  · exact begun.mirrors.take orderly.sent (acts_accepted asked unclosed o.now)
  · intro asks
    exact absurd ((unasked_of_accepted asked unclosed o.now).symm.trans asks) Bool.false_ne_true

theorem Attuned.hear (h : Attuned times heard o) (orderly : Orderly o)
    (unclosed : o.controller.closed = false) (idle : o.controller.awaiting = none)
    {place n : Nat} {f : Frame} {mail : List Letter} (open_ : o.activity.open? = some place)
    (step : o.step e = Operation.take (.message (.signal n (.frame f))) { o with mail })
    (concerned : o.controller.concerns (.signal n (.frame f)) = true)
    (notes : Notes heard heard' (some place) o.now) :
    Attuned times heard' (o.step e) := by
  have agrees := ((orderly.step e).agrees.of_sent (orderly.step e).sent).1
  have listens := listens_step_frame o.now unclosed idle concerned
  have noted : InTouch heard' o.activity o.now { o.controller with lastFrame := o.now } :=
    h.touch.hear open_ notes
  have mirrors := h.touch.mirrors.step orderly.sent o.now (.message (.signal n (.frame f)))
  rw [step] at agrees ⊢
  refine ⟨(noted.take listens mirrors ⟨agrees.bounded, agrees.opened, agrees.asked⟩).sent, ?_,
    listens.times.trans h.kept⟩
  -- A frame asks for no stream, and none was waited for.
  have still : (o.controller.step o.now (.message (.signal n (.frame f)))).awaiting = none := by
    rw [step_message unclosed idle]
    exact (message_awaiting _ _ _).trans idle
  intro asks
  change awaitsStream (o.controller.step o.now (.message (.signal n (.frame f)))) = true at asks
  rw [awaitsStream, still] at asks
  cases asks

theorem Attuned.step (h : Attuned times heard o) (orderly : Orderly o)
    (rests : o.controller.closed = true → o.controller.Rests) (e : Event)
    (notes : Notes heard heard' (o.heard? e) o.now) :
    Attuned times heard' (o.step e) := by
  have same (silent : o.heard? e = none) : heard' = heard := by
    funext p t
    simp [notes p t, silent]
  cases hearing orderly h.touch.mirrors e with
  | rests controller activity now silent =>
    rw [same silent]
    refine ⟨?_, ?_, ?_⟩
    · rw [controller, activity]
      exact h.touch.wait now
    · rw [controller, activity]
      exact h.unheard
    · rw [controller]
      exact h.kept
  | takes input mail step other unheard silent =>
    rw [same silent]
    exact h.take orderly step other unheard
  | opens asked step opens =>
    have unclosed : o.controller.closed = false := by
      refine Bool.eq_false_iff.2 fun closed => ?_
      rw [awaitsStream, (rests closed).awaiting] at asked
      cases asked
    rw [opens] at notes
    exact h.open_ orderly unclosed asked step notes
  | hears place n f mail open_ idle step concerned hears =>
    have unclosed : o.controller.closed = false := by
      refine Bool.eq_false_iff.2 fun closed => ?_
      cases (rests closed).streaming.symm.trans (h.touch.mirrors.stream place open_).1
    rw [hears] at notes
    exact h.hear orderly unclosed idle open_ step concerned notes

end Operation

namespace Audit

variable {times : WatchTimes} {events : List Operation.Event} {e : Operation.Event}

theorem heardAt_concat {place time : Nat} :
    HeardAt times (events ++ [e]) place time ↔ HeardAt times events place time ∨
      (after times events).operation.heard? e = some place ∧
        (after times events).operation.now = time := by
  constructor
  · rintro ⟨before, x, later, split, heard, now⟩
    rcases List.eq_nil_or_concat later with rfl | ⟨later, y, rfl⟩
    · obtain ⟨rfl, last⟩ := List.append_inj' split rfl
      obtain rfl := List.singleton_inj.1 last
      exact .inr ⟨heard, now⟩
    · rw [List.concat_eq_append, ← List.cons_append, ← List.append_assoc] at split
      obtain ⟨rfl, -⟩ := List.append_inj' split rfl
      exact .inl ⟨before, x, later, rfl, heard, now⟩
  · rintro (⟨before, x, later, rfl, heard, now⟩ | ⟨heard, now⟩)
    · exact ⟨before, x, later ++ [e], by simp, heard, now⟩
    · exact ⟨events, e, [], rfl, heard, now⟩

theorem attuned_after (times : WatchTimes) (events : List Operation.Event) :
    (after times events).operation.Attuned times (HeardAt times events) := by
  induction events using List.reverseRecOn with
  | nil =>
    refine ⟨⟨⟨nofun, nofun⟩, nofun, ?_, nofun⟩, nofun, rfl⟩
    rintro place time ⟨before, e, later, split, -⟩
    simp at split
  | append_singleton events e ih =>
    have sound := sound_after times events
    rw [after_concat]
    cases fresh : (after times events).repeats e with
    | true =>
      -- Only a fetch can give its result again, and that is dropped.
      have silent : (after times events).operation.heard? e = none := by
        cases e with
        | fetched => rfl
        | _ => cases fresh
      have same : HeardAt times (events ++ [e]) = HeardAt times events := by
        funext place time
        simp [heardAt_concat, silent]
      rw [Audit.step, fresh, same]
      exact ih
    | false =>
      rw [step_of_fresh fresh]
      exact ih.step sound.orderly sound.rests e fun _ _ => heardAt_concat

end Audit

end RunWatch
