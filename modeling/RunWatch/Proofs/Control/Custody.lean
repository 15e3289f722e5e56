import Mathlib.Data.List.Induction
import Mathlib.Data.List.Perm.Basic
import RunWatch.Control.Custody
import RunWatch.Proofs.Control.Acts
import RunWatch.Proofs.Control.Easing
import RunWatch.Proofs.Control.Views

/-!
# Nothing outlives a controller

Whatever a controller has opened, started or begun is the one that it holds, or has been given up.
`Tended` says so of a controller whose outbox has been carried out, and every act keeps it. The
result of a fetch frees the slot, which takes that a result on its way with the present number is
the one of the last fetch.
-/

namespace RunWatch

namespace Custody

variable {k : Custody}

def carryOut (k : Custody) (c : Controller) : Custody :=
  k.enterAll c.outbox

theorem enterAll_append (k : Custody) (xs ys : List Effect) :
    k.enterAll (xs ++ ys) = (k.enterAll xs).enterAll ys :=
  List.foldl_append

theorem carryOut_emit (k : Custody) (c : Controller) (e : Effect) :
    k.carryOut (c.emit e) = (k.carryOut c).enter e :=
  enterAll_append _ _ _

theorem enterAll_aside {effects : List Effect} (aside : ∀ e ∈ effects, e.isAside = true)
    (k : Custody) : k.enterAll effects = k := by
  induction effects with
  | nil => rfl
  | cons e effects ih =>
    have same : k.enter e = k := by
      have first := aside e List.mem_cons_self
      cases e with
      | send | reply | publish => rfl
      | openStream | cancelStream | armTimer | stopTimer | fetch | abortFetch => cases first
    rw [enterAll, List.foldl_cons, same]
    exact ih fun e later => aside e (List.mem_cons_of_mem _ later)

theorem mem_last {i n : Nat} (h : i + 1 = n) : i ∈ last n := by
  subst h
  exact List.mem_singleton_self i

theorem carryOut_closeStream (k : Custody) (c : Controller) :
    k.carryOut c.closeStream =
      { k.carryOut c with
        cancelled := (k.carryOut c).cancelled ++
          if c.streaming then last (k.carryOut c).opened else [] } := by
  unfold Controller.closeStream
  split
  · exact carryOut_emit k c _
  · rw [List.append_nil]
    rfl

theorem carryOut_stopWatchdog (k : Custody) (c : Controller) :
    k.carryOut c.stopWatchdog =
      { k.carryOut c with
        stopped := (k.carryOut c).stopped ++
          if c.armed then last (k.carryOut c).armed else []
        aborted := (k.carryOut c).aborted ++
          if c.fetching then last (k.carryOut c).begun else [] } := by
  have aborts (d : Controller) :
      k.carryOut (if d.fetching then d.emit (.abortFetch d.watchdog) else d) =
        { k.carryOut d with
          aborted := (k.carryOut d).aborted ++
            if d.fetching then last (k.carryOut d).begun else [] } := by
    split
    · exact carryOut_emit k d _
    · rw [List.append_nil]
  unfold Controller.stopWatchdog
  split
  · refine (aborts _).trans ?_
    rw [carryOut_emit]
    rfl
  · refine (aborts c).trans ?_
    rw [List.append_nil]

end Custody

/-! ### What is held -/

/-- The sender of a letter with a result of a fetch. -/
def Letter.fetch? (l : Letter) : Option Nat :=
  match l.message with
  | .polled .. => some l.sender
  | _ => none

/-- What is live is what the controller holds, and a result with its present number comes from the
fetch that it waits for. -/
structure Tended (k : Custody) (a : Activity) (mail : List Letter) (c : Controller) : Prop where
  begun : k.begun = a.fetches.length
  numbers : ∀ f ∈ a.fetches, f.watchdog ≤ c.watchdog
  streams : ∀ i, k.StreamLive i → c.streaming = true ∧ i + 1 = k.opened
  timers : ∀ i, k.TimerLive i → c.armed = true ∧ i + 1 = k.armed
  /-- Fetches that have been given up have old numbers. -/
  fetches : ∀ i f, a.fetches[i]? = some f → i ∉ k.reported →
    (c.fetching = true ∧ i + 1 = k.begun) ∨ (i ∈ k.aborted ∧ f.watchdog < c.watchdog)
  results : ∀ l ∈ mail, ∀ n r, l.message = .polled n r →
    n ≤ c.watchdog ∧ (n = c.watchdog → c.fetching = true ∧ l.sender + 1 = k.begun)

namespace Tended

variable {k : Custody} {a : Activity} {mail : List Letter} {c c' : Controller}

open Controller

theorem of_eq {k' : Custody} {a' : Activity} (h : Tended k a mail c) (custody : k' = k)
    (activity : a'.fetches = a.fetches) (streaming : c'.streaming = c.streaming) (armed : c'.armed = c.armed)
    (watchdog : c'.watchdog = c.watchdog) (fetching : c'.fetching = c.fetching) :
    Tended k' a' mail c' where
  begun := by rw [custody, activity]; exact h.begun
  numbers := by rw [activity, watchdog]; exact h.numbers
  streams := by rw [custody, streaming]; exact h.streams
  timers := by rw [custody, armed]; exact h.timers
  fetches := by rw [custody, activity, watchdog, fetching]; exact h.fetches
  results := by rw [custody, watchdog, fetching]; exact h.results

theorem closeStream (h : Tended (k.carryOut c) (a.carryOut c) mail c) :
    Tended (k.carryOut c.closeStream) (a.carryOut c.closeStream) mail c.closeStream := by
  obtain ⟨open?, activity⟩ := a.carryOut_closeStream c
  rw [k.carryOut_closeStream, activity, closeStream_eq]
  refine ⟨h.begun, h.numbers, fun i live => ?_, h.timers, h.fetches, h.results⟩
  obtain ⟨inside, uncancelled⟩ := live
  rw [List.mem_append, not_or] at uncancelled
  obtain ⟨streaming, held⟩ := h.streams i ⟨inside, uncancelled.1⟩
  rw [if_pos streaming] at uncancelled
  exact absurd (Custody.mem_last held) uncancelled.2

theorem stopWatchdog (h : Tended (k.carryOut c) (a.carryOut c) mail c) :
    Tended (k.carryOut c.stopWatchdog) (a.carryOut c.stopWatchdog) mail c.stopWatchdog := by
  obtain ⟨armed?, turn, activity⟩ := a.carryOut_stopWatchdog c
  rw [k.carryOut_stopWatchdog, activity, stopWatchdog_eq]
  refine ⟨h.begun, fun f begun => Nat.le_succ_of_le (h.numbers f begun), h.streams,
    fun i live => ?_, fun i f at_ unreported => ?_, fun l posted n r message => ?_⟩
  · obtain ⟨inside, running⟩ := live
    rw [List.mem_append, not_or] at running
    obtain ⟨armed, held⟩ := h.timers i ⟨inside, running.1⟩
    rw [if_pos armed] at running
    exact absurd (Custody.mem_last held) running.2
  · -- A fetch that was out is aborted here, and its number is used up.
    have number := h.numbers f (List.mem_of_getElem? at_)
    refine .inr ⟨List.mem_append.2 ?_, Nat.lt_succ_of_le number⟩
    rcases h.fetches i f at_ unreported with ⟨fetching, held⟩ | ⟨aborted, -⟩
    · rw [if_pos fetching]
      exact .inr (Custody.mem_last held)
    · exact .inl aborted
  · have number := (h.results l posted n r message).1
    exact ⟨Nat.le_succ_of_le number, fun present => by
      change n = c.watchdog + 1 at present
      omega⟩

theorem arm (h : Tended (k.carryOut c) (a.carryOut c) mail c) (unarmed : c.armed = false) :
    Tended (k.carryOut ({ c with armed := true }.emit (.armTimer c.watchdog)))
      (a.carryOut ({ c with armed := true }.emit (.armTimer c.watchdog))) mail
      ({ c with armed := true }.emit (.armTimer c.watchdog)) := by
  rw [k.carryOut_emit, a.carryOut_emit]
  refine ⟨h.begun, h.numbers, h.streams, fun i live => ⟨rfl, ?_⟩, h.fetches, h.results⟩
  obtain ⟨inside, running⟩ := live
  rcases Nat.lt_succ_iff_lt_or_eq.1 inside with before | rfl
  · have armed := (h.timers i ⟨before, running⟩).1
    exact absurd (unarmed.symm.trans armed) Bool.false_ne_true
  · rfl

theorem fetch (h : Tended (k.carryOut c) (a.carryOut c) mail c) (idle : c.fetching = false)
    (run : RunId) :
    Tended (k.carryOut ({ c with fetching := true }.emit (.fetch c.watchdog run)))
      (a.carryOut ({ c with fetching := true }.emit (.fetch c.watchdog run))) mail
      ({ c with fetching := true }.emit (.fetch c.watchdog run)) := by
  have one_more (f : Fetch) :
      (k.carryOut c).begun + 1 = ((a.carryOut c).fetches ++ [f]).length := by
    rw [h.begun, List.length_append, List.length_singleton]
  rw [k.carryOut_emit, a.carryOut_emit]
  refine ⟨one_more _, fun f member => ?_, h.streams, h.timers, fun i f at_ unreported => ?_,
    fun l posted n r message => ?_⟩
  · rcases List.mem_append.1 member with before | new
    · exact h.numbers f before
    · rw [List.mem_singleton.1 new]
      exact Nat.le_refl _
  · rcases Nat.lt_or_ge i (a.carryOut c).fetches.length with before | beyond
    · have at_' : (a.carryOut c).fetches[i]? = some f := by
        rw [← at_]
        exact (List.getElem?_append_left before).symm
      rcases h.fetches i f at_' unreported with ⟨fetching, -⟩ | given
      · exact absurd (idle.symm.trans fetching) Bool.false_ne_true
      · exact .inr given
    · have inside := (List.getElem?_eq_some_iff.1 at_).1
      refine .inl ⟨rfl, Nat.le_antisymm ?_ ?_⟩
      · exact Nat.le_trans inside (Nat.le_of_eq (one_more _).symm)
      · exact Nat.succ_le_succ (h.begun ▸ beyond)
  · obtain ⟨number, expected⟩ := h.results l posted n r message
    refine ⟨number, fun present => ?_⟩
    exact absurd (idle.symm.trans (expected present).1) Bool.false_ne_true

theorem act (h : Tended (k.carryOut c) (a.carryOut c) mail c) (act : Act c c') :
    Tended (k.carryOut c') (a.carryOut c') mail c' := by
  cases act with
  | aside aside =>
    obtain ⟨more, outbox, quiet⟩ := aside.outbox
    have custody : k.carryOut c' = k.carryOut c := by
      rw [Custody.carryOut, outbox, Custody.enterAll_append, Custody.enterAll_aside quiet]
      rfl
    have activity : a.carryOut c' = a.carryOut c := by
      rw [Activity.carryOut, outbox, Activity.performAll, List.foldl_append]
      exact Activity.performAll_aside quiet _
    exact h.of_eq custody (by rw [activity]) aside.streaming aside.armed aside.watchdog
      aside.fetching
  | closeStream => exact h.closeStream
  | ask request =>
    rw [k.carryOut_emit, a.carryOut_emit]
    exact h.of_eq rfl rfl rfl rfl rfl rfl
  | install now =>
    exact ⟨h.begun, h.numbers, fun i live => ⟨rfl, (h.streams i live).2⟩, h.timers, h.fetches,
      h.results⟩
  | stopWatchdog => exact h.stopWatchdog
  | arm unarmed idle => exact h.arm unarmed
  | fetch run armed known idle => exact h.fetch idle run

theorem acts (h : Tended (k.carryOut c) (a.carryOut c) mail c) (acts : Acts c c') :
    Tended (k.carryOut c') (a.carryOut c') mail c' := by
  induction acts with
  | refl => exact h
  | tail _ act ih => exact ih.act act

theorem take {d : Controller} (h : Tended k a mail d) (sent : d.outbox = []) (acts : Acts d c') :
    Tended (k.enterAll c'.outbox) (a.performAll c'.outbox) mail { c' with outbox := [] } := by
  have before : Tended (k.carryOut d) (a.carryOut d) mail d := by
    rw [Custody.carryOut, Activity.carryOut, sent]
    exact h
  exact (before.acts acts).of_eq rfl rfl rfl rfl rfl rfl

theorem of_mail (h : Tended k a mail c) {mail' : List Letter} (known : ∀ l ∈ mail', l ∈ mail) :
    Tended k a mail' c :=
  ⟨h.begun, h.numbers, h.streams, h.timers, h.fetches, fun l posted => h.results l (known l posted)⟩

/-- A stream has been opened for a controller that had none. -/
theorem open_ (h : Tended k a mail c) (idle : c.streaming = false) (now : Nat) :
    Tended { k with opened := k.opened + 1 } a.accept mail (c.install now) := by
  refine ⟨h.begun, h.numbers, fun i live => ⟨rfl, ?_⟩, h.timers, h.fetches, h.results⟩
  obtain ⟨inside, uncancelled⟩ := live
  rcases Nat.lt_succ_iff_lt_or_eq.1 inside with before | rfl
  · have streaming := (h.streams i ⟨before, uncancelled⟩).1
    exact absurd (idle.symm.trans streaming) Bool.false_ne_true
  · rfl

/-- The fetch that the controller waits for is back, and no other letter is from it. -/
theorem back (h : Tended k a mail c) {l : Letter} {result : Except PollFailure RunSnapshot}
    (posted : l ∈ mail) (message : l.message = .polled c.watchdog result)
    (reported : l.sender ∈ k.reported) {mail' : List Letter} (known : ∀ x ∈ mail', x ∈ mail)
    (only : ∀ x ∈ mail', x.fetch? ≠ some l.sender) :
    Tended k a mail' { c with fetching := false } := by
  have last := ((h.results l posted _ _ message).2 rfl).2
  refine ⟨h.begun, h.numbers, h.streams, h.timers, fun i f at_ unreported => ?_,
    fun x there n r other => ?_⟩
  · rcases h.fetches i f at_ unreported with ⟨-, held⟩ | given
    · have same : i = l.sender := Nat.succ.inj (held.trans last.symm)
      exact absurd (same ▸ reported) unreported
    · exact .inr given
  · obtain ⟨number, expected⟩ := h.results x (known x there) n r other
    refine ⟨number, fun present => ?_⟩
    have same : x.sender = l.sender := Nat.succ.inj ((expected present).2.trans last.symm)
    exact absurd (by rw [Letter.fetch?, other, same]) (only x there)

/-- A fetch gives its result for the first time. -/
theorem report (h : Tended k a mail c) {i : Nat} {f : Fetch} (at_ : a.fetches[i]? = some f)
    (unreported : i ∉ k.reported) (result : Except PollFailure RunSnapshot) :
    Tended { k with reported := k.reported ++ [i] } a
      (mail ++ [⟨i, .polled f.watchdog result⟩]) c := by
  refine ⟨h.begun, h.numbers, h.streams, h.timers, fun j g there fresh => ?_,
    fun l posted n r message => ?_⟩
  · exact h.fetches j g there fun before => fresh (List.mem_append_left _ before)
  · rcases List.mem_append.1 posted with before | new
    · exact h.results l before n r message
    · cases List.mem_singleton.1 new
      cases message
      refine ⟨h.numbers f (List.mem_of_getElem? at_), fun present => ?_⟩
      rcases h.fetches i f at_ unreported with expected | ⟨-, old⟩
      · exact expected
      · omega

end Tended

namespace Controller

variable {c : Controller}

/-! ### Shutting down -/

/-- Nothing runs any more, and no request is out. -/
structure Rests (c : Controller) : Prop where
  awaiting : c.awaiting = none
  streaming : c.streaming = false
  armed : c.armed = false
  fetching : c.fetching = false

theorem step_of_closed (closed : c.closed = true) {now : Nat} {input : Input} :
    c.step now input = c :=
  if_pos closed

theorem rests_shutDown (idle : c.awaiting = none) : c.shutDown.Rests := by
  rw [shutDown, publish_eq, stopWatchdog_eq, closeStream_eq]
  exact ⟨idle, rfl, rfl, rfl⟩

theorem closed_reply (result : Except ClientFailure Unit) (c : Controller) :
    (c.reply result).closed = c.closed :=
  (eases_publish _).closed

theorem closed_openStream (command : RunCommand) (request : StreamRequest) (c : Controller) :
    (c.openStream command request).closed = c.closed :=
  (eases_closeStream c).closed

theorem closed_command (cmd : Command) (c : Controller) : (c.command cmd).closed = c.closed := by
  cases cmd with
  | start workflow inputs =>
    simp only [command, start]
    split
    · exact closed_reply _ c
    · split
      · exact closed_reply _ c
      · exact (closed_openStream _ _ _).trans (eases_stopWatchdog c).closed
  | pause =>
    simp only [command, pause]
    split
    · exact closed_reply _ c
    · split
      · exact closed_reply _ c
      · rfl
  | resume =>
    simp only [command, resume]
    split
    · exact closed_openStream _ _ c
    · exact closed_reply _ c
  | cancel =>
    simp only [command, cancel]
    split
    · exact closed_reply _ c
    · split
      · exact (closed_reply _ _).trans (eases_settle _ c).closed
      · rfl

theorem closed_opened (now : Nat) (result : Except StreamFailure Unit) (c : Controller) :
    (c.opened now result).closed = c.closed := by
  have begun (d : Controller) : (d.armWatchdog.reply (.ok ())).closed = d.closed :=
    (closed_reply _ _).trans (eases_stopWatchdog d).closed
  unfold opened
  split
  · exact begun (c.install now)
  · exact closed_reply _ _
  · exact (begun _).trans (eases_settle _ (c.install now)).closed
  · exact closed_reply _ _
  · rfl

theorem closed_acknowledged (result : Except ClientFailure Unit) (c : Controller) :
    (c.acknowledged result).closed = c.closed := by
  unfold acknowledged
  split
  · exact (closed_reply _ _).trans (eases_settle _ c).closed
  · exact (closed_reply _ _).trans (eases_settle _ c).closed
  · exact closed_reply _ _
  · exact closed_reply _ _
  · rfl

theorem closed_message (now : Nat) (m : Message) (c : Controller) :
    (c.message now m).closed = c.closed := by
  unfold message
  split
  · rfl
  · refine (eases_publish _).closed.trans ?_
    cases m with
    | signal stream s => exact (eases_signal now s c).closed
    | tick watchdog =>
      simp only [tick]
      split
      · exact (eases_stopWatchdog c).closed
      · split
        · rfl
        · split <;> rfl
    | polled watchdog result =>
      simp only [polled]
      split
      · exact (eases_settle _ _).closed
      · exact (eases_settle _ _).closed.trans (eases_stopWatchdog _).closed
      · rfl

/-- Only a shutdown closes a controller. -/
theorem step_closes {now : Nat} {input : Input} (unclosed : c.closed = false)
    (closed : (c.step now input).closed = true) :
    input = .shutDown ∧ c.awaiting = none ∧ c.step now input = c.shutDown := by
  have never (still : (c.step now input).closed = false) : False :=
    absurd (still.symm.trans closed) Bool.false_ne_true
  simp only [step, unclosed, Bool.false_eq_true, if_false] at never ⊢
  split at never
  · exact (never ((closed_command _ c).trans unclosed)).elim
  · exact (never ((closed_message now _ c).trans unclosed)).elim
  · rename_i idle
    exact ⟨rfl, idle, rfl⟩
  · exact (never ((closed_opened now _ c).trans unclosed)).elim
  · exact (never ((closed_acknowledged _ c).trans unclosed)).elim
  · exact (never unclosed).elim

theorem rests_step {now : Nat} {input : Input} (h : c.closed = true → c.Rests)
    (closed : (c.step now input).closed = true) : (c.step now input).Rests := by
  cases before : c.closed with
  | true =>
    rw [step_of_closed before]
    exact h before
  | false =>
    obtain ⟨-, idle, shut⟩ := step_closes before closed
    rw [shut]
    exact rests_shutDown idle

theorem acts_other {input : Input} (other : ∀ m, input ≠ .message m) (now : Nat) (c : Controller) :
    Acts c (c.step now input) := by
  rcases acts_step now c input with acts | ⟨⟨result, back⟩, -⟩
  · exact acts
  · exact absurd back (other _)

/-- An accepted request begins with the new stream. -/
theorem acts_accepted (asked : Operation.awaitsStream c = true) (unclosed : c.closed = false)
    (now : Nat) : Acts (c.install now) (c.step now (.opened (.ok ()))) := by
  rcases step_accepted asked unclosed now with started | resumed
  · rw [started]
    exact (acts_armWatchdog _).trans (acts_reply _ _)
  · rw [resumed]
    exact ((acts_settle _ _).trans (acts_armWatchdog _)).trans (acts_reply _ _)

/-- No stream is open while the controller waits for one. -/
theorem Coherent.silent_of_asking (h : Coherent c) (asking : Asking c)
    (asked : Operation.awaitsStream c = true) : c.streaming = false := by
  unfold Operation.awaitsStream at asked
  unfold Asking at asking
  cases waiting : c.awaiting with
  | none => rw [waiting] at asked; cases asked
  | some kind =>
    rw [waiting] at asking
    cases kind with
    | start => exact asking.2
    | resume => exact (h.paused asking).1
    | pause | cancel => rw [waiting] at asked; cases asked

end Controller

/-! ### Audits -/

namespace Audit

open Controller (Acts)

variable {x : Audit} {e : Operation.Event}

/-- What holds of an operation and the custody of its controller. -/
structure Sound (x : Audit) : Prop where
  orderly : x.operation.Orderly
  tended : Tended x.custody x.operation.activity x.operation.mail x.operation.controller
  /-- No two results on their way are from one fetch. -/
  senders : (x.operation.mail.filterMap Letter.fetch?).Nodup
  reported : ∀ i ∈ x.operation.mail.filterMap Letter.fetch?, i ∈ x.custody.reported
  rests : x.operation.controller.closed = true → x.operation.controller.Rests

theorem sound_initial (times : WatchTimes) :
    Sound { operation := { controller := { times } } } where
  orderly := Operation.orderly_initial times
  tended := {
    begun := rfl
    numbers := List.forall_mem_nil _
    streams := fun i live => absurd live.1 (Nat.not_lt_zero i)
    timers := fun i live => absurd live.1 (Nat.not_lt_zero i)
    fetches := fun _ _ at_ => nomatch at_
    results := List.forall_mem_nil _ }
  senders := .nil
  reported := nofun
  rests := nofun

theorem step_of_fresh (fresh : x.repeats e = false) :
    x.step e = {
      operation := x.operation.step e
      custody := (x.note e).enterAll (x.operation.effects e) } := by
  rw [step, fresh]
  rfl

theorem reported_enterAll (k : Custody) (effects : List Effect) :
    (k.enterAll effects).reported = k.reported := by
  induction effects generalizing k with
  | nil => rfl
  | cons e effects ih => exact (ih (k.enter e)).trans (by cases e <;> rfl)

namespace Sound

theorem take (h : Sound x) (fresh : x.repeats e = false) {input : Controller.Input} {a : Activity}
    {mail : List Letter} {d : Controller}
    (taken : x.operation.step e =
      Operation.take input { x.operation with activity := a, mail := mail })
    (out : x.operation.effects e = (x.operation.controller.step x.operation.now input).outbox)
    (known : mail.Sublist x.operation.mail) (unreported : (x.note e).reported = x.custody.reported)
    (tended : Tended (x.note e) a mail d) (sent : d.outbox = [])
    (acts : Acts d (x.operation.controller.step x.operation.now input)) : Sound (x.step e) := by
  have orderly := h.orderly.step e
  rw [step_of_fresh fresh]
  rw [taken] at orderly ⊢
  rw [out]
  have letters := known.filterMap Letter.fetch?
  refine ⟨orderly, tended.take sent acts, h.senders.sublist letters, fun i posted => ?_, ?_⟩
  · rw [reported_enterAll, unreported]
    exact h.reported i (letters.subset posted)
  · intro closed
    obtain ⟨awaiting, streaming, armed, fetching⟩ := Controller.rests_step h.rests closed
    exact ⟨awaiting, streaming, armed, fetching⟩

theorem take_other (h : Sound x) (fresh : x.repeats e = false) {input : Controller.Input}
    (other : ∀ m, input ≠ .message m) (taken : x.operation.step e = x.operation.take input)
    (out : x.operation.effects e = (x.operation.controller.step x.operation.now input).outbox)
    (note : x.note e = x.custody) : Sound (x.step e) :=
  h.take fresh taken out (List.Sublist.refl _) (congrArg Custody.reported note)
    (note ▸ h.tended) h.orderly.sent (Controller.acts_other other _ _)

/-- Letters are posted, but no result of a fetch. -/
theorem post (h : Sound x) (more : List Letter) (now : Nat) (fresh : x.repeats e = false)
    (posted : x.operation.step e = { x.operation with mail := x.operation.mail ++ more, now })
    (out : x.operation.effects e = []) (note : x.note e = x.custody)
    (other : ∀ l ∈ more, l.fetch? = none) : Sound (x.step e) := by
  have orderly := h.orderly.step e
  rw [step_of_fresh fresh]
  rw [posted] at orderly ⊢
  rw [out, note]
  have letters : (x.operation.mail ++ more).filterMap Letter.fetch? =
      x.operation.mail.filterMap Letter.fetch? := by
    rw [List.filterMap_append, List.filterMap_eq_nil_iff.2 other, List.append_nil]
  obtain ⟨begun, numbers, streams, timers, fetches, results⟩ := h.tended
  refine ⟨orderly, ⟨begun, numbers, streams, timers, fetches, fun l member n r message => ?_⟩,
    ?_, ?_, h.rests⟩
  · rcases List.mem_append.1 member with before | new
    · exact results l before n r message
    · have none_ := other l new
      rw [Letter.fetch?, message] at none_
      cases none_
  · exact letters ▸ h.senders
  · exact letters ▸ h.reported

theorem pass (h : Sound x) (now : Nat) (fresh : x.repeats e = false)
    (passed : x.operation.step e = { x.operation with now }) (out : x.operation.effects e = [])
    (note : x.note e = x.custody) : Sound (x.step e) := by
  refine h.post [] now fresh ?_ out note (List.forall_mem_nil _)
  rw [passed, List.append_nil]

theorem answerStream (h : Sound x) (result : Except StreamFailure Unit) :
    Sound (x.step (.streamAnswer result)) := by
  cases asked : Operation.awaitsStream x.operation.controller with
  | false =>
    refine h.pass x.operation.now rfl ?_ ?_ ?_
    · simp [Operation.step, Operation.answerStream, asked]
    · simp [Operation.effects, Operation.input?, asked]
    · cases result <;> simp [note, asked]
  | true =>
    have taken : x.operation.input? (.streamAnswer result) = some (.opened result) := by
      simp [Operation.input?, asked]
    cases result with
    | error failure =>
      have step : x.operation.step (.streamAnswer (.error failure)) =
          x.operation.take (.opened (.error failure)) := by
        simp [Operation.step, Operation.answerStream, asked]
      refine h.take_other rfl ?_ step ?_ rfl
      · intro m same
        cases same
      · simp [Operation.effects, taken]
    | ok =>
      have unclosed : x.operation.controller.closed = false := by
        refine Bool.eq_false_iff.2 fun closed => ?_
        have idle := (h.rests closed).awaiting
        rw [Operation.awaitsStream, idle] at asked
        cases asked
      obtain ⟨coherent, asking⟩ := h.orderly.coherent unclosed
      have note : x.note (.streamAnswer (.ok ())) =
          { x.custody with opened := x.custody.opened + 1 } := by
        simp [Audit.note, asked]
      refine h.take (a := x.operation.activity.accept) rfl ?_ ?_ (List.Sublist.refl _) ?_ ?_ ?_
        (Controller.acts_accepted asked unclosed x.operation.now)
      · simp [Operation.step, Operation.answerStream, asked]
      · simp [Operation.effects, taken]
      · rw [note]
      · rw [note]
        exact h.tended.open_ (coherent.silent_of_asking asking asked) _
      · exact h.orderly.sent

/-- A letter arrives. If it is the result that the controller waits for, no other is on its way. -/
theorem deliver (h : Sound x) (place : Nat) : Sound (x.step (.deliver place)) := by
  have nothing (idle : x.operation.input? (.deliver place) = none)
      (same : x.operation.deliver place = x.operation) : Sound (x.step (.deliver place)) := by
    refine h.pass x.operation.now rfl same ?_ rfl
    rw [Operation.effects, idle]
  cases waits : x.operation.controller.awaiting with
  | some kind =>
    exact nothing (by simp [Operation.input?, waits]) (by simp [Operation.deliver, waits])
  | none =>
    cases at_ : x.operation.mail[place]? with
    | none =>
      exact nothing (by simp [Operation.input?, waits, at_])
        (by simp [Operation.deliver, waits, at_])
    | some l =>
      have taken : x.operation.step (.deliver place) = Operation.take (.message l.message)
          { x.operation with mail := x.operation.mail.eraseIdx place } := by
        simp [Operation.step, Operation.deliver, waits, at_]
      have out : x.operation.effects (.deliver place) =
          (x.operation.controller.step x.operation.now (.message l.message)).outbox := by
        simp [Operation.effects, Operation.input?, waits, at_]
      have rest := List.eraseIdx_sublist x.operation.mail place
      have kept (y : Letter) (later : y ∈ x.operation.mail.eraseIdx place) : y ∈ x.operation.mail :=
        rest.subset later
      rcases Controller.acts_step x.operation.now x.operation.controller (.message l.message) with
        acts | ⟨⟨result, back⟩, acts⟩
      · exact h.take rfl taken out rest rfl (h.tended.of_mail kept) h.orderly.sent acts
      · have message := Controller.Input.message.inj back
        have sender : l.fetch? = some l.sender := by rw [Letter.fetch?, message]
        have order : (l :: x.operation.mail.eraseIdx place).Perm x.operation.mail := by
          obtain ⟨inside, rfl⟩ := List.getElem?_eq_some_iff.1 at_
          exact List.getElem_cons_eraseIdx_perm inside
        have senders := ((order.filterMap Letter.fetch?).nodup_iff).2 h.senders
        rw [List.filterMap_cons_some sender, List.nodup_cons] at senders
        have only (y : Letter) (later : y ∈ x.operation.mail.eraseIdx place) :
            y.fetch? ≠ some l.sender :=
          fun same => senders.1 (List.mem_filterMap.2 ⟨y, later, same⟩)
        have posted := List.mem_of_getElem? at_
        have reported := h.reported l.sender (List.mem_filterMap.2 ⟨l, posted, sender⟩)
        exact h.take rfl taken out rest rfl (h.tended.back posted message reported kept only)
          h.orderly.sent acts

theorem fetched (h : Sound x) (place : Nat) (result : Except PollFailure RunSnapshot)
    (fresh : x.repeats (.fetched place result) = false) :
    Sound (x.step (.fetched place result)) := by
  have unreported : place ∉ x.custody.reported := by simpa [repeats] using fresh
  cases at_ : x.operation.activity.fetches[place]? with
  | none =>
    have beyond : ¬place < x.custody.begun := by
      rw [h.tended.begun]
      exact Nat.not_lt.2 (List.getElem?_eq_none_iff.1 at_)
    refine h.pass x.operation.now fresh ?_ rfl ?_
    · simp [Operation.step, Operation.send, at_]
    · simp [note, beyond]
  | some f =>
    have orderly := h.orderly.step (.fetched place result)
    have posted : x.operation.step (.fetched place result) = { x.operation with
        mail := x.operation.mail ++ [⟨place, .polled f.watchdog result⟩] } := by
      simp [Operation.step, Operation.send, at_]
    have inside : place < x.custody.begun := by
      rw [h.tended.begun]
      exact (List.getElem?_eq_some_iff.1 at_).1
    have noted : x.note (.fetched place result) =
        { x.custody with reported := x.custody.reported ++ [place] } := by
      simp [note, inside]
    have letters : (x.operation.mail ++ [(⟨place, .polled f.watchdog result⟩ : Letter)]).filterMap
        Letter.fetch? = x.operation.mail.filterMap Letter.fetch? ++ [place] := by
      rw [List.filterMap_append]
      rfl
    rw [step_of_fresh fresh]
    rw [posted] at orderly ⊢
    rw [noted]
    refine ⟨orderly, h.tended.report at_ unreported result, ?_, fun i there => ?_, h.rests⟩
    · rw [letters, List.nodup_append]
      refine ⟨h.senders, List.pairwise_singleton _ _, fun i there j new same => ?_⟩
      rw [List.mem_singleton.1 new] at same
      exact unreported (same ▸ h.reported i there)
    · rw [letters] at there
      rcases List.mem_append.1 there with before | new
      · exact List.mem_append_left _ (h.reported i before)
      · exact List.mem_append_right _ new

theorem step (h : Sound x) (e : Operation.Event) : Sound (x.step e) := by
  cases repeated : x.repeats e with
  | true =>
    rw [Audit.step, repeated]
    exact h
  | false =>
    have sends (sender : Nat) (message? : Option Message)
        (other : ∀ n r, message? ≠ some (.polled n r))
        (posted : x.operation.step e = x.operation.send sender message?)
        (out : x.operation.effects e = []) (note : x.note e = x.custody) : Sound (x.step e) := by
      cases message? with
      | none =>
        exact h.pass x.operation.now repeated posted out note
      | some m =>
        refine h.post _ _ repeated posted out note fun l new => ?_
        rw [List.mem_singleton.1 new]
        cases m with
        | polled n r => exact absurd rfl (other n r)
        | signal | tick => rfl
    cases e with
    | command | shutDown | commandAnswer =>
      exact h.take_other repeated (fun _ same => by cases same) rfl rfl rfl
    | streamAnswer result => exact h.answerStream result
    | signal place s =>
      refine sends place _ (fun n r message => ?_) rfl rfl rfl
      obtain ⟨_, -, same⟩ := Option.map_eq_some_iff.1 message
      cases same
    | tick place =>
      refine sends place _ (fun n r message => ?_) rfl rfl rfl
      obtain ⟨_, -, same⟩ := Option.map_eq_some_iff.1 message
      cases same
    | fetched place result => exact h.fetched place result repeated
    | deliver place => exact h.deliver place
    | wait duration =>
      exact h.pass (x.operation.now + duration) repeated rfl rfl rfl

end Sound

theorem sound_run (events : List Operation.Event) (h : Sound x) : Sound (events.foldl step x) := by
  induction events generalizing x with
  | nil => exact h
  | cons e events ih => exact ih (h.step e)

theorem sound_after (times : WatchTimes) (events : List Operation.Event) :
    Sound (after times events) :=
  sound_run events (sound_initial times)

theorem after_append (times : WatchTimes) (events more : List Operation.Event) :
    after times (events ++ more) = more.foldl step (after times events) :=
  List.foldl_append

theorem after_concat (times : WatchTimes) (events : List Operation.Event) (e : Operation.Event) :
    after times (events ++ [e]) = (after times events).step e :=
  after_append times events [e]

/-! ### After a shutdown -/

theorem controller_step (x : Audit) (e : Operation.Event) :
    (x.step e).operation.controller = x.operation.controller ∨
      (x.step e).operation.controller = (x.operation.step e).controller := by
  unfold step
  split
  · exact .inl rfl
  · exact .inr rfl

theorem Sound.controller_of_closed (h : Sound x) (closed : x.operation.controller.closed = true)
    (e : Operation.Event) : (x.step e).operation.controller = x.operation.controller := by
  rcases controller_step x e with same | moved
  · exact same
  · rw [moved]
    rcases Operation.step_cases h.orderly e with ⟨same, -⟩ | ⟨input, a, mail, taken, -⟩
    · exact same
    · rw [taken]
      change { x.operation.controller.step x.operation.now input with outbox := [] } = _
      rw [Controller.step_of_closed closed, ← h.orderly.sent]

theorem Sound.step_closes (h : Sound x) (unclosed : x.operation.controller.closed = false)
    (closed : (x.step e).operation.controller.closed = true) :
    e = .shutDown ∧
      (x.step e).operation.controller.view = x.operation.controller.shutDown.view := by
  rcases controller_step x e with same | moved
  · rw [same, unclosed] at closed
    cases closed
  · rw [moved] at closed ⊢
    rcases Operation.step_cases h.orderly e with
      ⟨same, -⟩ | ⟨input, a, mail, taken, -, -, shutsDown⟩
    · rw [same, unclosed] at closed
      cases closed
    · rw [taken] at closed ⊢
      obtain ⟨input_, -, shut⟩ := Controller.step_closes unclosed closed
      refine ⟨shutsDown input_, ?_⟩
      change (x.operation.controller.step x.operation.now input).view = _
      rw [shut]

theorem controller_run (more : List Operation.Event) (h : Sound x)
    (closed : x.operation.controller.closed = true) :
    (more.foldl step x).operation.controller = x.operation.controller := by
  induction more generalizing x with
  | nil => rfl
  | cons e more ih =>
    have same := h.controller_of_closed closed e
    exact (ih (h.step e) (same ▸ closed)).trans same

theorem Sound.calls_of_closed (h : Sound x) (closed : x.operation.controller.closed = true)
    (e : Operation.Event) : x.operation.calls e = [] := by
  have silent : x.operation.effects e = [] := by
    unfold Operation.effects
    split
    · rw [Controller.step_of_closed closed, h.orderly.sent]
    · rfl
  rw [Operation.calls, silent]
  rfl

theorem Sound.none_live_of_closed (h : Sound x) (closed : x.operation.controller.closed = true) :
    (∀ i, ¬x.custody.StreamLive i) ∧ (∀ i, ¬x.custody.TimerLive i) ∧
      ∀ i, ¬x.custody.FetchLive i := by
  obtain ⟨-, streaming, armed, fetching⟩ := h.rests closed
  refine ⟨fun i live => ?_, fun i live => ?_, fun i ⟨begun, unaborted, unreported⟩ => ?_⟩
  · exact absurd (streaming.symm.trans (h.tended.streams i live).1) Bool.false_ne_true
  · exact absurd (armed.symm.trans (h.tended.timers i live).1) Bool.false_ne_true
  · have inside : i < x.operation.activity.fetches.length := h.tended.begun ▸ begun
    rcases h.tended.fetches i _ (List.getElem?_eq_getElem inside) unreported with
      ⟨out, -⟩ | ⟨given, -⟩
    · exact absurd (fetching.symm.trans out) Bool.false_ne_true
    · exact unaborted given

end Audit

/-- The view of a controller once it has given up everything that runs. -/
def Controller.farewell (c : Controller) : RunView :=
  { c.present with
    canStart := c.state.canStart
    streaming := false
    polling := false }

theorem Controller.view_shutDown (c : Controller) : c.shutDown.view = c.farewell := by
  rw [shutDown, publish_eq, stopWatchdog_eq, closeStream_eq]
  simp only [present, farewell, canStart, Bool.not_false, Bool.and_true]

namespace Audit

/-- A controller is closed by a shutdown, and its view is the one of that moment from then on. -/
theorem closed_by_shutDown (times : WatchTimes) (events : List Operation.Event)
    (closed : (after times events).operation.controller.closed = true) :
    ∃ before later, events = before ++ .shutDown :: later ∧
      (after times before).operation.controller.closed = false ∧
      (after times events).operation.controller.view =
        (after times before).operation.controller.farewell := by
  induction events using List.reverseRecOn with
  | nil => cases closed
  | append_singleton events e ih =>
    have sound := sound_after times events
    rw [after_concat] at closed ⊢
    cases before : (after times events).operation.controller.closed with
    | true =>
      obtain ⟨earlier, later, rfl, unclosed, view⟩ := ih before
      rw [sound.controller_of_closed before e]
      exact ⟨earlier, later ++ [e], List.append_assoc _ _ _, unclosed, view⟩
    | false =>
      obtain ⟨rfl, shut⟩ := sound.step_closes before closed
      rw [shut]
      exact ⟨events, [], rfl, before, Controller.view_shutDown _⟩

theorem closed_of_shutDown (x : Audit) (idle : x.operation.controller.awaiting = none) :
    (x.step .shutDown).operation.controller.closed = true := by
  change (x.operation.controller.step x.operation.now .shutDown).closed = true
  cases closed : x.operation.controller.closed with
  | true =>
    rw [Controller.step_of_closed closed]
    exact closed
  | false =>
    simp only [Controller.step, closed, idle, Bool.false_eq_true, if_false]
    rfl

/-- In every operation, each stream that was ever opened has been cancelled unless it is the one
that the controller holds, and one timer at most is live. A shutdown closes a controller that waits
for nothing. Once a controller is closed, whatever still arrives, nothing is live that it has ever
set going, its view is that of the shutdown, and it calls nobody. -/
theorem nothing_outlives_controller (times : WatchTimes) (events : List Operation.Event) :
    let x := after times events
    let c := x.operation.controller
    (∀ i, x.custody.StreamLive i → c.streaming = true ∧ i + 1 = x.custody.opened) ∧
      (∀ i j, x.custody.TimerLive i → x.custody.TimerLive j → i = j) ∧
      (c.awaiting = none →
        (after times (events ++ [.shutDown])).operation.controller.closed = true) ∧
      (c.closed = true →
        (∃ before later, events = before ++ .shutDown :: later ∧
          (after times before).operation.controller.closed = false ∧
          c.view = (after times before).operation.controller.farewell) ∧
        ∀ more,
          let y := after times (events ++ more)
          (∀ i, ¬y.custody.StreamLive i) ∧ (∀ i, ¬y.custody.TimerLive i) ∧
            (∀ i, ¬y.custody.FetchLive i) ∧ y.operation.controller.view = c.view ∧
            ∀ e, y.operation.calls e = []) := by
  intro x c
  have sound := sound_after times events
  refine ⟨sound.tended.streams, fun i j live live' => ?_, fun idle => ?_, fun closed =>
    ⟨closed_by_shutDown times events closed, fun more => ?_⟩⟩
  · exact Nat.succ.inj ((sound.tended.timers i live).2.trans (sound.tended.timers j live').2.symm)
  · rw [after_concat]
    exact closed_of_shutDown x idle
  · have later : Sound (after times (events ++ more)) := sound_after times _
    have same : (after times (events ++ more)).operation.controller = c := by
      rw [after_append]
      exact controller_run more sound closed
    have closed' : (after times (events ++ more)).operation.controller.closed = true := by
      rw [same]
      exact closed
    obtain ⟨streams, timers, fetches⟩ := later.none_live_of_closed closed'
    exact ⟨streams, timers, fetches, by rw [same], later.calls_of_closed closed'⟩

/-- A run that is paused and resumed, shut down while a fetch is out and letters are on their way,
and reached by all of them afterwards. -/
def shutDownAmid : List Operation.Event :=
  Operation.pausedAndResumed ++
    [.deliver 2, .wait 2, .tick 1, .deliver 2, .signal 1 .closed, .shutDown,
      .fetched 2 (.ok { status := .running }), .signal 1 .closed, .deliver 3, .deliver 2]

theorem nothing_outlives_amid :
    let x := after ⟨2, 1⟩ shutDownAmid
    x.operation.controller.closed = true ∧ x.custody.opened = 2 ∧ x.custody.armed = 2 ∧
      x.custody.begun = 3 ∧ (∀ i, ¬x.custody.StreamLive i) ∧ (∀ i, ¬x.custody.TimerLive i) ∧
      (∀ i, ¬x.custody.FetchLive i) ∧ ∀ e, x.operation.calls e = [] := by
  intro x
  have closed : x.operation.controller.closed = true := by decide +kernel
  obtain ⟨-, -, -, shut⟩ := nothing_outlives_controller ⟨2, 1⟩ shutDownAmid
  obtain ⟨streams, timers, fetches, -, calls⟩ := (shut closed).2 []
  rw [List.append_nil] at streams timers fetches calls
  exact ⟨closed, by decide +kernel, by decide +kernel, by decide +kernel, streams, timers, fetches,
    calls⟩

end Audit

end RunWatch
