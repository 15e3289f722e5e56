import RunWatch.Proofs.Control.Custody

/-!
# The slot of the fetch

A controller has one slot for a fetch. `Claimed` says that a taken slot belongs to the last fetch,
which has the present number and has not been given up, and whose result is on its way if it has
been given. Every act keeps it, and so does whatever happens to an operation, which `Audit.Course`
sorts into four kinds. So a taken slot always has a result to come, and no other result is taken
for it.
-/

namespace RunWatch

/-- The letter is the result of a fetch with the number. -/
def Letter.isResult (watchdog : Nat) (l : Letter) : Bool :=
  match l.message with
  | .polled n _ => n == watchdog
  | _ => false

theorem Letter.isResult_iff {watchdog : Nat} {l : Letter} :
    l.isResult watchdog = true ↔ ∃ r, l.message = .polled watchdog r := by
  unfold isResult
  cases l.message with
  | polled n r =>
    rw [beq_iff_eq]
    exact ⟨fun same => ⟨r, by rw [same]⟩, fun ⟨_, same⟩ => (Message.polled.inj same).1⟩
  | signal | tick => exact ⟨nofun, fun ⟨_, same⟩ => nomatch same⟩

theorem Letter.fetch?_eq_some_iff {l : Letter} {i : Nat} :
    l.fetch? = some i ↔ l.sender = i ∧ ∃ n r, l.message = .polled n r := by
  unfold fetch?
  cases l.message with
  | polled n r =>
    exact ⟨fun same => ⟨Option.some.inj same, n, r, rfl⟩, fun same => congrArg some same.1⟩
  | signal | tick => exact ⟨nofun, fun ⟨_, _, _, same⟩ => nomatch same⟩

theorem Custody.lt_of_mem_last {i n : Nat} (h : i ∈ last n) : i < n := by
  cases n with
  | zero => cases h
  | succ n => rw [List.mem_singleton.1 h]; exact Nat.lt_succ_self n

/-! ### Claims on the slot -/

/-- A taken slot belongs to the last fetch. -/
structure Claimed (k : Custody) (a : Activity) (mail : List Letter) (c : Controller) : Prop where
  begun : k.begun = a.fetches.length
  aborted : ∀ i ∈ k.aborted, i < k.begun
  reported : ∀ i ∈ k.reported, i < k.begun
  claim : c.fetching = true → ∃ i f, i + 1 = k.begun ∧ a.fetches[i]? = some f ∧
    f.watchdog = c.watchdog ∧ i ∉ k.aborted ∧ (i ∈ k.reported → ∃ l ∈ mail, l.fetch? = some i)

namespace Claimed

variable {k : Custody} {a : Activity} {mail : List Letter} {c c' : Controller}

open Controller

theorem of_idle (h : Claimed k a mail c) (idle : c'.fetching = false) (mail' : List Letter) :
    Claimed k a mail' c' :=
  ⟨h.begun, h.aborted, h.reported,
    fun fetching => absurd (idle.symm.trans fetching) Bool.false_ne_true⟩

theorem of_eq {k' : Custody} {a' : Activity} (h : Claimed k a mail c) (begun : k'.begun = k.begun)
    (aborted : k'.aborted = k.aborted) (reported : k'.reported = k.reported)
    (activity : a'.fetches = a.fetches) (watchdog : c'.watchdog = c.watchdog)
    (fetching : c'.fetching = c.fetching) : Claimed k' a' mail c' where
  begun := by rw [begun, activity]; exact h.begun
  aborted := by rw [aborted, begun]; exact h.aborted
  reported := by rw [reported, begun]; exact h.reported
  claim := by rw [begun, aborted, reported, activity, watchdog, fetching]; exact h.claim

theorem of_mail (h : Claimed k a mail c) {mail' : List Letter}
    (kept : ∀ l ∈ mail, l.isResult c.watchdog = true → l ∈ mail')
    (genuine : ∀ l ∈ mail, a.Genuine l) : Claimed k a mail' c := by
  refine ⟨h.begun, h.aborted, h.reported, fun fetching => ?_⟩
  obtain ⟨i, f, last, at_, number, held, given⟩ := h.claim fetching
  refine ⟨i, f, last, at_, number, held, fun reported => ?_⟩
  obtain ⟨l, posted, sender⟩ := given reported
  refine ⟨l, kept l posted ?_, sender⟩
  -- The result carries the number of its fetch, and that is the present one.
  obtain ⟨rfl, n, r, message⟩ := Letter.fetch?_eq_some_iff.1 sender
  have from_ := genuine l posted
  rw [Activity.Genuine, message] at from_
  obtain ⟨g, there, same⟩ := from_
  cases at_.symm.trans there
  exact Letter.isResult_iff.2 ⟨r, by rw [message, ← same, number]⟩

theorem stopWatchdog (h : Claimed (k.carryOut c) (a.carryOut c) mail c) :
    Claimed (k.carryOut c.stopWatchdog) (a.carryOut c.stopWatchdog) mail c.stopWatchdog := by
  obtain ⟨armed?, turn, activity⟩ := a.carryOut_stopWatchdog c
  rw [k.carryOut_stopWatchdog, activity, stopWatchdog_eq]
  refine ⟨h.begun, fun i given => ?_, h.reported, fun fetching => nomatch fetching⟩
  rcases List.mem_append.1 given with before | now
  · exact h.aborted i before
  · split at now
    · exact Custody.lt_of_mem_last now
    · cases now

theorem fetch (h : Claimed (k.carryOut c) (a.carryOut c) mail c) (run : RunId) :
    Claimed (k.carryOut ({ c with fetching := true }.emit (.fetch c.watchdog run)))
      (a.carryOut ({ c with fetching := true }.emit (.fetch c.watchdog run))) mail
      ({ c with fetching := true }.emit (.fetch c.watchdog run)) := by
  have one_more (f : Fetch) :
      (k.carryOut c).begun + 1 = ((a.carryOut c).fetches ++ [f]).length := by
    rw [h.begun, List.length_append, List.length_singleton]
  have at_ (f : Fetch) : ((a.carryOut c).fetches ++ [f])[(k.carryOut c).begun]? = some f := by
    rw [h.begun]
    exact List.getElem?_concat_length
  rw [k.carryOut_emit, a.carryOut_emit]
  exact ⟨one_more _, fun i given => Nat.lt_succ_of_lt (h.aborted i given),
    fun i given => Nat.lt_succ_of_lt (h.reported i given), fun _ =>
      ⟨(k.carryOut c).begun, _, rfl, at_ _, rfl, fun given => Nat.lt_irrefl _ (h.aborted _ given),
        fun given => absurd (h.reported _ given) (Nat.lt_irrefl _)⟩⟩

theorem act (h : Claimed (k.carryOut c) (a.carryOut c) mail c) (act : Act c c') :
    Claimed (k.carryOut c') (a.carryOut c') mail c' := by
  cases act with
  | aside aside =>
    obtain ⟨more, outbox, quiet⟩ := aside.outbox
    have custody : k.carryOut c' = k.carryOut c := by
      rw [Custody.carryOut, outbox, Custody.enterAll_append, Custody.enterAll_aside quiet]
      rfl
    have activity : a.carryOut c' = a.carryOut c := by
      rw [Activity.carryOut, outbox, Activity.performAll, List.foldl_append]
      exact Activity.performAll_aside quiet _
    rw [custody, activity]
    exact h.of_eq rfl rfl rfl rfl aside.watchdog aside.fetching
  | closeStream =>
    obtain ⟨open?, activity⟩ := a.carryOut_closeStream c
    rw [k.carryOut_closeStream, activity, closeStream_eq]
    exact h.of_eq rfl rfl rfl rfl rfl rfl
  | ask request =>
    rw [k.carryOut_emit, a.carryOut_emit]
    exact h.of_eq rfl rfl rfl rfl rfl rfl
  | install now => exact h.of_eq rfl rfl rfl rfl rfl rfl
  | stopWatchdog => exact h.stopWatchdog
  | arm unarmed idle =>
    rw [k.carryOut_emit, a.carryOut_emit]
    exact h.of_eq rfl rfl rfl rfl rfl rfl
  | fetch run armed known idle => exact h.fetch run

theorem take {d : Controller} (h : Claimed k a mail d) (sent : d.outbox = []) (acts : Acts d c') :
    Claimed (k.enterAll c'.outbox) (a.performAll c'.outbox) mail { c' with outbox := [] } := by
  have before : Claimed (k.carryOut d) (a.carryOut d) mail d := by
    rw [Custody.carryOut, Activity.carryOut, sent]
    exact h
  have later : Claimed (k.carryOut c') (a.carryOut c') mail c' := by
    induction acts with
    | refl => exact before
    | tail _ act ih => exact ih.act act
  exact later.of_eq rfl rfl rfl rfl rfl rfl

/-- A fetch gives its result. -/
theorem report (h : Claimed k a mail c) {i : Nat} {f : Fetch} (at_ : a.fetches[i]? = some f)
    (result : Except PollFailure RunSnapshot) :
    Claimed { k with reported := k.reported ++ [i] } a
      (mail ++ [⟨i, .polled f.watchdog result⟩]) c := by
  have inside : i < k.begun := by
    rw [h.begun]
    exact (List.getElem?_eq_some_iff.1 at_).1
  refine ⟨h.begun, h.aborted, fun j given => ?_, fun fetching => ?_⟩
  · rcases List.mem_append.1 given with before | now
    · exact h.reported j before
    · rw [List.mem_singleton.1 now]
      exact inside
  · obtain ⟨j, g, last, there, number, held, given⟩ := h.claim fetching
    refine ⟨j, g, last, there, number, held, fun reported => ?_⟩
    rcases List.mem_append.1 reported with before | now
    · obtain ⟨l, posted, sender⟩ := given before
      exact ⟨l, List.mem_append_left _ posted, sender⟩
    · rw [List.mem_singleton.1 now]
      exact ⟨_, List.mem_append_right _ (List.mem_singleton_self _), rfl⟩

end Claimed

namespace Controller

variable {c : Controller}

/-! ### The result of the fetch -/

theorem idle_settle (x : RunState × Transition) (idle : c.fetching = false) :
    (c.settle x).fetching = false := by
  have shut (d : Controller) (idle : d.fetching = false) :
      (if x.2.closeStream then d.closeStream else d).fetching = false := by
    split
    · rw [closeStream_eq]
      exact idle
    · exact idle
  have ended (d : Controller) (idle : d.fetching = false) :
      (if x.2.changed && x.1.isTerminal then d.closeStream.stopWatchdog else d).fetching =
        false := by
    split
    · rw [stopWatchdog_eq]
    · exact idle
  exact ended _ (shut _ idle)

theorem idle_polled (result : Except PollFailure RunSnapshot) (c : Controller) :
    (c.polled result).fetching = false := by
  unfold polled
  split
  · exact idle_settle _ rfl
  · exact idle_settle _ (by rw [stopWatchdog_eq])
  · rfl

theorem fetching_publish (c : Controller) : c.publish.fetching = c.fetching := by
  rw [publish_eq]

theorem step_polled (unclosed : c.closed = false) (idle : c.awaiting = none) (now : Nat)
    (result : Except PollFailure RunSnapshot) :
    c.step now (.message (.polled c.watchdog result)) = (c.polled result).publish := by
  simp [step, unclosed, idle, message, concerns]

end Controller

namespace Audit

open Controller (Acts)

variable {x : Audit} {e : Operation.Event}

/-! ### What an event comes to -/

/-- What becomes of an operation and the custody of its controller when something happens. -/
inductive Course (x : Audit) (e : Operation.Event) : Prop where
  | posts (more : List Letter) (now : Nat)
    (step : x.operation.step e = { x.operation with mail := x.operation.mail ++ more, now })
    (out : x.operation.effects e = []) (note : x.note e = x.custody)
  | reports (place : Nat) (f : Fetch) (result : Except PollFailure RunSnapshot)
    (at_ : x.operation.activity.fetches[place]? = some f)
    (step : x.operation.step e = { x.operation with
      mail := x.operation.mail ++ [⟨place, .polled f.watchdog result⟩] })
    (out : x.operation.effects e = [])
    (note : x.note e = { x.custody with reported := x.custody.reported ++ [place] })
  | takes (input : Controller.Input) (a : Activity) (other : ∀ m, input ≠ .message m)
    (step : x.operation.step e = Operation.take input { x.operation with activity := a })
    (out : x.operation.effects e = (x.operation.controller.step x.operation.now input).outbox)
    (fetches : a.fetches = x.operation.activity.fetches)
    (note : ∃ opened, x.note e = { x.custody with opened })
  | delivers (place : Nat) (l : Letter) (idle : x.operation.controller.awaiting = none)
    (at_ : x.operation.mail[place]? = some l)
    (step : x.operation.step e = Operation.take (.message l.message)
      { x.operation with mail := x.operation.mail.eraseIdx place })
    (out : x.operation.effects e =
      (x.operation.controller.step x.operation.now (.message l.message)).outbox)
    (note : x.note e = x.custody)

theorem Course.pass (now : Nat) (passed : x.operation.step e = { x.operation with now })
    (out : x.operation.effects e = []) (note : x.note e = x.custody) : Course x e :=
  .posts [] now (by rw [passed, List.append_nil]) out note

theorem Course.send (sender : Nat) (message? : Option Message)
    (sent : x.operation.step e = x.operation.send sender message?)
    (out : x.operation.effects e = []) (note : x.note e = x.custody) : Course x e := by
  cases message? with
  | none => exact .pass x.operation.now sent out note
  | some m => exact .posts [⟨sender, m⟩] x.operation.now sent out note

theorem course_streamAnswer (x : Audit) (result : Except StreamFailure Unit) :
    Course x (.streamAnswer result) := by
  cases asked : Operation.awaitsStream x.operation.controller with
  | false =>
    refine .pass x.operation.now ?_ ?_ ?_
    · simp [Operation.step, Operation.answerStream, asked]
    · simp [Operation.effects, Operation.input?, asked]
    · cases result <;> simp [note, asked]
  | true =>
    have out : x.operation.effects (.streamAnswer result) =
        (x.operation.controller.step x.operation.now (.opened result)).outbox := by
      simp [Operation.effects, Operation.input?, asked]
    have other (m : Message) : Controller.Input.opened result ≠ .message m := fun same => by
      cases same
    cases result with
    | ok =>
      refine .takes (.opened (.ok ())) x.operation.activity.accept other ?_ out rfl
        ⟨x.custody.opened + 1, ?_⟩
      · simp [Operation.step, Operation.answerStream, asked]
      · simp [note, asked]
    | error failure =>
      refine .takes (.opened (.error failure)) x.operation.activity other ?_ out rfl ⟨_, rfl⟩
      simp [Operation.step, Operation.answerStream, asked]

theorem course_fetched (begun : x.custody.begun = x.operation.activity.fetches.length)
    (place : Nat) (result : Except PollFailure RunSnapshot) :
    Course x (.fetched place result) := by
  cases at_ : x.operation.activity.fetches[place]? with
  | none =>
    have beyond : ¬place < x.custody.begun := by
      rw [begun]
      exact Nat.not_lt.2 (List.getElem?_eq_none_iff.1 at_)
    refine .pass x.operation.now ?_ rfl ?_
    · simp [Operation.step, Operation.send, at_]
    · simp [note, beyond]
  | some f =>
    have inside : place < x.custody.begun := by
      rw [begun]
      exact (List.getElem?_eq_some_iff.1 at_).1
    refine .reports place f result at_ ?_ rfl ?_
    · simp [Operation.step, Operation.send, at_]
    · simp [note, inside]

theorem course_deliver (x : Audit) (place : Nat) : Course x (.deliver place) := by
  have nothing (silent : x.operation.input? (.deliver place) = none)
      (same : x.operation.deliver place = x.operation) : Course x (.deliver place) :=
    .pass x.operation.now same (by rw [Operation.effects, silent]) rfl
  cases waits : x.operation.controller.awaiting with
  | some kind =>
    exact nothing (by simp [Operation.input?, waits]) (by simp [Operation.deliver, waits])
  | none =>
    cases at_ : x.operation.mail[place]? with
    | none =>
      exact nothing (by simp [Operation.input?, waits, at_])
        (by simp [Operation.deliver, waits, at_])
    | some l =>
      refine .delivers place l waits at_ ?_ ?_ rfl
      · simp [Operation.step, Operation.deliver, waits, at_]
      · simp [Operation.effects, Operation.input?, waits, at_]

theorem course (begun : x.custody.begun = x.operation.activity.fetches.length)
    (e : Operation.Event) : Course x e := by
  cases e with
  | command | shutDown | commandAnswer =>
    exact .takes _ x.operation.activity (fun _ same => by cases same) rfl rfl rfl ⟨_, rfl⟩
  | streamAnswer result => exact course_streamAnswer x result
  | signal place s => exact .send place _ rfl rfl rfl
  | tick place => exact .send place _ rfl rfl rfl
  | fetched place result => exact course_fetched begun place result
  | deliver place => exact course_deliver x place
  | wait duration => exact .pass (x.operation.now + duration) rfl rfl rfl

theorem step_deliver (idle : x.operation.controller.awaiting = none) {place : Nat} {l : Letter}
    (at_ : x.operation.mail[place]? = some l) :
    x.step (.deliver place) = {
      operation := Operation.take (.message l.message)
        { x.operation with mail := x.operation.mail.eraseIdx place }
      custody := x.custody.enterAll
        (x.operation.controller.step x.operation.now (.message l.message)).outbox } := by
  rw [step_of_fresh rfl]
  simp [Operation.step, Operation.deliver, Operation.effects, Operation.input?, note, idle, at_]

theorem step_deliver_of_awaiting {kind : RunCommand}
    (waits : x.operation.controller.awaiting = some kind) (place : Nat) :
    x.step (.deliver place) = x := by
  rw [step_of_fresh rfl]
  simp [Operation.step, Operation.deliver, Operation.effects, Operation.input?, note, waits,
    Custody.enterAll]

/-! ### The slot in operation -/

/-- The slot of the controller is claimed as it should be. -/
def Held (x : Audit) : Prop :=
  Claimed x.custody x.operation.activity x.operation.mail x.operation.controller

/-- A letter arrives. The result of the fetch frees the slot; any other letter leaves the result on
its way. -/
theorem Held.deliver (h : Held x) (sound : Sound x) {place : Nat} {l : Letter}
    (idle : x.operation.controller.awaiting = none) (at_ : x.operation.mail[place]? = some l) :
    ∃ d, d.outbox = [] ∧
      Acts d (x.operation.controller.step x.operation.now (.message l.message)) ∧
      Claimed x.custody x.operation.activity (x.operation.mail.eraseIdx place) d := by
  have sent := sound.orderly.sent
  cases result? : l.isResult x.operation.controller.watchdog with
  | true =>
    obtain ⟨result, message⟩ := Letter.isResult_iff.1 result?
    rw [message]
    cases closed : x.operation.controller.closed with
    | true =>
      rw [Controller.step_of_closed closed]
      exact ⟨_, sent, .refl, h.of_idle (sound.rests closed).fetching _⟩
    | false =>
      rw [Controller.step_polled closed idle]
      exact ⟨{ x.operation.controller with fetching := false }, sent,
        (Controller.acts_polled result _).trans (Controller.acts_publish _), h.of_idle rfl _⟩
  | false =>
    refine ⟨x.operation.controller, sent, ?_, h.of_mail (fun y posted result => ?_)
      sound.orderly.genuine⟩
    · rcases Controller.acts_step x.operation.now x.operation.controller (.message l.message) with
        acts | ⟨⟨result, back⟩, -⟩
      · exact acts
      · have present := Letter.isResult_iff.2 ⟨result, Controller.Input.message.inj back⟩
        exact absurd (result?.symm.trans present) Bool.false_ne_true
    · have order : (l :: x.operation.mail.eraseIdx place).Perm x.operation.mail := by
        obtain ⟨inside, rfl⟩ := List.getElem?_eq_some_iff.1 at_
        exact List.getElem_cons_eraseIdx_perm inside
      rcases List.mem_cons.1 (order.mem_iff.2 posted) with rfl | later
      · exact absurd (result?.symm.trans result) Bool.false_ne_true
      · exact later

theorem Held.step (h : Held x) (sound : Sound x) (e : Operation.Event) : Held (x.step e) := by
  cases fresh : x.repeats e with
  | true =>
    rw [Audit.step, fresh]
    exact h
  | false =>
    rw [step_of_fresh fresh, Held]
    cases course h.begun e with
    | posts more now step out note =>
      rw [step, out, note]
      exact h.of_mail (fun l posted _ => List.mem_append_left _ posted) sound.orderly.genuine
    | reports place f result at_ step out note =>
      rw [step, out, note]
      exact h.report at_ result
    | takes input a other step out fetches note =>
      obtain ⟨opened, note⟩ := note
      rw [step, out, note]
      have before : Claimed { x.custody with opened } a x.operation.mail x.operation.controller :=
        Claimed.of_eq h rfl rfl rfl fetches rfl rfl
      exact before.take sound.orderly.sent (Controller.acts_other other _ _)
    | delivers place l idle at_ step out note =>
      obtain ⟨d, sent, acts, before⟩ := h.deliver sound idle at_
      rw [step, out, note]
      exact before.take sent acts

theorem held_run (events : List Operation.Event) (h : Held x) (sound : Sound x) :
    Held (events.foldl step x) := by
  induction events generalizing x with
  | nil => exact h
  | cons e events ih => exact ih (h.step sound e) (sound.step e)

theorem held_after (times : WatchTimes) (events : List Operation.Event) :
    Held (after times events) :=
  held_run events ⟨rfl, List.forall_mem_nil _, List.forall_mem_nil _, nofun⟩ (sound_initial times)

/-! ### Results to come -/

/-- The results on their way that carry the present number. -/
def results (x : Audit) : List Letter :=
  x.operation.mail.filter (Letter.isResult x.operation.controller.watchdog)

/-- The fetch is live, and it has begun under the present number. -/
def Out (x : Audit) (i : Nat) : Prop :=
  x.custody.FetchLive i ∧
    ∃ f, x.operation.activity.fetches[i]? = some f ∧ f.watchdog = x.operation.controller.watchdog

/-- The fetch has been aborted, or another one has begun after it. -/
def Lost (x : Audit) (i : Nat) : Prop :=
  i ∈ x.custody.aborted ∨ i + 1 < x.custody.begun

/-- One fetch runs at most, and a taken slot has one result to come. -/
structure OneSlot (x : Audit) : Prop where
  single : ∀ i j, x.custody.FetchLive i → x.custody.FetchLive j → i = j
  present : ∀ i, x.custody.FetchLive i → x.Out i
  /-- The slot is taken just as long as its result is to come, be it from the live fetch or out of
  the mail, and never from both. -/
  taken : x.operation.controller.fetching = true ↔ (∃ i, x.Out i) ∨ x.results.length = 1
  apart : ∀ i, x.Out i → x.results = []
  results : x.results.length ≤ 1
  /-- The live fetch gives the one result. -/
  gives : ∀ i result, x.Out i → (x.step (.fetched i result)).results =
    [⟨i, .polled x.operation.controller.watchdog result⟩]
  /-- The one result frees the slot when it arrives. -/
  frees : ∀ place l, x.operation.mail[place]? = some l →
    l.isResult x.operation.controller.watchdog = true → x.operation.controller.awaiting = none →
      (x.step (.deliver place)).operation.controller.fetching = false
  /-- The result of a lost fetch is posted and that is all. -/
  late : ∀ i result, x.Lost i → ∃ mail,
    (x.step (.fetched i result)).operation = { x.operation with mail } ∧
      (x.step (.fetched i result)).results = x.results
  /-- A letter from a lost fetch does nothing when it arrives. -/
  idle : ∀ place l i, x.operation.mail[place]? = some l → l.fetch? = some i → x.Lost i →
    ∃ mail, x.step (.deliver place) = { x with operation := { x.operation with mail } } ∧
      (x.step (.deliver place)).results = x.results

theorem filter_eraseIdx {α : Type} {p : α → Bool} {xs : List α} {i : Nat} {a : α}
    (at_ : xs[i]? = some a) (no : p a = false) : (xs.eraseIdx i).filter p = xs.filter p := by
  obtain ⟨inside, rfl⟩ := List.getElem?_eq_some_iff.1 at_
  conv_rhs => rw [← List.take_append_drop i xs, List.drop_eq_getElem_cons inside]
  rw [List.eraseIdx_eq_take_drop_succ, List.filter_append, List.filter_append,
    List.filter_cons_of_neg (by rw [no]; exact Bool.false_ne_true)]

theorem mem_results {l : Letter} :
    l ∈ x.results ↔ l ∈ x.operation.mail ∧
      ∃ r, l.message = .polled x.operation.controller.watchdog r := by
  rw [results, List.mem_filter, Letter.isResult_iff]

namespace Sound

/-- A present result comes from the last fetch, and the slot is taken for it. -/
theorem of_result (h : Sound x) {l : Letter} (there : l ∈ x.results) :
    x.operation.controller.fetching = true ∧ l.sender + 1 = x.custody.begun ∧
      l.fetch? = some l.sender ∧ l.sender ∈ x.custody.reported := by
  obtain ⟨posted, r, message⟩ := mem_results.1 there
  obtain ⟨fetching, last⟩ := (h.tended.results l posted _ r message).2 rfl
  have sender : l.fetch? = some l.sender := Letter.fetch?_eq_some_iff.2 ⟨rfl, _, r, message⟩
  exact ⟨fetching, last, sender, h.reported _ (List.mem_filterMap.2 ⟨l, posted, sender⟩)⟩

theorem length_results_le (h : Sound x) : x.results.length ≤ 1 := by
  have senders : (x.results.filterMap Letter.fetch?).Nodup :=
    h.senders.sublist (List.filter_sublist.filterMap Letter.fetch?)
  match letters : x.results with
  | [] => exact Nat.zero_le 1
  | [_] => exact Nat.le_refl 1
  | a :: b :: rest =>
    -- Both would be from the last fetch.
    obtain ⟨-, last, sender, -⟩ := h.of_result (l := a) (letters ▸ List.mem_cons_self)
    obtain ⟨-, last', sender', -⟩ :=
      h.of_result (l := b) (letters ▸ List.mem_cons_of_mem _ List.mem_cons_self)
    rw [letters, List.filterMap_cons_some sender, List.filterMap_cons_some sender',
      Nat.succ.inj (last.trans last'.symm)] at senders
    exact absurd List.mem_cons_self (List.nodup_cons.1 senders).1

theorem frees (h : Sound x) {place : Nat} {l : Letter}
    (at_ : x.operation.mail[place]? = some l)
    (result : l.isResult x.operation.controller.watchdog = true)
    (idle : x.operation.controller.awaiting = none) :
    (x.step (.deliver place)).operation.controller.fetching = false := by
  obtain ⟨r, message⟩ := Letter.isResult_iff.1 result
  rw [step_deliver idle at_, message]
  change (x.operation.controller.step x.operation.now
    (.message (.polled x.operation.controller.watchdog r))).fetching = false
  cases closed : x.operation.controller.closed with
  | true =>
    rw [Controller.step_of_closed closed]
    exact (h.rests closed).fetching
  | false =>
    rw [Controller.step_polled closed idle, Controller.fetching_publish]
    exact Controller.idle_polled r _

/-- A letter that does not concern the controller is lost. -/
theorem step_deliver_unconcerned (h : Sound x) (idle : x.operation.controller.awaiting = none)
    {place : Nat} {l : Letter} (at_ : x.operation.mail[place]? = some l)
    (unconcerned : x.operation.controller.concerns l.message = false) :
    x.step (.deliver place) =
      { x with operation := { x.operation with mail := x.operation.mail.eraseIdx place } } := by
  have emptied : { x.operation.controller with outbox := [] } = x.operation.controller := by
    rw [← h.orderly.sent]
  rw [step_deliver idle at_]
  simp only [Operation.take, Controller.takeOutbox, Operation.step_of_not_concerns unconcerned]
  rw [h.orderly.sent, emptied]
  rfl

end Sound

namespace Held

/-- A live fetch is the last one, and the slot is taken for it. -/
theorem of_live (h : Held x) (sound : Sound x) {i : Nat} (live : x.custody.FetchLive i) :
    x.operation.controller.fetching = true ∧ i + 1 = x.custody.begun := by
  obtain ⟨begun, unaborted, unreported⟩ := live
  have inside : i < x.operation.activity.fetches.length := h.begun ▸ begun
  rcases sound.tended.fetches i _ (List.getElem?_eq_getElem inside) unreported with
    held | ⟨given, -⟩
  · exact held
  · exact absurd given unaborted

theorem out_of_live (h : Held x) (sound : Sound x) {i : Nat} (live : x.custody.FetchLive i) :
    x.Out i := by
  obtain ⟨fetching, last⟩ := h.of_live sound live
  obtain ⟨j, f, last', at_, number, -⟩ := h.claim fetching
  cases Nat.succ.inj (last.trans last'.symm)
  exact ⟨live, f, at_, number⟩

theorem not_lost (h : Held x) (fetching : x.operation.controller.fetching = true) {i : Nat}
    (last : i + 1 = x.custody.begun) : ¬x.Lost i := by
  obtain ⟨j, f, last', at_, number, unaborted, given⟩ := h.claim fetching
  cases Nat.succ.inj (last.trans last'.symm)
  rintro (aborted | before)
  · exact unaborted aborted
  · exact Nat.ne_of_lt before last

/-- A lost fetch has an old number, if it has not given its result. -/
theorem old_of_lost (h : Held x) (sound : Sound x) {i : Nat} (lost : x.Lost i) {f : Fetch}
    (at_ : x.operation.activity.fetches[i]? = some f) (unreported : i ∉ x.custody.reported) :
    f.watchdog < x.operation.controller.watchdog := by
  rcases sound.tended.fetches i f at_ unreported with ⟨fetching, last⟩ | ⟨-, old⟩
  · exact absurd lost (h.not_lost fetching last)
  · exact old

/-- No letter from a lost fetch is a present result. -/
theorem not_result_of_lost (h : Held x) (sound : Sound x) {l : Letter}
    (posted : l ∈ x.operation.mail) {i : Nat} (sender : l.fetch? = some i) (lost : x.Lost i) :
    l.isResult x.operation.controller.watchdog = false := by
  refine Bool.eq_false_iff.2 fun result => ?_
  have there : l ∈ x.results := List.mem_filter.2 ⟨posted, result⟩
  obtain ⟨fetching, last, sender', -⟩ := sound.of_result there
  cases sender.symm.trans sender'
  exact h.not_lost fetching last lost

theorem results_of_out (h : Held x) (sound : Sound x) {i : Nat} (out : x.Out i) :
    x.results = [] := by
  refine List.eq_nil_iff_forall_not_mem.2 fun l there => ?_
  obtain ⟨-, last, -, reported⟩ := sound.of_result there
  have same : l.sender = i := Nat.succ.inj (last.trans (h.of_live sound out.1).2.symm)
  exact out.1.2.2 (same ▸ reported)

theorem taken_iff (h : Held x) (sound : Sound x) :
    x.operation.controller.fetching = true ↔ (∃ i, x.Out i) ∨ x.results.length = 1 := by
  constructor
  · intro fetching
    obtain ⟨i, f, last, at_, number, unaborted, given⟩ := h.claim fetching
    by_cases reported : i ∈ x.custody.reported
    · obtain ⟨l, posted, sender⟩ := given reported
      obtain ⟨rfl, n, r, message⟩ := Letter.fetch?_eq_some_iff.1 sender
      have from_ := sound.orderly.genuine l posted
      rw [Activity.Genuine, message] at from_
      obtain ⟨g, there, same⟩ := from_
      cases at_.symm.trans there
      have result : l ∈ x.results := mem_results.2 ⟨posted, r, by rw [message, ← same, number]⟩
      exact .inr (Nat.le_antisymm sound.length_results_le (List.length_pos_of_mem result))
    · exact .inl ⟨i, ⟨Nat.lt_of_succ_le (Nat.le_of_eq last), unaborted, reported⟩, f, at_, number⟩
  · rintro (⟨i, out⟩ | one)
    · exact (h.of_live sound out.1).1
    · obtain ⟨l, letters⟩ := List.length_eq_one_iff.1 one
      exact (sound.of_result (letters ▸ List.mem_singleton_self l)).1

theorem gives (h : Held x) (sound : Sound x) {i : Nat} (out : x.Out i)
    (result : Except PollFailure RunSnapshot) :
    (x.step (.fetched i result)).results =
      [⟨i, .polled x.operation.controller.watchdog result⟩] := by
  have nothing := h.results_of_out sound out
  obtain ⟨⟨-, -, unreported⟩, f, at_, number⟩ := out
  have fresh : x.repeats (.fetched i result) = false := by simpa [repeats] using unreported
  rw [step_of_fresh fresh]
  simp only [results, Operation.step, Operation.send, at_, Option.map_some, List.filter_append]
    at nothing ⊢
  rw [nothing, number]
  simp [Letter.isResult]

theorem late (h : Held x) (sound : Sound x) {i : Nat} (lost : x.Lost i)
    (result : Except PollFailure RunSnapshot) :
    ∃ mail, (x.step (.fetched i result)).operation = { x.operation with mail } ∧
      (x.step (.fetched i result)).results = x.results := by
  cases fresh : x.repeats (.fetched i result) with
  | true =>
    rw [Audit.step, fresh]
    exact ⟨x.operation.mail, rfl, rfl⟩
  | false =>
    rw [step_of_fresh fresh]
    cases at_ : x.operation.activity.fetches[i]? with
    | none =>
      refine ⟨x.operation.mail, ?_, ?_⟩ <;> simp [results, Operation.step, Operation.send, at_]
    | some f =>
      have unreported : i ∉ x.custody.reported := by simpa [repeats] using fresh
      have old : f.watchdog ≠ x.operation.controller.watchdog :=
        Nat.ne_of_lt (h.old_of_lost sound lost at_ unreported)
      refine ⟨x.operation.mail ++ [⟨i, .polled f.watchdog result⟩], ?_, ?_⟩
      · simp [Operation.step, Operation.send, at_]
      · simp [results, Operation.step, Operation.send, at_, Letter.isResult, old]

theorem idle (h : Held x) (sound : Sound x) {place : Nat} {l : Letter}
    (at_ : x.operation.mail[place]? = some l) {i : Nat} (sender : l.fetch? = some i)
    (lost : x.Lost i) :
    ∃ mail, x.step (.deliver place) = { x with operation := { x.operation with mail } } ∧
      (x.step (.deliver place)).results = x.results := by
  cases waits : x.operation.controller.awaiting with
  | some kind =>
    rw [step_deliver_of_awaiting waits]
    exact ⟨x.operation.mail, rfl, rfl⟩
  | none =>
    have old := h.not_result_of_lost sound (List.mem_of_getElem? at_) sender lost
    have unconcerned : x.operation.controller.concerns l.message = false := by
      obtain ⟨-, n, r, message⟩ := Letter.fetch?_eq_some_iff.1 sender
      rw [Letter.isResult, message] at old
      rw [message]
      exact old
    rw [sound.step_deliver_unconcerned waits at_ unconcerned]
    exact ⟨_, rfl, filter_eraseIdx at_ old⟩

end Held

/-- In every operation, one fetch at most is live. The slot is taken just as long as one result is
to come, which the live fetch gives or which is on its way, and that result frees it. A fetch that
has been aborted or followed by another gives a result that does nothing. -/
theorem slot_waits_for_one_result (times : WatchTimes) (events : List Operation.Event) :
    (after times events).OneSlot := by
  have sound := sound_after times events
  have held := held_after times events
  exact {
    single := fun i j live live' =>
      Nat.succ.inj ((held.of_live sound live).2.trans (held.of_live sound live').2.symm)
    present := fun _ live => held.out_of_live sound live
    taken := held.taken_iff sound
    apart := fun _ out => held.results_of_out sound out
    results := sound.length_results_le
    gives := fun _ result out => held.gives sound out result
    frees := fun _ _ at_ result idle => sound.frees at_ result idle
    late := fun _ result lost => held.late sound lost result
    idle := fun _ _ _ at_ sender lost => held.idle sound at_ sender lost }

/-- Before the run is resumed a fetch is out, and afterwards its result is lost and that of the
second one is taken. -/
theorem slot_waits_when_resumed :
    let x := after ⟨2, 1⟩ (Operation.pausedAndResumed.take 8)
    let y := after ⟨2, 1⟩ Operation.pausedAndResumed
    x.OneSlot ∧ y.OneSlot ∧ x.operation.controller.fetching = true ∧ x.results = [] ∧
      x.Out 0 ∧ y.Lost 0 ∧ y.operation.controller.fetching = true ∧
      y.results = [⟨1, .polled 3 (.ok { status := .running })⟩] ∧
      (y.step (.deliver 2)).operation.controller.fetching = false := by
  intro x y
  have before : x.OneSlot := slot_waits_for_one_result _ _
  have later : y.OneSlot := slot_waits_for_one_result _ _
  have live : x.custody.FetchLive 0 := ⟨by decide +kernel, by decide +kernel, by decide +kernel⟩
  have posted : y.operation.mail[2]? = some ⟨1, .polled 3 (.ok { status := .running })⟩ := by
    decide +kernel
  exact ⟨before, later, by decide +kernel, by decide +kernel, before.present 0 live,
    .inl (by decide +kernel), by decide +kernel, by decide +kernel,
    later.frees 2 _ posted (by decide +kernel) (by decide +kernel)⟩

end Audit

end RunWatch
