import RunWatch.Proofs.Control.Showing
import RunWatch.Terminal.Vigil

/-!
# Watching to the end

A watch misses no view of a run that is over, since nothing is shown behind it. But its first look
does not ask whether the run is over: if it is by then, the watch waits for a view that never comes.
`Sound` is what every event keeps of a watch and its controller.
-/

namespace RunWatch.Terminal

/-! ### Views on their way -/

namespace Latest

variable {l : Latest} {e : Effect} {pending : List Effect} {view : RunView}

theorem take_of_quiet (quiet : e.shown? = none) : l.take [e] = l := by
  cases e with
  | publish view => cases quiet
  | _ => rfl

theorem take_of_shown (shown : e.shown? = some view) : l.take [e] = l.publish view := by
  cases e with
  | publish view => cases shown; rfl
  | _ => cases shown

/-- How the latest view stands to what is on its way and to the view of the controller. -/
inductive Behind (l : Latest) (pending : List Effect) (view : RunView) : Prop where
  | upToDate (quiet : pending.filterMap Effect.shown? = []) (same : l.view = view)
  /-- Only a run that goes on is shown once more. -/
  | coming (one : pending.filterMap Effect.shown? = [view])
    (live : l.view.state.isTerminal = false)

theorem Behind.of_ended (h : l.Behind pending view) (ended : l.view.state.isTerminal = true) :
    pending.filterMap Effect.shown? = [] ∧ l.view = view := by
  cases h with
  | upToDate quiet same => exact ⟨quiet, same⟩
  | coming one live => cases live.symm.trans ended

theorem Behind.view_eq (h : l.Behind [] view) : l.view = view := by
  cases h with
  | upToDate quiet same => exact same
  | coming one live => cases one

/-- An effect that goes through shows nothing, or it shows what the controller shows. -/
theorem Behind.carry (h : l.Behind (e :: pending) view) : (l.take [e]).Behind pending view ∧
    (l.take [e] = l ∨ l.take [e] = l.publish view ∧ l.view.state.isTerminal = false) := by
  cases shown : e.shown? with
  | none =>
    rw [take_of_quiet shown]
    refine ⟨?_, .inl rfl⟩
    cases h with
    | upToDate quiet same =>
      rw [List.filterMap_cons_none shown] at quiet
      exact .upToDate quiet same
    | coming one live =>
      rw [List.filterMap_cons_none shown] at one
      exact .coming one live
  | some other =>
    cases h with
    | upToDate quiet same =>
      rw [List.filterMap_cons_some shown] at quiet
      cases quiet
    | coming one live =>
      rw [List.filterMap_cons_some shown] at one
      obtain ⟨rfl, quiet⟩ := List.cons.inj one
      rw [take_of_shown shown]
      exact ⟨.upToDate quiet rfl, .inr ⟨rfl, live⟩⟩

end Latest

/-! ### Watchers -/

/-- What a watcher that waits has printed: if that shows a run that is over, it was the first view,
and there is no newer one. -/
def Waits (seen : Nat) (l : Latest) (printed : List RunView) : Prop :=
  ∃ last, printed.getLast? = some last ∧ seen ≤ l.version ∧ (l.version = seen → l.view = last) ∧
    (last.state.isTerminal = true → printed = [last] ∧ l = ⟨last, seen⟩)

def Watcher.Fits (w : Watcher) (l : Latest) (printed : List RunView) : Prop :=
  match w with
  | .opening => printed = []
  | .waiting seen => Waits seen l printed
  | .ended => printed.getLast? = some l.view ∧ l.view.state.isTerminal = true

def Stage.Fits (stage : Stage) (l : Latest) (printed : List RunView) : Prop :=
  match stage with
  | .starting | .refused _ => printed = []
  | .following w => w.Fits l printed
  | .interrupted seen | .cancelling seen => Waits seen l printed
  | .givenUp => True

theorem Waits.publish {seen : Nat} {l : Latest} {printed : List RunView} (h : Waits seen l printed)
    (live : l.view.state.isTerminal = false) (view : RunView) :
    Waits seen (l.publish view) printed := by
  obtain ⟨last, printed_, le, -, once⟩ := h
  refine ⟨last, printed_, Nat.le_succ_of_le le, fun same => ?_, fun ended => ?_⟩
  · have newer : l.version + 1 = seen := same
    omega
  · obtain ⟨-, rfl⟩ := once ended
    cases live.symm.trans ended

theorem Stage.Fits.publish {stage : Stage} {l : Latest} {printed : List RunView}
    (h : stage.Fits l printed) (live : l.view.state.isTerminal = false) (view : RunView) :
    stage.Fits (l.publish view) printed := by
  cases stage with
  | starting | refused => exact h
  | following w =>
    cases w with
    | opening => exact h
    | waiting seen => exact Waits.publish h live view
    | ended => cases live.symm.trans h.2
  | interrupted seen | cancelling seen => exact Waits.publish h live view
  | givenUp => trivial

theorem Stage.Fits.answered {stage : Stage} {l : Latest} {printed : List RunView}
    (h : stage.Fits l printed) (result : Except ClientFailure Unit) :
    (stage.answered result).Fits l printed := by
  cases stage with
  | starting => cases result <;> exact h
  | cancelling seen =>
    cases result with
    | ok => exact h
    | error => trivial
  | refused | following | interrupted | givenUp => exact h

theorem Watcher.Fits.look {w w' : Watcher} {l : Latest} {printed : List RunView} {line : String}
    (h : w.Fits l printed) (looks : w.look? l = some (w', line)) :
    w'.Fits l (printed ++ [l.view]) := by
  have last : (printed ++ [l.view]).getLast? = some l.view := List.getLast?_concat
  cases w with
  | opening =>
    cases looks
    have first : printed = [] := h
    exact ⟨l.view, last, Nat.le_refl _, fun _ => rfl, fun _ => ⟨by rw [first]; rfl, rfl⟩⟩
  | waiting seen =>
    simp only [look?] at looks
    split at looks
    · cases looks
    · cases ended : l.view.state.isTerminal with
      | true =>
        simp only [ended, if_true] at looks
        cases looks
        exact ⟨last, ended⟩
      | false =>
        simp only [ended, Bool.false_eq_true, if_false] at looks
        cases looks
        exact ⟨l.view, last, Nat.le_refl _, fun _ => rfl, fun no => nomatch ended.symm.trans no⟩
  | ended => cases looks

/-! ### Steps -/

namespace Vigil

structure Sound (v : Vigil) : Prop where
  orderly : v.operation.Orderly
  shown : v.operation.controller.Shown
  unclosed : v.operation.controller.closed = false
  /-- Nothing is asked for a run that is shown to be over. -/
  idle : v.operation.controller.view.state.isTerminal = true →
    v.operation.controller.awaiting = none
  behind : v.latest.Behind v.pending v.operation.controller.view
  fits : v.stage.Fits v.latest v.printed

namespace Sound

variable {v : Vigil}

theorem isOver (h : Sound v) (ended : v.operation.controller.view.state.isTerminal = true) :
    v.operation.controller.Over :=
  .of_coherent (h.orderly.coherent h.unclosed).1 h.shown (h.idle ended) ended

/-- What the controller shows on an event comes behind all that has gone through. -/
theorem behind_operate (h : Sound v) {e : Operation.Event}
    (free : v.pending = [] ∨ v.operation.input? e = none)
    (stays : v.operation.controller.view.state.isTerminal = true →
      (v.operation.step e).controller.view = v.operation.controller.view) :
    (v.operate e).latest.Behind (v.operate e).pending (v.operate e).operation.controller.view := by
  have behind := h.behind
  simp only [Vigil.operate]
  rcases free with through | silent
  · obtain ⟨shown, -⟩ := Operation.shown_on_event h.orderly.sent e
    rw [through] at behind ⊢
    by_cases same : (v.operation.step e).controller.view = v.operation.controller.view
    · rw [if_pos same] at shown
      exact .upToDate shown (behind.view_eq.trans same.symm)
    · rw [if_neg same] at shown
      exact .coming shown (Bool.eq_false_iff.2 fun ended => same (stays (behind.view_eq ▸ ended)))
  · rw [Operation.controller_of_no_input silent, Operation.effects, silent, List.append_nil]
    exact behind

/-- An event that does not shut down, and starts nothing behind a run that is over. -/
theorem operate (h : Sound v) {e : Operation.Event}
    (free : v.pending = [] ∨ v.operation.input? e = none) (open_ : e ≠ .shutDown)
    (other : v.operation.controller.view.state.isTerminal = true →
      ∀ cmd, e = .command cmd → cmd.kind ≠ .start) : Sound (v.operate e) := by
  have stays (ended : v.operation.controller.view.state.isTerminal = true) :=
    Operation.over_step (h.isOver ended) (other ended)
  exact {
    orderly := h.orderly.step e
    shown := Operation.shown_operation_step h.shown e
    unclosed := Operation.unclosed_step h.orderly h.unclosed open_
    idle := fun ended => by
      by_cases same : (v.operation.step e).controller.view = v.operation.controller.view
      · exact (stays (same ▸ ended)).still.rests.awaiting
      · exact (Operation.shown_on_event h.orderly.sent e).2 same
    behind := h.behind_operate free fun ended => (stays ended).view
    fits := h.fits }

theorem around (h : Sound v) (e : Operation.Event) : Sound (v.around e) := by
  unfold Vigil.around
  split
  · rename_i allowed
    refine h.operate allowed.2 (fun same => ?_) fun _ cmd same => ?_
    · rw [same] at allowed
      cases allowed.1
    · rw [same] at allowed
      cases allowed.1
  · exact h

theorem carry (h : Sound v) : Sound v.carry := by
  unfold Vigil.carry
  split
  · exact h
  · rename_i e pending waiting
    have behind := h.behind
    rw [waiting] at behind
    obtain ⟨behind, moved⟩ := behind.carry
    have fits : v.stage.Fits (v.latest.take [e]) v.printed := by
      rcases moved with same | ⟨newer, live⟩
      · rw [same]
        exact h.fits
      · rw [newer]
        exact h.fits.publish live _
    refine { h with behind, fits := ?_ }
    cases e.reply? with
    | none => exact fits
    | some result => exact fits.answered result

theorem look (h : Sound v) : Sound v.look := by
  unfold Vigil.look
  split
  · rename_i w stage
    have fits : w.Fits v.latest v.printed := by
      have fits := h.fits
      rwa [stage] at fits
    split
    · rename_i w' line looks
      exact { h with fits := fits.look looks }
    · exact h
  · exact h

theorem interrupt (h : Sound v) : Sound v.interrupt := by
  unfold Vigil.interrupt
  split
  · rename_i seen stage
    have fits := h.fits
    rw [stage] at fits
    exact { h with fits }
  · exact h

theorem cancel (h : Sound v) : Sound v.cancel := by
  unfold Vigil.cancel
  split
  · rename_i seen stage
    have fits := h.fits
    rw [stage] at fits
    split
    · rename_i free
      have cancels : ∀ cmd, Operation.Event.command .cancel = .command cmd → cmd.kind ≠ .start := by
        rintro cmd ⟨⟩
        nofun
      have operated : Sound (v.operate (.command .cancel)) :=
        h.operate (.inl free.1) nofun fun _ => cancels
      exact { operated with fits }
    · exact h
  · exact h

theorem step (h : Sound v) (e : Event) : Sound (v.step e) := by
  cases e with
  | around e => exact h.around e
  | carry => exact h.carry
  | look => exact h.look
  | interrupt => exact h.interrupt
  | cancel => exact h.cancel

theorem run (events : List Event) (h : Sound v) : Sound (v.run events) := by
  induction events generalizing v with
  | nil => exact h
  | cons e events ih => exact ih (h.step e)

end Sound

theorem sound_opening (times : WatchTimes) (workflow : WorkflowId) (inputs : Option Json.Value) :
    Sound (opening times workflow inputs) := by
  have fresh : Sound { operation := { controller := { times } } } := {
    orderly := Operation.orderly_initial times
    shown := fun _ => rfl
    unclosed := rfl
    idle := nofun
    behind := .upToDate rfl rfl
    fits := rfl }
  exact fresh.operate (.inl rfl) nofun nofun

theorem sound_after (times : WatchTimes) (workflow : WorkflowId) (inputs : Option Json.Value)
    (events : List Event) : Sound (after times workflow inputs events) :=
  (sound_opening times workflow inputs).run events

/-! ### Watches that see nothing more -/

/-- The watch has printed the last view of a run that is over, and will not look at another. -/
structure Still (v : Vigil) (w : Watcher) : Prop where
  sound : Sound v
  stage : v.stage = .following w
  blind : w.look? v.latest = none
  ended : v.latest.view.state.isTerminal = true

namespace Still

variable {v : Vigil} {w : Watcher}

theorem same (h : Still v w) {e : Event} (calm : e = .interrupt → w = .ended) :
    (v.step e).stage = v.stage ∧ (v.step e).latest = v.latest ∧ (v.step e).printed = v.printed := by
  cases e with
  | around e =>
    simp only [Vigil.step, Vigil.around]
    split <;> exact ⟨rfl, rfl, rfl⟩
  | carry =>
    obtain ⟨quiet, -⟩ := h.sound.behind.of_ended h.ended
    simp only [Vigil.step, Vigil.carry]
    split
    · exact ⟨rfl, rfl, rfl⟩
    · rename_i e pending waiting
      rw [waiting, List.filterMap_eq_nil_iff] at quiet
      refine ⟨?_, Latest.take_of_quiet (quiet e List.mem_cons_self), rfl⟩
      change (e.reply?.map fun result => v.stage.answered result).getD v.stage = v.stage
      rw [h.stage]
      cases e.reply? <;> rfl
  | look =>
    have same : v.step .look = v := by simp only [Vigil.step, Vigil.look, h.stage, h.blind]
    rw [same]
    exact ⟨rfl, rfl, rfl⟩
  | interrupt =>
    cases calm rfl
    have same : v.step .interrupt = v := by simp only [Vigil.step, Vigil.interrupt, h.stage]
    rw [same]
    exact ⟨rfl, rfl, rfl⟩
  | cancel =>
    have same : v.step .cancel = v := by simp only [Vigil.step, Vigil.cancel, h.stage]
    rw [same]
    exact ⟨rfl, rfl, rfl⟩

theorem step (h : Still v w) {e : Event} (calm : e = .interrupt → w = .ended) :
    Still (v.step e) w := by
  obtain ⟨stage, latest, -⟩ := h.same calm
  exact ⟨h.sound.step e, stage.trans h.stage, latest ▸ h.blind, latest ▸ h.ended⟩

theorem run (events : List Event) (h : Still v w) (calm : .interrupt ∈ events → w = .ended) :
    Still (v.run events) w ∧ (v.run events).latest = v.latest ∧
      (v.run events).printed = v.printed := by
  induction events generalizing v with
  | nil => exact ⟨h, rfl, rfl⟩
  | cons e events ih =>
    have first : e = .interrupt → w = .ended := fun same => calm (same ▸ List.mem_cons_self)
    obtain ⟨-, latest, printed⟩ := h.same first
    obtain ⟨still, latest', printed'⟩ := ih (h.step first)
      fun later => calm (List.mem_cons_of_mem _ later)
    exact ⟨still, latest'.trans latest, printed'.trans printed⟩

/-- The last word of the controller is what the watch has printed last. -/
theorem lastState (h : Still v w) : v.operation.controller.lastState = v.latest.view.state := by
  obtain ⟨-, same⟩ := h.sound.behind.of_ended h.ended
  have rested := h.sound.isOver (same ▸ h.ended)
  rw [Controller.lastState, h.sound.unclosed, if_neg Bool.false_ne_true, rested.shutDown.state,
    same, rested.state_eq]

end Still

/-! ### Watches that follow -/

theorem carry_all (v : Vigil) {w : Watcher} (stage : v.stage = .following w) :
    let v' := v.run (List.replicate v.pending.length .carry)
    v'.stage = .following w ∧ v'.pending = [] ∧ v'.operation = v.operation ∧
      v'.printed = v.printed := by
  obtain ⟨operation, pending, latest, stage', printed⟩ := v
  cases stage
  induction pending generalizing latest with
  | nil => exact ⟨rfl, rfl, rfl, rfl⟩
  | cons e pending ih =>
    have stays : (e.reply?.map fun result => (Stage.following w).answered result).getD
        (.following w) = .following w := by cases e.reply? <;> rfl
    have first : step ⟨operation, e :: pending, latest, .following w, printed⟩ .carry =
        ⟨operation, pending, latest.take [e], .following w, printed⟩ := by
      simp only [step, carry, stays]
    simp only [List.length_cons, List.replicate_succ, run, List.foldl_cons, first]
    exact ih (latest.take [e])

variable {v : Vigil} {seen : Nat} {last : RunView}

theorem Sound.waits (h : Sound v) (stage : v.stage = .following (.waiting seen)) :
    Waits seen v.latest v.printed := by
  have fits := h.fits
  rwa [stage] at fits

theorem Sound.still_of_waiting (h : Sound v) (stage : v.stage = .following (.waiting seen))
    (printed : v.printed.getLast? = some last) (ended : last.state.isTerminal = true) :
    v.printed = [last] ∧ Still v (.waiting seen) := by
  obtain ⟨last', printed', -, -, once⟩ := h.waits stage
  cases printed.symm.trans printed'
  obtain ⟨only, latest⟩ := once ended
  refine ⟨only, h, stage, ?_, by rw [latest]; exact ended⟩
  rw [latest, Watcher.look?, if_pos rfl]

theorem Sound.still_of_ended (h : Sound v) (stage : v.stage = .following .ended) :
    v.printed.getLast? = some v.latest.view ∧ Still v .ended := by
  have fits := h.fits
  rw [stage] at fits
  exact ⟨fits.1, h, stage, rfl, fits.2⟩

/-- A watch that has not seen the end of its run sees it on the next look, once all is through. -/
theorem Sound.ends (h : Sound v) (stage : v.stage = .following (.waiting seen))
    (printed : v.printed.getLast? = some last) (live : last.state.isTerminal = false)
    (ended : v.operation.controller.view.state.isTerminal = true) :
    let w := v.run (List.replicate v.pending.length .carry ++ [.look])
    w.stage = .following .ended ∧ w.printed = v.printed ++ [v.operation.controller.view] := by
  intro w
  obtain ⟨stage', none_, operation, printed'⟩ := carry_all v stage
  have sound := h.run (List.replicate v.pending.length .carry)
  have looks : w = (v.run (List.replicate v.pending.length .carry)).look := List.foldl_append
  generalize v.run (List.replicate v.pending.length .carry) = v' at *
  have view : v'.latest.view = v.operation.controller.view := by
    have behind := sound.behind
    rw [none_, operation] at behind
    exact behind.view_eq
  obtain ⟨last', printed'', -, current, -⟩ := sound.waits stage'
  rw [printed', printed] at printed''
  cases printed''
  have newer : v'.latest.version ≠ seen := fun same => by
    rw [← current same, view, ended] at live
    cases live
  have look? : (Watcher.waiting seen).look? v'.latest =
      some (.ended, viewLine v'.latest.view) := by
    rw [Watcher.look?, if_neg newer, view, ended, if_pos rfl]
  rw [looks]
  simp only [Vigil.look, stage', look?, printed', view, and_self]

/-- A watch that waits behind a run that it has seen end has seen nothing else: the run was over at
the first look, and nothing but an interrupt moves the watch any more. As long as it has not seen
the end of a run that is over, the next look finds it and ends the watch. A watch that has ended
prints the steps of the state that it has seen last, whatever still happens, and succeeds exactly
if the run has. -/
theorem watch_ends_unless_over_at_first (times : WatchTimes) (workflow : WorkflowId)
    (inputs : Option Json.Value) (events : List Event) :
    let v := after times workflow inputs events
    (∀ seen, v.stage = .following (.waiting seen) → ∃ last, v.printed.getLast? = some last ∧
      (last.state.isTerminal = true → v.printed = [last] ∧ ∀ more, .interrupt ∉ more →
        (v.run more).stage = v.stage ∧ (v.run more).printed = v.printed) ∧
      (last.state.isTerminal = false → v.operation.controller.view.state.isTerminal = true →
        let w := v.run (List.replicate v.pending.length .carry ++ [.look])
        w.stage = .following .ended ∧ w.printed = v.printed ++ [v.operation.controller.view])) ∧
    (v.stage = .following .ended → ∃ last, v.printed.getLast? = some last ∧
      last.state.isTerminal = true ∧ ∀ more, (v.run more).printed = v.printed ∧
        ∃ status, (v.run more).outcome? = some (last.state.steps.map stepLine, status) ∧
          (status = 0 ↔ last.state.phase = .succeeded)) := by
  intro v
  have sound : Sound v := sound_after times workflow inputs events
  constructor
  · intro seen stage
    obtain ⟨last, printed, -⟩ := sound.waits stage
    refine ⟨last, printed, fun ended => ?_, sound.ends stage printed⟩
    obtain ⟨only, still⟩ := sound.still_of_waiting stage printed ended
    refine ⟨only, fun more calm => ?_⟩
    obtain ⟨still', -, same⟩ := still.run more fun interrupted => absurd interrupted calm
    exact ⟨still'.stage.trans stage.symm, same⟩
  · intro stage
    obtain ⟨printed, still⟩ := sound.still_of_ended stage
    refine ⟨v.latest.view, printed, still.ended, fun more => ?_⟩
    obtain ⟨still', latest, same⟩ := still.run more fun _ => rfl
    refine ⟨same, watchStatus v.latest.view.state, ?_, ?_⟩
    · rw [outcome?, still'.stage]
      simp only [still'.lastState, latest, finalLines]
    · rw [watchStatus]
      split
      · rename_i succeeded
        exact iff_of_true rfl succeeded
      · rename_i other
        exact iff_of_false nofun other

/-- The stream opens, and all of that goes through. -/
def streamOpens : List Event :=
  [.carry, .around (.streamAnswer (.ok ())), .carry, .carry, .carry]

/-- The run ends with its first frame. -/
def runFinishes : List Event :=
  [.around (.signal 0 (.frame ⟨"run_finished", .object []⟩)), .around (.deliver 0)]

/-- A look before the run ends and one behind it. -/
theorem run_is_watched_to_its_end :
    let events := streamOpens ++ [.look] ++ runFinishes ++ List.replicate 4 .carry ++ [.look]
    let v := after ⟨2, 1⟩ ⟨"wf-1"⟩ none events
    v.stage = .following .ended ∧ v.printed.map (·.state.phase) = [.pending, .succeeded] ∧
      ∃ last, v.printed.getLast? = some last ∧ ∀ more, ∃ status,
        (v.run more).outcome? = some (last.state.steps.map stepLine, status) ∧
        (status = 0 ↔ last.state.phase = .succeeded) := by
  intro events v
  have ended : v.stage = .following .ended := by decide +kernel
  obtain ⟨-, final⟩ := watch_ends_unless_over_at_first ⟨2, 1⟩ ⟨"wf-1"⟩ none events
  obtain ⟨last, printed, -, stays⟩ := final ended
  exact ⟨ended, by decide +kernel, last, printed, fun more => (stays more).2⟩

/-- The run is over before the first look, and the watch waits with nothing on its way. -/
theorem finished_run_is_waited_for :
    let v := after ⟨2, 1⟩ ⟨"wf-1"⟩ none
      (streamOpens ++ runFinishes ++ List.replicate 4 .carry ++ [.look])
    v.stage = .following (.waiting 2) ∧ v.printed.map (·.state.phase) = [.succeeded] ∧
      v.pending = [] ∧ (v.step .look).printed = v.printed ∧ v.outcome? = none := by
  decide +kernel

end Vigil

end RunWatch.Terminal
