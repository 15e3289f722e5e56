import RunWatch.Proofs.Run.Moves

/-!
# Runs under updates

An update is anything that may happen to a run: an event, a snapshot, or a change by the client.
`phases_follow_machine` states which phases an update may lead to, and that a run that is over is
final. Every move that `RunPhase.Moves` allows is made by some update.
-/

namespace RunWatch

/-- The event tells of steps, of an error or of something unknown. -/
def RunEvent.isReport : RunEvent → Bool
  | .progress .. | .complete .. | .error .. | .unknown .. => true
  | _ => false

namespace RunState

inductive Update where
  | event (e : RunEvent)
  | snapshot (p : RunSnapshot)
  | resumed
  | failed (message : String)
  | cancelled

namespace Update

def change : Update → Change
  | .event e => applyEvent e
  | .snapshot p => applySnapshot p
  | .resumed => markResumed
  | .failed message => fail message
  | .cancelled => RunState.cancel

/-- The server says something, but not that the run is over. -/
def goesOn : Update → Bool
  | .event e => !e.isTerminal
  | .snapshot p => !p.status.isTerminal
  | _ => false

end Update

/-- The state after some updates. -/
def after (s : RunState) (updates : List Update) : RunState :=
  updates.foldl (fun s u => (u.change s).1) s

theorem after_append (s : RunState) (us vs : List Update) :
    s.after (us ++ vs) = (s.after us).after vs :=
  List.foldl_append

theorem after_cons (s : RunState) (u : Update) (us : List Update) :
    s.after (u :: us) = (u.change s).1.after us := rfl

theorem after_of_change {p : RunState → Prop} (kept : ∀ s u, p s → p (Update.change u s).1)
    {s : RunState} (h : p s) (us : List Update) : p (s.after us) := by
  induction us generalizing s with
  | nil => exact h
  | cons u us ih => exact ih (kept s u h)

/-! ### Single updates -/

variable {s : RunState}

theorem phase_setPhase (p : RunPhase) (s : RunState) : (setPhase p s).1.phase = p := by
  unfold setPhase
  split
  · assumption
  · rfl

theorem phase_moveFrom (p q : RunPhase) (s : RunState) :
    (moveFrom p q s).1.phase = if s.phase = p then q else s.phase := by
  unfold moveFrom
  split
  · rw [phase_setPhase]
  · rfl

theorem advances_change (u : Update) (s : RunState) : s.Advances (u.change s) := by
  cases u with
  | event e => exact advances_applyEvent e s
  | snapshot p => exact advances_applySnapshot p s
  | resumed => exact advances_markResumed s
  | failed message => exact advances_fail message s
  | cancelled => exact advances_cancel s

theorem change_of_terminal (ends : s.phase.isTerminal = true) (u : Update) :
    u.change s = (s, {}) := by
  cases u with
  | event e => exact if_pos ends
  | snapshot p => exact if_pos ends
  | resumed =>
    have other : s.phase ≠ .paused := fun paused => by rw [paused] at ends; cases ends
    exact if_neg other
  | failed message => exact if_pos ends
  | cancelled => exact if_pos ends

theorem after_of_terminal (ends : s.phase.isTerminal = true) (us : List Update) :
    s.after us = s := by
  induction us with
  | nil => rfl
  | cons u us ih => rw [after_cons, change_of_terminal ends, ih]

theorem change_of_paused (paused : s.phase = .paused) {u : Update} (goesOn : u.goesOn = true) :
    u.change s = (s, {}) := by
  have live : ¬s.phase.isTerminal = true := by rw [paused]; nofun
  cases u with
  | event e =>
    have other : e.isTerminal = false := by simpa [Update.goesOn] using goesOn
    exact (if_neg live).trans (if_pos ⟨paused, other⟩)
  | snapshot p =>
    have other : p.status.isTerminal = false := by simpa [Update.goesOn] using goesOn
    exact (if_neg live).trans (if_pos ⟨paused, other⟩)
  | resumed | failed | cancelled => cases goesOn

theorem quiet_eventChange {e : RunEvent} (report : e.isReport = true) : (eventChange e).Quiet := by
  cases e with
  | progress p node =>
    exact (quiet_setProgress p).andThen (Change.quiet_whenSome (quiet_enterStep .inferred) node)
  | complete node output => exact quiet_completeStep node output
  | error node error => exact quiet_recordError node error
  | unknown => exact Change.quiet_skip
  | start | finished | paused | cancelled => cases report

theorem phase_applyEvent_of_report {e : RunEvent} (report : e.isReport = true) (s : RunState) :
    (applyEvent e s).1.phase = s.phase := by
  unfold applyEvent
  split
  · rfl
  · split
    · rfl
    · exact (quiet_eventChange report s).phase

/-! ### Updates that end a run -/

theorem applyEvent_ends {e : RunEvent} (ends : e.isTerminal = true) (s : RunState) :
    (applyEvent e s).1.phase.isTerminal = true := by
  unfold applyEvent
  split
  · assumption
  · rw [if_neg (by rw [ends]; nofun)]
    cases e with
    | finished status =>
      obtain ⟨p, ended, same⟩ := eventChange_finished status s
      rw [same, phase_setPhase]
      exact ended
    | cancelled => rw [eventChange, phase_setPhase]; rfl
    | start | progress | complete | error | paused | unknown => cases ends

theorem statusChange_ends {status : RunStatus} (ends : status.isTerminal = true) (s : RunState) :
    (statusChange status s).1.phase.isTerminal = true := by
  cases status with
  | succeeded => rw [statusChange, settle, phase_setPhase]; exact s.finishedPhase_terminal
  | failed => rw [statusChange, phase_setPhase]; rfl
  | cancelled => rw [statusChange, phase_setPhase]; rfl
  | pending | running | paused | other => cases ends

theorem applySnapshot_ends {p : RunSnapshot} (ends : p.status.isTerminal = true) (s : RunState) :
    (applySnapshot p s).1.phase.isTerminal = true := by
  unfold applySnapshot
  split
  · assumption
  · rw [if_neg (by rw [ends]; nofun), snapshotChange_eq]
    exact statusChange_ends ends _

theorem moveFrom_live {p q : RunPhase} (goesOn : q.isTerminal = false)
    (live : s.phase.isTerminal = false) : (moveFrom p q s).1.phase.isTerminal = false := by
  rw [phase_moveFrom]
  split
  · exact goesOn
  · exact live

theorem eventChange_live {e : RunEvent} (goesOn : e.isTerminal = false)
    (live : s.phase.isTerminal = false) : (eventChange e s).1.phase.isTerminal = false := by
  cases e with
  | start id node =>
    have moved : (moveFrom .pending .running (adoptRunId id s).1).1.phase.isTerminal = false :=
      moveFrom_live rfl (by rw [phase_adoptRunId]; exact live)
    have entered := Change.quiet_whenSome (quiet_enterStep .live) node
    rw [eventChange, Change.andThen_apply, (entered _).phase]
    exact moved
  | paused => exact moveFrom_live rfl live
  | progress | complete | error | unknown =>
    rw [(quiet_eventChange rfl s).phase]
    exact live
  | finished | cancelled => cases goesOn

theorem statusChange_live {status : RunStatus} (goesOn : status.isTerminal = false)
    (live : s.phase.isTerminal = false) : (statusChange status s).1.phase.isTerminal = false := by
  cases status with
  | pending | other => exact live
  | running | paused => exact moveFrom_live rfl live
  | succeeded | failed | cancelled => cases goesOn

theorem change_live {u : Update} (goesOn : u.goesOn = true) (live : s.phase.isTerminal = false) :
    (u.change s).1.phase.isTerminal = false := by
  cases u with
  | event e =>
    rw [Update.change, applyEvent]
    split
    · exact live
    · split
      · exact live
      · exact eventChange_live (by simpa [Update.goesOn] using goesOn) live
  | snapshot p =>
    rw [Update.change, applySnapshot]
    split
    · exact live
    · split
      · exact live
      · have reported : (reportChange p (adoptRunId p.runId s).1).1.phase.isTerminal = false := by
          rw [(quiet_reportChange p _).phase, phase_adoptRunId]
          exact live
        rw [snapshotChange_eq]
        exact statusChange_live (by simpa [Update.goesOn] using goesOn) reported
  | resumed | failed | cancelled => cases goesOn

/-- Only the client resumes a run. -/
theorem resumed_of_moves {u : Update} (paused : s.phase = .paused)
    (running : (u.change s).1.phase = .running) : u = .resumed := by
  have goesOn : u.goesOn = false := by
    refine Bool.eq_false_iff.2 fun goesOn => ?_
    rw [change_of_paused paused goesOn] at running
    cases paused.symm.trans running
  have unended : ¬(u.change s).1.phase.isTerminal = true := by rw [running]; nofun
  cases u with
  | event e =>
    have ends : e.isTerminal = true := by simpa [Update.goesOn] using goesOn
    exact absurd (applyEvent_ends ends s) unended
  | snapshot p =>
    have ends : p.status.isTerminal = true := by simpa [Update.goesOn] using goesOn
    exact absurd (applySnapshot_ends ends s) unended
  | resumed => rfl
  | failed message =>
    have live : s.phase.isTerminal = false := by rw [paused]; rfl
    rw [Update.change, fail_eq live] at running
    cases running
  | cancelled =>
    have live : ¬s.phase.isTerminal = true := by rw [paused]; nofun
    rw [Update.change, RunState.cancel, if_neg live, phase_setPhase] at running
    cases running

/-! ### The machine -/

/-- What an update may do to a run. -/
structure FollowsMachine (s : RunState) (u : Update) (x : RunState × Transition) : Prop where
  moves : x.1.phase = s.phase ∨ s.phase.Moves x.1.phase
  resumes : s.phase = .paused → x.1.phase = .running → u = .resumed
  reports : ∀ e, u = .event e → e.isReport = true → x.1.phase = s.phase
  final : s.phase.isTerminal = true → x = (s, {})
  /-- A pause is left only by the client or when the run is over. -/
  pauses : s.phase = .paused → u.goesOn = true → x = (s, {})

theorem change_followsMachine (s : RunState) (u : Update) : FollowsMachine s u (u.change s) where
  moves := (advances_change u s).moves
  resumes := resumed_of_moves
  reports e same report := by
    rw [same]
    exact phase_applyEvent_of_report report s
  final ends := change_of_terminal ends u
  pauses paused goesOn := change_of_paused paused goesOn

theorem exists_update_of_moves {p q : RunPhase} (h : p.Moves q) :
    ∃ s u, s.phase = p ∧ (Update.change u s).1.phase = q := by
  cases h with
  | begin => exact ⟨{}, .event (.start none none), rfl, rfl⟩
  | pause => exact ⟨{ phase := .running }, .event .paused, rfl, rfl⟩
  | resume => exact ⟨{ phase := .paused }, .resumed, rfl, rfl⟩
  | finish live ends =>
    have open_ : ¬({ phase := p } : RunState).phase.isTerminal = true := by rw [live]; nofun
    cases q with
    | succeeded =>
      refine ⟨{ phase := p }, .event (.finished none), rfl, ?_⟩
      rw [Update.change, applyEvent, if_neg open_, if_neg (fun h => nomatch h.2)]
      exact phase_setPhase _ _
    | failed =>
      refine ⟨{ phase := p }, .failed "", rfl, ?_⟩
      rw [Update.change, fail, if_neg open_, phase_setPhase]
    | cancelled =>
      refine ⟨{ phase := p }, .cancelled, rfl, ?_⟩
      rw [Update.change, RunState.cancel, if_neg open_, phase_setPhase]
    | pending | running | paused => cases ends

/-- Every update follows the machine, the machine has no other moves than the updates make, and the
first terminal state that is reached is the last one. -/
theorem phases_follow_machine (s : RunState) :
    (∀ u, FollowsMachine s u (u.change s)) ∧
    (∀ p q : RunPhase, p.Moves q → ∃ s u, s.phase = p ∧ (Update.change u s).1.phase = q) ∧
    ∀ us vs, (s.after us).phase.isTerminal = true → s.after (us ++ vs) = s.after us := by
  refine ⟨change_followsMachine s, fun p q => exists_update_of_moves, fun us vs ends => ?_⟩
  rw [after_append]
  exact after_of_terminal ends vs

/-- A run that is paused and then cancelled by the server is not brought back. -/
theorem cancelled_while_paused_is_final :
    let us : List Update :=
      [.event (.start (some ⟨"r1"⟩) (some "a")), .event .paused, .event (.progress none (some "b")),
        .event .cancelled]
    (RunState.idle.after us).phase.isTerminal = true ∧
      RunState.idle.after (us ++ [.resumed, .event (.start none (some "c")), .failed "late"]) =
        RunState.idle.after us :=
  ⟨rfl, (phases_follow_machine RunState.idle).2.2 _ _ rfl⟩

end RunState

end RunWatch
