import Mathlib.Data.List.DropRight
import Mathlib.Data.List.Nodup
import RunWatch.Proofs.Run.Errors
import RunWatch.Proofs.Run.Replays
import RunWatch.Proofs.Run.Snapshots

/-!
# The ledger as a digest

The ledger of a run is read off the events that tell of steps: one record for each node that they
name, in the order of the first mentions, with what the last of them say of it.
-/

namespace RunWatch

attribute [ext] StepRecord

/-- What an event says of the end of a step. -/
inductive StepOutcome where
  | completed (output : Option Json.Value)
  | failed (error : String)

namespace StepOutcome

def status : StepOutcome → StepStatus
  | .completed _ => .completed
  | .failed _ => .failed

def completes (o : StepOutcome) : Bool :=
  o.status = .completed

def output? : StepOutcome → Option Json.Value
  | .completed output => output
  | .failed _ => none

def error? : StepOutcome → Option String
  | .completed _ => none
  | .failed error => some error

/-- The latest series of completions that no failure interrupts. -/
def lastSeries (os : List StepOutcome) : List StepOutcome :=
  (os.rdropWhile fun o => !o.completes).rtakeWhile completes

/-- The record of a step with some outcomes. -/
def record (node : String) (origin : StepOrigin) (os : List StepOutcome) : StepRecord where
  node
  status := (os.getLast?.map status).getD .running
  origin
  error := (os.filterMap error?).getLast?
  output := (lastSeries os).head?.bind output?

end StepOutcome

namespace RunEvent

/-- The event is a start, progress, a completion or an error. -/
def tellsOfSteps : RunEvent → Bool
  | .start .. | .progress .. | .complete .. | .error .. => true
  | _ => false

/-- The node that an event names, with the origin of a record that begins so. -/
def mention? : RunEvent → Option (String × StepOrigin)
  | .start _ (some node) => some (node, .live)
  | .progress _ (some node) => some (node, .inferred)
  | .complete node _ => some (node, .replayed)
  | .error (some node) _ => some (node, .inferred)
  | _ => none

def outcome? (node : String) : RunEvent → Option StepOutcome
  | .complete node' output => if node' = node then some (.completed output) else none
  | .error (some node') text => if node' = node then some (.failed text) else none
  | _ => none

/-- Where the run is, by a start or by progress. -/
def place? : RunEvent → Option String
  | .start _ node | .progress _ node => node
  | _ => none

def error? : RunEvent → Option String
  | .error _ text => some text
  | _ => none

def completed? : RunEvent → Option String
  | .complete node _ => some node
  | _ => none

end RunEvent

namespace Digest

def mentions (es : List RunEvent) : List (String × StepOrigin) :=
  es.filterMap RunEvent.mention?

/-- The nodes that events name, in the order of their first mentions. -/
def nodes (es : List RunEvent) : List String :=
  ((mentions es).map (·.1)).eraseDups

def outcomes (es : List RunEvent) (node : String) : List StepOutcome :=
  es.filterMap (RunEvent.outcome? node)

/-- The origin by the first mention of a node. -/
def origin (es : List RunEvent) (node : String) : StepOrigin :=
  ((mentions es).lookup node).getD .inferred

def record (es : List RunEvent) (node : String) : StepRecord :=
  StepOutcome.record node (origin es node) (outcomes es node)

def ledger (es : List RunEvent) : List StepRecord :=
  (nodes es).map (record es)

/-- The last place of the run. -/
def currentStep (es : List RunEvent) : Option String :=
  (es.filterMap RunEvent.place?).getLast?

/-- The last error. -/
def error (es : List RunEvent) : Option String :=
  (es.filterMap RunEvent.error?).getLast?

end Digest

/-! ### Outcomes -/

namespace StepOutcome

variable {node : String} {origin : StepOrigin} {os : List StepOutcome}

theorem lastSeries_failed (os : List StepOutcome) (e : String) :
    lastSeries (os ++ [.failed e]) = lastSeries os := by
  rw [lastSeries, List.rdropWhile_concat_pos _ _ _ (by rfl)]
  rfl

theorem lastSeries_completed (os : List StepOutcome) (output : Option Json.Value) :
    lastSeries (os ++ [.completed output]) = os.rtakeWhile completes ++ [.completed output] := by
  rw [lastSeries, List.rdropWhile_concat_neg _ _ _ (by simp [completes, status]),
    List.rtakeWhile_concat_pos _ _ _ rfl]

theorem status_record (node : String) (origin : StepOrigin) (os : List StepOutcome)
    (o : StepOutcome) : (record node origin (os ++ [o])).status = o.status := by
  simp [record]

theorem record_failed (e : String) :
    record node origin (os ++ [.failed e]) =
      { record node origin os with status := .failed, error := some e } := by
  simp [record, lastSeries_failed, error?, status]

theorem error_record_completed (node : String) (origin : StepOrigin) (os : List StepOutcome)
    (output : Option Json.Value) :
    (record node origin (os ++ [.completed output])).error = (record node origin os).error := by
  simp [record, error?]

/-- Only a completion of a step that is not complete counts. -/
theorem record_completed (output : Option Json.Value) :
    record node origin (os ++ [.completed output]) =
      if (record node origin os).status = .completed then record node origin os
      else { record node origin os with status := .completed, output } := by
  have error := error_record_completed node origin os output
  have ended := status_record node origin os (.completed output)
  -- The last outcome before tells whether the series goes on or begins.
  cases os using List.reverseRecOn with
  | nil => rfl
  | append_singleton before last =>
    have told := status_record node origin before last
    cases last with
    | failed e =>
      rw [if_neg (by rw [told]; nofun)]
      have fresh : lastSeries (before ++ [.failed e] ++ [.completed output]) =
          [.completed output] := by
        rw [lastSeries_completed, List.rtakeWhile_concat_neg _ _ _ (by simp [completes, status])]
        rfl
      have output' : (record node origin (before ++ [.failed e] ++ [.completed output])).output =
          output := by
        rw [record, fresh]
        rfl
      exact StepRecord.ext rfl ended rfl error output'
    | completed first =>
      have complete : (record node origin (before ++ [.completed first])).status = .completed := told
      rw [if_pos complete]
      have series : (lastSeries (before ++ [.completed first] ++ [.completed output])).head? =
          (lastSeries (before ++ [.completed first])).head? := by
        rw [lastSeries_completed, lastSeries_completed, List.rtakeWhile_concat_pos _ _ _ rfl]
        simp
      exact StepRecord.ext rfl (ended.trans told.symm) rfl error
        (congrArg (·.bind output?) series)

end StepOutcome

/-! ### One event more -/

namespace Digest

open RunEvent

theorem eraseDups_concat_of_mem {node : String} {l : List String} (h : node ∈ l) :
    (l ++ [node]).eraseDups = l.eraseDups := by
  simp [List.eraseDups_append, List.removeAll, h]

theorem eraseDups_concat_of_not_mem {node : String} {l : List String} (h : node ∉ l) :
    (l ++ [node]).eraseDups = l.eraseDups ++ [node] := by
  simp [List.eraseDups_append, List.eraseDups_cons, List.removeAll, h]

theorem nodup_eraseDups (l : List String) : l.eraseDups.Nodup := by
  induction l using List.reverseRecOn with
  | nil => exact List.nodup_nil
  | append_singleton l node ih =>
    by_cases known : node ∈ l
    · rw [eraseDups_concat_of_mem known]
      exact ih
    · rw [eraseDups_concat_of_not_mem known, List.nodup_append]
      refine ⟨ih, List.pairwise_singleton _ node, ?_⟩
      intro a before b here same
      rw [List.mem_singleton.1 here] at same
      exact known (same ▸ List.mem_eraseDups.1 before)

variable {es : List RunEvent} {e : RunEvent} {node other : String} {o : StepOrigin}

theorem mem_nodes : node ∈ nodes es ↔ ∃ e ∈ es, ∃ o, e.mention? = some (node, o) := by
  simp only [nodes, List.mem_eraseDups, List.mem_map, mentions, List.mem_filterMap]
  constructor
  · rintro ⟨⟨_, o⟩, ⟨e, here, named⟩, rfl⟩
    exact ⟨e, here, o, named⟩
  · rintro ⟨e, here, o, named⟩
    exact ⟨(node, o), ⟨e, here, named⟩, rfl⟩

/-- An event tells the outcome of the node that it names. -/
theorem mention_of_outcome {x : StepOutcome} (h : e.outcome? node = some x) :
    ∃ o, e.mention? = some (node, o) := by
  cases e with
  | complete n output =>
    simp only [outcome?] at h
    split at h
    · rename_i same
      exact ⟨_, by rw [← same]; rfl⟩
    · cases h
  | error n text =>
    cases n with
    | none => cases h
    | some n =>
      simp only [outcome?] at h
      split at h
      · rename_i same
        exact ⟨_, by rw [← same]; rfl⟩
      · cases h
  | start | progress | finished | paused | cancelled | unknown => cases h

theorem outcome?_eq_none (unnamed : ∀ o, e.mention? ≠ some (node, o)) :
    e.outcome? node = none := by
  refine Option.eq_none_iff_forall_ne_some.2 fun x told => ?_
  obtain ⟨o, named⟩ := mention_of_outcome told
  exact unnamed o named

theorem outcomes_eq_nil (new : node ∉ nodes es) : outcomes es node = [] := by
  rw [outcomes, List.filterMap_eq_nil_iff]
  intro e here
  exact outcome?_eq_none fun o named => new (mem_nodes.2 ⟨e, here, o, named⟩)

theorem outcomes_concat_of_none (silent : e.outcome? node = none) :
    outcomes (es ++ [e]) node = outcomes es node := by
  simp [outcomes, silent]

theorem outcomes_concat_of_some {x : StepOutcome} (told : e.outcome? node = some x) :
    outcomes (es ++ [e]) node = outcomes es node ++ [x] := by
  simp [outcomes, told]

theorem mentions_concat (named : e.mention? = some (node, o)) :
    mentions (es ++ [e]) = mentions es ++ [(node, o)] := by
  simp [mentions, named]

theorem mentions_concat_of_none (silent : e.mention? = none) :
    mentions (es ++ [e]) = mentions es := by
  simp [mentions, silent]

theorem nodes_concat_of_mem (named : e.mention? = some (node, o)) (known : node ∈ nodes es) :
    nodes (es ++ [e]) = nodes es := by
  rw [nodes, mentions_concat named, List.map_append]
  exact eraseDups_concat_of_mem (List.mem_eraseDups.1 known)

theorem nodes_concat_of_not_mem (named : e.mention? = some (node, o)) (new : node ∉ nodes es) :
    nodes (es ++ [e]) = nodes es ++ [node] := by
  rw [nodes, mentions_concat named, List.map_append]
  exact eraseDups_concat_of_not_mem fun known => new (List.mem_eraseDups.2 known)

theorem lookup_mentions : ((mentions es).lookup node).isSome = true ↔ node ∈ nodes es := by
  rw [Option.isSome_iff_ne_none, ne_eq, List.lookup_eq_none_iff, nodes, List.mem_eraseDups]
  simp

/-- Later mentions do not change the origin. -/
theorem origin_concat_of_mem (known : node ∈ nodes es) :
    origin (es ++ [e]) node = origin es node := by
  obtain ⟨first, found⟩ := Option.isSome_iff_exists.1 (lookup_mentions.2 known)
  rw [origin, origin, mentions, List.filterMap_append, List.lookup_append, ← mentions, found]
  rfl

theorem origin_concat_of_not_mem (named : e.mention? = some (node, o)) (new : node ∉ nodes es) :
    origin (es ++ [e]) node = o := by
  have absent : (mentions es).lookup node = none :=
    Option.not_isSome_iff_eq_none.1 fun found => new (lookup_mentions.1 found)
  rw [origin, mentions_concat named, List.lookup_append, absent]
  simp

/-! ### The ledger with one event more -/

theorem node_record (es : List RunEvent) (node : String) : (record es node).node = node := rfl

theorem find?_ledger :
    (ledger es).find? (·.node = node) = if node ∈ nodes es then some (record es node) else none := by
  rw [ledger]
  induction nodes es with
  | nil => rfl
  | cons n rest ih =>
    rw [List.map_cons, List.find?_cons, node_record, ih]
    by_cases here : n = node
    · simp [here]
    · simp [here, Ne.symm here]

theorem record_concat_of_silent (silent : e.outcome? node = none) (known : node ∈ nodes es) :
    record (es ++ [e]) node = record es node := by
  rw [record, record, origin_concat_of_mem known, outcomes_concat_of_none silent]

theorem outcome?_other (named : e.mention? = some (node, o)) (differs : other ≠ node) :
    e.outcome? other = none := by
  refine outcome?_eq_none fun o' named' => differs ?_
  rw [named] at named'
  exact (congrArg Prod.fst (Option.some.inj named')).symm

theorem ledger_concat_of_silent (silent : e.mention? = none) : ledger (es ++ [e]) = ledger es := by
  rw [ledger, ledger, nodes, mentions_concat_of_none silent, ← nodes]
  refine List.map_congr_left fun node known => record_concat_of_silent ?_ known
  exact outcome?_eq_none fun o named => nomatch silent.symm.trans named

theorem ledger_concat_of_not_mem (named : e.mention? = some (node, o)) (new : node ∉ nodes es) :
    ledger (es ++ [e]) = ledger es ++ [record (es ++ [e]) node] := by
  rw [ledger, nodes_concat_of_not_mem named new, List.map_append, ledger]
  congr 1
  refine List.map_congr_left fun other known => ?_
  have differs : other ≠ node := fun same => new (same ▸ known)
  exact record_concat_of_silent (outcome?_other named differs) known

theorem updateStep_map {l : List String} (distinct : l.Nodup) {r r' : String → StepRecord}
    {f : StepRecord → StepRecord} (named : ∀ n, (r n).node = n) (here : r' node = f (r node))
    (others : ∀ n ∈ l, n ≠ node → r' n = r n) :
    l.map r' = RunState.updateStep node f (l.map r) := by
  induction l with
  | nil => rfl
  | cons n l ih =>
    rw [List.map_cons, List.map_cons, RunState.updateStep, named]
    rw [List.nodup_cons] at distinct
    by_cases found : n = node
    · subst found
      rw [if_pos rfl, here]
      congr 1
      refine List.map_congr_left fun m later => others m (List.mem_cons_of_mem _ later) ?_
      exact fun same => distinct.1 (same ▸ later)
    · rw [if_neg found, others n List.mem_cons_self found]
      congr 1
      exact ih distinct.2 fun m later => others m (List.mem_cons_of_mem _ later)

theorem ledger_concat_of_mem (named : e.mention? = some (node, o)) (known : node ∈ nodes es)
    {f : StepRecord → StepRecord} (revised : record (es ++ [e]) node = f (record es node)) :
    ledger (es ++ [e]) = RunState.updateStep node f (ledger es) := by
  rw [ledger, nodes_concat_of_mem named known, ledger]
  refine updateStep_map (nodup_eraseDups _) (node_record es) revised ?_
  intro other known' differs
  exact record_concat_of_silent (outcome?_other named differs) known'

theorem ledger_concat_of_same (named : e.mention? = some (node, o)) (known : node ∈ nodes es)
    (same : record (es ++ [e]) node = record es node) : ledger (es ++ [e]) = ledger es := by
  rw [ledger, nodes_concat_of_mem named known, ledger]
  refine List.map_congr_left fun other known' => ?_
  by_cases here : other = node
  · rw [here]
    exact same
  · exact record_concat_of_silent (outcome?_other named here) known'

end Digest

/-! ### Runs -/

namespace RunState

open Change RunEvent Digest

variable {s : RunState} {es : List RunEvent} {e : RunEvent} {node : String} {o : StepOrigin}

theorem step?_of_ledger (h : s.steps = ledger es) (node : String) :
    s.step? node = if node ∈ Digest.nodes es then some (record es node) else none := by
  rw [step?, h]
  exact find?_ledger

theorem steps_openStep (h : s.steps = ledger es) (named : e.mention? = some (node, o))
    (silent : e.outcome? node = none) :
    (openStep node .running o s).1.steps = ledger (es ++ [e]) := by
  rw [openStep, step?_of_ledger h]
  by_cases known : node ∈ Digest.nodes es
  · rw [if_pos known, ledger_concat_of_same named known (record_concat_of_silent silent known)]
    exact h
  · rw [if_neg known, ledger_concat_of_not_mem named known, record, outcomes_concat_of_none silent,
      outcomes_eq_nil known, origin_concat_of_not_mem named known, ← h]
    rfl

theorem steps_completeStep (h : s.steps = ledger es) (output : Option Json.Value) :
    (completeStep node output s).1.steps = ledger (es ++ [.complete node output]) := by
  have named : (RunEvent.complete node output).mention? = some (node, .replayed) := rfl
  have told : (RunEvent.complete node output).outcome? node = some (.completed output) := if_pos rfl
  rw [completeStep, step?_of_ledger h]
  by_cases known : node ∈ Digest.nodes es
  · have next : record (es ++ [.complete node output]) node =
        if (record es node).status = .completed then record es node
        else { record es node with status := .completed, output } := by
      rw [record, origin_concat_of_mem known, outcomes_concat_of_some told]
      exact StepOutcome.record_completed output
    rw [if_pos known]
    by_cases complete : (record es node).status = .completed
    · rw [if_pos complete] at next
      rw [ledger_concat_of_same named known next]
      simp only [complete, if_true]
      exact h
    · rw [if_neg complete] at next
      rw [ledger_concat_of_mem named known
        (f := fun r => { r with status := .completed, output }) next, ← h]
      simp only [complete, if_false]
  · rw [if_neg known, ledger_concat_of_not_mem named known, record, outcomes_concat_of_some told,
      outcomes_eq_nil known, origin_concat_of_not_mem named known, ← h]
    rfl

theorem steps_failStep (h : s.steps = ledger es) (text : String) :
    (failStep text node s).1.steps = ledger (es ++ [.error (some node) text]) := by
  have named : (RunEvent.error (some node) text).mention? = some (node, .inferred) := rfl
  have told : (RunEvent.error (some node) text).outcome? node = some (.failed text) := if_pos rfl
  rw [failStep, step?_of_ledger h]
  by_cases known : node ∈ Digest.nodes es
  · have next : record (es ++ [.error (some node) text]) node =
        { record es node with status := .failed, error := some text } := by
      rw [record, origin_concat_of_mem known, outcomes_concat_of_some told]
      exact StepOutcome.record_failed text
    rw [if_pos known]
    by_cases already : (record es node).status = .failed ∧ (record es node).error = some text
    · have same : record (es ++ [.error (some node) text]) node = record es node := by
        rw [next]
        exact StepRecord.ext rfl already.1.symm rfl already.2.symm rfl
      rw [ledger_concat_of_same named known same]
      simp only [already, and_self, if_true]
      exact h
    · rw [ledger_concat_of_mem named known
        (f := fun r => { r with status := .failed, error := some text }) next, ← h]
      simp only [already, if_false]
  · rw [if_neg known, ledger_concat_of_not_mem named known, record, outcomes_concat_of_some told,
      outcomes_eq_nil known, origin_concat_of_not_mem named known, ← h]
    rfl

/-- What the state holds is what the events have told. -/
structure Told (es : List RunEvent) (s : RunState) : Prop where
  steps : s.steps = ledger es
  currentStep : s.currentStep = Digest.currentStep es
  error : s.error = Digest.error es

theorem currentStep_concat (es : List RunEvent) (e : RunEvent) :
    Digest.currentStep (es ++ [e]) = e.place?.or (Digest.currentStep es) := by
  rw [Digest.currentStep, List.filterMap_append, List.getLast?_append, Digest.currentStep]
  cases told : e.place? <;> simp [told]

theorem error_concat (es : List RunEvent) (e : RunEvent) :
    Digest.error (es ++ [e]) = e.error?.or (Digest.error es) := by
  rw [Digest.error, List.filterMap_append, List.getLast?_append, Digest.error]
  cases told : e.error? <;> simp [told]

namespace Told

/-- An event that names no place and tells of no step leaves what has been told. -/
theorem silent (h : Told es s) (mention : e.mention? = none) (place : e.place? = none)
    (error : e.error? = none) : Told (es ++ [e]) s where
  steps := by rw [ledger_concat_of_silent mention]; exact h.steps
  currentStep := by rw [currentStep_concat, place]; exact h.currentStep
  error := by rw [error_concat, error]; exact h.error

theorem enterStep (h : Told es s) (named : e.mention? = some (node, o))
    (silent : e.outcome? node = none) (place : e.place? = some node) (error : e.error? = none) :
    Told (es ++ [e]) (enterStep o node s).1 where
  steps := by
    have noted : (setCurrentStep node s).1.steps = ledger es := by
      unfold setCurrentStep
      split <;> exact h.steps
    exact steps_openStep noted named silent
  currentStep := by
    rw [currentStep_concat, place]
    exact ((settles_enterStep o node).reached s).1
  error := by
    rw [error_concat, error]
    exact keeps_enterStep (p := fun t => t.error = Digest.error es) (fun _ _ h => h)
      (fun _ _ h => h) o node s h.error

theorem completeStep (h : Told es s) (output : Option Json.Value) :
    Told (es ++ [.complete node output]) (completeStep node output s).1 where
  steps := steps_completeStep h.steps output
  currentStep := by
    rw [currentStep_concat]
    refine Eq.trans ?_ h.currentStep
    unfold RunState.completeStep
    split
    · split <;> rfl
    · rfl
  error := by
    rw [error_concat]
    refine Eq.trans ?_ h.error
    unfold RunState.completeStep
    split
    · split <;> rfl
    · rfl

theorem recordError (h : Told es s) (node : Option String) (text : String) :
    Told (es ++ [.error node text]) (recordError node text s).1 where
  steps := by
    rw [RunState.recordError, andThen_apply, steps_setError]
    cases node with
    | none => exact h.steps.trans (ledger_concat_of_silent rfl).symm
    | some node => exact steps_failStep h.steps text
  currentStep := by
    rw [currentStep_concat]
    refine Eq.trans ?_ h.currentStep
    have failed (n : String) : (failStep text n).Keeps fun t => t.currentStep = s.currentStep := by
      intro t same
      unfold failStep
      split
      · split <;> exact same
      · exact same
    exact (keeps_whenSome failed node).andThen
      (keeps_setError (fun _ _ same => same) text) s rfl
  error := by
    rw [error_concat, error_recordError]
    rfl

theorem adoptRunId (h : Told es s) (id : Option RunId) : Told es (adoptRunId id s).1 := by
  unfold RunState.adoptRunId
  split <;> exact ⟨h.steps, h.currentStep, h.error⟩

theorem event (h : Told es s) (tells : e.tellsOfSteps = true) :
    Told (es ++ [e]) (eventChange e s).1 := by
  cases e with
  | start id node =>
    have confirmed : Told es (moveFrom .pending .running (RunState.adoptRunId id s).1).1 :=
      keeps_moveFrom (fun _ _ h => ⟨h.steps, h.currentStep, h.error⟩) _ _ _ (h.adoptRunId id)
    cases node with
    | none => exact confirmed.silent rfl rfl rfl
    | some node => exact confirmed.enterStep rfl rfl rfl rfl
  | progress x node =>
    have along : Told es (setProgress x s).1 :=
      keeps_setProgress (fun _ _ h => ⟨h.steps, h.currentStep, h.error⟩) _ _ h
    cases node with
    | none => exact along.silent rfl rfl rfl
    | some node => exact along.enterStep rfl rfl rfl rfl
  | complete node output => exact h.completeStep output
  | error node text => exact h.recordError node text
  | finished | paused | cancelled | unknown => cases tells

end Told

/-- Events about steps find the run open and leave it so. -/
theorem open_eventChange (takes : s.phase = .pending ∨ s.phase = .running)
    (tells : e.tellsOfSteps = true) :
    (eventChange e s).1.phase = .pending ∨ (eventChange e s).1.phase = .running := by
  cases e with
  | start id node =>
    refine .inr ?_
    rw [eventChange, andThen_apply, (quiet_whenSome (quiet_enterStep .live) node _).phase,
      andThen_apply, phase_moveFrom, phase_adoptRunId]
    rcases takes with pending | running
    · rw [if_pos pending]
    · rw [if_neg fun pending => by cases running.symm.trans pending]
      exact running
  | progress | complete | error =>
    rw [(quiet_eventChange rfl s).phase]
    exact takes
  | finished | paused | cancelled | unknown => cases tells

theorem applyEvent_of_open (takes : s.phase = .pending ∨ s.phase = .running) (e : RunEvent) :
    applyEvent e s = eventChange e s := by
  rcases takes with h | h <;> simp [applyEvent, h, RunPhase.isTerminal]

theorem told_applyEvents (w : WorkflowId) (es : List RunEvent)
    (tell : ∀ e ∈ es, e.tellsOfSteps = true) :
    Told es (applyEvents es (placeholder w)).1 ∧
      ((applyEvents es (placeholder w)).1.phase = .pending ∨
        (applyEvents es (placeholder w)).1.phase = .running) := by
  induction es using List.reverseRecOn with
  | nil => exact ⟨⟨rfl, rfl, rfl⟩, .inl rfl⟩
  | append_singleton es e ih =>
    obtain ⟨told, takes⟩ := ih fun e before => tell e (List.mem_append_left _ before)
    have tells : e.tellsOfSteps = true :=
      tell e (List.mem_append_right _ (List.mem_singleton_self e))
    rw [applyEvents_append, andThen_apply, applyEvents_singleton, applyEvent_of_open takes]
    exact ⟨told.event tells, open_eventChange takes tells⟩

/-! ### Events in another order -/

/-- Without errors the outcomes of a node are its completions. -/
theorem length_outcomes (clean : ∀ e ∈ es, e.error? = none) (node : String) :
    (outcomes es node).length = (es.filterMap completed?).count node := by
  induction es with
  | nil => rfl
  | cons e es ih =>
    have rest := ih fun e later => clean e (List.mem_cons_of_mem _ later)
    cases e with
    | complete n output =>
      rw [outcomes] at rest ⊢
      by_cases here : n = node
      · simp [outcome?, completed?, here, rest]
      · simp [outcome?, completed?, here, rest]
    | error n text => exact absurd (clean _ List.mem_cons_self) nofun
    | start | progress | finished | paused | cancelled | unknown => exact rest

/-- Without errors, and with one completion for each node, the order does not matter. -/
theorem outcomes_perm {fs : List RunEvent} (perm : es.Perm fs) (clean : ∀ e ∈ es, e.error? = none)
    (once : (es.filterMap completed?).Nodup) (node : String) :
    outcomes fs node = outcomes es node := by
  have few : (outcomes es node).length ≤ 1 := by
    rw [length_outcomes clean]
    exact List.nodup_iff_count_le_one.1 once node
  have same : (outcomes fs node).Perm (outcomes es node) := perm.symm.filterMap _
  match found : outcomes es node with
  | [] => exact List.perm_nil.1 (found ▸ same)
  | [x] => exact List.perm_singleton.1 (found ▸ same)
  | x :: y :: rest => rw [found] at few; simp at few

theorem mem_nodes_perm {fs : List RunEvent} (perm : es.Perm fs) :
    node ∈ Digest.nodes fs ↔ node ∈ Digest.nodes es := by
  simp only [mem_nodes, perm.mem_iff]

/-- The state of a run is a digest of the events about its steps. Without errors, and with one
completion for each node, their order is of no account for what has become of the steps. -/
theorem ledger_is_digest (w : WorkflowId) (es : List RunEvent)
    (tell : ∀ e ∈ es, e.tellsOfSteps = true) :
    Told es (applyEvents es (placeholder w)).1 ∧
    ∀ fs : List RunEvent, es.Perm fs → (∀ e ∈ es, e.error? = none) →
      (es.filterMap completed?).Nodup →
      ∀ node, ((applyEvents fs (placeholder w)).1.step? node).map (fun r => (r.status, r.output)) =
        ((applyEvents es (placeholder w)).1.step? node).map fun r => (r.status, r.output) := by
  have told := (told_applyEvents w es tell).1
  refine ⟨told, fun fs perm clean once node => ?_⟩
  have told' := (told_applyEvents w fs fun e here => tell e (perm.mem_iff.2 here)).1
  rw [step?_of_ledger told.steps, step?_of_ledger told'.steps]
  by_cases known : node ∈ Digest.nodes es
  · rw [if_pos known, if_pos ((mem_nodes_perm perm).2 known), Option.map_some, Option.map_some,
      record, record, outcomes_perm perm clean once]
    rfl
  · rw [if_neg known, if_neg fun known' => known ((mem_nodes_perm perm).1 known')]

/-- A step fails amid its completions. Another one completes before it is seen to start, or after. -/
theorem last_series_gives_the_output :
    let es : List RunEvent := [
      .complete "a" (some (.bool true)), .start none (some "b"), .error (some "a") "boom",
      .progress none (some "a"), .complete "a" none, .complete "a" (some (.bool false))]
    let s := (applyEvents es (placeholder ⟨"build"⟩)).1
    let seen : List RunEvent := [.start none (some "c"), .complete "c" (some .null)]
    let late : List RunEvent := [.complete "c" (some .null), .start none (some "c")]
    let outcome (es : List RunEvent) :=
      ((applyEvents es (placeholder ⟨"build"⟩)).1.step? "c").map fun r => (r.status, r.output)
    (∀ e ∈ es, e.tellsOfSteps = true) ∧
      s.steps = [⟨"a", .completed, .replayed, some "boom", none⟩,
        ⟨"b", .running, .live, none, none⟩] ∧
      s.currentStep = some "a" ∧ s.error = some "boom" ∧ Told es s ∧
      seen.Perm late ∧ (∀ e ∈ seen, e.error? = none) ∧ (seen.filterMap completed?).Nodup ∧
      outcome late = outcome seen := by
  intro es s seen late outcome
  have tell : ∀ e ∈ es, e.tellsOfSteps = true := by decide
  have clean : ∀ e ∈ seen, e.error? = none := by decide
  have once : (seen.filterMap completed?).Nodup := by decide
  have perm : seen.Perm late := .swap _ _ []
  have same := (ledger_is_digest ⟨"build"⟩ seen (by decide)).2 late perm clean once "c"
  exact ⟨tell, by decide +kernel, by decide +kernel, by decide +kernel,
    (ledger_is_digest ⟨"build"⟩ es tell).1, perm, clean, once, same⟩

end RunState

end RunWatch
