import RunWatch.Patch.Editors
import RunWatch.Proofs.Patch.Protocol

/-!
# Editors do not overwrite each other

A call of a session submits at most twice, and other sessions may write between the two. `Stage`
says where that leaves a call with the document, and every step of the editors keeps it. A write
commits only on the revision that its session began with, so no commit of another session is lost.
-/

namespace RunWatch

open Proposal

/-! ### Calls are exchanges -/

theorem Dialogue.map_map {α β γ : Type} (f : α → β) (g : β → γ) (d : Dialogue α) :
    (d.map f).map g = d.map (g ∘ f) := by
  induction d with
  | done result => cases result <;> rfl
  | submit s next ih => simp only [Dialogue.map, ih]

theorem map_exchange {α β : Type} (f : α → β) (p : Proposal) (dryRun : Bool)
    (followed : Preview → α) (conclude : Verdict → Except PatchFailure α) :
    (p.exchange dryRun followed conclude).map f =
      p.exchange dryRun (f ∘ followed) fun v => (conclude v).map f := by
  unfold exchange
  cases p.check with
  | error fault => rfl
  | ok =>
    refine congrArg (Dialogue.submit _) (funext fun answer => ?_)
    cases answer with
    | error failure => rfl
    | ok v =>
      dsimp only
      by_cases mismatch : v.isMismatch = true
      · rw [if_pos mismatch, if_pos mismatch, Dialogue.map_map]
      · rw [if_neg mismatch, if_neg mismatch]
        rfl

namespace EditCall

def operations : EditCall → List PatchOp
  | .preview operations | .apply operations => operations

def writes : EditCall → Bool
  | .preview _ => false
  | .apply _ => true

/-- What the call makes of a preview on another revision. -/
def followed : EditCall → Preview → EditOutcome
  | .preview _ => .previewed
  | .apply _ => fun preview => .applied (.rebased preview)

/-- What the call makes of an answer that is no mismatch. -/
def concluded (base : Revision) : EditCall → Verdict → Except PatchFailure EditOutcome
  | .preview _ => fun v => .ok (.previewed (Preview.ofVerdict v base none))
  | .apply _ => fun v => (conclude v).map .applied

end EditCall

theorem call_eq_exchange (s : EditSession) (c : EditCall) :
    s.call c =
      (s.propose c.operations).exchange (!c.writes) c.followed (c.concluded s.revision) := by
  cases c with
  | preview operations =>
    rw [EditSession.call, preview_eq_exchange, map_exchange]
    rfl
  | apply operations =>
    rw [EditSession.call, apply_eq_exchange, map_exchange]
    rfl

/-! ### Documents -/

namespace Document

variable {d d' : Document} {s : Submission} {a : PatchAnswer}

theorem held_of_answers (h : d.Answers s d' a) {r : Revision} (held : d.held r) : d'.held r := by
  cases h with
  | stale | rehearsed => exact held
  | written v r' =>
    rcases held with rfl | earlier
    · exact .inr List.mem_cons_self
    · exact .inr (List.mem_cons_of_mem _ earlier)

theorem commits_self (d : Document) : d.commits d = [] :=
  if_pos rfl

theorem commits_write {r : Revision} (fresh : ¬d.held r) (earlier : List Revision) :
    d.commits ⟨r, earlier⟩ = [⟨d.current, r⟩] := by
  refine if_neg fun same => fresh (.inl ?_)
  rw [← same]

end Document

/-! ### Calls under way -/

/-- What a call that has returned did to the document and to its session. -/
structure Returned.Honest (f : Returned) : Prop where
  writes : f.errand.commits ≠ [] → f.errand.call.writes = true
  /-- Whoever is told of a commit has made exactly one, on the revision of the session. -/
  committed : ∀ r diff, f.result = .ok (.applied (.committed r diff)) →
    f.errand.commits = [⟨f.errand.began, r⟩] ∧ f.session.revision = r
  uncommitted : (∀ r diff, f.result ≠ .ok (.applied (.committed r diff))) → f.errand.commits = []
  /-- A preview leaves the session on the revision that was current at the last answer. -/
  seen : ∀ outcome, f.result = .ok outcome →
    (∀ r diff, outcome ≠ .applied (.committed r diff)) → f.errand.seen = some f.session.revision
  failed : ∀ failure, f.result = .error failure → f.session.revision = f.errand.began

/-- Where a call stands. -/
inductive Stage (d : Document) (session : EditSession) (x : Errand) : Prop where
  | asking (checked : (session.propose x.call.operations).check = .ok ())
    (rest : x.rest = session.call x.call) (commits : x.commits = [])
  /-- The base was stale, and the patch is to be rehearsed on the revision that was current. -/
  | moving (current : Revision)
    (rest : x.rest =
      ((session.propose x.call.operations).previewRebased current).map x.call.followed)
    (commits : x.commits = [])
  | finished (result : Except PatchFailure EditOutcome) (rest : x.rest = .done result)
    (honest : Returned.Honest ⟨x, result, session.afterCall result⟩)
    (held : d.held (session.afterCall result).revision)

variable {d d' : Document} {session : EditSession} {x : Errand} {a : PatchAnswer}

theorem Stage.grow (h : Stage d session x) (grows : ∀ r, d.held r → d'.held r) :
    Stage d' session x := by
  cases h with
  | asking checked rest commits => exact .asking checked rest commits
  | moving current rest commits => exact .moving current rest commits
  | finished result rest honest held => exact .finished result rest honest (grows _ held)

/-- A failure commits nothing and leaves the session where it was. -/
theorem stage_of_failure {failure : PatchFailure} (rest : x.rest = .done (.error failure))
    (commits : x.commits = []) (began : x.began = session.revision)
    (held : d.held session.revision) : Stage d session x :=
  .finished _ rest
    { writes := fun some_ => absurd commits some_
      committed := nofun
      uncommitted := fun _ => commits
      seen := nofun
      failed := fun _ _ => began.symm }
    held

/-- A preview on the current revision commits nothing and moves the session there. -/
theorem stage_of_preview {outcome : EditOutcome} (rest : x.rest = .done (.ok outcome))
    (commits : x.commits = []) (seen : x.seen = some d.current)
    (shows : (session.afterCall (.ok outcome)).revision = d.current)
    (uncommitted : ∀ r diff, outcome ≠ .applied (.committed r diff)) : Stage d session x :=
  .finished _ rest
    { writes := fun some_ => absurd commits some_
      committed := fun r diff same => absurd (Except.ok.inj same) (uncommitted r diff)
      uncommitted := fun _ => commits
      seen := fun _ _ _ => by rw [seen, shows]
      failed := nofun }
    (.inl shows)

theorem stage_of_write {r : Revision} {diff : Option Json.Value}
    (rest : x.rest = .done (.ok (.applied (.committed r diff)))) (writes : x.call.writes = true)
    (commits : x.commits = [⟨x.began, r⟩]) (current : d.current = r) : Stage d session x :=
  .finished _ rest
    { writes := fun _ => writes
      committed := fun r' diff' same => by
        cases same
        exact ⟨commits, rfl⟩
      uncommitted := fun other => absurd rfl (other r diff)
      seen := fun outcome same other => by
        cases same
        exact absurd rfl (other r diff)
      failed := nofun }
    (.inl current.symm)

theorem stage_begin (held : d.held session.revision) (c : EditCall) :
    Stage d session { call := c, began := session.revision, rest := session.call c } := by
  cases checked : (session.propose c.operations).check with
  | ok => exact .asking checked rfl rfl
  | error fault =>
    have refused : session.call c = .done (.error (.malformed fault)) := by
      rw [call_eq_exchange, exchange, checked]
    exact stage_of_failure refused rfl rfl held

theorem revision_followed (session : EditSession) (c : EditCall) (preview : Preview) :
    (session.afterCall (.ok (c.followed preview))).revision = preview.base := by
  cases c <;> rfl

theorem followed_ne_committed (c : EditCall) (preview : Preview) (r : Revision)
    (diff : Option Json.Value) : c.followed preview ≠ .applied (.committed r diff) := by
  cases c <;> nofun

theorem isMismatch_of_success {v : Verdict} (accepted : v.success = true) :
    v.isMismatch = false := by
  rw [Verdict.isMismatch, accepted]
  rfl

/-- The first answer: a stale base is followed, anything else ends the call. -/
theorem stage_of_first_answer (held : d.held session.revision) (began : x.began = session.revision)
    (checked : (session.propose x.call.operations).check = .ok ())
    (rest : x.rest = session.call x.call) (commits : x.commits = []) {s : Submission}
    {next : PatchAnswer → Dialogue EditOutcome} (asks : x.rest = .submit s next)
    (answers : d.Answers s d' a) :
    Stage d' session { x with
      rest := next a, commits := x.commits ++ d.commits d', seen := some d.current } := by
  rw [rest, call_eq_exchange, exchange, checked] at asks
  cases asks
  cases answers with
  | stale v base refused reason told =>
    have mismatch : v.isMismatch = true := (isMismatch_iff v).2 ⟨refused, reason⟩
    have nothing : x.commits ++ d.commits d = [] := by rw [commits, d.commits_self]; rfl
    simp only [mismatch, if_true, follow]
    cases successor : (session.propose x.call.operations).successor v with
    | error failure => exact stage_of_failure rfl nothing began held
    | ok current => exact .moving current rfl nothing
  | rehearsed v base dry accepted =>
    have nothing : x.commits ++ d.commits d = [] := by rw [commits, d.commits_self]; rfl
    simp only [isMismatch_of_success accepted, Bool.false_eq_true, if_false]
    cases call : x.call with
    | preview operations => exact stage_of_preview rfl nothing rfl base (by rintro _ _ ⟨⟩)
    | apply operations => rw [call] at dry; cases dry
  | written v r base real fresh accepted told =>
    simp only [isMismatch_of_success accepted, Bool.false_eq_true, if_false]
    have writes : x.call.writes = true := by simpa using real
    have wrote : x.commits ++ d.commits ⟨r, d.current :: d.earlier⟩ = [⟨x.began, r⟩] := by
      have on : session.revision = d.current := base
      rw [commits, Document.commits_write fresh, List.nil_append, began, on]
    cases call : x.call with
    | preview operations => rw [call] at writes; cases writes
    | apply operations =>
      have concluded : conclude v = .ok (.committed r v.diff) := by
        rw [conclude, if_pos accepted, told]
      simp only [EditCall.concluded, concluded]
      exact stage_of_write rfl rfl wrote rfl

theorem map_previewRebased {α : Type} (p : Proposal) (current : Revision) (f : Preview → α) :
    (p.previewRebased current).map f =
      .submit ⟨p.rebase current, true⟩ fun a => .done ((p.rebasedResult current a).map f) :=
  rfl

theorem rebasedResult_of_success (p : Proposal) (current : Revision) {v : Verdict}
    (accepted : v.success = true) :
    p.rebasedResult current (.ok v) = .ok (Preview.ofVerdict v current (some p.base)) :=
  if_neg (by rw [isMismatch_of_success accepted]; nofun)

/-- The second answer is to a rehearsal, so it ends the call without a commit. -/
theorem stage_of_second_answer (held : d.held session.revision)
    (began : x.began = session.revision) {current : Revision}
    (rest : x.rest =
      ((session.propose x.call.operations).previewRebased current).map x.call.followed)
    (commits : x.commits = []) {s : Submission} {next : PatchAnswer → Dialogue EditOutcome}
    (asks : x.rest = .submit s next) (answers : d.Answers s d' a) :
    Stage d' session { x with
      rest := next a, commits := x.commits ++ d.commits d', seen := some d.current } := by
  rw [rest, map_previewRebased] at asks
  cases asks
  cases answers with
  | stale v base refused reason told =>
    have nothing : x.commits ++ d.commits d = [] := by rw [commits, d.commits_self]; rfl
    simp only [rebasedResult_of_mismatch ⟨v, rfl, refused, reason⟩]
    exact stage_of_failure rfl nothing began held
  | rehearsed v base dry accepted =>
    have nothing : x.commits ++ d.commits d = [] := by rw [commits, d.commits_self]; rfl
    simp only [rebasedResult_of_success _ _ accepted]
    refine stage_of_preview rfl nothing rfl ?_ (followed_ne_committed _ _)
    rw [revision_followed]
    exact base
  | written v r base real => cases real

theorem Stage.answer (h : Stage d session x) (held : d.held session.revision)
    (began : x.began = session.revision) {s : Submission}
    {next : PatchAnswer → Dialogue EditOutcome} (asks : x.rest = .submit s next)
    (answers : d.Answers s d' a) :
    Stage d' session { x with
      rest := next a, commits := x.commits ++ d.commits d', seen := some d.current } := by
  cases h with
  | asking checked rest commits =>
    exact stage_of_first_answer held began checked rest commits asks answers
  | moving current rest commits =>
    exact stage_of_second_answer held began rest commits asks answers
  | finished result rest => cases rest.symm.trans asks

theorem Stage.honest_of_done (h : Stage d session x) {result : Except PatchFailure EditOutcome}
    (done : x.rest = .done result) :
    Returned.Honest ⟨x, result, session.afterCall result⟩ ∧
      d.held (session.afterCall result).revision := by
  cases h with
  | asking checked rest =>
    rw [rest, call_eq_exchange, exchange, checked] at done
    cases done
  | moving current rest => cases rest.symm.trans done
  | finished result' rest honest held =>
    cases rest.symm.trans done
    exact ⟨honest, held⟩

theorem Stage.committed_of_commits (h : Stage d session x) (committed : x.commits ≠ []) :
    ∃ r diff, x.rest = .done (.ok (.applied (.committed r diff))) := by
  cases h with
  | asking _ _ commits => exact absurd commits committed
  | moving _ _ commits => exact absurd commits committed
  | finished result rest honest =>
    by_cases told : ∃ r diff, result = .ok (.applied (.committed r diff))
    · obtain ⟨r, diff, rfl⟩ := told
      exact ⟨r, diff, rest⟩
    · exact absurd (honest.uncommitted fun r diff same => told ⟨r, diff, same⟩) committed

namespace Editing

/-! ### Steps -/

/-- What holds of a document and its editors at any time. -/
structure Sound (e : Editing) : Prop where
  held : ∀ x ∈ e.editors, e.document.held x.session.revision
  stages : ∀ x ∈ e.editors, ∀ errand, x.errand? = some errand →
    errand.began = x.session.revision ∧ Stage e.document x.session errand
  honest : ∀ f ∈ e.returned, f.Honest

variable {e e' : Editing}

theorem Sound.setEditor (h : Sound e) (place : Nat) {x : Editor}
    (held : e.document.held x.session.revision)
    (stage : ∀ errand, x.errand? = some errand →
      errand.began = x.session.revision ∧ Stage e.document x.session errand) :
    Sound (setEditor place x e) where
  held y member := by
    rcases List.mem_or_eq_of_mem_set member with other | rfl
    · exact h.held y other
    · exact held
  stages y member := by
    rcases List.mem_or_eq_of_mem_set member with other | rfl
    · exact h.stages y other
    · exact stage
  honest := h.honest

theorem Sound.step (h : Sound e) (step : e.Step e') : Sound e' := by
  cases step with
  | open_ session held =>
    refine ⟨fun x member => ?_, fun x member => ?_, h.honest⟩
    · rcases List.mem_append.1 member with before | new
      · exact h.held x before
      · rw [List.mem_singleton.1 new]
        exact held
    · rcases List.mem_append.1 member with before | new
      · exact h.stages x before
      · rw [List.mem_singleton.1 new]
        nofun
  | begin place session call idle =>
    have held := h.held _ (List.mem_of_getElem? idle)
    refine h.setEditor place held fun errand here => ?_
    cases here
    exact ⟨rfl, stage_begin held call⟩
  | submit place session errand s next document answer busy asks answers =>
    have member := List.mem_of_getElem? busy
    have held := h.held _ member
    obtain ⟨began, stage⟩ := h.stages _ member errand rfl
    -- The document has changed for every editor, and all of them live with that.
    have grown : Sound { e with document } := {
      held := fun x other => Document.held_of_answers answers (h.held x other)
      stages := fun x other errand' under => by
        obtain ⟨began', stage'⟩ := h.stages x other errand' under
        exact ⟨began', stage'.grow fun _ => Document.held_of_answers answers⟩
      honest := h.honest }
    refine grown.setEditor place (Document.held_of_answers answers held) fun errand' here => ?_
    cases here
    exact ⟨began, stage.answer held began asks answers⟩
  | finish place session errand result busy done =>
    obtain ⟨-, stage⟩ := h.stages _ (List.mem_of_getElem? busy) errand rfl
    obtain ⟨honest, held⟩ := stage.honest_of_done done
    have told : Sound { e with
        returned := e.returned ++ [⟨errand, result, session.afterCall result⟩] } := {
      held := h.held
      stages := h.stages
      honest := fun f member => by
        rcases List.mem_append.1 member with before | new
        · exact h.honest f before
        · rw [List.mem_singleton.1 new]
          exact honest }
    exact told.setEditor place held nofun

theorem sound_of_reachable (h : Reachable e) : Sound e := by
  induction h with
  | initial document =>
    exact ⟨List.forall_mem_nil _, List.forall_mem_nil _, List.forall_mem_nil _⟩
  | step _ step ih => exact ih.step step

/-- However the submissions of the editors interleave, a call commits if and only if it is an apply
that returns a new revision, and then once and on the revision that its session began with. A call
that has committed has nothing left to do but to say so. -/
theorem editors_lose_no_update (reachable : Reachable e) :
    (∀ f ∈ e.returned, f.Honest) ∧
    (∀ x ∈ e.editors, e.document.held x.session.revision) ∧
    ∀ x ∈ e.editors, ∀ errand, x.errand? = some errand → errand.commits ≠ [] →
      ∃ r diff, errand.rest = .done (.ok (.applied (.committed r diff))) := by
  have sound := sound_of_reachable reachable
  refine ⟨sound.honest, sound.held, fun x member errand under committed => ?_⟩
  exact (sound.stages x member errand under).2.committed_of_commits committed

/-- Two sessions apply a patch each. The second one writes first, so the other one only sees a
preview on the revision that this installed. -/
theorem overtaken_editor_is_rebased :
    ∃ e, Reachable e ∧ e.returned.map (fun f => (f.errand.commits, f.session.revision)) =
        [([⟨⟨"r1"⟩, ⟨"r2"⟩⟩], ⟨"r2"⟩), ([], ⟨"r2"⟩)] ∧
      ∀ f ∈ e.returned, f.Honest := by
  have start : Reachable { document := ⟨⟨"r1"⟩, []⟩ } := .initial _
  have first := start.step (.open_ ⟨"plan", ⟨"r1"⟩⟩ (.inl rfl))
  have second := first.step (.open_ ⟨"plan", ⟨"r1"⟩⟩ (.inl rfl))
  have began := second.step (.begin 0 ⟨"plan", ⟨"r1"⟩⟩ (.apply [.replace "a"]) rfl)
  have began' := began.step (.begin 1 ⟨"plan", ⟨"r1"⟩⟩ (.apply [.replace "b"]) rfl)
  have wrote := began'.step (.submit 1 _ _ _ _ _ _ rfl rfl
    (.written { success := true, newRevision := some ⟨"r2"⟩ } ⟨"r2"⟩ rfl rfl (by decide) rfl rfl))
  have stale := wrote.step (.submit 0 _ _ _ _ _ _ rfl rfl
    (.stale { error := some Verdict.staleBase, currentRevision := some ⟨"r2"⟩ } (by decide) rfl rfl rfl))
  have returned := stale.step (.finish 1 _ _ _ rfl rfl)
  have rehearsed := returned.step (.submit 0 _ _ _ _ _ _ rfl rfl
    (.rehearsed { success := true } rfl rfl rfl))
  have returned' := rehearsed.step (.finish 0 _ _ _ rfl rfl)
  exact ⟨_, returned', by decide +kernel, (editors_lose_no_update returned').1⟩

end Editing

end RunWatch
