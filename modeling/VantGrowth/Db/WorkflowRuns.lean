import VantGrowth.Db.Outbox
import VantGrowth.Lib.JsString

namespace VantGrowth.Db
open Lib Lib.Text

inductive WorkflowRunState where
  | requested | in_progress | completed | failed
deriving DecidableEq

namespace WorkflowRunState

def text : WorkflowRunState → String
  | requested => "requested"
  | in_progress => "in_progress"
  | completed => "completed"
  | failed => "failed"

/-- Membership in `TERMINAL_STATES`. -/
def terminal : WorkflowRunState → Bool
  | completed | failed => true
  | requested | in_progress => false

end WorkflowRunState

structure WorkflowRun where
  id : String
  tenantId : String
  workflowId : String
  dedupeKey : String
  state : WorkflowRunState
  failureCode : Option String
  createdAt : Instant
  updatedAt : Instant
deriving DecidableEq

/-- The runs, one for each tenant and workflow id, and the number of uuids
drawn. -/
structure WorkflowRunStore where
  runs : InsertionMap String WorkflowRun
  drawn : Nat

namespace WorkflowRunStore

def empty : WorkflowRunStore := ⟨.empty, 0⟩

def key (tenantId workflowId : String) : String := join tenantId workflowId

def find (s : WorkflowRunStore) (tenantId workflowId : String) : Option WorkflowRun :=
  s.runs.get (key tenantId workflowId)

/-- The parts of `workflowRunSchema` a new run can fail. -/
def acceptable (tenantId workflowId dedupeKey : String) : Bool :=
  isUuid tenantId && workflowId != "" && dedupeKey != ""

def requestedRun (id tenantId workflowId dedupeKey : String) (now : Instant) : WorkflowRun :=
  { id, tenantId, workflowId, dedupeKey, state := .requested, failureCode := none,
    createdAt := now, updatedAt := now }

def moved (run : WorkflowRun) (toState : WorkflowRunState) (failureCode : Option String)
    (now : Instant) : WorkflowRun :=
  { run with state := toState, failureCode := failureCode <|> run.failureCode, updatedAt := now }

end WorkflowRunStore

open WorkflowRunStore

namespace InMemoryWorkflowRunRepository

def upsertRequested (uuid : Supply) (now : Instant) (tenantId workflowId dedupeKey : String) :
    Store DbError WorkflowRunStore WorkflowRun := do
  match ← Store.read (·.find tenantId workflowId) with
  | some existing => return existing
  | none =>
    Store.modify fun s => { s with drawn := s.drawn + 1 }
    let id ← Store.read fun s => uuid.text s.drawn
    Store.require (acceptable tenantId workflowId dedupeKey = true) .zod
    let run := requestedRun id tenantId workflowId dedupeKey now
    Store.modify fun s => { s with runs := s.runs.set (key tenantId workflowId) run }
    return run

def transitionState (now : Instant) (tenantId workflowId : String)
    (fromState toState : WorkflowRunState) (failureCode : Option String) :
    Store DbError WorkflowRunStore (Option WorkflowRun) := do
  match ← Store.read (·.find tenantId workflowId) with
  | none => return none
  | some existing =>
    if existing.state ≠ fromState ∨ existing.state = .completed ∨ existing.state = .failed then
      return none
    else
      let updated := moved existing toState failureCode now
      Store.modify fun s => { s with runs := s.runs.set (key tenantId workflowId) updated }
      return some updated

def getByWorkflowId (tenantId workflowId : String) :
    Store DbError WorkflowRunStore (Option WorkflowRun) :=
  Store.read (·.find tenantId workflowId)

end InMemoryWorkflowRunRepository

namespace PostgresWorkflowRunRepository

/-- The insert gives way to the row that holds the key; a row that fails its
schema on the way back takes the insert with it. -/
def upsertRequested (uuid : Supply) (now : Instant) (tenantId workflowId dedupeKey : String) :
    Store DbError WorkflowRunStore WorkflowRun := do
  Store.require (isUuid tenantId = true) .zod
  Store.transaction do
    match ← Store.read (·.find tenantId workflowId) with
    | some row => return row
    | none =>
      Store.modify fun s => { s with drawn := s.drawn + 1 }
      let id ← Store.read fun s => uuid.text s.drawn
      let row := requestedRun id tenantId workflowId dedupeKey now
      Store.modify fun s => { s with runs := s.runs.set (key tenantId workflowId) row }
      Store.require (acceptable tenantId workflowId dedupeKey = true) .zod
      return row

/-- One conditional update: the row must be in `fromState` and not terminal. -/
def transitionState (now : Instant) (tenantId workflowId : String)
    (fromState toState : WorkflowRunState) (failureCode : Option String) :
    Store DbError WorkflowRunStore (Option WorkflowRun) := do
  Store.require (isUuid tenantId = true) .zod
  let row ← Store.read fun s => (s.find tenantId workflowId).filter fun r =>
    r.state == fromState && !r.state.terminal
  match row with
  | none => return none
  | some row =>
    let updated := moved row toState failureCode now
    Store.modify fun s => { s with runs := s.runs.set (key tenantId workflowId) updated }
    return some updated

def getByWorkflowId (tenantId workflowId : String) :
    Store DbError WorkflowRunStore (Option WorkflowRun) := do
  Store.require (isUuid tenantId = true) .zod
  Store.read (·.find tenantId workflowId)

end PostgresWorkflowRunRepository

namespace WorkflowRunStore

/-- What a repository call does to the runs. -/
inductive Effect (s t : WorkflowRunStore) : Prop where
  | kept (same : t.runs = s.runs)
  | requested (k : String) (run : WorkflowRun) (fresh : s.runs.get k = none)
      (state : run.state = .requested) (written : t.runs = s.runs.set k run)
  | moved (k : String) (run next : WorkflowRun) (found : s.runs.get k = some run)
      (unfinished : run.state.terminal = false) (written : t.runs = s.runs.set k next)

/-- A terminal run is there for good. -/
theorem Effect.terminal_kept {s t : WorkflowRunStore} (h : Effect s t) {k : String}
    {run : WorkflowRun} (found : s.runs.get k = some run) (terminal : run.state.terminal = true) :
    t.runs.get k = some run := by
  cases h with
  | kept same => rw [same, found]
  | requested j new fresh state written =>
    rw [written, InsertionMap.get_set, if_neg, found]
    rintro rfl
    rw [found] at fresh
    cases fresh
  | moved j old next other unfinished written =>
    rw [written, InsertionMap.get_set, if_neg, found]
    rintro rfl
    rw [found] at other
    cases other
    rw [terminal] at unfinished
    cases unfinished

/-- What a compare-and-swap does: it moves the run from the expected state, or
leaves every run alone and returns none. -/
def Swaps (tenantId workflowId : String) (fromState toState : WorkflowRunState)
    (s : WorkflowRunStore) (x : Except DbError (Option WorkflowRun)) (t : WorkflowRunStore) :
    Prop :=
  (t = s ∧ ∀ r, x ≠ .ok (some r)) ∨
  ∃ run failureCode now, s.find tenantId workflowId = some run ∧ run.state = fromState ∧
    run.state.terminal = false ∧ x = .ok (some (moved run toState failureCode now)) ∧
    t.runs = s.runs.set (key tenantId workflowId) (moved run toState failureCode now)

theorem Swaps.effect {tenantId workflowId : String} {fromState toState : WorkflowRunState}
    {s t : WorkflowRunStore} {x : Except DbError (Option WorkflowRun)}
    (h : Swaps tenantId workflowId fromState toState s x t) : Effect s t := by
  rcases h with ⟨rfl, _⟩ | ⟨run, code, now, found, _, unfinished, _, written⟩
  · exact .kept rfl
  · exact .moved _ run _ found unfinished written

end WorkflowRunStore

theorem InMemoryWorkflowRunRepository.transitionState_swaps (now : Instant)
    (tenantId workflowId : String) (fromState toState : WorkflowRunState)
    (failureCode : Option String) (s : WorkflowRunStore) :
    (transitionState now tenantId workflowId fromState toState failureCode).Ends s
      (Swaps tenantId workflowId fromState toState s) := by
  refine Store.Ends.read_bind ?_
  split
  · exact Store.Ends.pure (Or.inl ⟨rfl, by simp⟩)
  · rename_i run found
    refine Store.Ends.ite (fun _ => Store.Ends.pure (Or.inl ⟨rfl, by simp⟩)) fun h => ?_
    simp only [ne_eq, not_or, Decidable.not_not] at h
    refine Store.Ends.modify_bind (Store.Ends.pure (Or.inr ⟨run, failureCode, now, found, h.1, ?_,
      rfl, rfl⟩))
    cases hs : run.state with
    | completed => exact absurd hs h.2.1
    | failed => exact absurd hs h.2.2
    | requested => rfl
    | in_progress => rfl

theorem PostgresWorkflowRunRepository.transitionState_swaps (now : Instant)
    (tenantId workflowId : String) (fromState toState : WorkflowRunState)
    (failureCode : Option String) (s : WorkflowRunStore) :
    (transitionState now tenantId workflowId fromState toState failureCode).Ends s
      (Swaps tenantId workflowId fromState toState s) := by
  refine Store.Ends.require_bind (fun _ => Or.inl ⟨rfl, by simp⟩) fun _ => ?_
  refine Store.Ends.read_bind ?_
  split
  · exact Store.Ends.pure (Or.inl ⟨rfl, by simp⟩)
  · rename_i run hit
    obtain ⟨found, matches_⟩ := Option.filter_eq_some_iff.mp hit
    simp only [Bool.and_eq_true, beq_iff_eq, Bool.not_eq_true'] at matches_
    exact Store.Ends.modify_bind (Store.Ends.pure (Or.inr ⟨run, failureCode, now, found, matches_.1,
      matches_.2, rfl, rfl⟩))

/-- A request finds the run of its key or stores a requested one there; the
run it returns is the one stored. -/
def WorkflowRunStore.Requests (tenantId workflowId : String) (s : WorkflowRunStore)
    (x : Except DbError WorkflowRun) (t : WorkflowRunStore) : Prop :=
  (t.runs = s.runs ∧ ∀ r, x = .ok r → s.find tenantId workflowId = some r) ∨
  ∃ run, s.find tenantId workflowId = none ∧ run.state = .requested ∧ x = .ok run ∧
    t.runs = s.runs.set (key tenantId workflowId) run

theorem WorkflowRunStore.Requests.effect {tenantId workflowId : String} {s t : WorkflowRunStore}
    {x : Except DbError WorkflowRun} (h : Requests tenantId workflowId s x t) : Effect s t := by
  rcases h with ⟨same, _⟩ | ⟨run, fresh, state, _, written⟩
  · exact .kept same
  · exact .requested _ run fresh state written

theorem InMemoryWorkflowRunRepository.upsertRequested_requests (uuid : Supply) (now : Instant)
    (tenantId workflowId dedupeKey : String) (s : WorkflowRunStore) :
    (upsertRequested uuid now tenantId workflowId dedupeKey).Ends s
      (Requests tenantId workflowId s) := by
  refine Store.Ends.read_bind ?_
  split
  · rename_i run found
    refine Store.Ends.pure (Or.inl ⟨rfl, ?_⟩)
    rintro r ⟨⟩
    exact found
  · rename_i fresh
    refine Store.Ends.modify_bind (Store.Ends.read_bind ?_)
    refine Store.Ends.require_bind (fun _ => Or.inl ⟨rfl, by simp⟩) fun _ => ?_
    exact Store.Ends.modify_bind (Store.Ends.pure (Or.inr ⟨_, fresh, rfl, rfl, rfl⟩))

theorem PostgresWorkflowRunRepository.upsertRequested_requests (uuid : Supply) (now : Instant)
    (tenantId workflowId dedupeKey : String) (s : WorkflowRunStore) :
    (upsertRequested uuid now tenantId workflowId dedupeKey).Ends s
      (Requests tenantId workflowId s) := by
  refine Store.Ends.require_bind (fun _ => Or.inl ⟨rfl, by simp⟩) fun _ => ?_
  refine Store.Ends.transaction (R := fun x t =>
    ∀ r, x = .ok r → Requests tenantId workflowId s (.ok r) t) ?_ (fun r t h => h r rfl)
    (fun e _ _ => Or.inl ⟨rfl, by simp⟩)
  refine Store.Ends.read_bind ?_
  split
  · rename_i run found
    refine Store.Ends.pure ?_
    rintro r ⟨⟩
    refine Or.inl ⟨rfl, ?_⟩
    rintro r ⟨⟩
    exact found
  · rename_i fresh
    refine Store.Ends.modify_bind (Store.Ends.read_bind (Store.Ends.modify_bind ?_))
    refine Store.Ends.require_bind (fun _ => by simp) fun _ => Store.Ends.pure ?_
    rintro r ⟨⟩
    exact Or.inr ⟨_, fresh, rfl, rfl, rfl⟩

end VantGrowth.Db
