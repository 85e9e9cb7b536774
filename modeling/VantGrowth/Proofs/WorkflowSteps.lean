import VantGrowth.Workflow.CallbackWorker

namespace VantGrowth.Proofs.WorkflowSteps
open Core Db Db.WorkflowRunStore Lib Workflow

/-- The command an operation puts to the outbox. -/
def commandOf : Op → Option EnqueueOutboxEvent
  | .enqueue command | .report command => some command
  | _ => none

/-- What an operation does to the runs and the outbox. -/
structure Step (op : Op) (w v : World) : Prop where
  consistent : v.outbox.Consistent
  events : ∀ e ∈ v.outbox.events,
    (∃ d ∈ w.outbox.events, d.toEnqueueOutboxEvent = e.toEnqueueOutboxEvent) ∨
      commandOf op = some e.toEnqueueOutboxEvent
  finished : ∀ k r, w.runs.runs.get k = some r → r.state.terminal = true →
    v.runs.runs.get k = some r
  ended : ∀ k r, v.runs.runs.get k = some r → r.state.terminal = true →
    w.runs.runs.get k = some r ∨ ∃ tenantId workflowId fromState failureCode,
      op = .transitionState tenantId workflowId fromState r.state failureCode ∧
        key tenantId workflowId = k

theorem Step.still {op : Op} {w v : World} (h : w.outbox.Consistent) (outbox : v.outbox = w.outbox)
    (runs : v.runs.runs = w.runs.runs) : Step op w v where
  consistent := outbox ▸ h
  events e he := Or.inl ⟨e, outbox ▸ he, rfl⟩
  finished k r found _ := by rw [runs, found]
  ended k r found _ := Or.inl (by rw [← runs, found])

/-- An operation on the outbox alone, which it may leave as it was. -/
theorem Step.outbox {op : Op} {w v : World} (consistent : v.outbox.Consistent)
    (runs : v.runs = w.runs)
    (events : ∀ e ∈ v.outbox.events,
      (∃ d ∈ w.outbox.events, d.toEnqueueOutboxEvent = e.toEnqueueOutboxEvent) ∨
        commandOf op = some e.toEnqueueOutboxEvent) : Step op w v where
  consistent := consistent
  events := events
  finished k r found _ := by rw [runs, found]
  ended k r found _ := Or.inl (by rw [← runs, found])

section
variable {w : World}

theorem onRuns_ends {call : Instant → Store DbError WorkflowRunStore α}
    {R : Except DbError α → WorkflowRunStore → Prop} (h : (call w.clock).Ends w.runs R) :
    (onRuns call).Ends w fun x v => ∃ y, R y v.runs ∧ x = y.mapError .repository ∧
      v = { w with runs := v.runs } :=
  ⟨_, h, rfl, rfl⟩

theorem onOutbox_ends {call : Instant → Store DbError InMemoryOutboxRepository α}
    {R : Except DbError α → InMemoryOutboxRepository → Prop} (h : (call w.clock).Ends w.outbox R) :
    (onOutbox call).Ends w fun x v => ∃ y, R y v.outbox ∧ x = y.mapError .repository ∧
      v = { w with outbox := v.outbox } :=
  ⟨_, h, rfl, rfl⟩

theorem choose_ends {d : Deployment} {a b : Store ε σ α} {s : σ} {Q : Except ε α → σ → Prop}
    (inMemory : a.Ends s Q) (postgres : b.Ends s Q) : (d.choose a b).Ends s Q := by
  unfold Deployment.choose
  split
  · exact inMemory
  · exact postgres

/-- A remote call takes its effect or none, and it may be lost either way. -/
theorem remote_ends {m : Store WorkflowError World α} {s : Faulty World}
    {R : Except WorkflowError α → World → Prop} (h : m.Ends s.state R) :
    (remote m).Ends s fun x t => R x t.state ∨
      (∃ f, x = .error (.lost f)) ∧ (t.state = s.state ∨ ∃ y, R y t.state) := by
  refine Store.Ends.faulty h (fun x t fs hr => Or.inl hr) ?_ ?_
  · exact fun f fs => Or.inr ⟨⟨f.message, rfl⟩, Or.inl rfl⟩
  · exact fun f x t fs hr => Or.inr ⟨⟨f.message, rfl⟩, Or.inr ⟨x, hr⟩⟩

theorem mapError_ok {y : Except DbError α} {a : α}
    (h : (Except.ok a : Except WorkflowError α) = y.mapError .repository) : y = .ok a := by
  cases y with
  | error e => cases h
  | ok b =>
    cases h
    rfl

end

theorem sends_events {command : EnqueueOutboxEvent} {o p : InMemoryOutboxRepository}
    (h : InMemoryOutboxRepository.Sends command o p) : ∀ e ∈ p.events,
    (∃ d ∈ o.events, d.toEnqueueOutboxEvent = e.toEnqueueOutboxEvent) ∨
      some command = some e.toEnqueueOutboxEvent := by
  intro e he
  rcases h.events with ⟨same, _⟩ | ⟨new, grown, hc, _, _⟩
  · exact Or.inl ⟨e, same ▸ he, rfl⟩
  · rw [grown] at he
    rcases List.mem_append.mp he with old | he
    · exact Or.inl ⟨e, old, rfl⟩
    · cases List.mem_singleton.mp he
      exact Or.inr (congrArg some hc.symm)

theorem consumes_events {tenantId : String} {id : Nat} {o p : InMemoryOutboxRepository}
    (h : InMemoryOutboxRepository.Consumes tenantId id o p) : ∀ e ∈ p.events,
    ∃ d ∈ o.events, d.toEnqueueOutboxEvent = e.toEnqueueOutboxEvent := by
  obtain ⟨d, at_, found, _, written⟩ := h.event
  intro e he
  obtain ⟨i, hi⟩ := (p.eventsById.mem_values e).mp he
  rw [written, InsertionMap.get_set] at hi
  split at hi
  · cases hi
    exact ⟨d, (o.eventsById.mem_values d).mpr ⟨id, found⟩, rfl⟩
  · exact ⟨e, (o.eventsById.mem_values e).mpr ⟨i, hi⟩, rfl⟩

section
variable (d : Deployment) {s : Faulty World} (h : s.state.outbox.Consistent)
include h

theorem outbox_step {op : Op} {call : Instant → Store DbError InMemoryOutboxRepository α}
    (body : ∀ now, (call now).Ends s.state.outbox fun _ p => p.Consistent ∧ ∀ e ∈ p.events,
      (∃ d ∈ s.state.outbox.events, d.toEnqueueOutboxEvent = e.toEnqueueOutboxEvent) ∨
        commandOf op = some e.toEnqueueOutboxEvent) :
    (remote (onOutbox call)).Ends s fun _ t => Step op s.state t.state := by
  refine (remote_ends (onOutbox_ends (body s.state.clock))).weaken ?_
  have written : ∀ v : World, (v.outbox.Consistent ∧ ∀ e ∈ v.outbox.events,
      (∃ d ∈ s.state.outbox.events, d.toEnqueueOutboxEvent = e.toEnqueueOutboxEvent) ∨
        commandOf op = some e.toEnqueueOutboxEvent) →
      v = { s.state with outbox := v.outbox } → Step op s.state v := by
    intro v hv frame
    have runs : v.runs = s.state.runs := by rw [frame]
    exact .outbox hv.1 runs hv.2
  rintro x t (⟨_, hv, _, frame⟩ | ⟨_, same | ⟨_, _, hv, _, frame⟩⟩)
  · exact written _ hv frame
  · exact .still h (congrArg World.outbox same) (congrArg (·.runs.runs) same)
  · exact written _ hv frame

theorem runs_step {op : Op} {call : Instant → Store DbError WorkflowRunStore α}
    (body : ∀ now, (call now).Ends s.state.runs fun _ t => Effect s.state.runs t ∧
      ∀ k r, t.runs.get k = some r → r.state.terminal = true →
        s.state.runs.runs.get k = some r ∨ ∃ tenantId workflowId fromState failureCode,
          op = .transitionState tenantId workflowId fromState r.state failureCode ∧
            key tenantId workflowId = k) :
    (remote (onRuns call)).Ends s fun _ t => Step op s.state t.state := by
  refine (remote_ends (onRuns_ends (body s.state.clock))).weaken ?_
  have written : ∀ v : World, (Effect s.state.runs v.runs ∧
      ∀ k r, v.runs.runs.get k = some r → r.state.terminal = true →
        s.state.runs.runs.get k = some r ∨ ∃ tenantId workflowId fromState failureCode,
          op = .transitionState tenantId workflowId fromState r.state failureCode ∧
            key tenantId workflowId = k) →
      v = { s.state with runs := v.runs } → Step op s.state v := by
    intro v hv frame
    have outbox : v.outbox = s.state.outbox := by rw [frame]
    exact ⟨outbox ▸ h, fun e he => Or.inl ⟨e, outbox ▸ he, rfl⟩,
      fun k r found terminal => hv.1.terminal_kept found terminal, hv.2⟩
  rintro x t (⟨_, hv, _, frame⟩ | ⟨_, same | ⟨_, _, hv, _, frame⟩⟩)
  · exact written _ hv frame
  · exact .still h (congrArg World.outbox same) (congrArg (·.runs.runs) same)
  · exact written _ hv frame

theorem enqueue_step (command : EnqueueOutboxEvent) {op : Op}
    (puts : commandOf op = some command) :
    (remote (onOutbox fun now => InMemoryOutboxRepository.enqueue now command)).Ends s
      fun _ t => Step op s.state t.state := by
  refine outbox_step h fun now => ?_
  refine (InMemoryOutboxRepository.enqueue_ends h now command).weaken fun _ p sent => ?_
  rcases sent with rfl | sent
  · exact ⟨h, fun e he => Or.inl ⟨e, he, rfl⟩⟩
  · refine ⟨sent.consistent, fun e he => ?_⟩
    rw [puts]
    exact sends_events sent e he

omit h in
theorem swapped_end {op : Op} {tenantId workflowId : String} {fromState toState : WorkflowRunState}
    {code : Option String} (asked : op = .transitionState tenantId workflowId fromState toState code)
    {runs t : WorkflowRunStore} {x : Except DbError (Option WorkflowRun)}
    (swap : Swaps tenantId workflowId fromState toState runs x t) :
    ∀ k r, t.runs.get k = some r → r.state.terminal = true →
      runs.runs.get k = some r ∨ ∃ tenantId workflowId fromState failureCode,
        op = .transitionState tenantId workflowId fromState r.state failureCode ∧
          key tenantId workflowId = k := by
  intro k r found terminal
  rcases swap with ⟨rfl, _⟩ | ⟨run, c, now, _, _, _, _, written⟩
  · exact Or.inl found
  · rw [written, InsertionMap.get_set] at found
    split at found
    · rename_i same
      cases found
      exact Or.inr ⟨tenantId, workflowId, fromState, code, asked, same.symm⟩
    · exact Or.inl found

omit h in
theorem requested_end {op : Op} {tenantId workflowId : String} {runs t : WorkflowRunStore}
    {x : Except DbError WorkflowRun} (request : Requests tenantId workflowId runs x t) :
    ∀ k r, t.runs.get k = some r → r.state.terminal = true →
      runs.runs.get k = some r ∨ ∃ tenantId workflowId fromState failureCode,
        op = .transitionState tenantId workflowId fromState r.state failureCode ∧
          key tenantId workflowId = k := by
  intro k r found terminal
  rcases request with ⟨same, _⟩ | ⟨run, _, state, _, written⟩
  · exact Or.inl (same ▸ found)
  · rw [written, InsertionMap.get_set] at found
    split at found
    · cases found
      rw [state] at terminal
      cases terminal
    · exact Or.inl found

omit h in
theorem swap_ends (tenantId workflowId : String) (fromState toState : WorkflowRunState)
    (code : Option String) (now : Instant) (runs : WorkflowRunStore) :
    (d.choose
      (InMemoryWorkflowRunRepository.transitionState now tenantId workflowId fromState toState code)
      (PostgresWorkflowRunRepository.transitionState now tenantId workflowId fromState toState
        code)).Ends runs (Swaps tenantId workflowId fromState toState runs) :=
  choose_ends
    (InMemoryWorkflowRunRepository.transitionState_swaps now tenantId workflowId fromState toState
      code runs)
    (PostgresWorkflowRunRepository.transitionState_swaps now tenantId workflowId fromState toState
      code runs)

omit h in
theorem request_ends (tenantId workflowId dedupeKey : String) (now : Instant)
    (runs : WorkflowRunStore) :
    (d.choose
      (InMemoryWorkflowRunRepository.upsertRequested d.uuid now tenantId workflowId dedupeKey)
      (PostgresWorkflowRunRepository.upsertRequested d.uuid now tenantId workflowId
        dedupeKey)).Ends runs (Requests tenantId workflowId runs) :=
  choose_ends
    (InMemoryWorkflowRunRepository.upsertRequested_requests d.uuid now tenantId workflowId dedupeKey
      runs)
    (PostgresWorkflowRunRepository.upsertRequested_requests d.uuid now tenantId workflowId dedupeKey
      runs)

omit h in
theorem lookup_ends (tenantId workflowId : String) (runs : WorkflowRunStore) :
    (d.choose (InMemoryWorkflowRunRepository.getByWorkflowId tenantId workflowId)
      (PostgresWorkflowRunRepository.getByWorkflowId tenantId workflowId)).Ends runs
      fun x t => t = runs ∧ ∀ r, x = .ok r → r = runs.find tenantId workflowId := by
  refine choose_ends (Store.Ends.read _ ⟨rfl, ?_⟩) ?_
  · rintro r ⟨⟩
    rfl
  · refine Store.Ends.require_bind (fun _ => ⟨rfl, by simp⟩) fun _ => Store.Ends.read _ ⟨rfl, ?_⟩
    rintro r ⟨⟩
    rfl

theorem exec_step (op : Op) : (exec d op).Ends s fun _ t => Step op s.state t.state := by
  cases op with
  | now => exact .still h rfl rfl
  | getByWorkflowId tenantId workflowId =>
    refine runs_step h fun now => (lookup_ends d tenantId workflowId _).weaken ?_
    rintro x t ⟨rfl, _⟩
    exact ⟨.kept rfl, fun k r found _ => Or.inl found⟩
  | upsertRequested tenantId workflowId dedupeKey =>
    refine runs_step h fun now => (request_ends d tenantId workflowId dedupeKey now _).weaken ?_
    exact fun x t request => ⟨request.effect, requested_end request⟩
  | transitionState tenantId workflowId fromState toState code =>
    refine runs_step h fun now =>
      (swap_ends d tenantId workflowId fromState toState code now _).weaken ?_
    exact fun x t swap => ⟨swap.effect, swapped_end rfl swap⟩
  | enqueue command => exact enqueue_step h command rfl
  | report command => exact enqueue_step h command rfl
  | external call tenantId => exact .still h rfl rfl
  | getTenantProvisioningRuntimeState tenantId workflowId =>
    refine Store.Ends.sound (R := fun _ v =>
      v.outbox = s.state.outbox ∧ v.runs.runs = s.state.runs.runs) ?_
      fun x v same => .still h same.1 same.2
    refine Store.Ends.read_bind (Store.Ends.modify_bind ?_)
    split
    · exact Store.Ends.pure ⟨rfl, rfl⟩
    · exact Store.Ends.throw ⟨rfl, rfl⟩
  | tick ms => exact .still h rfl rfl
  | markConsumed tenantId eventId =>
    refine outbox_step h fun now => ?_
    refine (InMemoryOutboxRepository.markConsumed_ends h tenantId eventId now).weaken ?_
    rintro x p (rfl | consumed)
    · exact ⟨h, fun e he => Or.inl ⟨e, he, rfl⟩⟩
    · exact ⟨consumed.consistent, fun e he => Or.inl (consumes_events consumed e he)⟩
  | disturb faults => exact .still h rfl rfl
  | prepare external runtime => exact .still h rfl rfl

omit h in
/-- A swap that answers with a run found one it could move. -/
theorem swap_answer {tenantId workflowId : String} {fromState toState : WorkflowRunState}
    {code : Option String} {r : WorkflowRun}
    (answered : ((exec d (.transitionState tenantId workflowId fromState toState code)).run s).1 =
      .ok (some r)) :
    ∃ run next, s.state.runs.find tenantId workflowId = some run ∧ run.state = fromState ∧
      run.state.terminal = false ∧ next.state = toState ∧
      ((exec d (.transitionState tenantId workflowId fromState toState code)).run s).2.state.runs.runs =
        s.state.runs.runs.set (key tenantId workflowId) next := by
  have ends : (exec d (.transitionState tenantId workflowId fromState toState code)).Ends s _ :=
    remote_ends (onRuns_ends
      (swap_ends d tenantId workflowId fromState toState code s.state.clock s.state.runs))
  rcases ends with ⟨y, swap, hx, _⟩ | ⟨⟨f, hx⟩, _⟩
  · rw [answered] at hx
    rcases swap with ⟨_, none_⟩ | ⟨run, c, now, found, expected, unfinished, hy, written⟩
    · exact absurd (mapError_ok hx) (none_ r)
    · exact ⟨run, _, found, expected, unfinished, rfl, written⟩
  · rw [answered] at hx
    cases hx

end

end VantGrowth.Proofs.WorkflowSteps
