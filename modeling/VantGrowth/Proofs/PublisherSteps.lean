import VantGrowth.Proofs.ActionCalls
import VantGrowth.Proofs.IncidentFiling
import VantGrowth.Publisher.OutboxPublisher

namespace VantGrowth.Proofs.PublisherSteps
open Db Lib Publisher ActionSteps ActionCalls IncidentFiling

/-- What an operation asks of the external actions. -/
def callOf (clock : Instant) : Op → Call
  | .claimDispatch input => .claim (input.now.getD (.valid clock)) input
  | .claimRow now input => .claim now input
  | .recordDispatchAccepted input | .acceptRow _ input => .settlement input.leaseOwner
  | .scheduleDispatchRetry input | .retryRow _ input => .settlement input.leaseOwner
  | .failDispatch input | .failRow _ input => .settlement input.leaseOwner
  | .recordOutcome _ | .outcomeRow _ _ => .callback
  | _ => .other

/-- What an operation can do to the world. -/
structure Next (d : Deployment) (op : Op) (w v : World) : Prop where
  clock : w.clock ≤ v.clock
  rows : Rows (callOf w.clock op) w.actions v.actions
  sequence : w.actions.sequence ≤ v.actions.sequence
  outbox : Grows w.outbox v.outbox ∨ ∃ tenantId id, op = .markConsumed tenantId id ∧
    InMemoryOutboxRepository.Consumes tenantId id w.outbox v.outbox
  published : w.published <+: v.published
  incidents : Kept d.uuid w.incidents v.incidents

/-- What the answer of an operation tells. -/
def Tells : (op : Op) → World → World → Except PublisherError (Res op) → Prop
  | .now, w, _, .ok now => now = w.clock
  | .listUnconsumed tenantId limit, w, _, .ok events => events = w.outbox.listUnconsumed tenantId limit
  | .markConsumed _ id, _, v, .ok _ => v.outbox.Consumed id
  | .createIncident tenantId params, _, v, .ok _ => ∃ parsed, params.parse = some parsed ∧
      isUuid tenantId = true ∧ (v.incidents.find tenantId parsed.incidentKey).isSome = true
  | .publish subject payload, _, v, .ok _ => (subject, payload) ∈ v.published
  | .claimDispatch input, w, v, .ok (.claimed b) =>
    Granted (input.now.getD (.valid w.clock)) input w.actions v.actions b
  | .claimDispatch input, _, v, .ok (.settled a) => SettledRow input.toDispatchIdentity v.actions a
  | .recordDispatchAccepted input, _, v, .ok a => SettledRow input.toDispatchIdentity v.actions a
  | .failDispatch input, _, v, .ok a => SettledRow input.toDispatchIdentity v.actions a
  | .requireAction identity, _, v, .ok a => Holds v.actions identity a
  | .claimRow now input, w, v, .ok (some b) => Granted now input w.actions v.actions b
  | .acceptRow _ input, _, v, .ok (some b) => SettledRow input.toDispatchIdentity v.actions b
  | .failRow _ input, _, v, .ok (some b) => SettledRow input.toDispatchIdentity v.actions b
  | _, _, _, _ => True

theorem tells_error (op : Op) (w v : World) (e : PublisherError) : Tells op w v (.error e) := by
  cases op <;> trivial

section
variable {d : Deployment} {op : Op} {w : World}

theorem Next.refl (w : World) : Next d op w w :=
  ⟨le_refl _, .kept rfl rfl, Nat.le_refl _, Or.inl (.refl _), List.prefix_rfl, .refl _⟩

/-- A step of the external actions alone. -/
theorem Next.actions {r : InMemoryExternalActionsRepository}
    (step : Step (callOf w.clock op) w.actions r) : Next d op w { w with actions := r } :=
  ⟨le_refl _, step.rows, step.sequence, Or.inl step.outbox, List.prefix_rfl, .refl _⟩

/-- What an operation does apart from the outbox. -/
theorem Next.step {v : World} (next : Next d op w v) :
    Step (callOf w.clock op) w.actions
      { v.actions with outboxRepository := w.actions.outboxRepository } := by
  refine ⟨?_, next.sequence, .refl _⟩
  cases next.rows with
  | kept rows index => exact .kept rows index
  | moved a b stored move rows index => exact .moved a b stored move rows index
  | added a key id tenant state due later rows free index =>
    exact .added a key id tenant state due later rows free index

theorem Next.stored {v : World} (next : Next d op w v) (h : Stored w.actions) : Stored v.actions := by
  have rest := next.step.stored h
  refine ⟨?_, rest.identity, rest.due⟩
  rcases next.outbox with grows | ⟨tenantId, id, _, consumes⟩
  · exact (grows h.outbox).1
  · exact consumes.consistent

/-- An action stays stored, moved at most. -/
theorem Next.row {v : World} (next : Next d op w v) (h : Stored w.actions) {i : String}
    {a : ExternalActionRecord} (found : w.actions.actionsById.get i = some a) :
    ∃ b, v.actions.actionsById.get i = some b ∧ (b = a ∨ Moved a (callOf w.clock op) b) := by
  cases next.rows with
  | kept rows index => exact ⟨a, rows ▸ found, Or.inl rfl⟩
  | moved b c stored move rows index =>
    rw [rows]
    by_cases same : i = b.id
    · subst same
      rw [stored] at found
      cases found
      exact ⟨c, InsertionMap.get_set_self _ _ _, Or.inr move⟩
    · exact ⟨a, (InsertionMap.get_set_other _ same _).trans found, Or.inl rfl⟩
  | added b key id tenant state due later rows free index =>
    have other : i ≠ b.id := by
      rintro rfl
      rw [id, h.fresh (Nat.lt_succ_self _)] at found
      cases found
    rw [rows]
    exact ⟨a, (InsertionMap.get_set_other _ other _).trans found, Or.inl rfl⟩

/-- What an operation does, and what its answer tells. -/
def Ends (d : Deployment) (op : Op) (m : Store PublisherError World (Res op)) : Prop :=
  ∀ w, Stored w.actions → m.Ends w fun x v => Next d op w v ∧ Tells op w v x

theorem remote_ends {m : Store PublisherError World (Res op)} (h : Ends d op m) {w : Faulty World}
    (stored : Stored w.state.actions) :
    (remote m).Ends w fun x v => Next d op w.state v.state ∧ Tells op w.state v.state x := by
  refine Store.Ends.faulty (h w.state stored) (fun _ _ _ done => done) ?_ ?_
  · exact fun _ _ => ⟨.refl _, tells_error op _ _ _⟩
  · exact fun _ _ _ _ done => ⟨done.1, tells_error op _ _ _⟩

theorem onActions_run (call : Instant → ActionStore α)
    {R : Except DbError α → InMemoryExternalActionsRepository → Prop}
    (h : (call w.clock).Ends w.actions R) :
    (onActions call).Ends w fun x v => ∃ y r, R y r ∧ x = y.mapError .repository ∧
      v = { w with actions := r } := by
  refine Store.Ends.read_bind (Store.Ends.zoom (Store.Ends.mapError h fun y r done => ?_)
    fun _ _ k => k)
  exact ⟨y, r, done, rfl, rfl⟩

theorem onActions_ends {call : Instant → ActionStore (Res op)}
    {R : Instant → InMemoryExternalActionsRepository → Except DbError (Res op) →
      InMemoryExternalActionsRepository → Prop}
    (h : ∀ now r, Stored r → (call now).Ends r fun x t => Step (callOf now op) r t ∧ R now r x t)
    (tells : ∀ (w : World) x r, R w.clock w.actions x r →
      Tells op w { w with actions := r } (x.mapError .repository)) :
    Ends d op (onActions call) := by
  intro w stored
  refine (onActions_run _ (h w.clock w.actions stored)).weaken ?_
  rintro x v ⟨y, r, done, rfl, rfl⟩
  exact ⟨.actions done.1, tells w y r done.2⟩

/-- A call of the external actions whose answer tells nothing. -/
theorem onActions_silent (op : Op) {call : Instant → ActionStore (Res op)}
    (tells : ∀ w v x, Tells op w v x)
    (h : ∀ now r, Stored r → (call now).Ends r fun _ t => Step (callOf now op) r t) :
    Ends d op (onActions call) :=
  onActions_ends (R := fun _ _ _ _ => True) (fun now r stored => (h now r stored).weaken
    fun _ _ step => ⟨step, trivial⟩) fun _ _ _ _ => tells _ _ _

/-- The update of a settlement and the incident it may open. -/
theorem withIncident_ends {settled : Store PublisherError World (Option ExternalActionRecord)}
    {phase : FailurePhase}
    {T : InMemoryExternalActionsRepository → Except PublisherError (Option ExternalActionRecord) → Prop}
    (thrown : ∀ r e, T r (.error e))
    (h : settled.Ends w fun x v => Next d op w v ∧ v.incidents = w.incidents ∧ T v.actions x ∧
      ∀ b, x = .ok (some b) → isUuid b.tenantId = true) :
    (withIncident d.uuid phase settled).Ends w fun x v => Next d op w v ∧ T v.actions x := by
  refine Store.Ends.bind h (fun e v done => ⟨done.1, done.2.2.1⟩) fun o v done => ?_
  obtain ⟨next, same, tells, tenant⟩ := done
  cases o with
  | none => exact Store.Ends.pure ⟨next, tells⟩
  | some b =>
    have opened : (onIncidents fun now => IncidentStore.upsertFailure d.uuid now phase b).Ends v
        fun _ u => ∃ s, u = { v with incidents := s } ∧ Kept d.uuid v.incidents s := by
      refine Store.Ends.read_bind (Store.Ends.zoom (Store.Ends.mapError
        (upsertFailure_ends v.incidents v.clock phase (tenant b rfl)) fun x s kept => ?_) fun _ _ k => k)
      exact ⟨s, rfl, kept⟩
    refine Store.Ends.bind opened ?_ ?_
    · rintro e u ⟨s, rfl, kept⟩
      exact ⟨{ next with incidents := same ▸ kept }, thrown _ _⟩
    · rintro _ u ⟨s, rfl, kept⟩
      exact Store.Ends.pure ⟨{ next with incidents := same ▸ kept }, tells⟩

/-- The tenant of a row that came back passed its check. -/
theorem row_tenant {r : InMemoryExternalActionsRepository} {identity : DispatchIdentity}
    {b : ExternalActionRecord} (h : Stored r) (holds : Holds r identity b) :
    isUuid b.tenantId = true :=
  (h.identity _ b (holds.stored h).2).2.1

def World.withOutbox (w : World) (o : InMemoryOutboxRepository) : World :=
  { w with actions := { w.actions with outboxRepository := o } }

theorem onOutbox_run (call : Instant → Store DbError InMemoryOutboxRepository α)
    {R : Except DbError α → InMemoryOutboxRepository → Prop} (h : (call w.clock).Ends w.outbox R) :
    (onOutbox call).Ends w fun x v => ∃ y o, R y o ∧ x = y.mapError .repository ∧
      v = World.withOutbox w o := by
  have run : (Store.zoom (·.outboxRepository) (fun r o => { r with outboxRepository := o })
      (call w.clock) : ActionStore α).Ends w.actions fun y r =>
        ∃ o, R y o ∧ r = { w.actions with outboxRepository := o } := by
    refine Store.Ends.zoom ?_ fun y o done => ⟨o, done, rfl⟩
    exact h
  refine (onActions_run (fun now => Store.zoom (·.outboxRepository)
    (fun r o => { r with outboxRepository := o }) (call now)) run).weaken ?_
  rintro x v ⟨y, r, ⟨o, done, rfl⟩, rfl, rfl⟩
  exact ⟨y, o, done, rfl, rfl⟩

theorem Next.outbox_ {o : InMemoryOutboxRepository} (h : Grows w.outbox o ∨
    ∃ tenantId id, op = .markConsumed tenantId id ∧
      InMemoryOutboxRepository.Consumes tenantId id w.outbox o) :
    Next d op w (World.withOutbox w o) :=
  ⟨le_refl _, .kept rfl rfl, Nat.le_refl _, h, List.prefix_rfl, .refl _⟩

theorem listUnconsumed_ends (tenantId : String) (limit : Nat) :
    Ends d (.listUnconsumed tenantId limit)
      (onOutbox fun _ => listUnconsumed d tenantId limit) := by
  intro w _
  have listed : (listUnconsumed d tenantId limit).Ends w.outbox fun x p => p = w.outbox ∧
      ∀ es, x = .ok es → es = w.outbox.listUnconsumed tenantId limit := by
    refine Store.Ends.require_bind (fun _ => ⟨rfl, by rintro es ⟨⟩⟩) fun _ => ⟨rfl, ?_⟩
    rintro es ⟨⟩
    rfl
  refine (onOutbox_run _ listed).weaken ?_
  rintro x v ⟨y, o, ⟨rfl, answer⟩, rfl, rfl⟩
  refine ⟨.refl w, ?_⟩
  cases y with
  | error e => trivial
  | ok es => exact answer es rfl

theorem markConsumed_ends (tenantId : String) (id : Nat) :
    Ends d (.markConsumed tenantId id)
      (onOutbox fun now => InMemoryOutboxRepository.markConsumed tenantId id now) := by
  intro w stored
  have marked : (InMemoryOutboxRepository.markConsumed tenantId id w.clock).Ends w.outbox fun x o =>
      (o = w.outbox ∨ InMemoryOutboxRepository.Consumes tenantId id w.outbox o) ∧
        ∀ e, x = .ok e → o.Consumed id :=
    ⟨InMemoryOutboxRepository.markConsumed_ends stored.outbox tenantId id w.clock,
      InMemoryOutboxRepository.markConsumed_answer w.outbox tenantId id w.clock⟩
  refine (onOutbox_run _ marked).weaken ?_
  rintro x v ⟨y, o, ⟨effect, answer⟩, rfl, rfl⟩
  have told : Tells (.markConsumed tenantId id) w (World.withOutbox w o)
      (y.mapError PublisherError.repository) := by
    cases y with
    | error e => trivial
    | ok e => exact answer e rfl
  rcases effect with same | consumed
  · subst same
    exact ⟨.refl w, told⟩
  · exact ⟨.outbox_ (Or.inr ⟨tenantId, id, rfl, consumed⟩), told⟩

theorem enqueue_ends (command : EnqueueOutboxEvent) :
    Ends d (.enqueue command)
      (onOutbox fun now => InMemoryOutboxRepository.enqueue now command) := by
  intro w _
  have grown : (InMemoryOutboxRepository.enqueue w.clock command).Ends w.outbox
      fun _ o => Grows w.outbox o := grows_of_enqueue w.clock command w.outbox
  refine (onOutbox_run _ grown).weaken ?_
  rintro x v ⟨y, o, grows, rfl, rfl⟩
  exact ⟨.outbox_ (Or.inl grows), by trivial⟩

theorem createIncident_ends (tenantId : String) (params : CreateIncidentParams) :
    Ends d (.createIncident tenantId params)
      (onIncidents fun now => IncidentStore.create d.uuid now tenantId params) := by
  intro w _
  refine Store.Ends.read_bind (Store.Ends.zoom (Store.Ends.mapError
    (create_ends w.incidents w.clock tenantId params) fun x s done => ?_) fun _ _ k => k)
  refine ⟨⟨le_refl _, .kept rfl rfl, Nat.le_refl _, Or.inl (.refl _), List.prefix_rfl, done.1⟩, ?_⟩
  cases x with
  | error e => trivial
  | ok r => exact done.2 r rfl

theorem recordHealth_ends (tenantId : String) (params : RecordComponentHealthParams) :
    Ends d (.recordHealth tenantId params)
      (onHealth fun now => ComponentHealthStore.record d.backend d.uuid now tenantId params) := by
  intro w _
  refine Store.Ends.read_bind (Store.Ends.zoom (R := fun _ _ => True) trivial fun _ s _ => ?_)
  exact ⟨⟨le_refl _, .kept rfl rfl, Nat.le_refl _, Or.inl (.refl _), List.prefix_rfl, .refl _⟩, trivial⟩

theorem publish_ends (subject : String) (payload : Payload) :
    Ends d (.publish subject payload)
      (Store.modify fun w => { w with published := w.published ++ [(subject, payload)] }) := by
  intro w _
  refine ⟨⟨le_refl _, .kept rfl rfl, Nat.le_refl _, Or.inl (.refl _), List.prefix_append _ _,
    .refl _⟩, ?_⟩
  exact List.mem_append_right _ (List.mem_singleton_self _)

theorem dispatch_ends (request : N8n.N8nDispatchRequest) : Ends d (.dispatch request) answerDispatch := by
  intro w _
  have moved : ∀ answers, Next d (.dispatch request) w { w with n8n := answers } := fun _ =>
    ⟨le_refl _, .kept rfl rfl, Nat.le_refl _, Or.inl (.refl _), List.prefix_rfl, .refl _⟩
  refine Store.Ends.read_bind (Store.Ends.modify_bind ?_)
  cases w.n8n.head? with
  | none => exact Store.Ends.throw ⟨moved _, trivial⟩
  | some result => exact Store.Ends.pure ⟨moved _, trivial⟩

/-- A row's answer, under the errors of the world. -/
def RowTold (Q : InMemoryExternalActionsRepository → ExternalActionRecord → Prop)
    (r : InMemoryExternalActionsRepository) :
    Except PublisherError (Option ExternalActionRecord) → Prop
  | .ok (some b) => Q r b
  | _ => True

/-- A settlement whose transaction opens an incident as well. -/
theorem incidentRow_ends (op : Op) (identity : DispatchIdentity)
    {call : Instant → ActionStore (Option ExternalActionRecord)} {phase : FailurePhase}
    {Q : InMemoryExternalActionsRepository → ExternalActionRecord → Prop}
    (h : ∀ now r, Stored r → (call now).Ends r fun x t => Step (callOf now op) r t ∧ RowAnswer (Q t) x)
    (holds : ∀ r b, Q r b → Holds r identity b) {w : World} (stored : Stored w.actions) :
    (withIncident d.uuid phase (onActions call)).Ends w fun x v =>
      Next d op w v ∧ RowTold Q v.actions x := by
  refine withIncident_ends (T := RowTold Q) (fun _ _ => trivial) ?_
  refine (onActions_run _ (h w.clock w.actions stored)).weaken ?_
  rintro x v ⟨y, r, ⟨step, answer⟩, rfl, rfl⟩
  refine ⟨.actions step, rfl, ?_, ?_⟩
  · cases y with
    | error e => trivial
    | ok o =>
      cases o with
      | none => trivial
      | some b => exact answer
  · rintro b told
    cases y with
    | error e => cases told
    | ok o =>
      cases told
      exact row_tenant (step.stored stored) (holds r b answer)

theorem failRow_ends (at_ : JsDate) (input : FailExternalActionDispatchInput) :
    Ends d (.failRow at_ input) (withIncident d.uuid .dispatch (onActions fun now =>
      PostgresExternalActionsRepository.failRow now at_ input)) := by
  intro w stored
  refine (incidentRow_ends (.failRow at_ input) input.toDispatchIdentity
    (Q := SettledRow input.toDispatchIdentity) (fun now r hr => failRow_step hr now at_ input) (fun _ _ settled => settled.1) stored).weaken ?_
  rintro x v ⟨next, told⟩
  refine ⟨next, ?_⟩
  cases x with
  | error e => trivial
  | ok o => cases o <;> exact told

theorem outcomeRow_ends (at_ : Instant) (input : RecordExternalActionOutcome) :
    Ends d (.outcomeRow at_ input)
      (if input.status = .completed then onActions fun now =>
        PostgresExternalActionsRepository.outcomeRow now at_ input
      else withIncident d.uuid .outcome (onActions fun now =>
        PostgresExternalActionsRepository.outcomeRow now at_ input)) := by
  intro w stored
  refine Store.Ends.ite (fun _ => ?_) fun _ => ?_
  · exact onActions_silent (.outcomeRow at_ input) (fun _ _ _ => trivial) (fun now r hr =>
      (outcomeRow_step hr now at_ input).weaken fun _ _ done => done.1) w stored
  · refine (incidentRow_ends (.outcomeRow at_ input)
      ⟨input.tenantId, input.actionId, input.idempotencyKey⟩ (fun now r hr => outcomeRow_step hr now at_ input) (fun _ _ holds => holds) stored).weaken ?_
    exact fun x v done => ⟨done.1, trivial⟩

theorem requireAction_ends (identity : DispatchIdentity) :
    Ends d (.requireAction identity)
      (onActions fun _ => PostgresExternalActionsRepository.requireAction identity) := by
  refine onActions_ends (R := fun _ _ x t => ∀ a, x = .ok a → Holds t identity a)
    (fun now r hr => ?_) fun w x r told => ?_
  · have found : (InMemoryExternalActionsRepository.find identity >>= pure).Ends r fun x t =>
        Step (callOf now (.requireAction identity)) r t ∧ ∀ a, x = .ok a → Holds t identity a := by
      refine find_holds_bind (fun e => ⟨.refl r, by rintro a ⟨⟩⟩) fun a holds => ⟨.refl r, ?_⟩
      rintro b ⟨⟩
      exact holds
    unfold Store.Ends at found ⊢
    rw [Store.run_bind] at found
    unfold PostgresExternalActionsRepository.requireAction
    generalize (InMemoryExternalActionsRepository.find identity).run r = z at found ⊢
    obtain ⟨x, t⟩ := z
    cases x <;> exact found
  · cases x with
    | error e => trivial
    | ok a => exact told a rfl

theorem told_row {Q : InMemoryExternalActionsRepository → ExternalActionRecord → Prop}
    {r : InMemoryExternalActionsRepository} {x : Except DbError (Option ExternalActionRecord)}
    (answer : RowAnswer (Q r) x) : RowTold Q r (x.mapError PublisherError.repository) := by
  cases x with
  | error e => trivial
  | ok o => cases o <;> exact answer

theorem exec_ends (op : Op) {w : Faulty World} (stored : Stored w.state.actions) :
    (exec d op).Ends w fun x v => Next d op w.state v.state ∧ Tells op w.state v.state x := by
  cases op with
  | now => exact ⟨.refl _, rfl⟩
  | listUnconsumed tenantId limit => exact remote_ends (listUnconsumed_ends tenantId limit) stored
  | markConsumed tenantId id => exact remote_ends (markConsumed_ends tenantId id) stored
  | createIncident tenantId params => exact remote_ends (createIncident_ends tenantId params) stored
  | recordHealth tenantId params => exact remote_ends (recordHealth_ends tenantId params) stored
  | publish subject payload => exact remote_ends (publish_ends subject payload) stored
  | dispatch request => exact remote_ends (dispatch_ends request) stored
  | claimDispatch input =>
    refine remote_ends (onActions_ends (fun now r hr => claim_step hr (fun _ => now) input) ?_) stored
    intro w x r answer
    rcases x with e | claim
    · trivial
    · cases claim <;> exact answer
  | recordDispatchAccepted input =>
    refine remote_ends (onActions_ends (fun now r hr => accept_step hr (fun _ => now) input) ?_) stored
    intro w x r answer
    cases x <;> exact answer
  | scheduleDispatchRetry input =>
    exact remote_ends (onActions_silent (.scheduleDispatchRetry input) (fun _ _ _ => trivial)
      fun now r hr => retry_step hr (fun _ => now) input) stored
  | failDispatch input =>
    refine remote_ends (onActions_ends (fun now r hr => fail_step hr (fun _ => now) input) ?_) stored
    intro w x r answer
    cases x <;> exact answer
  | recordOutcome input =>
    exact remote_ends (onActions_silent (.recordOutcome input) (fun _ _ _ => trivial)
      fun now r hr => outcome_step hr (fun _ => now) input) stored
  | requireAction identity => exact remote_ends (requireAction_ends identity) stored
  | hasEvent id eventKey =>
    exact remote_ends (onActions_silent (.hasEvent id eventKey) (fun _ _ _ => trivial)
      fun now r hr => Store.Ends.read _ (Step.refl r)) stored
  | claimRow at_ input =>
    refine remote_ends (onActions_ends (fun now r hr => claimRow_step hr now at_ input) ?_) stored
    intro w x r answer
    have told := told_row (Q := fun t b => Granted at_ input w.actions t b) answer
    rcases x with e | _ | b <;> exact told
  | acceptRow at_ input =>
    refine remote_ends (onActions_ends (fun now r hr => acceptRow_step hr now at_ input) ?_) stored
    intro w x r answer
    have told := told_row (Q := SettledRow input.toDispatchIdentity) answer
    rcases x with e | _ | b <;> exact told
  | retryRow at_ input =>
    exact remote_ends (onActions_silent (.retryRow at_ input) (fun _ _ _ => trivial)
      fun now r hr => retryRow_step hr now at_ input) stored
  | failRow at_ input => exact remote_ends (failRow_ends at_ input) stored
  | outcomeRow at_ input => exact remote_ends (outcomeRow_ends at_ input) stored
  | enqueueRequested request =>
    exact remote_ends (onActions_silent (.enqueueRequested request) (fun _ _ _ => trivial)
      fun now r _ => request_step d.requestDigest (fun _ => now) request) stored
  | enqueue command => exact remote_ends (enqueue_ends command) stored
  | tick ms =>
    refine ⟨⟨?_, .kept rfl rfl, Nat.le_refl _, Or.inl (.refl _), List.prefix_rfl, .refl _⟩, trivial⟩
    exact Int.le_add_of_nonneg_right (Int.natCast_nonneg ms)
  | disturb faults => exact ⟨.refl _, trivial⟩
  | prepare answers =>
    exact ⟨⟨le_refl _, .kept rfl rfl, Nat.le_refl _, Or.inl (.refl _), List.prefix_rfl, .refl _⟩, trivial⟩

end

end VantGrowth.Proofs.PublisherSteps
