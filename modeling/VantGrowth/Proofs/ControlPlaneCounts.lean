import VantGrowth.Api.ControlPlane
import VantGrowth.Proofs.ApprovalQueue

namespace VantGrowth.Proofs.ControlPlaneCounts
open Api ApprovalQueue Db Lib

def signalsSince (s : InMemorySignalEventsRepository) (tenantId : String) (since : Instant) : Nat :=
  s.records.countP fun r => r.tenantId == tenantId && since ≤ r.createdAt

/-- The stored events that wait for a decision, published or not. -/
def waiting (o : InMemoryOutboxRepository) (f : InMemoryApprovalFeedbackRepository) (tenantId : String) :
    Nat :=
  o.events.countP fun e => e.tenantId == tenantId && approvalEventTypes.contains e.eventType &&
    undecided (f.selected tenantId (some e.eventType)) e

def unpublished (o : InMemoryOutboxRepository) (tenantId : String) : Nat :=
  o.events.countP fun e => e.tenantId == tenantId && e.consumedAt.isNone

def decisionsSince (f : InMemoryApprovalFeedbackRepository) (tenantId : String) (since : Instant)
    (p : FeedbackAction → Bool) : Nat :=
  f.rows.countP fun r => r.tenantId == tenantId && since ≤ r.createdAt && p r.action

def components (s : ComponentHealthStore) (tenantId : String) : List String :=
  ((s.records.values.filter (·.tenantId == tenantId)).map (·.componentId)).dedup

/-- The components whose current record passes. -/
def componentsNow (s : ComponentHealthStore) (tenantId : String) (p : ComponentHealthRecord → Bool) : Nat :=
  (components s tenantId).countP fun componentId => (s.current tenantId componentId).any p

def incidentsNow (s : IncidentStore) (tenantId : String) (p : IncidentRecord → Bool) : Nat :=
  s.recordsById.values.countP fun r => r.tenantId == tenantId && p r

def experimentsNow (r : InMemoryExperimentRepository) (tenantId : String) (p : ExperimentStatus → Bool) :
    Nat :=
  r.experimentsById.values.countP fun e => e.tenantId == tenantId && p e.status

def proposalsNow (s : LearningProposalStore π) (tenantId : String) (p : LearningProposalStatus → Bool) :
    Nat :=
  s.recordsById.values.countP fun r => r.tenantId == tenantId && p r.status

def weekBefore (now : Instant) : Instant := now - 7 * 24 * 60 * 60 * 1000

/-- Every count of an available source that is not flagged is the count over
what is stored. -/
structure ExactCounts (deps : ControlPlaneRouteDependencies π) (tenantId : String) (now : Instant)
    (r : ControlPlaneSummary) : Prop where
  signals : ∀ s, deps.signalEventsRepository = some (.up s) → r.dataSources.signals = .available →
    r.signals.today = signalsSince s tenantId (startOfUtcDay now)
  pending : ∀ o f, deps.outboxRepository = some (.up o) → deps.approvalFeedbackRepository = some (.up f) →
    r.dataSources.outbox = .available → r.dataSources.approvals = .available →
    r.approvals.pendingIsLowerBound = false → r.approvals.decisionScanTruncated = false →
    r.approvals.pending = waiting o f tenantId
  decided : ∀ f, deps.approvalFeedbackRepository = some (.up f) → r.dataSources.approvals = .available →
    r.approvals.decisionScanTruncated = false →
    r.approvals.approvedLastSevenDays = decisionsSince f tenantId (weekBefore now) approves ∧
      r.approvals.rejectedLastSevenDays =
        decisionsSince f tenantId (weekBefore now) (· == .rejected)
  execution : ∀ o, deps.outboxRepository = some (.up o) → r.dataSources.outbox = .available →
    r.execution.pendingOutboxEventsIsLowerBound = false →
    r.execution.pendingOutboxEvents = unpublished o tenantId
  health : ∀ s, deps.componentHealthRepository = some (.up s) →
    r.dataSources.componentHealth = .available → r.health.componentsIsLowerBound = false →
    r.health.components = (components s tenantId).length ∧
      r.health.degraded = componentsNow s tenantId (·.state == .degraded) ∧
      r.health.recovering = componentsNow s tenantId (·.state == .recovering) ∧
      r.health.quarantined = componentsNow s tenantId (·.state == .quarantined) ∧
      r.health.externalActionsBlocked = componentsNow s tenantId (!·.allowExternalActions)
  incidents : ∀ s, deps.incidentRepository = some (.up s) → r.dataSources.incidents = .available →
    (r.incidents.openIsLowerBound = false →
      r.incidents.open_ = incidentsNow s tenantId fun i => isOpenIncident i.status) ∧
    (r.incidents.criticalOpenIsLowerBound = false →
      r.incidents.criticalOpen =
        incidentsNow s tenantId fun i => isOpenIncident i.status && i.severity == .critical)
  experiments : ∀ s, deps.experimentRepository = some (.up s) → r.dataSources.experiments = .available →
    r.experiments.total = experimentsNow s tenantId (fun _ => true) ∧
      r.experiments.running = experimentsNow s tenantId (· == .running) ∧
      r.experiments.paused = experimentsNow s tenantId (· == .paused) ∧
      r.experiments.concluded = experimentsNow s tenantId (· == .concluded) ∧
      r.experiments.promoted = experimentsNow s tenantId (· == .promoted) ∧
      r.experiments.rolledBack = experimentsNow s tenantId (· == .rolled_back)
  learning : ∀ s, deps.learningProposalRepository = some (.up s) →
    r.dataSources.learningProposals = .available →
    r.learning.total = proposalsNow s tenantId (fun _ => true) ∧
      r.learning.awaitingEvidence = proposalsNow s tenantId (· == .awaiting_evidence) ∧
      r.learning.evaluating = proposalsNow s tenantId (· == .evaluating) ∧
      r.learning.requiresApproval = proposalsNow s tenantId (· == .requires_approval) ∧
      r.learning.promoted = proposalsNow s tenantId (· == .promoted) ∧
      r.learning.rolledBack = proposalsNow s tenantId (· == .rolled_back)

/-- While neither scan is full, an event that waits for a decision is not
published yet, and no decision on another type is written like one on it. -/
def WaitsUnpublished (deps : ControlPlaneRouteDependencies π) (tenantId : String) : Prop :=
  ∀ o f, deps.outboxRepository = some (.up o) → deps.approvalFeedbackRepository = some (.up f) →
    unpublished o tenantId < 500 → (f.selected tenantId none).length < 1000 →
    ∀ e ∈ o.events, e.tenantId = tenantId → e.eventType ∈ approvalEventTypes →
      undecided (f.selected tenantId (some e.eventType)) e = true →
      e.consumedAt = none ∧ ∀ issueId, extractIssueId e.payload = some issueId →
        ∀ d ∈ f.selected tenantId none,
          decisionKey d.outputType d.issueId ≠ decisionKey e.eventType issueId

section
variable {p q : α → Bool} {xs : List α} {limit : Nat}

theorem countP_eq_iff (sub : ∀ x ∈ xs, p x = true → q x = true) :
    xs.countP p = xs.countP q ↔ ∀ x ∈ xs, q x = true → p x = true := by
  have within : xs.countP p = (xs.filter q).countP p := by
    rw [List.countP_filter]
    apply List.countP_congr
    intro x member
    rw [Bool.and_eq_true]
    exact ⟨fun holds => ⟨holds, sub x member holds⟩, fun holds => holds.1⟩
  rw [within, List.countP_eq_length_filter (p := q), List.countP_eq_length]
  simp only [List.mem_filter, and_imp]

/-- A sorted scan that its limit did not cut holds every element once. -/
theorem scan_whole {r : α → α → Prop} [DecidableRel r]
    (short : ((xs.insertionSort r).take limit).length ≠ limit) :
    ((xs.insertionSort r).take limit).Perm xs := by
  have whole : (xs.insertionSort r).length ≤ limit := by
    rw [List.length_take] at short
    omega
  rw [List.take_of_length_le whole]
  exact List.perm_insertionSort r xs

theorem scan_full {r : α → α → Prop} [DecidableRel r] :
    ((xs.insertionSort r).take limit).length = limit ↔ limit ≤ xs.length := by
  rw [List.length_take, List.length_insertionSort]
  omega

theorem scan_count {r : α → α → Prop} [DecidableRel r]
    (short : ((xs.insertionSort r).take limit).length ≠ limit) (p : α → Bool) :
    (((xs.insertionSort r).take limit).filter p).length = xs.countP p := by
  rw [← List.countP_eq_length_filter]
  exact (scan_whole short).countP_eq p

end

section
variable {deps : ControlPlaneRouteDependencies π} {o : InMemoryOutboxRepository}
  {f : InMemoryApprovalFeedbackRepository} {tenantId : String} {now : Instant}

theorem awaits_iff {decisions : List ApprovalFeedback} {e : StoredOutboxEvent} :
    awaitsApproval decisions e = true ↔ e.eventType ∈ approvalEventTypes ∧
      ∀ issueId, extractIssueId e.payload = some issueId → ∀ d ∈ decisions,
        decisionKey d.outputType d.issueId ≠ decisionKey e.eventType issueId := by
  unfold awaitsApproval
  cases extractIssueId e.payload with
  | none => simp
  | some issueId => simp

theorem undecided_iff {decisions : List ApprovalFeedback} {e : StoredOutboxEvent} :
    undecided decisions e = true ↔ ∀ issueId, extractIssueId e.payload = some issueId →
      ∀ d ∈ decisions, d.issueId ≠ issueId := by
  unfold undecided
  cases extractIssueId e.payload with
  | none => simp
  | some issueId => simp

theorem selected_type {outputType : String} {d : ApprovalFeedback}
    (member : d ∈ f.selected tenantId (some outputType)) :
    d ∈ f.selected tenantId none ∧ d.outputType = outputType := by
  simpa [InMemoryApprovalFeedbackRepository.selected, and_assoc] using member

/-- What the route counts as pending is undecided. -/
theorem awaits_undecided {e : StoredOutboxEvent}
    (awaits : awaitsApproval (f.selected tenantId none) e = true) :
    undecided (f.selected tenantId (some e.eventType)) e = true := by
  apply undecided_iff.mpr
  intro issueId named d member same
  obtain ⟨there, type⟩ := selected_type member
  exact (awaits_iff.mp awaits).2 issueId named d there (by rw [type, same])

theorem awaits_congr {decisions others : List ApprovalFeedback} (same : decisions.Perm others)
    (e : StoredOutboxEvent) : awaitsApproval decisions e = awaitsApproval others e := by
  rw [Bool.eq_iff_iff, awaits_iff, awaits_iff]
  simp only [same.mem_iff]

/-- The count of the route over what is stored, and when it is all that waits. -/
theorem pending_iff :
    ((o.events.filter fun e => e.tenantId == tenantId && e.consumedAt.isNone).countP
        (awaitsApproval (f.selected tenantId none))) = waiting o f tenantId ↔
      ∀ e ∈ o.events, e.tenantId = tenantId → e.eventType ∈ approvalEventTypes →
        undecided (f.selected tenantId (some e.eventType)) e = true →
        e.consumedAt = none ∧ ∀ issueId, extractIssueId e.payload = some issueId →
          ∀ d ∈ f.selected tenantId none,
            decisionKey d.outputType d.issueId ≠ decisionKey e.eventType issueId := by
  rw [List.countP_filter, waiting, countP_eq_iff]
  · apply forall₂_congr
    intro e _
    simp only [Bool.and_eq_true, beq_iff_eq, List.contains_iff_mem, awaits_iff,
      Option.isNone_iff_eq_none]
    constructor
    · intro within tenant type clear
      obtain ⟨⟨_, apart⟩, _, unread⟩ := within ⟨⟨tenant, type⟩, clear⟩
      exact ⟨unread, apart⟩
    · intro within ⟨⟨tenant, type⟩, clear⟩
      obtain ⟨unread, apart⟩ := within tenant type clear
      exact ⟨⟨type, apart⟩, tenant, unread⟩
  · intro e _ counted
    simp only [Bool.and_eq_true] at counted ⊢
    refine ⟨⟨counted.2.1, ?_⟩, awaits_undecided counted.1⟩
    exact List.contains_iff_mem.mpr (awaits_iff.mp counted.1).1

theorem loaded {σ α : Type} {repository : Option (Repository σ)} {fallback : α}
    {load : σ → Except DbError α} {state : σ} {value : α} (up : repository = some (.up state))
    (read : load state = .ok value) : loadOptional repository fallback load = ⟨.available, value⟩ := by
  simp [loadOptional, up, read]

theorem outbox_loaded (up : deps.outboxRepository = some (.up o)) :
    (loadSources deps tenantId now).outbox = ⟨.available, o.listUnconsumed tenantId 500⟩ := by
  simp [loadSources, loadOptional, up, OUTBOX_SCAN_LIMIT]

theorem decisions_loaded (tenant : isUuid tenantId = true)
    (up : deps.approvalFeedbackRepository = some (.up f)) :
    (loadSources deps tenantId now).decisions = ⟨.available,
      ((f.selected tenantId none).insertionSort fun a b => b.createdAt ≤ a.createdAt).take 1000⟩ := by
  apply loaded up
  simp [InMemoryApprovalFeedbackRepository.listRecent, tenant, APPROVAL_DECISION_SCAN_LIMIT]

theorem unpublished_eq : unpublished o tenantId =
    (o.events.filter fun e => e.tenantId == tenantId && e.consumedAt.isNone).length :=
  List.countP_eq_length_filter

/-- The count of pending approvals is exact exactly when what waits is unpublished. -/
theorem pending_exact (now : Instant) (tenant : isUuid tenantId = true) :
    (∀ o f, deps.outboxRepository = some (.up o) → deps.approvalFeedbackRepository = some (.up f) →
      ((loadSources deps tenantId now).approvalCounts now).pendingIsLowerBound = false →
      ((loadSources deps tenantId now).approvalCounts now).decisionScanTruncated = false →
      ((loadSources deps tenantId now).approvalCounts now).pending = waiting o f tenantId) ↔
    WaitsUnpublished deps tenantId := by
  unfold WaitsUnpublished
  apply forall_congr'
  intro o
  apply forall_congr'
  intro f
  apply forall_congr'
  intro queue
  apply forall_congr'
  intro reviews
  have lower : ((loadSources deps tenantId now).approvalCounts now).pendingIsLowerBound = false ↔
      unpublished o tenantId < 500 := by
    simp only [LoadedSources.approvalCounts, outbox_loaded queue, OUTBOX_SCAN_LIMIT,
      InMemoryOutboxRepository.listUnconsumed, beq_eq_false_iff_ne, ne_eq, scan_full, unpublished_eq]
    omega
  have truncated : ((loadSources deps tenantId now).approvalCounts now).decisionScanTruncated = false ↔
      (f.selected tenantId none).length < 1000 := by
    simp only [LoadedSources.approvalCounts, decisions_loaded tenant reviews,
      APPROVAL_DECISION_SCAN_LIMIT, beq_eq_false_iff_ne, ne_eq, scan_full]
    omega
  rw [lower, truncated]
  apply forall_congr'
  intro few
  apply forall_congr'
  intro short
  have counted : ((loadSources deps tenantId now).approvalCounts now).pending =
      (o.events.filter fun e => e.tenantId == tenantId && e.consumedAt.isNone).countP
        (awaitsApproval (f.selected tenantId none)) := by
    have uncut : (((f.selected tenantId none).insertionSort
        fun a b => b.createdAt ≤ a.createdAt).take 1000).length ≠ 1000 := by
      rw [ne_eq, scan_full]
      omega
    have decisions := scan_whole uncut
    simp only [LoadedSources.approvalCounts, outbox_loaded queue, decisions_loaded tenant reviews,
      InMemoryOutboxRepository.listUnconsumed]
    rw [scan_count]
    · apply List.countP_congr
      intro e _
      rw [awaits_congr decisions]
    · rw [ne_eq, scan_full, ← unpublished_eq]
      omega
  rw [counted]
  exact pending_iff

theorem decided_exact (tenant : isUuid tenantId = true)
    (up : deps.approvalFeedbackRepository = some (.up f))
    (whole : ((loadSources deps tenantId now).approvalCounts now).decisionScanTruncated = false) :
    ((loadSources deps tenantId now).approvalCounts now).approvedLastSevenDays =
        decisionsSince f tenantId (weekBefore now) approves ∧
      ((loadSources deps tenantId now).approvalCounts now).rejectedLastSevenDays =
        decisionsSince f tenantId (weekBefore now) (· == .rejected) := by
  simp only [LoadedSources.approvalCounts, decisions_loaded tenant up, APPROVAL_DECISION_SCAN_LIMIT,
    beq_eq_false_iff_ne, ne_eq] at whole ⊢
  have counts : ∀ p : FeedbackAction → Bool,
      (((((f.selected tenantId none).insertionSort fun a b => b.createdAt ≤ a.createdAt).take 1000).filter
        fun d => weekBefore now ≤ d.createdAt).filter fun d => p d.action).length =
        decisionsSince f tenantId (weekBefore now) p := by
    intro p
    rw [List.filter_filter, scan_count whole, decisionsSince, InMemoryApprovalFeedbackRepository.selected,
      List.countP_filter]
    apply List.countP_congr
    intro d _
    simp only [Option.all_none, Bool.and_true, Bool.and_eq_true]
    tauto
  exact ⟨counts approves, counts (· == .rejected)⟩

theorem incidents_exact (tenant : isUuid tenantId = true) {s : IncidentStore}
    (up : deps.incidentRepository = some (.up s)) :
    ((loadSources deps tenantId now).incidentCounts.openIsLowerBound = false →
      (loadSources deps tenantId now).incidentCounts.open_ =
        incidentsNow s tenantId fun i => isOpenIncident i.status) ∧
    ((loadSources deps tenantId now).incidentCounts.criticalOpenIsLowerBound = false →
      (loadSources deps tenantId now).incidentCounts.criticalOpen =
        incidentsNow s tenantId fun i => isOpenIncident i.status && i.severity == .critical) := by
  have listed : (loadSources deps tenantId now).incidents = ⟨.available,
      ((s.recordsById.values.filter (·.tenantId == tenantId)).insertionSort
        fun a b => b.openedAt ≤ a.openedAt).take 100⟩ := by
    apply loaded up
    simp [IncidentStore.listRecent, parseTenantId, tenant, normalizeLimit, CONTROL_PLANE_LIST_LIMIT]
    rfl
  simp only [LoadedSources.incidentCounts, listed, CONTROL_PLANE_LIST_LIMIT, beq_eq_false_iff_ne, ne_eq]
  constructor
  · intro whole
    rw [scan_count whole, incidentsNow, List.countP_filter]
    apply List.countP_congr
    intro i _
    simp only [Bool.and_eq_true]
    tauto
  · intro whole
    rw [List.filter_filter, scan_count whole, incidentsNow, List.countP_filter]
    apply List.countP_congr
    intro i _
    simp only [Bool.and_eq_true]
    tauto

theorem current_eq (s : ComponentHealthStore) (tenantId componentId : String) :
    s.current tenantId componentId =
      (ComponentHealthStore.latestByComponent tenantId s.records.values).get componentId := by
  rw [ComponentHealthStore.latestByComponent_get, ← head_insertionSort]
  rfl

theorem mem_components (s : ComponentHealthStore) (tenantId componentId : String) :
    componentId ∈ components s tenantId ↔
      ((ComponentHealthStore.latestByComponent tenantId s.records.values).get componentId).isSome = true := by
  rw [ComponentHealthStore.latestByComponent_get, Option.isSome_iff_ne_none, ne_eq, leading_eq_none]
  simp [components, List.filter_eq_nil_iff, and_assoc]

theorem health_exact (tenant : isUuid tenantId = true) {s : ComponentHealthStore}
    (up : deps.componentHealthRepository = some (.up s))
    (whole : (loadSources deps tenantId now).healthCounts.componentsIsLowerBound = false) :
    (loadSources deps tenantId now).healthCounts.components = (components s tenantId).length ∧
      ∀ p, ((loadSources deps tenantId now).componentHealth.value.filter p).length =
        componentsNow s tenantId p := by
  have listed : (loadSources deps tenantId now).componentHealth = ⟨.available,
      ((ComponentHealthStore.latestByComponent tenantId s.records.values).values.insertionSort
        fun a b => b.observed ≤ a.observed).take 100⟩ := by
    apply loaded up
    simp [ComponentHealthStore.listLatest, parseTenantId, tenant, normalizeLimit, CONTROL_PLANE_LIST_LIMIT]
    rfl
  simp only [LoadedSources.healthCounts, listed, CONTROL_PLANE_LIST_LIMIT, beq_eq_false_iff_ne, ne_eq]
    at whole ⊢
  have counts : ∀ p, (ComponentHealthStore.latestByComponent tenantId s.records.values).values.countP p =
      componentsNow s tenantId p := by
    intro p
    rw [InsertionMap.countP_values _ p (List.nodup_dedup _) (mem_components s tenantId)]
    apply List.countP_congr
    intro componentId _
    rw [current_eq]
  constructor
  · rw [(scan_whole whole).length_eq]
    have every := counts fun _ => true
    rw [List.countP_true] at every
    rw [every, componentsNow, List.countP_eq_length]
    intro componentId member
    obtain ⟨r, held⟩ := Option.isSome_iff_exists.mp ((mem_components s tenantId componentId).mp member)
    rw [current_eq, held]
    rfl
  · intro p
    rw [scan_count whole, counts]

theorem statuses_exact {σ ρ : Type} [DecidableEq σ] (rows : List ρ) (tenantOf : ρ → String)
    (statusOf : ρ → σ) :
    (StatusSummary.of ((rows.filter (tenantOf · == tenantId)).map statusOf)).total =
        rows.countP (fun r => tenantOf r == tenantId && true) ∧
      ∀ status, (StatusSummary.of ((rows.filter (tenantOf · == tenantId)).map statusOf)).byStatus status =
        rows.countP fun r => tenantOf r == tenantId && statusOf r == status := by
  constructor
  · rw [StatusSummary.of_total, List.length_map, ← List.countP_eq_length_filter]
    simp
  · intro status
    rw [StatusSummary.of_byStatus, List.count, List.countP_map, List.countP_filter]
    apply List.countP_congr
    intro r _
    simp only [Function.comp_apply, Bool.and_eq_true]
    tauto

theorem experiments_exact (now : Instant) (tenant : isUuid tenantId = true) {s : InMemoryExperimentRepository}
    (up : deps.experimentRepository = some (.up s)) :
    (loadSources deps tenantId now).experiments.value.total = experimentsNow s tenantId (fun _ => true) ∧
      ∀ status, (loadSources deps tenantId now).experiments.value.byStatus status =
        experimentsNow s tenantId (· == status) := by
  have listed : (loadSources deps tenantId now).experiments = ⟨.available,
      .of ((s.experimentsById.values.filter (·.tenantId == tenantId)).map (·.status))⟩ := by
    apply loaded up
    simp [InMemoryExperimentRepository.getSummary, parseTenantId, tenant]
  rw [listed]
  exact statuses_exact s.experimentsById.values (·.tenantId) (·.status)

theorem learning_exact (now : Instant) (tenant : isUuid tenantId = true) {s : LearningProposalStore π}
    (up : deps.learningProposalRepository = some (.up s)) :
    (loadSources deps tenantId now).learningProposals.value.total =
        proposalsNow s tenantId (fun _ => true) ∧
      ∀ status, (loadSources deps tenantId now).learningProposals.value.byStatus status =
        proposalsNow s tenantId (· == status) := by
  have listed : (loadSources deps tenantId now).learningProposals = ⟨.available,
      .of ((s.recordsById.values.filter (·.tenantId == tenantId)).map (·.status))⟩ := by
    apply loaded up
    simp [LearningProposalStore.getSummary, parseTenantId, tenant]
  rw [listed]
  exact statuses_exact s.recordsById.values (·.tenantId) (·.status)

theorem answered_summary {r : ControlPlaneSummary}
    (answered : Api.getSummary deps now (some tenantId) = .ok (.json 200 r)) :
    isUuid tenantId = true ∧ r = (loadSources deps tenantId now).summary tenantId now := by
  unfold Api.getSummary at answered
  cases named : (some tenantId).filter (· != "") with
  | none =>
    rw [named] at answered
    cases answered
  | some given =>
    have same : given = tenantId := by
      rw [Option.filter_eq_some_iff] at named
      exact (Option.some.inj named.1).symm
    rw [named, same] at answered
    dsimp only at answered
    split at answered
    · split at answered
      · split at answered
        · cases answered
          exact ⟨by assumption, rfl⟩
        · cases answered
      · cases answered
    · cases answered

/-- The unflagged counts of an answer are exact exactly when what waits for a
decision is not published yet. -/
theorem summary_exact (deps : ControlPlaneRouteDependencies π) (now : Instant) (tenantId : String)
    (r : ControlPlaneSummary)
    (answered : Api.getSummary deps now (some tenantId) = .ok (.json 200 r)) :
    ExactCounts deps tenantId now r ↔ WaitsUnpublished deps tenantId := by
  obtain ⟨tenant, rfl⟩ := answered_summary answered
  rw [← pending_exact now tenant]
  constructor
  · intro counts o f queue reviews lower whole
    have outbox : (loadSources deps tenantId now).outbox.status = .available := by
      rw [outbox_loaded queue]
    have decisions : (loadSources deps tenantId now).decisions.status = .available := by
      rw [decisions_loaded tenant reviews]
    exact counts.pending o f queue reviews outbox decisions lower whole
  · intro pending
    constructor
    · intro s up _
      have loaded_ : (loadSources deps tenantId now).signals =
          ⟨.available, s.countSince tenantId (startOfUtcDay now)⟩ := by
        simp [loadSources, loadOptional, up]
      change (loadSources deps tenantId now).signals.value = _
      rw [loaded_]
      exact List.countP_eq_length_filter.symm
    · intro o f queue reviews _ _ lower whole
      exact pending o f queue reviews lower whole
    · intro f up _ whole
      exact decided_exact tenant up whole
    · intro o up _ lower
      change (loadSources deps tenantId now).outbox.value.length = _
      change ((loadSources deps tenantId now).outbox.value.length == OUTBOX_SCAN_LIMIT) = false at lower
      rw [outbox_loaded up] at lower ⊢
      have short : (o.listUnconsumed tenantId 500).length ≠ 500 := by
        simpa [OUTBOX_SCAN_LIMIT] using lower
      rw [unpublished_eq]
      exact (scan_whole short).length_eq
    · intro s up _ whole
      obtain ⟨total, each⟩ := health_exact tenant up whole
      exact ⟨total, each _, each _, each _, each _⟩
    · intro s up _
      exact incidents_exact tenant up
    · intro s up _
      obtain ⟨total, each⟩ := experiments_exact now tenant up
      exact ⟨total, each _, each _, each _, each _, each _⟩
    · intro s up _
      obtain ⟨total, each⟩ := learning_exact now tenant up
      exact ⟨total, each _, each _, each _, each _, each _⟩

/-- The outbox and the decisions alone. -/
def reviewing (calls : List OutboxRuns.OutboxCall) : ControlPlaneRouteDependencies Unit where
  outboxRepository := some (.up (runs OutboxRuns.perform .empty calls))
  signalEventsRepository := none
  approvalFeedbackRepository := some (.up .empty)
  motionStackRepository := none
  componentHealthRepository := none
  incidentRepository := none
  experimentRepository := none
  learningProposalRepository := none

def tenant : String := "11111111-1111-4111-8111-111111111111"

/-- A draft that is not published yet is counted. -/
theorem unpublished_counted :
    ExactCounts (reviewing [draft 1 "a" "00000000-0000-4000-8000-00000000000a"]) tenant 120000
      ((loadSources (reviewing [draft 1 "a" "00000000-0000-4000-8000-00000000000a"]) tenant 120000).summary
        tenant 120000) := by
  apply (summary_exact _ 120000 tenant _ rfl).mpr
  intro o f queue reviews _ _ e member _ _ _
  cases queue
  cases reviews
  have unread : ∀ e ∈ (runs OutboxRuns.perform .empty
      [draft 1 "a" "00000000-0000-4000-8000-00000000000a"]).events, e.consumedAt = none := by
    decide
  constructor
  · exact unread e member
  · intro issueId _ d decided
    cases decided

/-- A draft that waits for its decision and that the publisher delivered. -/
def published : List OutboxRuns.OutboxCall :=
  [draft 1 "a" "00000000-0000-4000-8000-00000000000a", .markConsumed tenant 1 90000]

/-- The published draft waits, and the summary counts none. -/
theorem published_uncounted :
    ∃ r, Api.getSummary (reviewing published) 120000 (some tenant) = .ok (.json 200 r) ∧
      ¬ ExactCounts (reviewing published) tenant 120000 r := by
  refine ⟨_, rfl, ?_⟩
  intro counts
  have pending := counts.pending _ _ rfl rfl rfl rfl rfl rfl
  revert pending
  decide

end

end VantGrowth.Proofs.ControlPlaneCounts
