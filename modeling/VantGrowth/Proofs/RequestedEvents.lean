import VantGrowth.Workflow.ProvisioningRequests

namespace VantGrowth.Proofs.RequestedEvents
open Core Db Db.Zod Lib Publisher Workflow

theorem uuid_no_dot {s : String} (h : isUuid s = true) : '.' ∉ s.toList := by
  intro dot
  rcases uuid_char h dot with same | hex
  · exact absurd same (by decide)
  · exact absurd hex (by decide)

/-- A tenant-scoped subject names its tenant. -/
theorem subject_names {tenantId : String} (h : isUuid tenantId = true) (suffix message : String) :
    subjectTenant ("t." ++ tenantId ++ "." ++ suffix) message = .ok tenantId := by
  have split : subjectParts ("t." ++ tenantId ++ "." ++ suffix) =
      "t" :: tenantId :: (suffix.toList.splitOn '.').map String.ofList := by
    have chars : ("t." ++ tenantId ++ "." ++ suffix).toList =
        ['t'] ++ '.' :: (tenantId.toList ++ '.' :: suffix.toList) := by
      simp [String.toList_append]
    unfold subjectParts
    rw [chars, List.splitOn_append_cons_self_of_not_mem (by decide),
      List.splitOn_append_cons_self_of_not_mem (uuid_no_dot h)]
    simp
  have filled : tenantId ≠ "" := by
    rintro rfl
    cases h
  unfold subjectTenant
  rw [split]
  exact if_neg (by simp [filled])

theorem subject_tenant {tenantId : String} (h : isUuid tenantId = true) (suffix : String) :
    tenantIdFromTenantScopedSubject ("t." ++ tenantId ++ "." ++ suffix) = .ok tenantId := by
  unfold tenantIdFromTenantScopedSubject
  rw [subject_names h]
  exact if_pos h

theorem tenant_of_subject {subject tenantId : String}
    (h : tenantIdFromTenantScopedSubject subject = .ok tenantId) :
    (subjectParts subject)[1]? = some tenantId := by
  unfold tenantIdFromTenantScopedSubject at h
  cases named : subjectTenant subject "Invalid tenant-scoped workflow subject: " with
  | error e =>
    rw [named] at h
    cases h
  | ok found =>
    rw [named] at h
    have same : found = tenantId := by
      by_cases uuid : isUuid found = true
      · have read : (Except.ok found : Except DbError String) = .ok tenantId := (if_pos uuid).symm.trans h
        cases read
        rfl
      · have refused : (Except.error DbError.zod : Except DbError String) = .ok tenantId :=
          (if_neg uuid).symm.trans h
        cases refused
    subst same
    unfold subjectTenant at named
    split at named
    · rename_i parts
      split at named
      · cases named
      · cases named
        rw [parts]
        rfl
    · cases named

/-- Whatever the payload says, the tenant of a parsed request is the one its
subject names. -/
theorem parsed_tenant {payload : Payload} {subject : String} {input : TenantProvisioningWorkflowInput}
    (h : parseTenantProvisioningRequestedEvent payload subject = .ok input) :
    (subjectParts subject)[1]? = some input.tenantId := by
  unfold parseTenantProvisioningRequestedEvent at h
  split at h
  · cases h
  · rename_i tenantId named
    refine tenant_of_subject (named.trans (congrArg Except.ok ?_))
    split at h
    · split at h
      · cases h
      · rename_i same
        cases h
        exact (not_ne_iff.mp same).symm
    · split at h
      · cases h
      · split at h
        · cases h
        · split at h
          · cases h
            rfl
          · cases h

/-- The event a valid request is stored as. -/
def requestedEvent (now : Instant) (input : TenantProvisioningWorkflowInput) : EnqueueOutboxEvent where
  tenantId := input.tenantId
  eventType := requestedType
  idempotencyKey := input.dedupeKey
  payload := [("workflow_id", .str input.workflowId),
    ("tenant_external_id", .str input.tenantExternalId), ("tenant_name", .str input.tenantName),
    ("requested_by", .str input.requestedBy), ("requested_at", .str now.toISOString)]

/-- What is published of a request is read as this request with its workflow id
for a dedupe key. -/
theorem requested_read (now : Instant) {input : TenantProvisioningWorkflowInput}
    (valid : input.valid = true) :
    parseTenantProvisioningRequestedEvent (requestedEvent now input).payload
        ("t." ++ input.tenantId ++ "." ++ requestedType) =
      .ok { input with dedupeKey := input.workflowId } := by
  have fields := valid
  simp only [TenantProvisioningWorkflowInput.valid, Bool.and_eq_true, bne_iff_ne] at fields
  obtain ⟨⟨⟨⟨⟨tenant, workflow⟩, _⟩, external⟩, name⟩, requester⟩ := fields
  have noncanonical : readCanonical (requestedEvent now input).payload = none := by
    simp [readCanonical, requestedEvent, required, List.lookup_cons]
  have outbox : readOutboxPayload (requestedEvent now input).payload =
      some ⟨none, input.workflowId, none, input.tenantExternalId, input.tenantName,
        input.requestedBy⟩ := by
    simp [readOutboxPayload, requestedEvent, required, Zod.optional, List.lookup_cons, filled, workflow,
      external, name, requester]
  unfold parseTenantProvisioningRequestedEvent
  rw [subject_tenant tenant, noncanonical, outbox]
  refine (if_neg (by simp)).trans (if_pos ?_)
  simp [requestedInput, TenantProvisioningWorkflowInput.valid, tenant, workflow, external, name,
    requester]

/-- What the outbox carries of a request is the request. -/
def RoundTrip (now : Instant) (input : TenantProvisioningWorkflowInput) : Prop :=
  ∀ command subject, createTenantProvisioningWorkflowOutboxCommand now input = .ok command →
    tenantScopedSubject command.tenantId command.eventType = pure subject →
      parseTenantProvisioningRequestedEvent command.payload subject = .ok input

/-- A request comes back as it was exactly where its dedupe key is its workflow
id; no payload selects another tenant than the subject's. -/
theorem requested_round_trip_iff (now : Instant) (input : TenantProvisioningWorkflowInput)
    (valid : input.valid = true) :
    (RoundTrip now input ∧ ∀ payload subject parsed,
      parseTenantProvisioningRequestedEvent payload subject = .ok parsed →
        (subjectParts subject)[1]? = some parsed.tenantId) ↔ input.dedupeKey = input.workflowId := by
  have created : createTenantProvisioningWorkflowOutboxCommand now input =
      .ok (requestedEvent now input) := if_pos valid
  have tenant : isUuid input.tenantId = true := by
    simp only [TenantProvisioningWorkflowInput.valid, Bool.and_eq_true] at valid
    exact valid.1.1.1.1.1
  have address : tenantScopedSubject input.tenantId requestedType =
      pure ("t." ++ input.tenantId ++ "." ++ requestedType) := by
    unfold tenantScopedSubject
    rw [if_neg (by simp [tenant]), if_neg (by decide)]
  constructor
  · rintro ⟨trip, _⟩
    have same := trip _ _ created address
    rw [requested_read now valid] at same
    have keys := congrArg TenantProvisioningWorkflowInput.dedupeKey (Except.ok.inj same)
    exact keys.symm
  · intro same
    refine ⟨?_, fun payload subject parsed => parsed_tenant⟩
    intro command subject h hs
    rw [created] at h
    cases h
    have built : (pure subject : Publisher.Handler String) = pure _ := hs.symm.trans address
    cases built
    have whole : { input with dedupeKey := input.workflowId } = input := by
      obtain ⟨tenantId, workflowId, dedupeKey, externalId, name, requester⟩ := input
      obtain rfl : dedupeKey = workflowId := same
      rfl
    exact (requested_read now valid).trans (congrArg Except.ok whole)

/-- A request to onboard a tenant. -/
def onboarding (dedupeKey : String) : TenantProvisioningWorkflowInput :=
  ⟨"11111111-1111-4111-8111-111111111111", "wf-1", dedupeKey, "ext-1", "Acme", "founder"⟩

theorem onboarding_returns :
    (RoundTrip 0 (onboarding "wf-1") ∧ ∀ payload subject parsed,
      parseTenantProvisioningRequestedEvent payload subject = .ok parsed →
        (subjectParts subject)[1]? = some parsed.tenantId) ∧
    ((onboarding "wf-1").dedupeKey = (onboarding "wf-1").workflowId) :=
  have same : (onboarding "wf-1").dedupeKey = (onboarding "wf-1").workflowId := rfl
  ⟨(requested_round_trip_iff 0 (onboarding "wf-1") (by decide)).mpr same, same⟩

theorem dedupe_key_lost : ¬ ∀ input : TenantProvisioningWorkflowInput, input.valid = true →
    RoundTrip 0 input := by
  intro trip
  have valid : (onboarding "key-1").valid = true := by decide
  have back := trip (onboarding "key-1") valid (requestedEvent 0 (onboarding "key-1"))
    ("t." ++ (onboarding "key-1").tenantId ++ "." ++ requestedType) (if_pos valid) rfl
  rw [requested_read 0 valid] at back
  exact absurd (congrArg TenantProvisioningWorkflowInput.dedupeKey (Except.ok.inj back)) (by decide)

end VantGrowth.Proofs.RequestedEvents
