import VantGrowth.Core.Workflows
import VantGrowth.Publisher.DeadLetters

namespace VantGrowth.Workflow
open Core Db Db.Zod Publisher

/-- `tenantProvisioningWorkflowInputSchema.safeParse` -/
def readCanonical (p : Payload) : Option TenantProvisioningWorkflowInput := do
  let tenantId ← required p "tenantId" uuid
  let workflowId ← required p "workflowId" filled
  let dedupeKey ← required p "dedupeKey" filled
  let tenantExternalId ← required p "tenantExternalId" filled
  let tenantName ← required p "tenantName" filled
  let requestedBy ← required p "requestedBy" filled
  return { tenantId, workflowId, dedupeKey, tenantExternalId, tenantName, requestedBy }

structure TenantProvisioningRequestedOutboxPayload where
  tenant_id : Option String
  workflow_id : String
  dedupe_key : Option String
  tenant_external_id : String
  tenant_name : String
  requested_by : String

/-- `tenantProvisioningRequestedOutboxPayloadSchema` -/
def readOutboxPayload (p : Payload) : Option TenantProvisioningRequestedOutboxPayload := do
  let tenant_id ← Zod.optional p "tenant_id" uuid
  let workflow_id ← required p "workflow_id" filled
  let dedupe_key ← Zod.optional p "dedupe_key" filled
  let tenant_external_id ← required p "tenant_external_id" filled
  let tenant_name ← required p "tenant_name" filled
  let requested_by ← required p "requested_by" filled
  return { tenant_id, workflow_id, dedupe_key, tenant_external_id, tenant_name, requested_by }

def tenantMismatch : DbError := .error "Tenant provisioning payload tenant does not match subject"

/-- The input an outbox payload stands for on the subject of a tenant. -/
def requestedInput (tenantId : String) (p : TenantProvisioningRequestedOutboxPayload) :
    TenantProvisioningWorkflowInput where
  tenantId := tenantId
  workflowId := p.workflow_id
  dedupeKey := p.dedupe_key.getD p.workflow_id
  tenantExternalId := p.tenant_external_id
  tenantName := p.tenant_name
  requestedBy := p.requested_by

/-- `parseTenantProvisioningRequestedEvent` -/
def parseTenantProvisioningRequestedEvent (payload : Payload) (subject : String) :
    Except DbError TenantProvisioningWorkflowInput :=
  match tenantIdFromTenantScopedSubject subject with
  | .error e => .error e
  | .ok tenantId =>
    match readCanonical payload with
    | some input => if input.tenantId ≠ tenantId then .error tenantMismatch else .ok input
    | none =>
      match readOutboxPayload payload with
      | none => .error .zod
      | some outboxPayload =>
        if outboxPayload.tenant_id.any (· != tenantId) = true then .error tenantMismatch
        else if (requestedInput tenantId outboxPayload).valid = true then
          .ok (requestedInput tenantId outboxPayload)
        else .error .zod

end VantGrowth.Workflow
