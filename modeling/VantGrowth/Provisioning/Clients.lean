import VantGrowth.Lib.Interleaving
import VantGrowth.Workflow.CallbackWorker

namespace VantGrowth.Provisioning
open Core Lib Lib.Text Workflow

inductive ProvisioningError where
  | zod
  | error (message : String)
deriving DecidableEq

/-- What the identity server answers to a new organisation, the body besides
as its text. -/
structure CreateOrgResponse where
  status : Nat
  orgId : Option String
  body : String

structure OrgMatch where
  id : Option String
  name : Option String

structure SearchResponse where
  status : Nat
  result : List OrgMatch
  body : String

structure ZitadelOrg where
  orgId : String
  name : String

/-- The calls over the network, with the clock. Organisations are made by two
requests of `HttpZitadelClient`. -/
inductive Op where
  | now
  | report (step : ProvisioningStep) (progressPercent : Nat) (message : String)
  | postOrg (name : String)
  | searchOrgs (name : String)
  | createServiceAccount (orgId userName displayName : String)
  | provisionCompany (tenantId externalId name : String)
  | provisionWorkspaceRepo (tenantId templateRepo repoName : String)
  | provisionConsumerGroup (tenantId filterSubject consumerName : String)
  | provisionBucket (bucketName tenantId : String)
  | createCustomer (externalId name : String)
  | assignPlan (customerExternalId planCode subscriptionExternalId : String)
  | createOrUpdateFile (tenantId repoName filePath content commitMessage : String)

/-- A resource as its client returns it, and whether it is new. -/
structure Provisioned where
  id : String
  isNew : Bool

structure LagoSubscription where
  lagoId : String
  planCode : String

abbrev Res : Op → Type
  | .now => Instant
  | .report _ _ _ | .createServiceAccount _ _ _ => Unit
  | .postOrg _ => CreateOrgResponse
  | .searchOrgs _ => SearchResponse
  | .provisionCompany _ _ _ | .provisionWorkspaceRepo _ _ _ | .provisionConsumerGroup _ _ _
  | .provisionBucket _ _ | .createOrUpdateFile _ _ _ _ _ => Provisioned
  | .createCustomer _ _ => String
  | .assignPlan _ _ _ => LagoSubscription

abbrev Call := Prog Res ProvisioningError

def await (op : Op) : Call (Res op) := Prog.perform op

/-- `!value`, false of a text with something in it. -/
def present : Option String → Option String
  | some "" => none
  | value => value

/-- `HttpZitadelClient.findOrgByName` -/
def findOrgByName (name : String) : Call ZitadelOrg := do
  let response : SearchResponse ← await (.searchOrgs name)
  Prog.require (response.status = 200)
    (.error ("Zitadel org search failed (" ++ decimal response.status ++ "): " ++ response.body))
  match response.result.head? with
  | none => Prog.throw (.error ("Zitadel org not found after 409: name=" ++ name))
  | some found =>
    match present found.id with
    | none => Prog.throw (.error ("Zitadel org not found after 409: name=" ++ name))
    | some orgId => return { orgId, name := found.name.getD name }

/-- `HttpZitadelClient.createOrg`. A conflict means that the organisation is
there already: it is looked up by name. -/
def createOrg (name : String) : Call ZitadelOrg := do
  let response : CreateOrgResponse ← await (.postOrg name)
  if response.status = 409 then findOrgByName name
  else
    Prog.require (response.status = 200 ∨ response.status = 201)
      (.error ("Zitadel createOrg failed (" ++ decimal response.status ++ "): " ++ response.body))
    match present response.orgId with
    | none => Prog.throw (.error "Zitadel createOrg response missing orgId")
    | some orgId => return { orgId, name }

inductive ResourceKind where
  | organisation | repository | consumer | bucket | customer | subscription
deriving DecidableEq

/-- What a call asks for: a kind of resource, by its identifying key. -/
def identity : Op → Option (ResourceKind × String)
  | .postOrg name | .searchOrgs name => some (.organisation, name)
  | .provisionWorkspaceRepo _ _ repoName => some (.repository, repoName)
  | .provisionConsumerGroup _ _ consumerName => some (.consumer, consumerName)
  | .provisionBucket bucketName _ => some (.bucket, bucketName)
  | .createCustomer externalId _ => some (.customer, externalId)
  | .assignPlan _ _ subscriptionExternalId => some (.subscription, subscriptionExternalId)
  | _ => none

/-- The resource an answer hands out. -/
def held : (op : Op) → Res op → Option (ResourceKind × String)
  | .postOrg _, r =>
    if r.status = 200 ∨ r.status = 201 then (present r.orgId).map (.organisation, ·) else none
  | .searchOrgs _, r =>
    if r.status = 200 then (present (r.result.head?.bind (·.id))).map (.organisation, ·) else none
  | .provisionWorkspaceRepo _ _ _, r => some (.repository, r.id)
  | .provisionConsumerGroup _ _ _, r => some (.consumer, r.id)
  | .provisionBucket _ _, r => some (.bucket, r.id)
  | .createCustomer _ _, lagoId => some (.customer, lagoId)
  | .assignPlan _ _ _, r => some (.subscription, r.lagoId)
  | _, _ => none

/-- The systems behind the clients, each call of which may throw. -/
structure Environment where
  World : Type
  call : ∀ op, Store ProvisioningError World (Res op)

/-- What the interfaces of the clients document: a resource belongs to the key
it was made for, the same key gives back the same resource, and organisations
are found by their name. -/
structure Idempotent (env : Environment) where
  /-- The key a resource was made for. -/
  owner : env.World → ResourceKind × String → Option String
  kept : ∀ s op resource key, owner s resource = some key →
    owner ((env.call op).run s).2 resource = some key
  given : ∀ s op x resource, ((env.call op).run s).1 = .ok x → held op x = some resource →
    ∃ key, identity op = some (resource.1, key) ∧
      owner ((env.call op).run s).2 resource = some key
  same : ∀ s kind id id' key, owner s (kind, id) = some key → owner s (kind, id') = some key →
    id = id'

end VantGrowth.Provisioning
