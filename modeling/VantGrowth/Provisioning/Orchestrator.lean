import VantGrowth.Provisioning.Clients

namespace VantGrowth.Provisioning
open Core Lib Lib.Text Workflow

def tenantBucketName (tenantId : String) : String := "growthos-" ++ tenantId

def tenantWorkspaceRepoName (tenantId : String) : String := "workspace-" ++ tenantId

def tenantNatsConsumerName (tenantId : String) : String := "tenant-" ++ tenantId ++ "-all"

def tenantNatsFilterSubject (tenantId : String) : String := "t." ++ tenantId ++ ".>"

def tenantZitadelOrgName (tenantName : String) : String := "growthos-" ++ tenantName

def tenantLagoCustomerId (tenantId : String) : String := tenantId

def tenantLagoMotionSubId (tenantId : String) : String := tenantId ++ "-motion-active"

def PLAN_CODE_MOTION_ACTIVE : String := "motion_active"

def FOUNDER_MD_TEMPLATE (tenantName tenantId : String) : String :=
  "# " ++ tenantName ++ " — GrowthOS Workspace\n\nTenant ID: `" ++ tenantId ++ "`\n\n" ++
  "## Mission\n\n" ++
  "This repository is the working memory for your GrowthOS agents. Skills, playbooks,\n" ++
  "brand context, and approved content live here. Agents read from and write to this\n" ++
  "workspace under your direction.\n\n" ++
  "## Directory structure\n\n```\ndocs/\n" ++
  "  FOUNDER.md        — this file (founder profile + brand context)\n" ++
  "  brand_rules.md    — positioning rules, approved stats, competitor notes\n" ++
  "skills/             — tenant-specific skill overrides (optional)\n" ++
  "content/            — approved drafts, published pieces\n" ++
  "intel/              — weekly intelligence briefs\n```\n\n" ++
  "## Founder profile\n\n" ++
  "<!-- Fill in: your name, role, preferred communication style, vocabulary to use/avoid -->\n\n" ++
  "## Brand context\n\n" ++
  "<!-- Fill in: one-sentence positioning, ICP description, top 3 proof points, approved stats -->\n\n" ++
  "## Setup checklist\n\n" ++
  "- [ ] Complete the Founder profile section\n" ++
  "- [ ] Complete the Brand context section\n" ++
  "- [ ] Run motion scoring: `POST /v1/motions/score` with your company signals\n" ++
  "- [ ] Review and approve your motion stack\n"

structure ProvisioningStepResult where
  step : ProvisioningStep
  skipped : Bool
  output : List (String × String)

structure TenantProvisioningResult where
  tenantId : String
  workflowId : String
  steps : List ProvisioningStepResult
  completedAt : Instant

section
variable (input : TenantProvisioningWorkflowInput)

def provisionOrg : Call ProvisioningStepResult := do
  await (.report .zitadel_org 5 ("Provisioning Zitadel organisation for " ++ input.tenantName))
  let org ← createOrg (tenantZitadelOrgName input.tenantName)
  await (.createServiceAccount org.orgId "growthos-api" "GrowthOS API Service Account")
  return ⟨.zitadel_org, false, [("orgId", org.orgId), ("orgName", org.name)]⟩

def provisionCompany : Call ProvisioningStepResult := do
  await (.report .paperclip_company 15 ("Provisioning Paperclip company for " ++ input.tenantName))
  let company : Provisioned ←
    await (.provisionCompany input.tenantId input.tenantExternalId input.tenantName)
  return ⟨.paperclip_company, !company.isNew, [("companyId", company.id)]⟩

def provisionRepo : Call ProvisioningStepResult := do
  await (.report .gitea_workspace_repo 35
    ("Provisioning workspace repository for tenant " ++ input.tenantId))
  let repo : Provisioned ← await (.provisionWorkspaceRepo input.tenantId "growthos-ws-template"
    (tenantWorkspaceRepoName input.tenantId))
  return ⟨.gitea_workspace_repo, !repo.isNew, [("repoUrl", repo.id)]⟩

def provisionConsumer : Call ProvisioningStepResult := do
  await (.report .nats_consumer_groups 52
    ("Provisioning NATS consumer group for tenant " ++ input.tenantId))
  let consumer : Provisioned ← await (.provisionConsumerGroup input.tenantId
    (tenantNatsFilterSubject input.tenantId) (tenantNatsConsumerName input.tenantId))
  return ⟨.nats_consumer_groups, !consumer.isNew, [("consumerName", consumer.id)]⟩

def provisionBucket : Call ProvisioningStepResult := do
  await (.report .minio_bucket 67
    ("Provisioning MinIO bucket " ++ tenantBucketName input.tenantId))
  let bucket : Provisioned ← await (.provisionBucket (tenantBucketName input.tenantId) input.tenantId)
  return ⟨.minio_bucket, !bucket.isNew, [("bucketName", bucket.id)]⟩

def provisionCustomer : Call ProvisioningStepResult := do
  await (.report .lago_customer 80
    ("Provisioning Lago billing customer for tenant " ++ input.tenantId))
  let lagoCustomerId : String ←
    await (.createCustomer (tenantLagoCustomerId input.tenantId) input.tenantName)
  let lagoSub : LagoSubscription ← await (.assignPlan (tenantLagoCustomerId input.tenantId)
    PLAN_CODE_MOTION_ACTIVE (tenantLagoMotionSubId input.tenantId))
  return ⟨.lago_customer, false, [("lagoCustomerId", lagoCustomerId),
    ("subscriptionId", lagoSub.lagoId), ("planCode", lagoSub.planCode)]⟩

def seedFounderDoc : Call ProvisioningStepResult := do
  await (.report .seed_founder_doc 90 "Seeding FOUNDER.md in workspace repository")
  let file : Provisioned ← await (.createOrUpdateFile input.tenantId
    (tenantWorkspaceRepoName input.tenantId) "docs/FOUNDER.md"
    (FOUNDER_MD_TEMPLATE input.tenantName input.tenantId)
    "chore: seed FOUNDER.md from GrowthOS template")
  return ⟨.seed_founder_doc, !file.isNew, [("sha", file.id)]⟩

def runSteps : List (Call ProvisioningStepResult) → Call (List ProvisioningStepResult)
  | [] => return []
  | step :: steps => do
    let result ← step
    let later ← runSteps steps
    return result :: later

def provisioningSteps : List (Call ProvisioningStepResult) :=
  [provisionOrg input, provisionCompany input, provisionRepo input, provisionConsumer input,
    provisionBucket input, provisionCustomer input, seedFounderDoc input]

/-- `TenantProvisioningOrchestrator.run`, with what it asks of each client. -/
def run : Call TenantProvisioningResult := do
  Prog.require (acceptsInput input = true) .zod
  let steps ← runSteps (provisioningSteps input)
  await (.report .seed_founder_doc 100
    ("Tenant " ++ input.tenantName ++ " provisioned successfully"))
  let completedAt : Instant ← await .now
  return { tenantId := input.tenantId, workflowId := input.workflowId, steps, completedAt }

end

/-- Any number of runs for any inputs, interleaved at every await. -/
def provisioning (env : Environment) : Machine Res ProvisioningError env.World
    TenantProvisioningWorkflowInput TenantProvisioningResult where
  exec := env.call
  program _ input := some (run input)
  acknowledge _ := none
  outside _ := false

end VantGrowth.Provisioning
