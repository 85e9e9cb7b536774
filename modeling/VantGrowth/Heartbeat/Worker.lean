import VantGrowth.Adapter.Paperclip
import VantGrowth.Learning.Contracts

namespace VantGrowth.Heartbeat
open Adapter Lib
open Learning (inheritedMembers)

/-- What a truthy `companyTenantMap[companyId]` is: an entry of the map, or a
member that every object inherits. -/
inductive MappedTenant where
  | entry (tenantId : String)
  | inherited (member : String)
deriving DecidableEq

structure DispatchContext where
  tenantId : MappedTenant
  companyId : String
  agentId : String
  issueId : String
  issueIdentifier : Option String
  title : Option String
  runId : String

structure PaperclipHeartbeatConfig where
  paperclip : PaperclipClientConfig
  companyIds : List String
  companyTenantMap : List (String × String)
  runnableStatuses : List String
  dryRun : Bool

/-- What the worker calls: the server over the network, the dispatcher, which
completes or throws, and the maker of run ids. -/
inductive Op where
  | fetch (request : HttpRequest)
  | dispatch (context : DispatchContext)
  | newRunId

abbrev Res : Op → Type
  | .fetch _ => Exchange
  | .dispatch _ => Bool
  | .newRunId => String

abbrev Worker := Prog Res Empty

def await (op : Op) : Worker (Res op) := Prog.perform op

def fetch (request : HttpRequest) : Worker Exchange := await (.fetch request)

section
variable (config : PaperclipHeartbeatConfig)

def mappedTenant (companyId : String) : Option MappedTenant :=
  match config.companyTenantMap.lookup companyId with
  | some tenantId => if tenantId = "" then none else some (.entry tenantId)
  | none => if companyId ∈ inheritedMembers then some (.inherited companyId) else none

def isRunnable (issue : PaperclipIssueListItem) : Bool :=
  issue.assigneeAgentId.any (· != "") && config.runnableStatuses.contains issue.status

def checkoutInput (issue : PaperclipIssueListItem) (runId : String) : PaperclipCheckoutInput :=
  { issueId := issue.id, agentId := issue.assigneeAgentId.getD "",
    expectedStatuses := some config.runnableStatuses, runId := some runId }

def dispatchContext (companyId : String) (tenantId : MappedTenant) (issue : PaperclipIssueListItem)
    (runId : String) : DispatchContext :=
  { tenantId, companyId, agentId := issue.assigneeAgentId.getD "", issueId := issue.id,
    issueIdentifier := issue.identifier, title := issue.title, runId }

/-- A thrown error ends the work on the issue; what threw decides whether it was
checked out. -/
def processIssue (companyId : String) (tenantId : Option MappedTenant)
    (issue : PaperclipIssueListItem) : Worker Unit := do
  let runId : String ← await .newRunId
  if config.dryRun = true then return
  match tenantId with
  | none => return
  | some tenantId =>
    let context := dispatchContext companyId tenantId issue runId
    match ← (checkoutIssue config.paperclip fetch (checkoutInput config issue runId)).run with
    | .error _ => return
    | .ok _ =>
      let dispatched : Bool ← await (.dispatch context)
      if dispatched = true then return
      -- a failed requeue is logged
      discard (requeueIssue config.paperclip fetch issue.id).run

/-- A row that names another company. -/
def mismatched (companyId : String) (issue : PaperclipIssueListItem) : Bool :=
  issue.companyId.any fun other => other != "" && other != companyId

def tickCompany (companyId : String) : Client Res Empty Unit := do
  let tenantId := mappedTenant config companyId
  if tenantId = none ∧ config.dryRun = false then return
  let issues ← listCompanyIssues config.paperclip fetch companyId none
  ExceptT.lift ((issues.filter (isRunnable config)).forM fun issue =>
    if mismatched companyId issue = true then return else processIssue config companyId tenantId issue)

/-- One poll. It does nothing while another is under way; a company whose poll
throws is logged and passed over. -/
def tick (ticking : Bool) : Worker Unit :=
  if ticking = true then return
  else config.companyIds.forM fun companyId => discard (tickCompany config companyId).run

end

end VantGrowth.Heartbeat
