import VantGrowth.Heartbeat.Worker
import VantGrowth.Lib.Runs

namespace VantGrowth.Proofs.ClaimedWork
open Adapter Db Heartbeat Lib Lib.Logs Lib.Prog Lib.Text
open Learning (inheritedMembers)

section
variable (config : PaperclipHeartbeatConfig)

def listing (companyId : String) : HttpRequest :=
  httpRequest config.paperclip .GET
    ("/api/companies/" ++ companyId ++ "/issues?limit=" ++ decimal 100) none []

def checkout (issueId agentId runId : String) : HttpRequest :=
  httpRequest config.paperclip .POST ("/api/issues/" ++ issueId ++ "/checkout")
    (some (.obj [("agentId", .str agentId),
      ("expectedStatuses", .arr (config.runnableStatuses.map Json.str))]))
    (runHeaders (some runId))

def requeue (issueId : String) : HttpRequest :=
  httpRequest config.paperclip .PATCH ("/api/issues/" ++ issueId)
    (some (.obj [("status", .str "todo")])) []

/-- The issue the client reads of an answer to a checkout; it throws when there is none. -/
def issueOf (exchange : Exchange) : Except PaperclipError PaperclipIssue :=
  exchange.delivery.payload.bind (parse paperclipIssueSchema)

def listed (answer : Exchange) : Except PaperclipError (List PaperclipIssueListItem) :=
  answer.delivery.payload.bind fun payload => parse paperclipIssueListSchema (rows payload)

/-- The company whose issues were listed last, and the rows. -/
def Polled (log : List (Did Res)) (companyId : String) (issues : List PaperclipIssueListItem) : Prop :=
  ∃ earlier answer later, log = earlier ++ ⟨.fetch (listing config companyId), answer⟩ :: later ∧
    listed answer = .ok issues ∧ ∀ d ∈ later, ∀ other, d.op ≠ .fetch (listing config other)

/-- What a tick performed meets the claims of the worker on the work it takes. -/
structure Kept (log : List (Did Res)) : Prop where
  /-- A checkout that the server applied is dispatched for the tenant of the
  company that was polled, or requeued. -/
  handled : ∀ before after issueId agentId runId exchange,
    log = before ++ ⟨.fetch (checkout config issueId agentId runId), exchange⟩ :: after →
    exchange.applied = true → ∃ companyId issues, Polled config before companyId issues ∧
      ((∃ context tenantId, ⟨.dispatch context, true⟩ ∈ after ∧ context.issueId = issueId ∧
          context.runId = runId ∧ context.companyId = companyId ∧
          config.companyTenantMap.lookup companyId = some tenantId ∧
          context.tenantId = .entry tenantId) ∨
        ∃ again, ⟨.fetch (requeue config issueId), again⟩ ∈ after)
  /-- Only what the server checked out is requeued. -/
  claimed : ∀ before after issueId again,
    log = before ++ ⟨.fetch (requeue config issueId), again⟩ :: after →
    ∃ agentId runId exchange, ⟨.fetch (checkout config issueId agentId runId), exchange⟩ ∈ before ∧
      exchange.applied = true
  /-- An issue is checked out for a mapped company, which it is of. -/
  owned : ∀ before after issueId agentId runId exchange,
    log = before ++ ⟨.fetch (checkout config issueId agentId runId), exchange⟩ :: after →
    ∃ companyId issues tenantId, Polled config before companyId issues ∧
      config.companyTenantMap.lookup companyId = some tenantId ∧ tenantId ≠ "" ∧
      ∃ issue ∈ issues, issue.id = issueId ∧ issue.assigneeAgentId = some agentId ∧
        ∀ other, issue.companyId = some other → other = companyId

/-- What the server and the configuration must keep to. -/
structure Told (log : List (Did Res)) : Prop where
  /-- A name that every object inherits has an entry of its own. -/
  mapped : ∀ companyId ∈ config.companyIds, companyId ∈ inheritedMembers →
    config.companyTenantMap.lookup companyId ≠ none
  /-- No runnable issue is listed with an empty company. -/
  named : ∀ companyId answer issues, ⟨.fetch (listing config companyId), answer⟩ ∈ log →
    listed answer = .ok issues → ∀ issue ∈ issues, isRunnable config issue = true →
      issue.companyId ≠ some ""
  /-- A checkout that was applied is answered by the issue. -/
  returned : ∀ issueId agentId runId exchange,
    ⟨.fetch (checkout config issueId agentId runId), exchange⟩ ∈ log → exchange.applied = true →
      ∃ issue, issueOf exchange = .ok issue
  /-- A checkout answered by the issue, whose dispatch failed, was applied. -/
  applied : ∀ before after issueId agentId runId exchange context issue,
    log = before ++ ⟨.fetch (checkout config issueId agentId runId), exchange⟩ ::
      ⟨.dispatch context, false⟩ :: after → issueOf exchange = .ok issue → exchange.applied = true

/-- What holds before an operation of a tick. -/
structure Allowed (h : List (Did Res)) (op : Op) : Prop where
  requeued : ∀ issueId, op = .fetch (requeue config issueId) →
    ∃ before agentId runId exchange context issue,
      h = before ++ [⟨.fetch (checkout config issueId agentId runId), exchange⟩,
        ⟨.dispatch context, false⟩] ∧ issueOf exchange = .ok issue
  claimed : ∀ issueId agentId runId, op = .fetch (checkout config issueId agentId runId) →
    ∃ companyId ∈ config.companyIds, ∃ issues, Polled config h companyId issues ∧
      mappedTenant config companyId ≠ none ∧ ∃ issue ∈ issues, issue.id = issueId ∧
        issue.assigneeAgentId = some agentId ∧ isRunnable config issue = true ∧
        mismatched companyId issue = false

/-- A checkout that the client returned from was dispatched or requeued. -/
def Settled (h : List (Did Res)) : Prop :=
  ∀ before after issueId agentId runId exchange issue,
    h = before ++ ⟨.fetch (checkout config issueId agentId runId), exchange⟩ :: after →
    issueOf exchange = .ok issue → ∃ companyId ∈ config.companyIds, ∃ issues,
      Polled config before companyId issues ∧ ∃ context, context.issueId = issueId ∧
        context.runId = runId ∧ context.companyId = companyId ∧
        mappedTenant config companyId = some context.tenantId ∧
        (⟨.dispatch context, true⟩ ∈ after ∨
          ∃ again, ⟨.fetch (requeue config issueId), again⟩ ∈ after)

def Quiet (op : Op) : Prop :=
  (∀ companyId, op ≠ .fetch (listing config companyId)) ∧
    ∀ issueId agentId runId, op ≠ .fetch (checkout config issueId agentId runId)

end

section
variable {config : PaperclipHeartbeatConfig} {h : List (Did Res)} {companyId issueId agentId runId : String}
  {issues : List PaperclipIssueListItem}

theorem checkout_inj {issueId' agentId' runId' : String}
    (same : checkout config issueId agentId runId = checkout config issueId' agentId' runId') :
    issueId = issueId' ∧ agentId = agentId' ∧ runId = runId' := by
  have paths := congrArg HttpRequest.path same
  have bodies := congrArg HttpRequest.body same
  have headers := congrArg HttpRequest.headers same
  simp only [checkout, httpRequest] at paths bodies headers
  refine ⟨?_, ?_, ?_⟩
  · have texts := congrArg String.toList paths
    simp only [String.toList_append] at texts
    exact String.toList_inj.mp (List.append_cancel_left (List.append_cancel_right texts))
  · simpa using bodies
  · simp only [runHeaders] at headers
    split at headers <;> split at headers <;> simp_all

theorem claim_inj {issueId' agentId' runId' : String} {exchange exchange' : Exchange}
    (same : (⟨.fetch (checkout config issueId agentId runId), exchange⟩ : Did Res) =
      ⟨.fetch (checkout config issueId' agentId' runId'), exchange'⟩) :
    issueId = issueId' ∧ agentId = agentId' ∧ runId = runId' ∧ exchange = exchange' := by
  obtain ⟨rfl, rfl, rfl⟩ := checkout_inj (Op.fetch.inj (congrArg Did.op same))
  simpa using same

theorem poll_inj {other : String} {answer answer' : Exchange}
    (same : (⟨.fetch (listing config companyId), answer⟩ : Did Res) =
      ⟨.fetch (listing config other), answer'⟩) : companyId = other ∧ answer = answer' := by
  have paths := congrArg HttpRequest.path (Op.fetch.inj (congrArg Did.op same))
  have texts := congrArg String.toList paths
  simp only [listing, httpRequest, String.toList_append] at texts
  obtain rfl := String.toList_inj.mp
    (List.append_cancel_left (List.append_cancel_right (List.append_cancel_right texts)))
  exact ⟨rfl, by simpa using same⟩

theorem listing_ne_checkout : listing config companyId ≠ checkout config issueId agentId runId := by
  intro same
  cases congrArg HttpRequest.method same

theorem requeue_ne_checkout {other : String} :
    requeue config other ≠ checkout config issueId agentId runId := by
  intro same
  cases congrArg HttpRequest.method same

theorem requeue_ne_listing {other : String} : requeue config other ≠ listing config companyId := by
  intro same
  cases congrArg HttpRequest.method same

theorem quiet_requeue : Quiet config (.fetch (requeue config issueId)) := by
  constructor
  · intro companyId same
    exact requeue_ne_listing (Op.fetch.inj same)
  · intro issueId agentId runId same
    exact requeue_ne_checkout (Op.fetch.inj same)

theorem quiet_dispatch (context : DispatchContext) : Quiet config (.dispatch context) :=
  ⟨by simp, by simp⟩

theorem Polled.append (polled : Polled config h companyId issues) {tail : List (Did Res)}
    (other : ∀ d ∈ tail, ∀ other, d.op ≠ .fetch (listing config other)) :
    Polled config (h ++ tail) companyId issues := by
  obtain ⟨earlier, answer, later, rfl, shown, last⟩ := polled
  refine ⟨earlier, answer, later ++ tail, by simp, shown, ?_⟩
  intro d member
  rcases List.mem_append.mp member with inside | new
  · exact last d inside
  · exact other d new

theorem Settled.append (settled : Settled config h) {tail : List (Did Res)}
    (quiet : ∀ d ∈ tail, ∀ issueId agentId runId, d.op ≠ .fetch (checkout config issueId agentId runId)) :
    Settled config (h ++ tail) := by
  intro before after issueId agentId runId exchange issue split read
  rcases split_append split with ⟨m, within, rest⟩ | ⟨m, _, within⟩
  · obtain ⟨companyId, inside, issues, polled, context, id, run, company, tenant, done⟩ :=
      settled before m issueId agentId runId exchange issue within read
    refine ⟨companyId, inside, issues, polled, context, id, run, company, tenant, ?_⟩
    rw [rest]
    rcases done with dispatched | ⟨again, requeued⟩
    · exact Or.inl (List.mem_append_left tail dispatched)
    · exact Or.inr ⟨again, List.mem_append_left tail requeued⟩
  · have member : ⟨.fetch (checkout config issueId agentId runId), exchange⟩ ∈ tail := by
      rw [within]
      exact List.mem_append_right m List.mem_cons_self
    exact absurd rfl (quiet _ member issueId agentId runId)

theorem Settled.claim (settled : Settled config h) {exchange : Exchange} {tail : List (Did Res)}
    (quiet : ∀ d ∈ tail, ∀ issueId agentId runId, d.op ≠ .fetch (checkout config issueId agentId runId))
    (inside : companyId ∈ config.companyIds) (polled : Polled config h companyId issues)
    {context : DispatchContext} (id : context.issueId = issueId) (run : context.runId = runId)
    (company : context.companyId = companyId)
    (tenant : mappedTenant config companyId = some context.tenantId)
    (done : ∀ issue, issueOf exchange = .ok issue → ⟨.dispatch context, true⟩ ∈ tail ∨
      ∃ again, ⟨.fetch (requeue config issueId), again⟩ ∈ tail) :
    Settled config (h ++ ⟨.fetch (checkout config issueId agentId runId), exchange⟩ :: tail) := by
  intro before after issueId' agentId' runId' exchange' issue split read
  rcases split_append split with ⟨m, within, rest⟩ | ⟨m, front, within⟩
  · obtain ⟨companyId, inside, issues, polled, context, id, run, company, tenant, done⟩ :=
      settled before m issueId' agentId' runId' exchange' issue within read
    refine ⟨companyId, inside, issues, polled, context, id, run, company, tenant, ?_⟩
    rw [rest]
    rcases done with dispatched | ⟨again, requeued⟩
    · exact Or.inl (List.mem_append_left _ dispatched)
    · exact Or.inr ⟨again, List.mem_append_left _ requeued⟩
  · cases m with
    | nil =>
      obtain ⟨first, rfl⟩ := List.cons.inj within
      obtain ⟨rfl, rfl, rfl, rfl⟩ := claim_inj first
      rw [front, List.append_nil]
      exact ⟨companyId, inside, issues, polled, context, id, run, company, tenant, done issue read⟩
    | cons d m =>
      obtain ⟨rfl, rest⟩ := List.cons.inj within
      have member : ⟨.fetch (checkout config issueId' agentId' runId'), exchange'⟩ ∈ tail := by
        rw [rest]
        exact List.mem_append_right m List.mem_cons_self
      exact absurd rfl (quiet _ member issueId' agentId' runId')

theorem allowed_newRunId : Allowed config h .newRunId := ⟨by simp, by simp⟩

theorem allowed_dispatch (context : DispatchContext) : Allowed config h (.dispatch context) :=
  ⟨by simp, by simp⟩

theorem allowed_listing : Allowed config h (.fetch (listing config companyId)) := by
  constructor
  · intro issueId same
    exact absurd (Op.fetch.inj same).symm requeue_ne_listing
  · intro issueId agentId runId same
    exact absurd (Op.fetch.inj same) listing_ne_checkout

theorem allowed_checkout (inside : companyId ∈ config.companyIds)
    (polled : Polled config h companyId issues) (tenant : mappedTenant config companyId ≠ none)
    {issue : PaperclipIssueListItem} (member : issue ∈ issues)
    (runnable : isRunnable config issue = true) (fits : mismatched companyId issue = false) :
    Allowed config h
      (.fetch (checkout config issue.id (issue.assigneeAgentId.getD "") runId)) := by
  constructor
  · intro issueId same
    exact absurd (Op.fetch.inj same).symm requeue_ne_checkout
  · intro issueId agentId runId same
    obtain ⟨rfl, rfl, rfl⟩ := checkout_inj (Op.fetch.inj same)
    have assigned : issue.assigneeAgentId = some (issue.assigneeAgentId.getD "") := by
      cases assignee : issue.assigneeAgentId with
      | none => simp [isRunnable, assignee] at runnable
      | some agentId => rfl
    exact ⟨companyId, inside, issues, polled, tenant, issue, member, rfl, assigned, runnable, fits⟩

theorem allowed_requeue {before : List (Did Res)} {exchange : Exchange} {context : DispatchContext}
    {issue : PaperclipIssue} (read : issueOf exchange = .ok issue) :
    Allowed config (before ++ [⟨.fetch (checkout config issueId agentId runId), exchange⟩,
      ⟨.dispatch context, false⟩]) (.fetch (requeue config issueId)) := by
  constructor
  · intro other same
    have paths := congrArg String.toList (congrArg HttpRequest.path (Op.fetch.inj same))
    simp only [requeue, httpRequest, String.toList_append] at paths
    obtain rfl := String.toList_inj.mp (List.append_cancel_left paths)
    exact ⟨before, agentId, runId, exchange, context, issue, rfl, read⟩
  · intro issueId agentId runId same
    exact absurd (Op.fetch.inj same) requeue_ne_checkout

theorem given_bind (x : Except PaperclipError α) (f : α → Except PaperclipError β) :
    (Adapter.given x >>= fun a => Adapter.given (f a) : Client Res Empty β).run = .done (x.bind f) := by
  cases x with
  | ok a => rfl
  | error e => rfl

theorem checkout_sent (issue : PaperclipIssueListItem)
    (valid : (checkoutInput config issue runId).valid = true) :
    (checkoutIssue config.paperclip fetch (checkoutInput config issue runId)).run =
      .call (Op.fetch (checkout config issue.id (issue.assigneeAgentId.getD "") runId))
        fun exchange => .done (issueOf exchange) := by
  unfold checkoutIssue
  rw [if_pos valid]
  change Prog.call (Op.fetch _) _ = _
  congr 1
  funext exchange
  exact given_bind (exchange : Exchange).delivery.payload (parse paperclipIssueSchema)

theorem requeue_sent (named : issueId ≠ "") :
    (requeueIssue config.paperclip fetch issueId).run =
      .call (Op.fetch (requeue config issueId)) fun exchange => .done (issueOf exchange) := by
  have parsed : parse Zod.filled (.str issueId) = .ok issueId := by simp [parse, Zod.filled, named]
  unfold requeueIssue
  rw [parsed]
  change Prog.call (Op.fetch _) _ = _
  congr 1
  funext exchange
  exact given_bind (exchange : Exchange).delivery.payload (parse paperclipIssueSchema)

theorem listing_sent (named : companyId ≠ "") :
    (listCompanyIssues config.paperclip fetch companyId none).run =
      .call (Op.fetch (listing config companyId)) fun answer => .done (listed answer) := by
  have parsed : parse Zod.filled (.str companyId) = .ok companyId := by
    simp [parse, Zod.filled, named]
  unfold listCompanyIssues
  rw [parsed]
  change Prog.call (Op.fetch _) _ = _
  congr 1
  funext answer
  exact given_bind (answer : Exchange).delivery.payload fun payload =>
    parse paperclipIssueListSchema (rows payload)

/-- What follows a checkout: only an issue that was handed out is dispatched. -/
def dispatchClaimed (config : PaperclipHeartbeatConfig) (companyId : String) (tenantId : MappedTenant)
    (issue : PaperclipIssueListItem) (runId : String) : Except PaperclipError PaperclipIssue → Worker Unit
  | .error _ => .done ()
  | .ok _ => (await (.dispatch (dispatchContext companyId tenantId issue runId)) : Worker Bool) >>=
    fun dispatched => if dispatched = true then .done ()
      else discard (requeueIssue config.paperclip fetch issue.id).run

/-- The work on one issue settles the checkout it makes. -/
theorem meets_processIssue (live : config.dryRun = false) (inside : companyId ∈ config.companyIds)
    (polled : Polled config h companyId issues) (settled : Settled config h) {tenantId : MappedTenant}
    (tenant : mappedTenant config companyId = some tenantId) {issue : PaperclipIssueListItem}
    (member : issue ∈ issues) (runnable : isRunnable config issue = true)
    (fits : mismatched companyId issue = false) :
    Meets (Allowed config) (fun h' _ => Settled config h' ∧ Polled config h' companyId issues) h
      (processIssue config companyId (some tenantId) issue) := by
  have dry : ¬ config.dryRun = true := by simp [live]
  unfold processIssue
  apply meets_perform_bind allowed_newRunId
  intro runId
  rw [if_neg dry]
  dsimp only
  have drawn : Polled config (h ++ [⟨.newRunId, runId⟩]) companyId issues := by
    apply polled.append
    simp
  have before : Settled config (h ++ [⟨.newRunId, runId⟩]) := by
    apply settled.append
    simp
  by_cases valid : (checkoutInput config issue runId).valid = true
  · rw [checkout_sent issue valid]
    refine ⟨allowed_checkout inside drawn (by simp [tenant]) member runnable fits, ?_⟩
    intro exchange
    have after : ∀ tail : List (Did Res), (∀ d ∈ tail, Quiet config d.op) →
        (∀ found, issueOf exchange = .ok found →
          ⟨.dispatch (dispatchContext companyId tenantId issue runId), true⟩ ∈ tail ∨
            ∃ again, ⟨.fetch (requeue config issue.id), again⟩ ∈ tail) →
        Settled config (h ++ [⟨.newRunId, runId⟩] ++
            ⟨.fetch (checkout config issue.id (issue.assigneeAgentId.getD "") runId), exchange⟩ :: tail) ∧
          Polled config (h ++ [⟨.newRunId, runId⟩] ++
            ⟨.fetch (checkout config issue.id (issue.assigneeAgentId.getD "") runId), exchange⟩ :: tail)
            companyId issues := by
      intro tail quiet done
      constructor
      · exact before.claim (fun d there => (quiet d there).2) inside drawn rfl rfl rfl tenant done
      · apply drawn.append
        intro d there
        rcases List.mem_cons.mp there with rfl | there
        · intro other same
          exact listing_ne_checkout (Op.fetch.inj same).symm
        · exact (quiet d there).1
    have named : issue.id ≠ "" := by
      intro blank
      simp [PaperclipCheckoutInput.valid, checkoutInput, blank] at valid
    change Meets _ _ _ (dispatchClaimed config companyId tenantId issue runId (issueOf exchange))
    cases read : issueOf exchange with
    | error e => exact after [] (by simp) (by simp [read])
    | ok found =>
      apply meets_perform_bind (allowed_dispatch _)
      intro dispatched
      cases dispatched with
      | true =>
        have done := after [⟨.dispatch (dispatchContext companyId tenantId issue runId), true⟩]
          (by simpa using quiet_dispatch _) (by simp)
        change Settled config _ ∧ Polled config _ companyId issues
        simpa using done
      | false =>
        rw [if_neg Bool.false_ne_true, requeue_sent named, List.append_assoc]
        refine ⟨allowed_requeue read, ?_⟩
        intro again
        have done := after [⟨.dispatch (dispatchContext companyId tenantId issue runId), false⟩,
          ⟨.fetch (requeue config issue.id), again⟩]
          (by simpa using ⟨quiet_dispatch _, quiet_requeue⟩) (by simp)
        change Settled config _ ∧ Polled config _ companyId issues
        simpa using done
  · have refused : (checkoutIssue config.paperclip fetch (checkoutInput config issue runId)).run =
        .done (.error .zod) := by
      unfold checkoutIssue
      rw [if_neg valid]
      rfl
    rw [refused]
    exact ⟨before, drawn⟩

/-- A poll of a company settles the checkouts it makes. -/
theorem meets_tickCompany (live : config.dryRun = false) (inside : companyId ∈ config.companyIds)
    (settled : Settled config h) :
    Meets (Allowed config) (fun h' _ => Settled config h') h (tickCompany config companyId).run := by
  unfold tickCompany
  cases tenant : mappedTenant config companyId with
  | none =>
    rw [if_pos (by simp [live])]
    exact settled
  | some tenantId =>
    rw [if_neg (by simp)]
    apply meets_attempt_bind (R := fun h' x => Settled config h' ∧
      ∀ issues, x = .ok issues → Polled config h' companyId issues)
    · by_cases named : companyId = ""
      · rw [named]
        exact ⟨settled, by simp⟩
      · rw [listing_sent named]
        refine ⟨allowed_listing, ?_⟩
        intro answer
        constructor
        · apply settled.append
          intro d member issueId agentId runId
          rw [List.mem_singleton.mp member]
          intro same
          exact listing_ne_checkout (Op.fetch.inj same)
        · intro issues shown
          exact ⟨h, answer, [], rfl, shown, by simp⟩
    · intro h' issues ⟨settled, polled⟩
      have loop := meets_forM (P := Allowed config) (f := fun issue =>
          if mismatched companyId issue = true then Prog.done ()
          else processIssue config companyId (some tenantId) issue)
        (issues.filter (isRunnable config))
        (J := fun h => Settled config h ∧ Polled config h companyId issues)
        ⟨settled, polled issues rfl⟩ ?_
      · apply meets_bind loop
        intro h' _ kept
        exact kept.1
      · intro issue member h' kept
        obtain ⟨there, runnable⟩ := List.mem_filter.mp member
        apply meets_ite
        · intro _
          exact kept
        · intro fits
          exact meets_processIssue live inside kept.2 kept.1 tenant there runnable (by simpa using fits)
    · intro h' e result
      exact result.1

theorem meets_tick (live : config.dryRun = false) (ticking : Bool) :
    Meets (Allowed config) (fun h _ => Settled config h) [] (tick config ticking) := by
  have start : Settled config [] := by
    intro before after issueId agentId runId exchange issue split
    exact absurd split (by simp)
  apply meets_ite
  · intro _
    exact start
  · intro _
    apply meets_forM config.companyIds start
    intro companyId inside h settled
    exact meets_bind (meets_tickCompany live inside settled) fun h' _ kept => kept

theorem mapped_entry {t : MappedTenant}
    (own : companyId ∈ inheritedMembers → config.companyTenantMap.lookup companyId ≠ none)
    (tenant : mappedTenant config companyId = some t) :
    ∃ tenantId, config.companyTenantMap.lookup companyId = some tenantId ∧ tenantId ≠ "" ∧
      t = .entry tenantId := by
  unfold mappedTenant at tenant
  cases found : config.companyTenantMap.lookup companyId with
  | none =>
    simp only [found] at tenant
    split at tenant
    · rename_i inherited
      exact absurd found (own inherited)
    · cases tenant
  | some tenantId =>
    simp only [found] at tenant
    split at tenant
    · cases tenant
    · rename_i filled
      cases tenant
      exact ⟨tenantId, rfl, filled, rfl⟩

theorem own_company {issue : PaperclipIssueListItem} (fits : mismatched companyId issue = false)
    (named : issue.companyId ≠ some "") : ∀ other, issue.companyId = some other → other = companyId := by
  intro other same
  have filled : other ≠ "" := by
    intro blank
    exact named (blank ▸ same)
  simpa [mismatched, same, filled] using fits

/-- In every poll whose answers and configuration keep to `Told`, whatever else
the server and the dispatcher do, the work that is taken is dispatched or
requeued, and no other work is touched. -/
theorem claimed_work_kept (config : PaperclipHeartbeatConfig) (ticking : Bool)
    (live : config.dryRun = false) (log : List (Did Res))
    (performed : Performed (tick config ticking) log ()) (told : Told config log) :
    Kept config log := by
  have meets := meets_tick live ticking
  have settled := performed.meets meets
  rw [List.nil_append] at settled
  constructor
  · intro before after issueId agentId runId exchange split applied
    have member : ⟨.fetch (checkout config issueId agentId runId), exchange⟩ ∈ log := by
      rw [split]
      exact List.mem_append_right before List.mem_cons_self
    obtain ⟨issue, read⟩ := told.returned issueId agentId runId exchange member applied
    obtain ⟨companyId, inside, issues, polled, context, id, run, company, tenant, done⟩ :=
      settled before after issueId agentId runId exchange issue split read
    obtain ⟨tenantId, entry, _, same⟩ := mapped_entry (told.mapped companyId inside) tenant
    refine ⟨companyId, issues, polled, ?_⟩
    rcases done with dispatched | requeued
    · exact Or.inl ⟨context, tenantId, dispatched, id, run, company, entry, same⟩
    · exact Or.inr requeued
  · intro before after issueId again split
    obtain ⟨earlier, agentId, runId, exchange, context, issue, rfl, read⟩ :=
      (performed.each meets split).requeued issueId rfl
    refine ⟨agentId, runId, exchange, by simp, ?_⟩
    apply told.applied earlier (⟨.fetch (requeue config issueId), again⟩ :: after) issueId agentId runId
      exchange context issue _ read
    rw [split]
    simp
  · intro before after issueId agentId runId exchange split
    obtain ⟨companyId, inside, issues, polled, tenant, issue, member, id, assigned, runnable, fits⟩ :=
      (performed.each meets split).claimed issueId agentId runId rfl
    obtain ⟨t, mapped⟩ := Option.ne_none_iff_exists'.mp tenant
    obtain ⟨tenantId, entry, filled, _⟩ := mapped_entry (told.mapped companyId inside) mapped
    have named : issue.companyId ≠ some "" := by
      obtain ⟨earlier, answer, later, shown, read, _⟩ := polled
      rw [List.nil_append] at shown
      apply told.named companyId answer issues _ read issue member runnable
      rw [split, shown]
      simp
    exact ⟨companyId, issues, tenantId, polled, entry, filled, issue, member, id, assigned,
      own_company fits named⟩

def acme : PaperclipHeartbeatConfig :=
  { paperclip := ⟨"http://paperclip:3100", "svc", 15000⟩, companyIds := ["cmp_1"],
    companyTenantMap := [("cmp_1", "11111111-1111-4111-8111-111111111111")],
    runnableStatuses := ["todo", "backlog"], dryRun := false }

/-- The answer to a listing of one issue that has no title. -/
def oneIssue : Exchange :=
  ⟨true, .response 200 (some "application/json") (some (.arr [.obj [("id", .str "iss_1"),
    ("identifier", .str "ACME-1"), ("title", .null), ("status", .str "todo"),
    ("assigneeAgentId", .str "agt_1"), ("companyId", .str "cmp_1")]]))⟩

/-- The answer to a checkout, which was applied. -/
def claimedIssue (title : Json) : Exchange :=
  ⟨true, .response 200 (some "application/json") (some (.obj [("id", .str "iss_1"),
    ("identifier", .str "ACME-1"), ("title", title), ("status", .str "in_progress")]))⟩

def context : DispatchContext :=
  { tenantId := .entry "11111111-1111-4111-8111-111111111111", companyId := "cmp_1",
    agentId := "agt_1", issueId := "iss_1", issueIdentifier := some "ACME-1", title := none,
    runId := "run_1" }

/-- A checkout whose dispatch fails. -/
def undispatched : List (Did Res) :=
  [⟨.fetch (listing acme "cmp_1"), oneIssue⟩, ⟨.newRunId, "run_1"⟩,
    ⟨.fetch (checkout acme "iss_1" "agt_1" "run_1"), claimedIssue (.str "Do work")⟩,
    ⟨.dispatch context, false⟩, ⟨.fetch (requeue acme "iss_1"), ⟨false, .failed⟩⟩]

theorem undispatched_performed : Performed (tick acme false) undispatched () := by
  refine @Performed.call Op Res Empty Unit (.fetch (listing acme "cmp_1")) _ _ _ _ ?_
  refine @Performed.call Op Res Empty Unit .newRunId _ _ _ _ ?_
  refine @Performed.call Op Res Empty Unit (.fetch (checkout acme "iss_1" "agt_1" "run_1")) _ _ _ _ ?_
  refine @Performed.call Op Res Empty Unit (.dispatch context) _ _ _ _ ?_
  refine @Performed.call Op Res Empty Unit (.fetch (requeue acme "iss_1")) _ _ _ _ ?_
  exact Performed.done ()

theorem checkout_of_undispatched {exchange : Exchange}
    (member : ⟨.fetch (checkout acme issueId agentId runId), exchange⟩ ∈ undispatched) :
    exchange = claimedIssue (.str "Do work") := by
  simp only [undispatched, List.mem_cons, List.not_mem_nil, or_false] at member
  rcases member with same | same | same | same | same
  · exact absurd (Op.fetch.inj (congrArg Did.op same)).symm listing_ne_checkout
  · cases congrArg Did.op same
  · exact (claim_inj same).2.2.2
  · cases congrArg Did.op same
  · exact absurd (Op.fetch.inj (congrArg Did.op same)).symm requeue_ne_checkout

theorem listing_of_undispatched {answer : Exchange}
    (member : ⟨.fetch (listing acme companyId), answer⟩ ∈ undispatched) : answer = oneIssue := by
  simp only [undispatched, List.mem_cons, List.not_mem_nil, or_false] at member
  rcases member with same | same | same | same | same
  · exact (poll_inj same).2
  · cases congrArg Did.op same
  · exact absurd (Op.fetch.inj (congrArg Did.op same)) listing_ne_checkout
  · cases congrArg Did.op same
  · exact absurd (Op.fetch.inj (congrArg Did.op same)).symm requeue_ne_listing

theorem undispatched_told : Told acme undispatched := by
  constructor
  · intro companyId inside inherited
    rw [List.mem_singleton.mp inside] at inherited ⊢
    simp [inheritedMembers] at inherited
  · intro companyId answer issues member read issue there _
    rw [listing_of_undispatched member] at read
    cases read
    rw [List.mem_singleton.mp there]
    simp
  · intro issueId agentId runId exchange member _
    rw [checkout_of_undispatched member]
    exact ⟨_, rfl⟩
  · intro before after issueId agentId runId exchange _ issue split _
    have member : ⟨.fetch (checkout acme issueId agentId runId), exchange⟩ ∈ undispatched := by
      rw [split]
      simp
    rw [checkout_of_undispatched member]
    rfl

/-- An issue whose dispatch fails goes back. -/
theorem undispatched_kept : Kept acme undispatched :=
  claimed_work_kept acme false rfl undispatched undispatched_performed undispatched_told

def untitled : List (Did Res) :=
  [⟨.fetch (listing acme "cmp_1"), oneIssue⟩, ⟨.newRunId, "run_1"⟩,
    ⟨.fetch (checkout acme "iss_1" "agt_1" "run_1"), claimedIssue .null⟩]

theorem untitled_performed : Performed (tick acme false) untitled () := by
  refine @Performed.call Op Res Empty Unit (.fetch (listing acme "cmp_1")) _ _ _ _ ?_
  refine @Performed.call Op Res Empty Unit .newRunId _ _ _ _ ?_
  refine @Performed.call Op Res Empty Unit (.fetch (checkout acme "iss_1" "agt_1" "run_1")) _ _ _ _ ?_
  exact Performed.done ()

/-- An issue without a title is checked out, and neither dispatched nor requeued. -/
theorem untitled_dropped : ∃ log, Performed (tick acme false) log () ∧ ¬ Kept acme log := by
  refine ⟨untitled, untitled_performed, ?_⟩
  intro kept
  obtain ⟨companyId, issues, _, ⟨_, tenantId, dispatched, _⟩ | ⟨again, requeued⟩⟩ :=
    kept.handled [_, _] [] "iss_1" "agt_1" "run_1" _ rfl rfl
  · cases dispatched
  · cases requeued

end

end VantGrowth.Proofs.ClaimedWork
