import Mathlib.Data.Set.Insert
import VantGrowth.Provisioning.Orchestrator

namespace VantGrowth.Proofs.TenantResources
open Core Lib Lib.Text Provisioning
open Workflow (acceptsInput)

abbrev Entry := Machine.Entry Res ProvisioningError TenantProvisioningWorkflowInput

abbrev Log := List Entry

/-- A resource that was handed to two runs was handed to one tenant. -/
def Unshared (log : Log) : Prop :=
  ∀ i a op x j b op' y resource, .did (.worker i a) op (.ok x) ∈ log →
    .did (.worker j b) op' (.ok y) ∈ log → held op x = some resource →
    held op' y = some resource → a.tenantId = b.tenantId

/-- Whatever the systems, as long as they are idempotent, and however often and
in which order these inputs are run. -/
def NeverShared (inputs : Set TenantProvisioningWorkflowInput) : Prop :=
  ∀ (env : Environment), Idempotent env → ∀ (w : env.World) labels,
    (∀ input, .spawn input ∈ labels → input ∈ inputs) →
    Unshared (runs (provisioning env).step (Machine.initial w) labels).log

/-- The key by which the orchestrator asks for a resource of an input. -/
def keyOf (input : TenantProvisioningWorkflowInput) : ResourceKind → String
  | .organisation => tenantZitadelOrgName input.tenantName
  | .repository => tenantWorkspaceRepoName input.tenantId
  | .consumer => tenantNatsConsumerName input.tenantId
  | .bucket => tenantBucketName input.tenantId
  | .customer => tenantLagoCustomerId input.tenantId
  | .subscription => tenantLagoMotionSubId input.tenantId

/-- Every key but that of the organisation is made from the tenant id alone. -/
theorem key_separates {a b : TenantProvisioningWorkflowInput} {kind : ResourceKind}
    (same : keyOf a kind = keyOf b kind) :
    (kind = .organisation ∧ a.tenantName = b.tenantName) ∨ a.tenantId = b.tenantId := by
  have listed := congrArg String.toList same
  cases kind with
  | organisation =>
    simp only [keyOf, tenantZitadelOrgName, String.toList_append, List.append_cancel_left_eq] at listed
    exact Or.inl ⟨rfl, String.toList_inj.mp listed⟩
  | repository =>
    simp only [keyOf, tenantWorkspaceRepoName, String.toList_append,
      List.append_cancel_left_eq] at listed
    exact Or.inr (String.toList_inj.mp listed)
  | consumer =>
    simp only [keyOf, tenantNatsConsumerName, String.toList_append, List.append_assoc,
      List.append_cancel_left_eq, List.append_cancel_right_eq] at listed
    exact Or.inr (String.toList_inj.mp listed)
  | bucket =>
    simp only [keyOf, tenantBucketName, String.toList_append, List.append_cancel_left_eq] at listed
    exact Or.inr (String.toList_inj.mp listed)
  | customer => exact Or.inr same
  | subscription =>
    simp only [keyOf, tenantLagoMotionSubId, String.toList_append,
      List.append_cancel_right_eq] at listed
    exact Or.inr (String.toList_inj.mp listed)

section
variable (input : TenantProvisioningWorkflowInput)

/-- The call asks for a resource by the input's key for that kind. -/
def Named (op : Op) : Prop :=
  ∀ kind key, identity op = some (kind, key) → key = keyOf input kind

/-- What a run asks for: an input that was refused asks for nothing. -/
def Asks (_ : List (Did Res)) (op : Op) : Prop :=
  acceptsInput input = true ∧ Named input op

variable {input}

theorem named_none {op : Op} (plain : identity op = none) : Named input op := by
  intro kind key asked
  rw [plain] at asked
  cases asked

theorem named_key {op : Op} {kind : ResourceKind}
    (keyed : identity op = some (kind, keyOf input kind)) : Named input op := by
  intro kind' key asked
  rw [keyed] at asked
  cases asked
  rfl

/-- A part of a run of an accepted input. -/
abbrev Keyed (input : TenantProvisioningWorkflowInput) (h : List (Did Res)) (m : Call α) : Prop :=
  Prog.Meets (Asks input) (fun _ _ => True) h m

variable (accepted : acceptsInput input = true)
include accepted

theorem createOrg_keyed (h : List (Did Res)) :
    Keyed input h (createOrg (tenantZitadelOrgName input.tenantName)) := by
  refine Prog.meets_perform_bind ⟨accepted, named_key rfl⟩ fun response => ?_
  refine Prog.meets_ite (fun _ => ?_) fun _ => ?_
  · refine Prog.meets_perform_bind ⟨accepted, named_key rfl⟩ fun (found : SearchResponse) => ?_
    refine Prog.meets_require_bind fun _ => ?_
    cases found.result.head? with
    | none => exact Prog.meets_throw
    | some found =>
      dsimp only
      split
      · exact Prog.meets_throw
      · exact Prog.meets_pure trivial
  · refine Prog.meets_require_bind fun _ => ?_
    split
    · exact Prog.meets_throw
    · exact Prog.meets_pure trivial

omit accepted in
theorem steps_keyed (steps : List (Call ProvisioningStepResult))
    (each : ∀ step ∈ steps, ∀ h, Keyed input h step) (h : List (Did Res)) :
    Keyed input h (runSteps steps) := by
  induction steps generalizing h with
  | nil => exact Prog.meets_pure trivial
  | cons step steps ih =>
    refine Prog.meets_bind (each step List.mem_cons_self h) fun h' _ _ => ?_
    refine Prog.meets_bind (ih (fun other there => each other (List.mem_cons_of_mem step there)) h')
      fun _ _ _ => ?_
    exact Prog.meets_pure trivial

/-- A call that asks for nothing keyed, or by the input's own key. -/
theorem keyed_await {h : List (Did Res)} {op : Op} {f : Res op → Call α} (named : Named input op)
    (next : ∀ h' r, Keyed input h' (f r)) :
    Keyed input h (await op >>= f) :=
  Prog.meets_perform_bind ⟨accepted, named⟩ fun r => next _ r

theorem run_keyed : Keyed input [] (run input) := by
  refine Prog.meets_require_bind fun _ => Prog.meets_bind (steps_keyed _ ?_ [])
    fun h _ _ => ?_
  · intro step member h
    simp only [provisioningSteps, List.mem_cons, List.not_mem_nil, or_false] at member
    rcases member with rfl | rfl | rfl | rfl | rfl | rfl | rfl
    · refine keyed_await accepted (named_none rfl) fun h' _ => ?_
      refine Prog.meets_bind (createOrg_keyed accepted h') fun _ org _ => ?_
      exact keyed_await accepted (named_none rfl) fun _ _ => Prog.meets_pure trivial
    · refine keyed_await accepted (named_none rfl) fun _ _ => ?_
      exact keyed_await accepted (named_none rfl) fun _ _ => Prog.meets_pure trivial
    · refine keyed_await accepted (named_none rfl) fun _ _ => ?_
      exact keyed_await accepted (named_key rfl) fun _ _ => Prog.meets_pure trivial
    · refine keyed_await accepted (named_none rfl) fun _ _ => ?_
      exact keyed_await accepted (named_key rfl) fun _ _ => Prog.meets_pure trivial
    · refine keyed_await accepted (named_none rfl) fun _ _ => ?_
      exact keyed_await accepted (named_key rfl) fun _ _ => Prog.meets_pure trivial
    · refine keyed_await accepted (named_none rfl) fun _ _ => ?_
      refine keyed_await accepted (named_key rfl) fun _ _ => ?_
      exact keyed_await accepted (named_key rfl) fun _ _ => Prog.meets_pure trivial
    · refine keyed_await accepted (named_none rfl) fun _ _ => ?_
      exact keyed_await accepted (named_none rfl) fun _ _ => Prog.meets_pure trivial
  · refine keyed_await accepted (named_none rfl) fun _ _ => ?_
    exact keyed_await accepted (named_none rfl) fun _ _ => Prog.meets_pure trivial

end

theorem run_asks (input : TenantProvisioningWorkflowInput) :
    Prog.Meets (Asks input) (fun _ _ => True) [] (run input) := by
  by_cases accepted : acceptsInput input = true
  · exact run_keyed accepted
  · have refused : (Prog.require (acceptsInput input = true) .zod : Call Unit) = Prog.throw .zod :=
      if_neg accepted
    unfold run
    rw [refused]
    exact Prog.meets_throw

section
variable {env : Environment} (idempotent : Idempotent env) {w : env.World}
  {labels : List (Machine.Label Op TenantProvisioningWorkflowInput)}

theorem provisioning_valid (w : env.World)
    (labels : List (Machine.Label Op TenantProvisioningWorkflowInput)) :
    Machine.Valid (provisioning env) Asks (fun _ _ _ => True) w
      (runs (provisioning env).step (Machine.initial w) labels).log := by
  refine (Machine.runs_valid ?_ labels).1
  intro w input p started
  cases started
  exact run_asks input

include idempotent

theorem owner_kept {s : env.World} {resource : ResourceKind × String} {key : String}
    (owned : idempotent.owner s resource = some key) (log : Log) :
    idempotent.owner ((provisioning env).replay s log) resource = some key := by
  refine runs_invariant (I := fun s => idempotent.owner s resource = some key) ?_ owned log
  intro s e owned
  cases e with
  | spawned i input => exact owned
  | did actor op r => exact idempotent.kept s op resource key owned

/-- A resource handed to a run belongs, ever after, to the key the run asked
for it by. -/
theorem handed_owner {log : Log} (valid : Machine.Valid (provisioning env) Asks (fun _ _ _ => True)
    w log) {i : Nat} {input : TenantProvisioningWorkflowInput} {op : Op} {x : Res op}
    {resource : ResourceKind × String} (member : .did (.worker i input) op (.ok x) ∈ log)
    (handed : held op x = some resource) :
    acceptsInput input = true ∧ idempotent.owner ((provisioning env).replay w log) resource =
      some (keyOf input resource.1) := by
  obtain ⟨before, after, rfl⟩ := List.append_of_mem member
  obtain ⟨_, accepted, named⟩ := valid.worked before after i input op (.ok x) rfl
  have answered := valid.answered before after (.worker i input) op (.ok x) rfl
  obtain ⟨key, asked, owned⟩ := idempotent.given _ op x resource answered.symm handed
  have own := named resource.1 key asked
  subst own
  have later := owner_kept idempotent owned after
  rw [← List.singleton_append, ← List.append_assoc, Machine.replay_append, Machine.replay_snoc]
  exact ⟨accepted, later⟩

end

theorem present_filled {text : String} (filled : text ≠ "") : present (some text) = some text := by
  unfold present
  split
  · rename_i blank
    exact absurd (Option.some.inj blank) filled
  · rfl

/-- The organisations that answer a search by name. -/
def matching (orgs : List String) (name : String) : List OrgMatch :=
  if name ∈ orgs then [⟨some name, some name⟩] else []

theorem matching_named {orgs : List String} {name text : String}
    (found : (matching orgs name).head?.bind (·.id) = some text) : text = name := by
  unfold matching at found
  split at found
  · exact (Option.some.inj found).symm
  · cases found

/-- Systems that name every resource by its key. The identity server keeps the
names of its organisations and makes none twice. -/
def keyedSystems : Environment where
  World := List String
  call
    | .now => Store.read fun _ => 0
    | .report _ _ _ | .createServiceAccount _ _ _ => pure ()
    | .postOrg name => ⟨fun orgs =>
        if name ∈ orgs then (.ok ⟨409, none, "already exists"⟩, orgs)
        else (.ok ⟨201, some name, ""⟩, orgs ++ [name])⟩
    | .searchOrgs name => Store.read fun orgs => ⟨200, matching orgs name, ""⟩
    | .provisionCompany tenantId _ _ => pure ⟨tenantId, true⟩
    | .provisionWorkspaceRepo _ _ repoName => pure ⟨repoName, true⟩
    | .provisionConsumerGroup _ _ consumerName => pure ⟨consumerName, true⟩
    | .provisionBucket bucketName _ => pure ⟨bucketName, true⟩
    | .createCustomer externalId _ => pure externalId
    | .assignPlan _ planCode subscriptionExternalId => pure ⟨subscriptionExternalId, planCode⟩
    | .createOrUpdateFile _ _ filePath _ _ => pure ⟨filePath, true⟩

theorem present_some {value : Option String} {text : String} (here : present value = some text) :
    value = some text := by
  unfold present at here
  split at here
  · cases here
  · exact here

def keyedSystems_idempotent : Idempotent keyedSystems where
  owner _ resource := some resource.2
  kept _ _ _ _ owned := owned
  given s op x resource answered handed := by
    cases op with
    | postOrg name =>
      simp only [keyedSystems] at answered
      split at answered
      · cases answered
        cases handed
      · cases answered
        obtain ⟨text, here, rfl⟩ := Option.map_eq_some_iff.mp handed
        cases present_some here
        exact ⟨name, rfl, rfl⟩
    | searchOrgs name =>
      cases answered
      obtain ⟨text, here, rfl⟩ := Option.map_eq_some_iff.mp handed
      have found : (matching s name).head?.bind (·.id) = some text := present_some here
      exact ⟨name, rfl, congrArg some (matching_named found)⟩
    | provisionWorkspaceRepo | provisionConsumerGroup | provisionBucket | createCustomer
    | assignPlan =>
      cases answered
      cases handed
      exact ⟨_, rfl, rfl⟩
    | _ => cases handed
  same _ _ id id' key owned owned' := (Option.some.inj owned).trans (Option.some.inj owned').symm

/-- The opening of a run of an accepted input. -/
theorem run_opens {input : TenantProvisioningWorkflowInput}
    (accepted : acceptsInput input = true) :
    ∃ k, run input = .call (.report .zitadel_org 5
        ("Provisioning Zitadel organisation for " ++ input.tenantName))
        (fun _ => .call (.postOrg (tenantZitadelOrgName input.tenantName)) k) ∧
      ∀ body, ∃ k', k ⟨409, none, body⟩ =
        .call (.searchOrgs (tenantZitadelOrgName input.tenantName)) k' := by
  have passed : (Prog.require (acceptsInput input = true) .zod : Call Unit) = pure () :=
    if_pos accepted
  unfold run
  rw [passed]
  exact ⟨_, rfl, fun body => ⟨_, rfl⟩⟩

/-- The second of two runs under one name is handed the organisation of the
first. -/
theorem same_name_shares {a b : TenantProvisioningWorkflowInput}
    (acceptsA : acceptsInput a = true) (acceptsB : acceptsInput b = true)
    (named : a.tenantName = b.tenantName) {inputs : Set TenantProvisioningWorkflowInput}
    (ha : a ∈ inputs) (hb : b ∈ inputs) (never : NeverShared inputs) : a.tenantId = b.tenantId := by
  obtain ⟨kA, opensA, _⟩ := run_opens acceptsA
  obtain ⟨kB, opensB, conflict⟩ := run_opens acceptsB
  obtain ⟨k', searches⟩ := conflict "already exists"
  have key : tenantZitadelOrgName b.tenantName = tenantZitadelOrgName a.tenantName := by rw [named]
  have filled : present (some (tenantZitadelOrgName a.tenantName)) =
      some (tenantZitadelOrgName a.tenantName) := by
    refine present_filled fun blank => ?_
    have letters := congrArg String.toList blank
    simp [tenantZitadelOrgName] at letters
  generalize tenantZitadelOrgName a.tenantName = name at opensA key filled
  rw [key] at opensB searches
  let labels : List (Machine.Label Op TenantProvisioningWorkflowInput) :=
    [.spawn a, .run 0, .run 0, .spawn b, .run 1, .run 1, .run 1]
  have launched : ∀ input, .spawn input ∈ labels → input ∈ inputs := by
    intro input member
    simp [labels] at member
    rcases member with rfl | rfl
    · exact ha
    · exact hb
  have first : runs (provisioning keyedSystems).step (Machine.initial ([] : List String))
      [.spawn a, .run 0, .run 0] = ⟨[name], [⟨a, kA ⟨201, some name, ""⟩⟩],
        [.spawned 0 a, .did (.worker 0 a) (.report .zitadel_org 5
          ("Provisioning Zitadel organisation for " ++ a.tenantName)) (.ok ()),
          .did (.worker 0 a) (.postOrg name) (.ok ⟨201, some name, ""⟩)]⟩ := by
    have spawned : (provisioning keyedSystems).step (Machine.initial ([] : List String))
        (.spawn a) = ⟨[], [⟨a, run a⟩], [.spawned 0 a]⟩ := rfl
    rw [runs_cons, spawned, opensA]
    rfl
  have taken : (keyedSystems.call (.postOrg name)).run [name] =
      (.ok ⟨409, none, "already exists"⟩, [name]) := if_pos (List.mem_singleton_self name)
  have listed : matching [name] name = [⟨some name, some name⟩] :=
    if_pos (List.mem_singleton_self name)
  have turn : ∀ (t : Machine.Thread Res ProvisioningError TenantProvisioningWorkflowInput
      TenantProvisioningResult) op next log,
      (provisioning keyedSystems).step ⟨[name], [t, ⟨b, .call op next⟩], log⟩ (.run 1) =
        ⟨((keyedSystems.call op).run [name]).2,
          [t, ⟨b, Machine.resume next ((keyedSystems.call op).run [name]).1⟩],
          log ++ [.did (.worker 1 b) op ((keyedSystems.call op).run [name]).1]⟩ :=
    fun _ _ _ _ => rfl
  have second : ∀ (t : Machine.Thread Res ProvisioningError TenantProvisioningWorkflowInput
      TenantProvisioningResult) log,
      (runs (provisioning keyedSystems).step ⟨[name], [t], log⟩
        [.spawn b, .run 1, .run 1, .run 1]).log =
        log ++ [.spawned 1 b] ++ [.did (.worker 1 b) (.report .zitadel_org 5
            ("Provisioning Zitadel organisation for " ++ b.tenantName)) (.ok ())] ++
          [.did (.worker 1 b) (.postOrg name) (.ok ⟨409, none, "already exists"⟩)] ++
          [.did (.worker 1 b) (.searchOrgs name) (.ok ⟨200, [⟨some name, some name⟩], ""⟩)] := by
    intro t log
    have spawned : (provisioning keyedSystems).step ⟨[name], [t], log⟩ (.spawn b) =
        ⟨[name], [t, ⟨b, run b⟩], log ++ [.spawned 1 b]⟩ := rfl
    have reported : (keyedSystems.call (.report .zitadel_org 5
        ("Provisioning Zitadel organisation for " ++ b.tenantName))).run [name] =
        (.ok (), [name]) := rfl
    have found : (keyedSystems.call (.searchOrgs name)).run [name] =
        (.ok ⟨200, [⟨some name, some name⟩], ""⟩, [name]) := by
      rw [← listed]
      rfl
    rw [runs_cons, spawned, opensB, runs_cons, turn, reported]
    dsimp only [Machine.resume]
    rw [runs_cons, turn, taken]
    dsimp only [Machine.resume]
    rw [searches, runs_cons, turn, found]
    rfl
  have unshared := never keyedSystems keyedSystems_idempotent ([] : List String) labels launched
  have whole : labels = [.spawn a, .run 0, .run 0] ++ [.spawn b, .run 1, .run 1, .run 1] := rfl
  rw [whole, runs_append, first, second] at unshared
  refine unshared 0 a (.postOrg name) ⟨201, some name, ""⟩ 1 b (.searchOrgs name)
    ⟨200, [⟨some name, some name⟩], ""⟩ (.organisation, name) (by simp) (by simp) ?_ ?_
  · exact congrArg (Option.map _) filled
  · exact congrArg (Option.map _) filled

/-- Runs never share a resource between tenants, exactly where the tenants go by
different names. -/
theorem never_shared_iff (inputs : Set TenantProvisioningWorkflowInput) :
    NeverShared inputs ↔ ∀ a ∈ inputs, ∀ b ∈ inputs, acceptsInput a = true →
      acceptsInput b = true → a.tenantName = b.tenantName → a.tenantId = b.tenantId := by
  refine ⟨fun never a ha b hb acceptsA acceptsB named =>
    same_name_shares acceptsA acceptsB named ha hb never, fun named => ?_⟩
  intro env idempotent w labels started i a op x j b op' y resource entryA entryB handedA handedB
  have valid := provisioning_valid w labels
  obtain ⟨acceptsA, ownedA⟩ := handed_owner idempotent valid entryA handedA
  obtain ⟨acceptsB, ownedB⟩ := handed_owner idempotent valid entryB handedB
  have same : keyOf a resource.1 = keyOf b resource.1 :=
    Option.some.inj (ownedA.symm.trans ownedB)
  have spawned : ∀ {n input op} {z : Res op},
      .did (.worker n input) op (.ok z) ∈ (runs (provisioning env).step (Machine.initial w)
        labels).log → input ∈ inputs := by
    intro n input op z member
    obtain ⟨before, after, split⟩ := List.append_of_mem member
    have launched := (valid.worked before after n input op (.ok z) split).1
    have there : .spawned n input ∈ (runs (provisioning env).step (Machine.initial w) labels).log :=
      split ▸ List.mem_append_left _ launched
    rcases Machine.spawned_labelled there with absent | label
    · cases absent
    · exact started input label
  rcases key_separates same with ⟨_, names⟩ | tenants
  · exact named a (spawned entryA) b (spawned entryB) acceptsA acceptsB names
  · exact tenants

/-- A tenant by its id and its external id, named like any other. -/
def onboarded (tenantId externalId : String) : TenantProvisioningWorkflowInput :=
  { tenantId, workflowId := externalId, dedupeKey := externalId, tenantExternalId := externalId,
    tenantName := "Acme", requestedBy := "founder" }

def firstAcme : TenantProvisioningWorkflowInput :=
  onboarded "11111111-1111-4111-8111-111111111111" "acme-berlin"

def secondAcme : TenantProvisioningWorkflowInput :=
  onboarded "99999999-9999-4999-8999-999999999999" "acme-boston"

/-- Two tenants of one name come to share an organisation. -/
theorem namesakes_share :
    ¬ ∀ inputs : Set TenantProvisioningWorkflowInput,
      (∀ a ∈ inputs, ∀ b ∈ inputs, a.tenantId = b.tenantId → a = b) → NeverShared inputs := by
  intro claim
  have apart : firstAcme.tenantId ≠ secondAcme.tenantId := by decide
  refine apart (same_name_shares (by decide) (by decide) rfl (Set.mem_insert firstAcme
    {secondAcme}) (Set.mem_insert_of_mem firstAcme rfl) (claim _ ?_))
  rintro a (rfl | rfl) b (rfl | rfl) same
  · rfl
  · exact absurd same apart
  · exact absurd same.symm apart
  · rfl

end VantGrowth.Proofs.TenantResources
