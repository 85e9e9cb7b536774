import VantGrowth.Api.Approvals
import VantGrowth.Lib.Leading
import VantGrowth.Proofs.OutboxRuns

namespace VantGrowth.Proofs.ApprovalQueue
open Api Db Lib OutboxRuns

/-- None of the decisions is on the issue of the event. -/
def undecided (decisions : List ApprovalFeedback) (e : StoredOutboxEvent) : Bool :=
  match extractIssueId e.payload with
  | none => true
  | some issueId => !decisions.any (·.issueId == issueId)

def requested (o : InMemoryOutboxRepository) (tenantId outputType : String) : List StoredOutboxEvent :=
  o.events.filter fun e => e.tenantId == tenantId && e.eventType == outputType

/-- The decisions the route reads of all there are. -/
def newest (decisions : List ApprovalFeedback) : List ApprovalFeedback :=
  (decisions.insertionSort fun a b => b.createdAt ≤ a.createdAt).take 1000

def pending (o : InMemoryOutboxRepository) (f : InMemoryApprovalFeedbackRepository)
    (tenantId outputType : String) : List StoredOutboxEvent :=
  (requested o tenantId outputType).filter (undecided (f.selected tenantId (some outputType)))

/-- The answer holds as many items as are asked for and pending, and only pending ones. -/
def ShowsPending (o : InMemoryOutboxRepository) (f : InMemoryApprovalFeedbackRepository)
    (tenantId outputType : String) (limit : Nat) : Prop :=
  ∃ items, getApprovals ⟨some o, some f⟩ (some tenantId) (some outputType) (some (.finite limit)) =
      .ok (.json 200 ⟨items, items.length⟩) ∧
    items.length = min limit (pending o f tenantId outputType).length ∧
    ∀ item ∈ items, ∃ e ∈ pending o f tenantId outputType, item = queueItem e

/-- The newest events of the type, twice as many as are asked for. -/
def window (o : InMemoryOutboxRepository) (tenantId outputType : String) (limit : Nat) :
    List StoredOutboxEvent :=
  (requested o tenantId outputType).reverse.take (2 * limit)

/-- The newest events hold what is to be shown, and one whose decisions are all
older than those that are read comes after it. -/
structure InWindow (o : InMemoryOutboxRepository) (f : InMemoryApprovalFeedbackRepository)
    (tenantId outputType : String) (limit : Nat) : Prop where
  tenant : isUuid tenantId = true
  held : min limit (pending o f tenantId outputType).length ≤
    ((window o tenantId outputType limit).filter
      (undecided (f.selected tenantId (some outputType)))).length
  late : ∀ before e after, window o tenantId outputType limit = before ++ e :: after →
    undecided (newest (f.selected tenantId (some outputType))) e = true →
    undecided (f.selected tenantId (some outputType)) e = false →
    limit ≤ (before.filter (undecided (f.selected tenantId (some outputType)))).length

section
variable {decisions some_ : List ApprovalFeedback}

theorem undecided_anti (sub : some_ ⊆ decisions) (e : StoredOutboxEvent)
    (clear : undecided decisions e = true) : undecided some_ e = true := by
  unfold undecided at clear ⊢
  cases named : extractIssueId e.payload with
  | none => rfl
  | some issueId =>
    simp only [named, Bool.not_eq_true', List.any_eq_false] at clear ⊢
    intro r member
    exact clear r (sub member)

theorem newest_subset (decisions : List ApprovalFeedback) : newest decisions ⊆ decisions := by
  intro r member
  exact (List.perm_insertionSort _ _).subset (List.take_subset _ _ member)

end

section
variable {limit : Nat}

theorem queueLimit_whole (low : 1 ≤ limit) (high : limit ≤ 100) :
    queueLimit (.finite limit) = limit := by
  have least : (1 : ℚ) ≤ limit := by exact_mod_cast low
  have most : (limit : ℚ) ≤ 100 := by exact_mod_cast high
  simp only [queueLimit]
  rw [max_eq_right least, min_eq_left most]

theorem sliceEnd_whole (n : Nat) : sliceEnd n = n := by
  have floor : ((n : ℚ)).floor = n := Rat.floor_intCast n
  rw [sliceEnd, floor, Int.toNat_natCast]

end

section
variable {calls : List OutboxCall} {o : InMemoryOutboxRepository}
  {f : InMemoryApprovalFeedbackRepository} {tenantId outputType : String} {limit : Nat}

theorem tenant_named (tenant : isUuid tenantId = true) :
    (some tenantId).filter (· != "") = some tenantId := by
  have named : tenantId ≠ "" := by
    intro blank
    rw [blank] at tenant
    cases tenant
  simp [named]

/-- What the route answers for a tenant. -/
theorem answer (h : Recorded calls o) (tenant : isUuid tenantId = true) (low : 1 ≤ limit)
    (high : limit ≤ 100) :
    getApprovals ⟨some o, some f⟩ (some tenantId) (some outputType) (some (.finite limit)) =
      .ok (.json 200
        ⟨(((window o tenantId outputType limit).filter
            (undecided (newest (f.selected tenantId (some outputType))))).take limit).map queueItem,
          ((((window o tenantId outputType limit).filter
            (undecided (newest (f.selected tenantId (some outputType))))).take limit).map
              queueItem).length⟩) := by
  have twice : sliceEnd ((limit : ℚ) * 2) = 2 * limit := by
    have whole : (limit : ℚ) * 2 = ((2 * limit : Nat) : ℚ) := by
      rw [Nat.cast_mul, mul_comm]
      rfl
    rw [whole, sliceEnd_whole]
  have listed : f.listRecent tenantId 1000 (some outputType) =
      .ok (newest (f.selected tenantId (some outputType))) := by
    simp [InMemoryApprovalFeedbackRepository.listRecent, newest, tenant]
  simp only [getApprovals, tenant_named tenant, Option.getD_some, queueLimit_whole low high, twice,
    sliceEnd_whole, h.newest, listed]
  rfl

theorem refused (stranger : ¬ isUuid tenantId = true) (queue : ApprovalQueue) :
    getApprovals ⟨some o, some f⟩ (some tenantId) (some outputType) (some (.finite limit)) ≠
      .ok (.json 200 queue) := by
  intro answered
  have listed : f.listRecent tenantId 1000 (some outputType) = .error .zod := by
    simp [InMemoryApprovalFeedbackRepository.listRecent, stranger]
  simp only [getApprovals] at answered
  cases named : (some tenantId).filter (· != "") with
  | none =>
    rw [named] at answered
    cases answered
  | some given =>
    have same : given = tenantId := by
      rw [Option.filter_eq_some_iff] at named
      exact (Option.some.inj named.1).symm
    rw [named, same] at answered
    simp only [Option.getD_some, listed] at answered
    cases answered

theorem same_item (h : Recorded calls o) {d e : StoredOutboxEvent} (there : d ∈ o.events)
    (member : e ∈ o.events) (same : queueItem d = queueItem e) : d = e := by
  have stored := h.consistent.event there
  have ids : d.id = e.id := congrArg ApprovalQueueItem.eventId same
  rw [ids, h.consistent.event member] at stored
  exact (Option.some.inj stored).symm

theorem in_events {e : StoredOutboxEvent} (member : e ∈ requested o tenantId outputType) :
    e ∈ o.events :=
  (List.mem_filter.mp member).1

theorem requested_of_window {e : StoredOutboxEvent}
    (member : e ∈ window o tenantId outputType limit) : e ∈ requested o tenantId outputType :=
  List.mem_reverse.mp (List.take_subset _ _ member)

theorem shows_iff (h : Recorded calls o) (low : 1 ≤ limit) (high : limit ≤ 100) :
    ShowsPending o f tenantId outputType limit ↔ InWindow o f tenantId outputType limit := by
  by_cases tenant : isUuid tenantId = true
  · have exact_ := Windows.window_exact
      (fun e => undecided_anti (newest_subset (f.selected tenantId (some outputType))) e)
      (2 * limit) limit (requested o tenantId outputType).reverse
    rw [List.filter_reverse, List.length_reverse] at exact_
    constructor
    · intro ⟨items, answered, count, only⟩
      rw [answer h tenant low high] at answered
      cases answered
      rw [List.length_map] at count
      have wanted := exact_.mp ⟨count, ?_⟩
      · exact ⟨tenant, wanted.1, wanted.2⟩
      · intro e member
        obtain ⟨d, due, same⟩ := only (queueItem e) (List.mem_map_of_mem member)
        have shown := requested_of_window (List.mem_filter.mp (List.take_subset _ _ member)).1
        have there := List.mem_filter.mp due
        rw [same_item h (in_events shown) (in_events there.1) same]
        exact there.2
    · intro within
      have shown := exact_.mpr ⟨within.held, within.late⟩
      refine ⟨_, answer h tenant low high, ?_, ?_⟩
      · rw [List.length_map]
        exact shown.1
      · intro item member
        obtain ⟨e, taken, rfl⟩ := List.mem_map.mp member
        have seen := requested_of_window (List.mem_filter.mp (List.take_subset _ _ taken)).1
        exact ⟨e, List.mem_filter.mpr ⟨seen, shown.2 e taken⟩, rfl⟩
  · constructor
    · intro ⟨items, answered, _⟩
      exact absurd answered (refused tenant _)
    · intro within
      exact absurd within.tenant tenant

/-- The route shows what is pending exactly when the newest events hold it and
the newest decisions cover what comes before it. -/
theorem shows_pending (calls : List OutboxCall) (f : InMemoryApprovalFeedbackRepository)
    (tenantId outputType : String) (limit : Nat) (low : 1 ≤ limit) (high : limit ≤ 100) :
    ShowsPending (runs perform .empty calls) f tenantId outputType limit ↔
      InWindow (runs perform .empty calls) f tenantId outputType limit :=
  shows_iff (recorded calls) low high

/-- All decisions are read while there are a thousand or fewer. -/
theorem undecided_newest {decisions : List ApprovalFeedback} (few : decisions.length ≤ 1000)
    (e : StoredOutboxEvent) : undecided (newest decisions) e = undecided decisions e := by
  have same := List.perm_insertionSort (fun a b : ApprovalFeedback => b.createdAt ≤ a.createdAt)
    decisions
  unfold undecided newest
  rw [List.take_of_length_le (same.length_eq ▸ few)]
  cases extractIssueId e.payload with
  | none => rfl
  | some issueId =>
    dsimp only
    rw [same.any_eq]

def draft (minute : ℤ) (key issueId : String) : OutboxCall :=
  .enqueue (60000 * minute)
    { tenantId := "11111111-1111-4111-8111-111111111111", eventType := "blog_draft.v1",
      idempotencyKey := key, payload := [("draft_id", .str issueId)] }

def approval (issueId : String) : RecordApprovalParams :=
  { tenantId := "11111111-1111-4111-8111-111111111111", issueId := issueId,
    outputType := "blog_draft.v1", action := .approved }

/-- Three drafts of which the last two were approved. -/
def drafts : List OutboxCall :=
  [draft 1 "a" "00000000-0000-4000-8000-00000000000a", draft 2 "b" "00000000-0000-4000-8000-00000000000b",
    draft 3 "c" "00000000-0000-4000-8000-00000000000c"]

def approvals : InMemoryApprovalFeedbackRepository :=
  ((do
    discard <| InMemoryApprovalFeedbackRepository.record 240000
      (approval "00000000-0000-4000-8000-00000000000b")
    discard <| InMemoryApprovalFeedbackRepository.record 300000
      (approval "00000000-0000-4000-8000-00000000000c") :
    Store DbError InMemoryApprovalFeedbackRepository Unit).run .empty).2

theorem waiting_seen : ShowsPending (runs perform .empty drafts) approvals
    "11111111-1111-4111-8111-111111111111" "blog_draft.v1" 2 := by
  apply (shows_pending drafts approvals _ _ 2 (by omega) (by omega)).mpr
  constructor
  · decide
  · decide
  · intro before e after _ shown decided
    rw [undecided_newest (by decide), decided] at shown
    cases shown

/-- The two newest drafts fill the window, and the one that waits is not shown. -/
theorem waiting_unseen : ¬ ShowsPending (runs perform .empty drafts) approvals
    "11111111-1111-4111-8111-111111111111" "blog_draft.v1" 1 := by
  intro shows
  have held := ((shows_iff (recorded drafts) (by omega) (by omega)).mp shows).held
  revert held
  decide

end

end VantGrowth.Proofs.ApprovalQueue
