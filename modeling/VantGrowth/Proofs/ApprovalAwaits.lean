import VantGrowth.Db.PendingApprovals
import VantGrowth.Lib.Runs
import VantGrowth.Lib.Twin
import VantGrowth.Proofs.ProposalLifecycle

namespace VantGrowth.Proofs.ApprovalAwaits
open Db Db.LearningProposalStore Db.InMemoryLearningProposalRepository Lib Lib.Logs
open AwaitingStore (Step)
open ProposalEffects (uuidText_some scoped_stored parse_bind randomUUID_bind save_bind)

section
variable {π : Type}

/-- The two stores are the same but for the proposal `id`, which on the right is
the one that waits for its approval. -/
structure Beside (id : String) (waiting : LearningProposalRecord π) (s t : LearningProposalStore π) :
    Prop where
  records : ∃ a, a.tenantId = waiting.tenantId ∧ s.recordsById = t.recordsById.set id a
  stored : t.recordsById.get id = some waiting
  index : s.recordIdByKey = t.recordIdByKey
  outbox : s.outboxRepository = t.outboxRepository

/-- In step in what they draw as well. -/
def Abreast (id : String) (waiting : LearningProposalRecord π) (s t : LearningProposalStore π) : Prop :=
  Beside id waiting s t ∧ s.drawn = t.drawn

variable {id : String} {waiting : LearningProposalRecord π} {s t : LearningProposalStore π}

theorem Abreast.indexed (h : Abreast id waiting s t) (k i : String) :
    Abreast id waiting { s with recordIdByKey := s.recordIdByKey.set k i }
      { t with recordIdByKey := t.recordIdByKey.set k i } := by
  obtain ⟨beside, drawn⟩ := h
  exact ⟨⟨beside.records, beside.stored, by rw [beside.index], beside.outbox⟩, drawn⟩

theorem Beside.other (h : Beside id waiting s t) {j : String} (apart : j ≠ id) :
    s.recordsById.get j = t.recordsById.get j := by
  obtain ⟨a, _, records⟩ := h.records
  rw [records, InsertionMap.get_set_other _ apart]

theorem Beside.scoped_other (h : Beside id waiting s t) {j : String} (apart : j ≠ id) (tenantId : String) :
    s.findScopedRecord tenantId j = t.findScopedRecord tenantId j := by
  unfold findScopedRecord
  rw [h.other apart]

/-- The proposal is found on both sides or on neither. -/
theorem Beside.scoped_own (h : Beside id waiting s t) (tenantId : String) :
    (waiting.tenantId = tenantId ∧ ∃ a, a.tenantId = waiting.tenantId ∧
        s.findScopedRecord tenantId id = some a ∧ t.findScopedRecord tenantId id = some waiting) ∨
      (waiting.tenantId ≠ tenantId ∧ s.findScopedRecord tenantId id = none ∧
        t.findScopedRecord tenantId id = none) := by
  obtain ⟨a, tenant, records⟩ := h.records
  unfold findScopedRecord
  rw [records, InsertionMap.get_set_self, h.stored]
  by_cases same : waiting.tenantId = tenantId
  · exact Or.inl ⟨same, a, tenant, by simp [tenant, same], by simp [same]⟩
  · exact Or.inr ⟨same, by simp [tenant, same], by simp [same]⟩

theorem Beside.save_other (h : Beside id waiting s t) {j : String} (apart : j ≠ id)
    (p : LearningProposalRecord π) :
    Beside id waiting { s with recordsById := s.recordsById.set j p }
      { t with recordsById := t.recordsById.set j p } := by
  obtain ⟨a, tenant, records⟩ := h.records
  constructor
  · refine ⟨a, tenant, ?_⟩
    rw [records, InsertionMap.set_comm apart h.stored]
  · rw [InsertionMap.get_set_other _ (Ne.symm apart), h.stored]
  · exact h.index
  · exact h.outbox

/-- What only the left side writes of the proposal. -/
theorem Beside.save_own (h : Beside id waiting s t) {p : LearningProposalRecord π}
    (tenant : p.tenantId = waiting.tenantId) (drawn : Nat) :
    Beside id waiting { s with drawn := drawn, recordsById := s.recordsById.set id p } t := by
  obtain ⟨a, _, records⟩ := h.records
  constructor
  · refine ⟨p, tenant, ?_⟩
    rw [records, InsertionMap.set_set]
  · exact h.stored
  · exact h.index
  · exact h.outbox

theorem Beside.drawn (h : Beside id waiting s t) (m n : Nat) :
    Beside id waiting { s with drawn := m } { t with drawn := n } := ⟨h.records, h.stored, h.index, h.outbox⟩

/-- Put back, the two are the same. -/
theorem Beside.restored (h : Beside id waiting s t) (same : s.drawn = t.drawn) :
    { s with recordsById := s.recordsById.set id waiting } = t := by
  obtain ⟨a, _, records⟩ := h.records
  obtain ⟨recordsById, recordIdByKey, outboxRepository, drawn⟩ := t
  have stored : recordsById.get id = some waiting := h.stored
  have put : s.recordsById.set id waiting = recordsById := by
    rw [records, InsertionMap.set_set, InsertionMap.set_same stored]
  rw [put, h.index, h.outbox, same]

/-- Run on both sides, the computation ends alike in stores that are abreast. -/
abbrev Along (id : String) (waiting : LearningProposalRecord π) (m : ProposalStore π α)
    (s t : LearningProposalStore π) : Prop :=
  Twin (Abreast id waiting) Eq Eq m m s t

theorem parse_along {value : Option α} {g : α → ProposalStore π β} {V : β → β → Prop}
    (h : Abreast id waiting s t)
    (next : ∀ a, value = some a → Twin (Abreast id waiting) Eq V (g a) (g a) s t) :
    Twin (Abreast id waiting) Eq V (parse value >>= g) (parse value >>= g) s t := by
  cases value with
  | none => exact Twin.throw h rfl
  | some a => exact next a rfl

theorem scoped_along {j tenantId : String} {g : Option (LearningProposalRecord π) → ProposalStore π β}
    (h : Abreast id waiting s t) (apart : j ≠ id) (next : ∀ o, Along id waiting (g o) s t) :
    Along id waiting (Store.read (·.findScopedRecord tenantId j) >>= g) s t := by
  have same := h.1.scoped_other apart tenantId
  have along := next (t.findScopedRecord tenantId j)
  exact ⟨by simpa only [Store.run_bind, Store.run_read, same] using along.outcomes,
    by simpa only [Store.run_bind, Store.run_read, same] using along.stores⟩

theorem save_along {j : String} {p : LearningProposalRecord π} {g : Unit → ProposalStore π β}
    {V : β → β → Prop} (h : Abreast id waiting s t) (apart : j ≠ id)
    (next : ∀ s t, Abreast id waiting s t → Twin (Abreast id waiting) Eq V (g ()) (g ()) s t) :
    Twin (Abreast id waiting) Eq V (save j p >>= g) (save j p >>= g) s t := by
  have along := next _ _ ⟨h.1.save_other apart p, h.2⟩
  exact ⟨along.outcomes, along.stores⟩

theorem draw_along {uuid : Supply} {g : String → ProposalStore π β} {V : β → β → Prop}
    (h : Abreast id waiting s t)
    (next : ∀ s' t', Abreast id waiting s' t' →
      Twin (Abreast id waiting) Eq V (g (uuid.text (t.drawn + 1))) (g (uuid.text (t.drawn + 1))) s' t') :
    Twin (Abreast id waiting) Eq V (randomUUID uuid >>= g) (randomUUID uuid >>= g) s t := by
  obtain ⟨recordsById, recordIdByKey, outboxRepository, drawn⟩ := t
  obtain ⟨beside, same⟩ := h
  change s.drawn = drawn at same
  subst same
  have along := next _ _ ⟨beside.drawn (s.drawn + 1) (s.drawn + 1), rfl⟩
  exact ⟨along.outcomes, along.stores⟩

theorem pure_along (h : Abreast id waiting s t) (a : α) : Along id waiting (pure a) s t := Twin.pure h rfl

/-- A proposal that is rewritten where it passes a check. -/
theorem rewrite_along {j tenantId : String} {refused : LearningProposalRecord π → Prop}
    [DecidablePred refused] {change : LearningProposalRecord π → LearningProposalRecord π}
    {answer : LearningProposalRecord π → α} (h : Abreast id waiting s t) (apart : j ≠ id) :
    Along id waiting (Store.read (·.findScopedRecord tenantId j) >>= fun
      | none => pure none
      | some existing =>
        if refused existing then pure none
        else save j (change existing) >>= fun _ => pure (some (answer existing))) s t := by
  have same := h.1.scoped_other apart tenantId
  have along : ∀ o, Along id waiting (match (o : Option (LearningProposalRecord π)) with
      | none => pure none
      | some existing =>
        if refused existing then pure none
        else save j (change existing) >>= fun _ => pure (some (answer existing))) s t := by
    intro o
    cases o with
    | none => exact pure_along h none
    | some existing =>
      dsimp only
      split
      · exact pure_along h none
      · apply save_along h apart
        exact fun s t abreast => pure_along abreast _
  exact scoped_along h apart along

theorem evaluation_along (h : Abreast id waiting s t) (now : Instant) (tenantId : String) {j : String}
    (apart : j ≠ id) (params : RecordLearningProposalEvaluationParams) :
    Along id waiting (recordEvaluation now tenantId j params) s t := by
  apply parse_along h
  intro tenant _
  apply parse_along h
  intro parsed _
  exact rewrite_along h apart

theorem promotion_along (h : Abreast id waiting s t) (now : Instant) (tenantId : String) {j : String}
    (apart : j ≠ id) (versionRef token : String) :
    Along id waiting (markPromoted now tenantId j versionRef token) s t := by
  apply parse_along h
  intro tenant _
  apply parse_along h
  intro version _
  apply parse_along h
  intro claimToken _
  exact rewrite_along h apart

theorem rollback_along (h : Abreast id waiting s t) (now : Instant) (tenantId : String) {j : String}
    (apart : j ≠ id) (versionRef : String) :
    Along id waiting (markRolledBack now tenantId j versionRef) s t := by
  apply parse_along h
  intro tenant _
  apply parse_along h
  intro version _
  exact rewrite_along h apart

theorem publish_along (h : Abreast id waiting s t) (now : Instant) (tenantId : String) {j : String}
    (apart : j ≠ id) (approver : String) :
    Along id waiting (publishApproval now tenantId j approver) s t := by
  apply parse_along h
  intro tenant _
  apply parse_along h
  intro approved _
  exact rewrite_along h apart

theorem claim_along (h : Abreast id waiting s t) (uuid : Supply) (now : Instant) (tenantId : String)
    {j : String} (apart : j ≠ id) (options : PromotionClaimOptions) :
    Along id waiting (claimPromotion uuid now tenantId j options) s t := by
  apply parse_along h
  intro tenant _
  apply Twin.require_bind h rfl
  intro _
  apply scoped_along h apart
  intro found
  cases found with
  | none => exact pure_along h none
  | some p =>
    dsimp only
    split
    · exact pure_along h none
    · apply draw_along h
      intro s t abreast
      split
      · exact Twin.throw abreast rfl
      · apply save_along abreast apart
        exact fun s t abreast => pure_along abreast _

theorem enqueue_along (h : Abreast id waiting s t) (now : Instant) (command : EnqueueOutboxEvent) :
    Along id waiting (enqueue now command) s t := by
  obtain ⟨beside, drawn⟩ := h
  have same := congrArg (InMemoryOutboxRepository.enqueue now command).run beside.outbox
  constructor
  · change Alike Eq Eq ((InMemoryOutboxRepository.enqueue now command).run s.outboxRepository).1
      ((InMemoryOutboxRepository.enqueue now command).run t.outboxRepository).1
    rw [same]
    exact Alike.refl _
  · exact ⟨⟨beside.records, beside.stored, beside.index, congrArg Prod.snd same⟩, drawn⟩

theorem approval_along (h : Abreast id waiting s t) (now : Instant) (tenantId : String) {j : String}
    (apart : j ≠ id) (approver : String) :
    Along id waiting (approveAndEnqueue now tenantId j approver) s t := by
  apply parse_along h
  intro tenant _
  apply parse_along h
  intro approved _
  apply scoped_along h apart
  intro found
  cases found with
  | none => exact pure_along h none
  | some p =>
    dsimp only
    split
    · exact pure_along h none
    · apply save_along h apart
      intro s t abreast
      apply Twin.tryCatch (F := Eq)
      · apply Twin.bind (enqueue_along abreast now _)
        rintro event _ s t rfl abreast
        exact pure_along abreast _
      · rintro error _ s t rfl abreast
        apply save_along abreast apart
        exact fun s t abreast => Twin.throw abreast rfl

theorem Beside.keyed (h : Beside id waiting s t) (k : String) :
    ((s.recordIdByKey.get k).bind s.recordsById.get).isSome =
      ((t.recordIdByKey.get k).bind t.recordsById.get).isSome := by
  rw [h.index]
  cases t.recordIdByKey.get k with
  | none => rfl
  | some i =>
    by_cases own : i = id
    · obtain ⟨a, _, records⟩ := h.records
      simp [own, records, h.stored]
    · simp [h.other own]

/-- A creation writes the same on both sides, though what it finds may differ. -/
theorem creation_along (h : Abreast id waiting s t) (uuid : Supply) (now : Instant) (tenantId : String)
    (params : CreateLearningProposalParams π) (fresh : uuid.text (t.drawn + 1) ≠ id) :
    Twin (Abreast id waiting) Eq (fun _ _ => True) (create uuid now tenantId params)
      (create uuid now tenantId params) s t := by
  apply parse_along h
  intro tenant _
  apply parse_along h
  intro parsed _
  apply Twin.read_bind
  have both := h.1.keyed (key tenant parsed.proposalKey)
  generalize (s.recordIdByKey.get _).bind s.recordsById.get = found at both ⊢
  generalize (t.recordIdByKey.get _).bind t.recordsById.get = found' at both ⊢
  cases found with
  | some p =>
    cases found' with
    | some q => exact Twin.pure h trivial
    | none => cases both
  | none =>
    cases found' with
    | some q => cases both
    | none =>
      apply draw_along h
      intro s t abreast
      apply save_along abreast fresh
      intro s t abreast
      exact ⟨.ok trivial, abreast.indexed _ _⟩

/-- A call about the proposal that finds no proposal of its tenant. -/
theorem missed_own {tenantId : String} {g : Option (LearningProposalRecord π) → ProposalStore π α}
    (h : Beside id waiting s t) (other : waiting.tenantId ≠ tenantId) {b : α} (quiet : g none = pure b) :
    Beside id waiting ((Store.read (·.findScopedRecord tenantId id) >>= g).run s).2
      ((Store.read (·.findScopedRecord tenantId id) >>= g).run t).2 := by
  rcases h.scoped_own tenantId with ⟨same, _⟩ | ⟨_, left, right⟩
  · exact absurd same other
  · simpa only [Store.run_bind, Store.run_read, left, right, quiet, Store.run_pure] using h

/-- What is refused of the proposal alone may rewrite it beside. -/
theorem rewrite_own {tenantId : String} {refused : LearningProposalRecord π → Prop}
    [DecidablePred refused] {change : LearningProposalRecord π → LearningProposalRecord π}
    {answer : LearningProposalRecord π → α} (h : Beside id waiting s t) (refusal : refused waiting)
    (keeps : ∀ p, (change p).tenantId = p.tenantId) {m : ProposalStore π (Option α)}
    (same : m = Store.read (·.findScopedRecord tenantId id) >>= fun
      | none => pure none
      | some existing =>
        if refused existing then pure none
        else save id (change existing) >>= fun _ => pure (some (answer existing))) :
    Beside id waiting (m.run s).2 (m.run t).2 := by
  rcases h.scoped_own tenantId with ⟨_, a, tenant, left, right⟩ | ⟨_, left, right⟩
  · rw [same]
    simp only [Store.run_bind, Store.run_read, left, right, refusal, ↓reduceIte, Store.run_pure]
    split
    · exact h
    · exact h.save_own ((keeps a).trans tenant) s.drawn
  · rw [same]
    simpa only [Store.run_bind, Store.run_read, left, right, Store.run_pure] using h

theorem parsed_bind (a : α) (g : α → ProposalStore π β) : parse (some a) >>= g = g a := rfl

theorem promotion_own (h : Beside id waiting s t) (waits : waiting.status = .requires_approval)
    (now : Instant) (tenantId versionRef token : String) :
    Beside id waiting ((markPromoted now tenantId id versionRef token).run s).2
      ((markPromoted now tenantId id versionRef token).run t).2 := by
  unfold markPromoted
  cases uuidText tenantId with
  | none => exact h
  | some tenant =>
    cases nonEmptyText versionRef with
    | none => exact h
    | some version =>
      cases uuidText token with
      | none => exact h
      | some claimToken =>
        simp only [parsed_bind]
        apply rewrite_own h _ _ rfl
        · simp [waits]
        · exact fun _ => rfl

theorem rollback_own (h : Beside id waiting s t) (waits : waiting.status = .requires_approval)
    (now : Instant) (tenantId versionRef : String) :
    Beside id waiting ((markRolledBack now tenantId id versionRef).run s).2
      ((markRolledBack now tenantId id versionRef).run t).2 := by
  unfold markRolledBack
  cases uuidText tenantId with
  | none => exact h
  | some tenant =>
    cases nonEmptyText versionRef with
    | none => exact h
    | some version =>
      simp only [parsed_bind]
      apply rewrite_own h _ _ rfl
      · simp [waits]
      · exact fun _ => rfl

theorem claim_own (h : Beside id waiting s t) (waits : waiting.status = .requires_approval)
    (uuid : Supply) (now : Instant) (tenantId : String) (options : PromotionClaimOptions) :
    Beside id waiting ((claimPromotion uuid now tenantId id options).run s).2
      ((claimPromotion uuid now tenantId id options).run t).2 := by
  have refused : ((claimPromotion uuid now tenantId id options).Ends t fun _ t' => t' = t) := by
    apply parse_bind rfl
    intro tenant _
    apply Store.Ends.require_bind
    · exact fun _ => rfl
    intro _
    apply Store.Ends.read_bind
    rcases h.scoped_own tenant with ⟨_, a, same, left, right⟩ | ⟨_, left, right⟩
    · rw [right]
      dsimp only
      rw [if_pos (Or.inl (by simp [waits]))]
      exact Store.Ends.pure rfl
    · rw [right]
      exact Store.Ends.pure rfl
  have beside : ((claimPromotion uuid now tenantId id options).Ends s fun _ s' => Beside id waiting s' t) := by
    apply parse_bind h
    intro tenant _
    apply Store.Ends.require_bind
    · exact fun _ => h
    intro _
    apply Store.Ends.read_bind
    rcases h.scoped_own tenant with ⟨_, a, same, left, right⟩ | ⟨_, left, right⟩
    · rw [left]
      dsimp only
      split
      · exact Store.Ends.pure h
      · apply randomUUID_bind
        split
        · exact Store.Ends.throw (h.drawn _ _)
        · apply save_bind
          exact Store.Ends.pure (h.save_own (p := claimedWith _ _ _ a) same _)
    · rw [left]
      exact Store.Ends.pure h
  unfold Store.Ends at refused beside
  rw [refused]
  exact beside

/-- An evaluation that is malformed or of another tenant. -/
theorem evaluation_own (h : Beside id waiting s t) (now : Instant) {tenantId : String}
    {params : RecordLearningProposalEvaluationParams}
    (quiet : tenantId = waiting.tenantId → params.parse = none) :
    Beside id waiting ((recordEvaluation now tenantId id params).run s).2
      ((recordEvaluation now tenantId id params).run t).2 := by
  unfold recordEvaluation
  cases valid : uuidText tenantId with
  | none => exact h
  | some tenant =>
    obtain ⟨rfl, _⟩ := uuidText_some valid
    cases parsed : params.parse with
    | none => exact h
    | some parsed =>
      simp only [parsed_bind]
      apply missed_own (b := none) h
      · rintro rfl
        rw [quiet rfl] at parsed
        cases parsed
      · rfl

theorem approval_own (h : Beside id waiting s t) (now : Instant) {tenantId approver : String}
    (quiet : tenantId = waiting.tenantId → nonEmptyText approver = none) :
    Beside id waiting ((approveAndEnqueue now tenantId id approver).run s).2
      ((approveAndEnqueue now tenantId id approver).run t).2 := by
  unfold approveAndEnqueue
  cases valid : uuidText tenantId with
  | none => exact h
  | some tenant =>
    obtain ⟨rfl, _⟩ := uuidText_some valid
    cases approved : nonEmptyText approver with
    | none => exact h
    | some approvedBy =>
      simp only [parsed_bind]
      apply missed_own (b := none) h
      · rintro rfl
        rw [quiet rfl] at approved
        cases approved
      · rfl

/-- The call evaluates or approves the proposal, with arguments that pass. -/
def Decides (tenantId id : String) : ProposalOperation π → Prop
  | .recordEvaluation tenant i params => tenant = tenantId ∧ i = id ∧ params.parse.isSome = true
  | .approve tenant i approver => tenant = tenantId ∧ i = id ∧ (nonEmptyText approver).isSome = true
  | .approveAndEnqueue tenant i approver =>
    tenant = tenantId ∧ i = id ∧ (nonEmptyText approver).isSome = true
  | _ => False

theorem answer_store (result : Except DbError (Option α) × LearningProposalStore π)
    (event : α → String × Lease.Event String Instant) : (answer result event).1 = result.2 := by
  obtain ⟨x, t⟩ := result
  cases x with
  | error e => rfl
  | ok o => cases o <;> rfl

/-- The store a call leaves, by the call. -/
def leaves (uuid : Supply) (now : Instant) (s : LearningProposalStore π) :
    ProposalOperation π → LearningProposalStore π
  | .create tenantId params => ((create uuid now tenantId params).run s).2
  | .recordEvaluation tenantId j params => ((recordEvaluation now tenantId j params).run s).2
  | .approve tenantId j approver => ((approve now tenantId j approver).run s).2
  | .approveAndEnqueue tenantId j approver => ((approveAndEnqueue now tenantId j approver).run s).2
  | .claimPromotion tenantId j options => ((claimPromotion uuid now tenantId j options).run s).2
  | .markPromoted tenantId j versionRef token => ((markPromoted now tenantId j versionRef token).run s).2
  | .markRolledBack tenantId j versionRef => ((markRolledBack now tenantId j versionRef).run s).2

theorem perform_leaves (uuid : Supply) (s : LearningProposalStore π) (call : ProposalCall π) :
    (perform .inMemory uuid s call).1 = leaves uuid call.clock s call.operation := by
  obtain ⟨now, operation⟩ := call
  cases operation with
  | create | markRolledBack => rfl
  | recordEvaluation | approve | approveAndEnqueue | claimPromotion | markPromoted => exact answer_store _ _

theorem mapped_store (m : ProposalStore π α) (f : α → β) (s : LearningProposalStore π) :
    ((m >>= fun a => pure (f a)).run s).2 = (m.run s).2 := by
  rw [Store.run_bind]
  rcases m.run s with ⟨x, s'⟩
  cases x <;> rfl

theorem approve_own (h : Beside id waiting s t) (now : Instant) {tenantId approver : String}
    (quiet : tenantId = waiting.tenantId → nonEmptyText approver = none) :
    Beside id waiting ((approve now tenantId id approver).run s).2
      ((approve now tenantId id approver).run t).2 := by
  unfold approve
  rw [mapped_store, mapped_store]
  exact approval_own h now quiet

theorem approve_along (h : Abreast id waiting s t) (now : Instant) (tenantId : String) {j : String}
    (apart : j ≠ id) (approver : String) : Along id waiting (approve now tenantId j approver) s t := by
  apply Twin.bind (approval_along h now tenantId apart approver)
  rintro result _ s t rfl abreast
  exact pure_along abreast _

theorem unapproved {tenantId approver : String} {op : ProposalOperation π}
    (asks : op = .approve tenantId id approver ∨ op = .approveAndEnqueue tenantId id approver)
    (quiet : ¬ Decides waiting.tenantId id op) : tenantId = waiting.tenantId → nonEmptyText approver = none := by
  intro same
  cases approved : nonEmptyText approver with
  | none => rfl
  | some name =>
    have decides : Decides waiting.tenantId id op := by
      rcases asks with rfl | rfl <;> exact ⟨same, rfl, by simp [approved]⟩
    exact absurd decides quiet

theorem call_beside (h : Abreast id waiting s t) (waits : waiting.status = .requires_approval)
    {uuid : Supply} (fresh : uuid.text (t.drawn + 1) ≠ id) {call : ProposalCall π}
    (quiet : ¬ Decides waiting.tenantId id call.operation) :
    Beside id waiting (perform .inMemory uuid s call).1 (perform .inMemory uuid t call).1 := by
  rw [perform_leaves, perform_leaves]
  cases operation : call.operation with
  | create tenantId params => exact (creation_along h uuid _ tenantId params fresh).stores.1
  | recordEvaluation tenantId j params =>
    by_cases own : j = id
    · subst own
      apply evaluation_own h.1
      intro same
      cases parsed : params.parse with
      | none => rfl
      | some p => exact absurd ⟨same, rfl, by simp [parsed]⟩ (operation ▸ quiet)
    · exact (evaluation_along h _ tenantId own params).stores.1
  | approve tenantId j approver =>
    by_cases own : j = id
    · subst own
      exact approve_own h.1 _ (unapproved (Or.inl operation) quiet)
    · exact (approve_along h _ tenantId own approver).stores.1
  | approveAndEnqueue tenantId j approver =>
    by_cases own : j = id
    · subst own
      exact approval_own h.1 _ (unapproved (Or.inr operation) quiet)
    · exact (approval_along h _ tenantId own approver).stores.1
  | claimPromotion tenantId j options =>
    by_cases own : j = id
    · subst own
      exact claim_own h.1 waits uuid _ tenantId options
    · exact (claim_along h uuid _ tenantId own options).stores.1
  | markPromoted tenantId j versionRef token =>
    by_cases own : j = id
    · subst own
      exact promotion_own h.1 waits _ tenantId versionRef token
    · exact (promotion_along h _ tenantId own versionRef token).stores.1
  | markRolledBack tenantId j versionRef =>
    by_cases own : j = id
    · subst own
      exact rollback_own h.1 waits _ tenantId versionRef
    · exact (rollback_along h _ tenantId own versionRef).stores.1

/-- The step evaluates or approves the proposal, or takes back an approval of it. -/
def Disturbs (tenantId id : String) (c : AwaitingStore π) : Step π → Prop
  | .call call => Decides tenantId id call.operation
  | .publish ticket _ tenant j approver =>
    c.pending ticket = none ∧ Decides tenantId id (.approveAndEnqueue tenant j approver : ProposalOperation π)
  | .accept _ _ => False
  | .reject ticket _ => ∃ approval, c.pending ticket = some approval ∧ approval.id = id

/-- What holds of every state the repository reaches. -/
structure Sound (uuid : Supply) (c : AwaitingStore π) : Prop where
  outbox : c.store.outboxRepository.Consistent
  records : ∀ i p, c.store.recordsById.get i = some p → ∃ n ≤ c.store.drawn, i = uuid.text n
  approvals : ∀ n a, c.pending n = some a → isUuid a.updated.tenantId = true ∧
    ∃ n ≤ c.store.drawn, a.id = uuid.text n

theorem empty_sound (uuid : Supply) : Sound uuid (AwaitingStore.empty : AwaitingStore π) where
  outbox := InMemoryOutboxRepository.empty_consistent
  records i p stored := by cases stored
  approvals n a waits := by cases waits

/-- What an approval writes before it waits. -/
inductive Published (now : Instant) (tenantId id approver : String) (s : LearningProposalStore π) :
    Except DbError (Option (PendingApproval π)) → LearningProposalStore π → Prop where
  | refused {x} (refusal : ∀ a, x ≠ .ok (some a)) : Published now tenantId id approver s x s
  | published (existing : LearningProposalRecord π) (name : String) (valid : isUuid existing.tenantId = true)
      (found : s.findScopedRecord tenantId id = some existing)
      (waits : existing.status = .requires_approval) (named : nonEmptyText approver = some name) :
      Published now tenantId id approver s (.ok (some ⟨id, existing, approvedBy name now existing⟩))
        { s with recordsById := s.recordsById.set id (approvedBy name now existing) }

theorem publish_ends (now : Instant) (tenantId id approver : String) (s : LearningProposalStore π) :
    (publishApproval now tenantId id approver).Ends s (Published now tenantId id approver s) := by
  apply parse_bind
  · exact .refused (by simp)
  intro tenant text
  obtain ⟨rfl, valid⟩ := uuidText_some text
  apply parse_bind
  · exact .refused (by simp)
  intro name named
  apply Store.Ends.read_bind
  cases found : s.findScopedRecord tenant id with
  | none => exact Store.Ends.pure (.refused (by simp))
  | some existing =>
    apply Store.Ends.ite
    · exact fun _ => Store.Ends.pure (.refused (by simp))
    · intro waits
      obtain ⟨_, rfl⟩ := scoped_stored found
      apply save_bind
      exact Store.Ends.pure (.published existing name valid found (not_not.mp waits) named)

/-- The outbox takes an approval it is sent. -/
theorem accept_store {a : PendingApproval π} (consistent : s.outboxRepository.Consistent)
    (valid : isUuid a.updated.tenantId = true) (now : Instant) :
    let command := learningProposalApprovalOutboxCommand a.updated
    ((settleApproval a (enqueue now command)).run s).2 = ((enqueue now command).run s).2 := by
  intro command
  have sent := ProposalEffects.enqueue_ends now consistent (ProposalEffects.approval_valid valid)
  obtain ⟨event, answered⟩ := sent.1
  unfold settleApproval Store.tryCatch
  rcases run : (enqueue now command).run s with ⟨x, s'⟩
  rw [run] at answered
  cases answered
  simp only [Store.run_bind, run, Store.run_pure]

theorem Sound.grow {uuid : Supply} {c d : AwaitingStore π} (h : Sound uuid c)
    (outbox : d.store.outboxRepository.Consistent) (drawn : c.store.drawn ≤ d.store.drawn)
    (records : ∀ i p, d.store.recordsById.get i = some p →
      (∃ q, c.store.recordsById.get i = some q) ∨ ∃ n ≤ d.store.drawn, i = uuid.text n)
    (approvals : ∀ n a, d.pending n = some a → c.pending n = some a ∨
      isUuid a.updated.tenantId = true ∧ ∃ p, c.store.recordsById.get a.id = some p) :
    Sound uuid d := by
  have old : ∀ i p, c.store.recordsById.get i = some p → ∃ n ≤ d.store.drawn, i = uuid.text n := by
    intro i p stored
    obtain ⟨n, early, text⟩ := h.records i p stored
    exact ⟨n, Nat.le_trans early drawn, text⟩
  constructor
  · exact outbox
  · intro i p stored
    rcases records i p stored with ⟨q, before⟩ | now
    · exact old i q before
    · exact now
  · intro n a waits
    rcases approvals n a waits with before | ⟨valid, p, stored⟩
    · obtain ⟨valid, m, early, text⟩ := h.approvals n a before
      exact ⟨valid, m, Nat.le_trans early drawn, text⟩
    · exact ⟨valid, old a.id p stored⟩

theorem effect_sound {uuid : Supply} {c : AwaitingStore π} (h : Sound uuid c) {now : Instant}
    {op : ProposalOperation π} {r : LearningProposalStore π}
    {o : Option (String × Lease.Event String Instant)}
    (effect : ProposalEffects.Effect uuid now op c.store r o) :
    r.outboxRepository.Consistent ∧ ∀ i p, r.recordsById.get i = some p →
      (∃ q, c.store.recordsById.get i = some q) ∨ i = uuid.text (c.store.drawn + 1) := by
  cases effect with
  | kept records _ outbox _ =>
    refine ⟨outbox ▸ h.outbox, fun i p stored => Or.inl ⟨p, ?_⟩⟩
    rw [← records, stored]
  | created params tenantId _ _ records outbox _ _ _ =>
    refine ⟨outbox ▸ h.outbox, fun i p stored => ?_⟩
    rw [records, InsertionMap.get_set] at stored
    split at stored
    · exact Or.inr ‹_›
    · exact Or.inl ⟨p, stored⟩
  | changed id p q e _ before _ records _ outbox _ _ =>
    constructor
    · rcases outbox with same | sends
      · exact same ▸ h.outbox
      · exact sends.consistent
    · intro i r stored
      rw [records, InsertionMap.get_set] at stored
      split at stored
      · rename_i same
        exact Or.inl ⟨p, same ▸ before⟩
      · exact Or.inl ⟨r, stored⟩

theorem call_sound {uuid : Supply} {c : AwaitingStore π} (h : Sound uuid c) (call : ProposalCall π) :
    Sound uuid (AwaitingStore.step uuid c (.call call)) := by
  obtain ⟨outbox, records⟩ :=
    effect_sound h (ProposalEffects.perform_effect uuid c.store .inMemory h.outbox call)
  apply h.grow
  · exact outbox
  · exact Nat.le_succ _
  · intro i p stored
    rcases records i p stored with before | fresh
    · exact Or.inl before
    · exact Or.inr ⟨_, Nat.le_refl _, fresh⟩
  · exact fun n a waits => Or.inl waits

/-- An approval changes nothing, or writes the proposal and waits. -/
theorem publish_cases (c : AwaitingStore π) (ticket : Nat) (now : Instant) (tenantId id approver : String) :
    c.publish ticket now tenantId id approver = c ∨ ∃ existing name, isUuid existing.tenantId = true ∧
      c.store.findScopedRecord tenantId id = some existing ∧ existing.status = .requires_approval ∧
      nonEmptyText approver = some name ∧ c.publish ticket now tenantId id approver =
        ⟨{ c.store with recordsById := c.store.recordsById.set id (approvedBy name now existing) },
          Function.update c.pending ticket (some ⟨id, existing, approvedBy name now existing⟩)⟩ := by
  have ends := publish_ends now tenantId id approver c.store
  unfold Store.Ends at ends
  unfold AwaitingStore.publish
  rcases run : (publishApproval now tenantId id approver).run c.store with ⟨x, s⟩
  rw [run] at ends
  dsimp only at ends
  cases ends with
  | refused refusal =>
    cases x with
    | error e => exact Or.inl rfl
    | ok o =>
      cases o with
      | none => exact Or.inl rfl
      | some a => exact absurd rfl (refusal a)
  | published existing name valid found waits named =>
    exact Or.inr ⟨existing, name, valid, found, waits, named, rfl⟩

theorem publish_sound {uuid : Supply} {c : AwaitingStore π} (h : Sound uuid c) (ticket : Nat)
    (now : Instant) (tenantId id approver : String) :
    Sound uuid (c.publish ticket now tenantId id approver) := by
  rcases publish_cases c ticket now tenantId id approver with
    refused | ⟨existing, name, valid, found, _, _, written⟩
  · rwa [refused]
  · obtain ⟨stored, _⟩ := scoped_stored found
    rw [written]
    apply h.grow
    · exact h.outbox
    · exact Nat.le_refl _
    · intro i p kept
      rw [InsertionMap.get_set] at kept
      split at kept
      · rename_i same
        exact Or.inl ⟨existing, same ▸ stored⟩
      · exact Or.inl ⟨p, kept⟩
    · intro n a pending
      dsimp only at pending
      by_cases own : n = ticket
      · subst own
        rw [Function.update_self] at pending
        cases pending
        exact Or.inr ⟨valid, existing, stored⟩
      · rw [Function.update_of_ne own] at pending
        exact Or.inl pending

/-- What the outbox does when it takes an approval. -/
theorem accepted {uuid : Supply} {c : AwaitingStore π} (h : Sound uuid c) {ticket : Nat}
    {a : PendingApproval π} (waits : c.pending ticket = some a) (now : Instant) :
    AwaitingStore.step uuid c (.accept ticket now) =
      ⟨((enqueue now (learningProposalApprovalOutboxCommand a.updated)).run c.store).2,
        Function.update c.pending ticket none⟩ := by
  have sent := accept_store (a := a) h.outbox (h.approvals ticket a waits).1 now
  simp only [AwaitingStore.step, AwaitingStore.settle, waits]
  rw [sent]

theorem rejected {uuid : Supply} {c : AwaitingStore π} {ticket : Nat} {a : PendingApproval π}
    (waits : c.pending ticket = some a) (error : DbError) :
    AwaitingStore.step uuid c (.reject ticket error) =
      ⟨{ c.store with recordsById := c.store.recordsById.set a.id a.existing },
        Function.update c.pending ticket none⟩ := by
  simp only [AwaitingStore.step, AwaitingStore.settle, waits]
  rfl

theorem settled_nothing {uuid : Supply} {c : AwaitingStore π} {ticket : Nat} (free : c.pending ticket = none)
    (now : Instant) (error : DbError) : AwaitingStore.step uuid c (.accept ticket now) = c ∧
      AwaitingStore.step uuid c (.reject ticket error) = c := by
  simp only [AwaitingStore.step, AwaitingStore.settle, free, and_self]

theorem settled_approvals {c : AwaitingStore π} {ticket n : Nat} {a : PendingApproval π}
    (waits : Function.update c.pending ticket none n = some a) : c.pending n = some a := by
  by_cases own : n = ticket
  · subst own
    rw [Function.update_self] at waits
    cases waits
  · rwa [Function.update_of_ne own] at waits

theorem step_sound {uuid : Supply} {c : AwaitingStore π} (h : Sound uuid c) (e : Step π) :
    Sound uuid (AwaitingStore.step uuid c e) := by
  cases e with
  | call call => exact call_sound h call
  | publish ticket now tenantId id approver =>
    simp only [AwaitingStore.step]
    split
    · exact h
    · exact publish_sound h ticket now tenantId id approver
  | accept ticket now =>
    cases waits : c.pending ticket with
    | none =>
      rw [(settled_nothing waits now .zod).1]
      exact h
    | some a =>
      have sent := ProposalEffects.enqueue_ends now h.outbox
        (ProposalEffects.approval_valid (h.approvals ticket a waits).1)
      obtain ⟨_, records, _, drawn, sends⟩ := sent
      rw [accepted h waits now]
      apply h.grow
      · exact sends.consistent
      · exact drawn.ge
      · intro i p stored
        dsimp only at stored
        rw [records] at stored
        exact Or.inl ⟨p, stored⟩
      · exact fun n b pending => Or.inl (settled_approvals pending)
  | reject ticket error =>
    cases waits : c.pending ticket with
    | none =>
      rw [(settled_nothing waits 0 error).2]
      exact h
    | some a =>
      rw [rejected waits error]
      apply h.grow
      · exact h.outbox
      · exact Nat.le_refl _
      · intro i p stored
        dsimp only at stored
        rw [InsertionMap.get_set] at stored
        split at stored
        · obtain ⟨_, n, early, text⟩ := h.approvals ticket a waits
          exact Or.inr ⟨n, early, ‹i = a.id› ▸ text⟩
        · exact Or.inl ⟨p, stored⟩
      · exact fun n b pending => Or.inl (settled_approvals pending)

theorem runs_sound (uuid : Supply) (log : List (Step π)) :
    Sound uuid (runs (AwaitingStore.step uuid) AwaitingStore.empty log) := by
  have start : Sound uuid (AwaitingStore.empty : AwaitingStore π) := empty_sound uuid
  exact runs_invariant (I := Sound uuid) (fun c e h => step_sound h e) start log

/-- The repository with an approval that waits, and the one that never got it. -/
structure Aside (ticket : Nat) (a : PendingApproval π) (c d : AwaitingStore π) : Prop where
  stores : Abreast a.id a.existing c.store d.store
  waits : c.pending ticket = some a
  absent : d.pending ticket = none
  others : ∀ n, n ≠ ticket → c.pending n = d.pending n

theorem settled_others {c d : AwaitingStore π} {ticket m : Nat}
    (others : ∀ n, n ≠ ticket → c.pending n = d.pending n) (n : Nat) (other : n ≠ ticket)
    (value : Option (PendingApproval π)) :
    Function.update c.pending m value n = Function.update d.pending m value n := by
  by_cases own : n = m
  · rw [own, Function.update_self, Function.update_self]
  · rw [Function.update_of_ne own, Function.update_of_ne own, others n other]

section
variable {ticket : Nat} {a : PendingApproval π} {c d : AwaitingStore π} {uuid : Supply}

/-- The other approval calls go on alike. -/
theorem Aside.settled (h : Aside ticket a c d) {m : Nat} (other : m ≠ ticket)
    {value : Option (PendingApproval π)} {s t : LearningProposalStore π}
    (stores : Abreast a.id a.existing s t) :
    Aside ticket a ⟨s, Function.update c.pending m value⟩ ⟨t, Function.update d.pending m value⟩ where
  stores := stores
  waits := (Function.update_of_ne (Ne.symm other) _ _).trans h.waits
  absent := (Function.update_of_ne (Ne.symm other) _ _).trans h.absent
  others n apart := settled_others h.others n apart value

theorem fresh_text (sound : Sound uuid d) {i : String} {p : LearningProposalRecord π}
    (stored : d.store.recordsById.get i = some p) : uuid.text (d.store.drawn + 1) ≠ i := by
  obtain ⟨n, early, text⟩ := sound.records i p stored
  rw [text]
  intro same
  have numbers := uuid.distinct same
  omega

theorem publish_aside (h : Aside ticket a c d) {m : Nat} (other : m ≠ ticket) {now : Instant} {tenantId j approver : String}
    (quiet : ¬ Decides a.existing.tenantId a.id
      (.approveAndEnqueue tenantId j approver : ProposalOperation π)) :
    Aside ticket a (c.publish m now tenantId j approver) (d.publish m now tenantId j approver) := by
  by_cases own : j = a.id
  · subst own
    have silent : ∀ s : AwaitingStore π, (∀ p, s.store.findScopedRecord tenantId a.id = some p →
        tenantId = a.existing.tenantId) → s.publish m now tenantId a.id approver = s := by
      intro s tenants
      rcases publish_cases s m now tenantId a.id approver with
        refused | ⟨existing, name, _, found, _, named, _⟩
      · exact refused
      · exact absurd ⟨tenants existing found, rfl, by simp [named]⟩ quiet
    have either := h.stores.1.scoped_own tenantId
    rw [silent c, silent d]
    · exact h
    · intro p found
      rcases either with ⟨same, _⟩ | ⟨_, _, missing⟩
      · exact same.symm
      · rw [found] at missing
        cases missing
    · intro p found
      rcases either with ⟨same, _⟩ | ⟨_, missing, _⟩
      · exact same.symm
      · rw [found] at missing
        cases missing
  · obtain ⟨outcomes, stores⟩ := publish_along h.stores now tenantId own approver
    unfold AwaitingStore.publish
    rcases mine : (publishApproval now tenantId j approver).run c.store with ⟨x, s⟩
    rcases alone : (publishApproval now tenantId j approver).run d.store with ⟨y, t⟩
    rw [mine, alone] at outcomes stores
    have alike : Alike Eq Eq x y := outcomes
    cases alike with
    | error same => exact ⟨stores, h.waits, h.absent, h.others⟩
    | ok same =>
      subst same
      rename_i answer
      cases answer with
      | none => exact ⟨stores, h.waits, h.absent, h.others⟩
      | some approval => exact h.settled other stores

theorem step_aside (sound : Sound uuid d) (sound' : Sound uuid c) (h : Aside ticket a c d)
    (waits : a.existing.status = .requires_approval) {e : Step π} (other : e.ticket ≠ some ticket)
    (quiet : ¬ Disturbs a.existing.tenantId a.id d e) :
    Aside ticket a (AwaitingStore.step uuid c e) (AwaitingStore.step uuid d e) := by
  cases e with
  | call call =>
    have beside := call_beside h.stores waits (fresh_text sound h.stores.1.stored) quiet
    exact ⟨⟨beside.drawn _ _, congrArg (· + 1) h.stores.2⟩, h.waits, h.absent, h.others⟩
  | publish m now tenantId j approver =>
    have apart : m ≠ ticket := fun same => other (congrArg some same)
    simp only [AwaitingStore.step, h.others m apart]
    split
    · exact h
    · rename_i free
      apply publish_aside h apart
      intro decides
      exact quiet ⟨by simpa using free, decides⟩
  | accept m now =>
    have apart : m ≠ ticket := fun same => other (congrArg some same)
    cases pending : d.pending m with
    | none =>
      rw [(settled_nothing pending now .zod).1, (settled_nothing (h.others m apart ▸ pending) now .zod).1]
      exact h
    | some b =>
      rw [accepted sound pending now, accepted sound' (h.others m apart ▸ pending) now]
      exact h.settled apart (enqueue_along h.stores now _).stores
  | reject m error =>
    have apart : m ≠ ticket := fun same => other (congrArg some same)
    cases pending : d.pending m with
    | none =>
      rw [(settled_nothing pending 0 error).2, (settled_nothing (h.others m apart ▸ pending) 0 error).2]
      exact h
    | some b =>
      rw [rejected pending error, rejected (h.others m apart ▸ pending) error]
      have elsewhere : b.id ≠ a.id := fun same => quiet ⟨b, pending, same⟩
      exact h.settled apart ⟨h.stores.1.save_other elsewhere b.existing, h.stores.2⟩

theorem runs_aside (sound : Sound uuid d) (sound' : Sound uuid c) (h : Aside ticket a c d)
    (waits : a.existing.status = .requires_approval) {others : List (Step π)}
    (own : ∀ e ∈ others, e.ticket ≠ some ticket)
    (clear : Each (fun done e =>
      ¬ Disturbs a.existing.tenantId a.id (runs (AwaitingStore.step uuid) d done) e) others) :
    Aside ticket a (runs (AwaitingStore.step uuid) c others) (runs (AwaitingStore.step uuid) d others) := by
  induction others using List.reverseRecOn with
  | nil => exact h
  | append_singleton others e ih =>
    have before := ih (fun f earlier => own f (List.mem_append_left _ earlier)) clear.init
    rw [runs_append, runs_append]
    apply step_aside _ _ before waits (own e (by simp)) clear.at
    · exact runs_invariant (I := Sound uuid) (fun c e h => step_sound h e) sound others
    · exact runs_invariant (I := Sound uuid) (fun c e h => step_sound h e) sound' others

/-- Taken back, an approval leaves what there is without it. -/
theorem Aside.rejected (h : Aside ticket a c d) (error : DbError) :
    AwaitingStore.step uuid c (.reject ticket error) = d := by
  rw [ApprovalAwaits.rejected h.waits]
  obtain ⟨store, pending⟩ := d
  have stores : { c.store with recordsById := c.store.recordsById.set a.id a.existing } = store :=
    h.stores.1.restored h.stores.2
  have approvals : Function.update c.pending ticket none = pending := by
    funext n
    by_cases own : n = ticket
    · rw [own, Function.update_self]
      exact h.absent.symm
    · rw [Function.update_of_ne own]
      exact h.others n own
  rw [stores, approvals]

theorem untouched {e : Step π} (other : e.ticket ≠ some ticket) :
    (AwaitingStore.step uuid c e).pending ticket = c.pending ticket := by
  cases e with
  | call call => rfl
  | publish m now tenantId id approver =>
    have apart : ticket ≠ m := fun same => other (congrArg some same.symm)
    simp only [AwaitingStore.step]
    split
    · rfl
    · rcases publish_cases c m now tenantId id approver with refused | ⟨existing, name, _, _, _, _, written⟩
      · rw [refused]
      · rw [written]
        exact Function.update_of_ne apart _ _
  | accept m now | reject m error =>
    have apart : ticket ≠ m := fun same => other (congrArg some same.symm)
    simp only [AwaitingStore.step, AwaitingStore.settle]
    split
    · rfl
    · exact Function.update_of_ne apart _ _

theorem runs_untouched {log : List (Step π)} (own : ∀ e ∈ log, e.ticket ≠ some ticket) :
    (runs (AwaitingStore.step uuid) c log).pending ticket = c.pending ticket := by
  induction log using List.reverseRecOn with
  | nil => rfl
  | append_singleton log e ih =>
    rw [runs_append]
    exact (untouched (own e (by simp))).trans (ih fun f earlier => own f (List.mem_append_left _ earlier))

end

/-- Where an approval waits, the proposal it wrote is beside what was there. -/
theorem publish_begins {c : AwaitingStore π} {ticket : Nat} {tenantId id : String} (now : Instant)
    (name : String) {existing : LearningProposalRecord π} (found : c.store.findScopedRecord tenantId id = some existing)
    (absent : c.pending ticket = none) :
    Aside ticket ⟨id, existing, approvedBy name now existing⟩
      ⟨{ c.store with recordsById := c.store.recordsById.set id (approvedBy name now existing) },
        Function.update c.pending ticket (some ⟨id, existing, approvedBy name now existing⟩)⟩ c where
  stores := ⟨⟨⟨approvedBy name now existing, rfl, rfl⟩, (scoped_stored found).1, rfl, rfl⟩, rfl⟩
  waits := Function.update_self _ _ _
  absent := absent
  others _ other := Function.update_of_ne other _ _

/-- An approval the outbox refuses takes back the proposal as it was. While no
other call evaluates or approves that proposal, and no approval of it is taken
back, it leaves what the other calls alone leave. -/
theorem refused_approval (uuid : Supply) (log others : List (Step π)) (ticket : Nat)
    (own : ∀ e ∈ log ++ others, e.ticket ≠ some ticket) (now : Instant) (tenantId id approver : String)
    (error : DbError) :
    let step := AwaitingStore.step uuid
    let before := runs step .empty log
    let after := step (runs step (step before (.publish ticket now tenantId id approver)) others)
      (.reject ticket error)
    (Each (fun done e => ¬ Disturbs tenantId id (runs step before done) e) others →
        after = runs step before others) ∧
      ((step before (.publish ticket now tenantId id approver)).pending ticket ≠ none →
        after.store.recordsById.get id = before.store.recordsById.get id) := by
  intro step before after
  have absent : before.pending ticket = none :=
    runs_untouched fun e earlier => own e (List.mem_append_left _ earlier)
  have rest : ∀ e ∈ others, e.ticket ≠ some ticket := fun e later => own e (List.mem_append_right _ later)
  have published : step before (.publish ticket now tenantId id approver) =
      before.publish ticket now tenantId id approver := by
    simp only [step, AwaitingStore.step, absent, Option.isSome_none, Bool.false_eq_true, ↓reduceIte]
  rcases publish_cases before ticket now tenantId id approver with
    refused | ⟨existing, name, _, found, waits, _, written⟩
  · have kept := published.trans refused
    have silent : (runs step before others).pending ticket = none := (runs_untouched rest).trans absent
    constructor
    · intro _
      have quiet : step (runs step before others) (.reject ticket error) = runs step before others :=
        (settled_nothing silent now error).2
      exact (congrArg (fun c => step (runs step c others) (.reject ticket error)) kept).trans quiet
    · intro pending
      rw [kept] at pending
      exact absurd absent pending
  · have begun := published.trans written
    obtain ⟨stored, rfl⟩ := scoped_stored found
    have aside := publish_begins now name found absent
    rw [← begun] at aside
    have sound : Sound uuid before := runs_sound uuid log
    constructor
    · intro clear
      exact (runs_aside sound (step_sound sound _) aside waits rest clear).rejected error
    · intro _
      have pending : (runs step (step before (.publish ticket now existing.tenantId id approver))
          others).pending ticket = some ⟨id, existing, approvedBy name now existing⟩ :=
        (runs_untouched rest).trans aside.waits
      have result : after = _ := rejected pending error
      rw [stored, result]
      exact InsertionMap.get_set_self _ _ _

end

def acme : String := "11111111-1111-4111-8111-111111111111"

def proposed : String := ProposalLifecycle.countedUuids.text 1

/-- A proposal that waits for a human. -/
def drafted : List (Step Unit) :=
  [.call ⟨0, .create acme
      { proposalKey := "critique:c1", targetType := "blog_draft", targetId := "draft-1",
        risk := .low, proposalPayload := (), createdBy := "critique:c1" }⟩,
    .call ⟨1, .recordEvaluation acme proposed
      { decision := .requires_approval, evidenceSnapshot := [], evaluationSnapshot := [],
        decisionReasons := ["high risk"] }⟩]

/-- A guardrail breach found while the approval waits. -/
def breached : List (Step Unit) :=
  [.call ⟨3, .recordEvaluation acme proposed
    { decision := .reject, evidenceSnapshot := [], evaluationSnapshot := [],
      decisionReasons := ["guardrail breach"] }⟩]

/-- The rejection of a proposal is lost when its pending approval fails. -/
theorem rejection_undone :
    let step := AwaitingStore.step ProposalLifecycle.countedUuids
    let before := runs step .empty drafted
    let after := step (runs step (step before (.publish 0 2 acme proposed "founder")) breached)
      (.reject 0 .range)
    (before.store.recordsById.get proposed).map (·.status) = some .requires_approval ∧
      after ≠ runs step before breached := by
  intro step before after
  have alone : ((runs step before breached).store.recordsById.get proposed).map (·.status) =
      some .rejected := by decide
  have restored : (after.store.recordsById.get proposed).map (·.status) = some .requires_approval := by
    decide
  constructor
  · decide
  · intro same
    rw [same, alone] at restored
    cases restored

/-- A claim made while the approval waits. -/
def claimed : List (Step Unit) := [.call ⟨3, .claimPromotion acme proposed {}⟩]

theorem claim_taken_back :
    let step := AwaitingStore.step ProposalLifecycle.countedUuids
    let before := runs step .empty drafted
    step (runs step (step before (.publish 0 2 acme proposed "founder")) claimed) (.reject 0 .range) =
      runs step before claimed := by
  intro step before
  apply (refused_approval ProposalLifecycle.countedUuids drafted claimed 0 _ 2 acme proposed "founder" .range).1
  · exact ⟨fun disturbs => disturbs, trivial⟩
  · decide

end VantGrowth.Proofs.ApprovalAwaits
