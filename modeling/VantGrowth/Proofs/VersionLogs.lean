import VantGrowth.Lib.Runs
import VantGrowth.Proofs.SystemLogs

namespace VantGrowth.Proofs.VersionLogs
open Core Db Db.PlaybookVersionStore Lib Lib.Text Learning
open PlaybookEffects WorldSteps WorkerAwaits SystemLogs ProposalTasks

section
variable {d : Deployment} {w : World}

theorem clock_step (op : Op) (w : World) : w.clock ≤ ((exec d op).run w).2.clock := by
  cases op with
  | tick ms =>
    change w.clock ≤ w.clock + ms
    exact Int.le_add_of_nonneg_right (Int.natCast_nonneg ms)
  | _ => exact le_refl w.clock

theorem clock_after (a b : Log) : (after d w a).clock ≤ (after d w (a ++ b)).clock := by
  rw [after_append]
  exact Machine.replay_related (m := machine d) (I := fun _ => True)
    (R := fun s t => s.clock ≤ t.clock) (fun _ => le_refl _) (fun _ _ _ => le_trans)
    (fun _ _ _ => trivial) (fun s op _ => clock_step op s) trivial b

/-- Every version of `s` is still there in `t`, as it was. -/
def Retains (s t : PlaybookVersionStore) : Prop :=
  ∀ i v, s.records.get i = some v → t.records.get i = some v

theorem drafts_retain {uuid : Supply} {now : Instant} {tenantId : String}
    {params : CreatePlaybookVersionParams} {s t : PlaybookVersionStore}
    {x : Except DbError PlaybookVersionRecord} (drafts : Drafts uuid now tenantId params s t x) :
    Retains s t := by
  intro i v hv
  cases drafts with
  | refused e records => rw [records, hv]
  | drafted version u row fresh records newest =>
    rw [records, InsertionMap.get_set, if_neg, hv]
    rintro rfl
    rw [fresh] at hv
    cases hv

theorem exec_retains {w : World} (op : Op) (h : WorldSound d w) :
    Retains w.playbooks ((exec d op).run w).2.playbooks := by
  cases op with
  | createVersion tenantId params => exact drafts_retain (draft_step d w h.playbooks tenantId params).1
  | _ => exact fun _ _ hv => hv

theorem retains_after (h : Fresh d w) (a b : Log) :
    Retains (after d w a).playbooks (after d w (a ++ b)).playbooks := by
  rw [after_append]
  exact Machine.replay_related (I := WorldSound d)
    (R := fun s t => Retains s.playbooks t.playbooks) (fun _ _ _ hv => hv)
    (fun _ _ _ first then_ i v hv => then_ i v (first i v hv)) (fun _ op hs => exec_sound d op hs)
    (fun _ op hs => exec_retains op hs) (sound_after h a) b

theorem drafts_at (h : Fresh d w) {a b : Log} {actor : Machine.Actor Start} {tenantId : String}
    {params : CreatePlaybookVersionParams} {r : Except DbError PlaybookVersionRecord}
    (valid : Explained d w (a ++ .did actor (.createVersion tenantId params) r :: b)) :
    Drafts d.versionUuid (after d w a).clock tenantId params (after d w a).playbooks
      (after d w (a ++ [.did actor (.createVersion tenantId params) r])).playbooks r :=
  (did_ends valid (draft_step d _ (sound_after h a).playbooks tenantId params)).1

/-- A version that a creation answered with is stored, as it was asked for. -/
theorem created_stored (h : Fresh d w) {a b : Log} {actor : Machine.Actor Start} {tenantId : String}
    {params : CreatePlaybookVersionParams} {v : PlaybookVersionRecord}
    (valid : Explained d w (a ++ .did actor (.createVersion tenantId params) (.ok v) :: b)) :
    (after d w (a ++ [.did actor (.createVersion tenantId params) (.ok v)])).playbooks.records.get
      v.id = some v ∧ v.tenantId = tenantId ∧ v.playbookType = params.playbookType ∧
      v.createdBy = params.createdBy ∧ v.content = params.content := by
  have drafts := drafts_at h valid
  generalize (after d w (a ++ [.did actor (.createVersion tenantId params) (.ok v)])).playbooks = t
    at drafts ⊢
  cases drafts with
  | drafted version _ row fresh records newest =>
    refine ⟨by rw [records, InsertionMap.get_set_self], ?_⟩
    subst row
    exact ⟨rfl, rfl, rfl, rfl⟩

/-- A stored version was there from the start or a worker created it. -/
theorem version_origin (h : Fresh d w) {log : Log} (valid : Explained d w log) {i : String}
    {v : PlaybookVersionRecord} (stored : (after d w log).playbooks.records.get i = some v) :
    w.playbooks.records.get i = some v ∨
    ∃ a b j s params, log = a ++ .did (.worker j s) (.createVersion v.tenantId params) (.ok v) :: b ∧
      params.playbookType = v.playbookType ∧ params.createdBy = v.createdBy := by
  refine Machine.Valid.rec_ (J := fun log => ∀ i v,
    (after d w log).playbooks.records.get i = some v → w.playbooks.records.get i = some v ∨
    ∃ a b j s params, log = a ++ .did (.worker j s) (.createVersion v.tenantId params) (.ok v) :: b ∧
      params.playbookType = v.playbookType ∧ params.createdBy = v.createdBy) ?_ ?_ valid i v stored
  · exact fun i v hv => Or.inl hv
  · intro a e valid ih i v hv
    have older : (after d w a).playbooks.records.get i = some v →
        w.playbooks.records.get i = some v ∨
        ∃ b c j s params, a ++ [e] =
          b ++ .did (.worker j s) (.createVersion v.tenantId params) (.ok v) :: c ∧
          params.playbookType = v.playbookType ∧ params.createdBy = v.createdBy := by
      intro old
      rcases ih i v old with first | ⟨b, c, j, s, params, rfl, same⟩
      · exact Or.inl first
      · exact Or.inr ⟨b, c ++ [e], j, s, params, by simp, same⟩
    cases e with
    | spawned j s =>
      rw [after_spawned] at hv
      exact older hv
    | did actor op r =>
      cases op with
      | createVersion tenantId params =>
        obtain ⟨j, s, rfl, _⟩ := by_worker valid rfl (by simp)
        have drafts := drafts_at h valid
        generalize ht : (after d w (a ++ [.did (.worker j s) (.createVersion tenantId params)
          r])).playbooks = t at drafts hv
        cases drafts with
        | refused e records =>
          rw [records] at hv
          exact older hv
        | drafted version u row fresh records newest =>
          rw [records, InsertionMap.get_set] at hv
          split at hv
          · cases hv
            subst row
            exact Or.inr ⟨a, [], j, s, params, rfl, rfl, rfl⟩
          · exact older hv
      | _ =>
        rw [after_did] at hv
        exact older hv

/-- What a listing showed was stored, and nothing stored was left out. -/
theorem listed_iff {a b : Log} {actor : Machine.Actor Start} {tenantId : String}
    {playbookType : PlaybookType} {prior : List PlaybookVersionRecord}
    (valid : Explained d w (a ++ .did actor (.listVersions tenantId playbookType) (.ok prior) :: b))
    {v : PlaybookVersionRecord} :
    v ∈ prior ↔ (∃ i, (after d w a).playbooks.records.get i = some v) ∧ v.tenantId = tenantId ∧
      v.playbookType = playbookType := by
  have answer := answered_run valid
  have listed : prior = newestFirst ((after d w a).playbooks.ofType tenantId playbookType) := by
    simp only [exec, query, Deployment.choose] at answer
    split at answer
    · exact Except.ok.inj answer
    · simp only [PostgresPlaybookVersionsRepository.listAll, parsed] at answer
      cases ht : uuidText tenantId with
      | none =>
        rw [ht] at answer
        cases answer
      | some t =>
        rw [ht] at answer
        exact Except.ok.inj answer
  rw [listed, mem_newestFirst, mem_ofType]

end

end VantGrowth.Proofs.VersionLogs
