import Mathlib.Data.List.Perm.Basic
import VantGrowth.Db.TenantSettings
import VantGrowth.Lib.Runs

namespace VantGrowth.Proofs.SettingsPatches
open Db Lib Lib.Logs TenantSettingsStore

def isReturned : PatchPhase → Bool
  | .returned _ => true
  | _ => false

/-- The patches of a tenant whose calls returned. -/
def applied (s : TenantSettingsStore) (tenantId : String) : List TenantSettingsPatch :=
  (s.calls.filter fun call => call.tenantId == tenantId && isReturned call.phase).map (·.patch)

def document (rows : InsertionMap String TenantSettingsPayload) (tenantId : String) :
    TenantSettingsPayload :=
  (rows.get tenantId).getD .empty

/-- The tenant's document is what its patches come to in some order. -/
def InSomeOrder (init : InsertionMap String TenantSettingsPayload) (s : TenantSettingsStore)
    (tenantId : String) : Prop :=
  ∃ order : List TenantSettingsPatch, order.Perm (applied s tenantId) ∧ ∀ key,
    (document s.rows tenantId).get key =
      (order.foldl shallowMerge (document init tenantId)).get key

/-- A step that makes a patch visible finds the row as the patch read it. -/
def Undisturbed (b : Backend) (s : TenantSettingsStore) : SettingsStep → Prop
  | .patch _ _ => True
  | .advance i => ∀ call, s.calls[i]? = some call →
    match b, call.phase with
    | .inMemory, .read existing => s.rows.get call.tenantId = existing
    | .postgres, .written existing => s.rows.get call.tenantId = existing
    | _, _ => True

section
variable {init : InsertionMap String TenantSettingsPayload} {s : TenantSettingsStore} {i : Nat}
  {call : PatchCall}

theorem set_split (new : PatchCall) (there : s.calls[i]? = some call) :
    s.calls = s.calls.take i ++ call :: s.calls.drop (i + 1) ∧
      s.calls.set i new = s.calls.take i ++ new :: s.calls.drop (i + 1) := by
  obtain ⟨bound, rfl⟩ := List.getElem?_eq_some_iff.mp there
  refine ⟨?_, ?_⟩
  · rw [List.getElem_cons_drop, List.take_append_drop]
  · rw [List.set_eq_take_append_cons_drop, if_pos bound]

/-- A call that does not return leaves the patches applied as they were. -/
theorem goOn_applied (there : s.calls[i]? = some call) (open_ : isReturned call.phase = false)
    {phase : PatchPhase} (still : isReturned phase = false) (tenantId : String) :
    applied (s.goOn i call phase) tenantId = applied s tenantId := by
  obtain ⟨old, new⟩ := set_split { call with phase } there
  unfold applied goOn
  dsimp only
  rw [new]
  conv_rhs => rw [old]
  simp [List.filter_append, open_, still]

theorem put_applied (there : s.calls[i]? = some call) (open_ : isReturned call.phase = false)
    (settings : TenantSettingsPayload) (tenantId : String) :
    (applied (s.put i call settings) tenantId).Perm
      (if call.tenantId = tenantId then call.patch :: applied s tenantId else applied s tenantId) := by
  obtain ⟨old, new⟩ := set_split { call with phase := .returned settings } there
  unfold applied put
  dsimp only
  rw [new]
  conv_rhs => rw [old]
  have returned : isReturned (.returned settings) = true := rfl
  by_cases mine : call.tenantId = tenantId
  · simp only [List.filter_append, List.filter_cons, open_, mine, returned, BEq.rfl, Bool.true_and,
      Bool.false_eq_true, ↓reduceIte, List.map_append, List.map_cons]
    exact List.perm_middle
  · simp [List.filter_append, mine]

theorem merge_get {base other : TenantSettingsPayload} (same : ∀ key, base.get key = other.get key)
    (patch : TenantSettingsPatch) (key : String) :
    (shallowMerge base patch).get key = (shallowMerge other patch).get key := by
  unfold shallowMerge
  induction patch generalizing base other with
  | nil => exact same key
  | cons entry rest ih =>
    refine ih fun k => ?_
    obtain ⟨name, value⟩ := entry
    cases value with
    | none => exact same k
    | some value => simp only [InsertionMap.get_set, same]

theorem goOn_inSomeOrder (there : s.calls[i]? = some call) (open_ : isReturned call.phase = false)
    {phase : PatchPhase} (still : isReturned phase = false) (tenantId : String)
    (h : InSomeOrder init s tenantId) : InSomeOrder init (s.goOn i call phase) tenantId := by
  obtain ⟨order, perm, same⟩ := h
  refine ⟨order, ?_, same⟩
  rw [goOn_applied there open_ still]
  exact perm

/-- A patch put upon the row it read comes last. -/
theorem put_inSomeOrder (there : s.calls[i]? = some call) (open_ : isReturned call.phase = false)
    {existing : Option TenantSettingsPayload} (undisturbed : s.rows.get call.tenantId = existing)
    (tenantId : String) (h : InSomeOrder init s tenantId) :
    InSomeOrder init (s.put i call (call.merged existing)) tenantId := by
  obtain ⟨order, perm, same⟩ := h
  have applied_ := put_applied there open_ (call.merged existing) tenantId
  by_cases mine : call.tenantId = tenantId
  · rw [if_pos mine] at applied_
    refine ⟨order ++ [call.patch], ?_, fun key => ?_⟩
    · exact (List.perm_append_comm.trans (perm.cons call.patch)).trans applied_.symm
    · have row : document (s.put i call (call.merged existing)).rows tenantId =
          shallowMerge (document s.rows tenantId) call.patch := by
        simp [document, put, ← mine, PatchCall.merged, undisturbed]
      rw [row, List.foldl_append]
      exact merge_get same call.patch key
  · rw [if_neg mine] at applied_
    refine ⟨order, perm.trans applied_.symm, fun key => ?_⟩
    have row : document (s.put i call (call.merged existing)).rows tenantId =
        document s.rows tenantId := by
      simp [document, put, InsertionMap.get_set, Ne.symm mine]
    rw [row]
    exact same key

theorem start_inSomeOrder (tenantId : String) (patch : TenantSettingsPatch) (owner : String)
    (h : InSomeOrder init s owner) (b : Backend) :
    InSomeOrder init (settingsStep b s (.patch tenantId patch)) owner := by
  obtain ⟨order, perm, same⟩ := h
  refine ⟨order, ?_, same⟩
  have unchanged : applied (settingsStep b s (.patch tenantId patch)) owner = applied s owner := by
    unfold applied settingsStep
    by_cases valid : isUuid tenantId = true
    · simp [List.filter_append, valid, isReturned]
    · simp [List.filter_append, valid, isReturned]
  rw [unchanged]
  exact perm

theorem step_inSomeOrder (b : Backend) (tenantId : String) (s : TenantSettingsStore)
    (e : SettingsStep) (h : InSomeOrder init s tenantId) (undisturbed : Undisturbed b s e) :
    InSomeOrder init (settingsStep b s e) tenantId := by
  cases e with
  | patch owner patch => exact start_inSomeOrder owner patch tenantId h b
  | advance i =>
    simp only [settingsStep]
    cases there : s.calls[i]? with
    | none => exact h
    | some call =>
      have clean := undisturbed call there
      cases b with
      | inMemory =>
        simp only [advanceInMemory]
        cases phase : call.phase with
        | called => exact goOn_inSomeOrder there (congrArg isReturned phase) rfl tenantId h
        | read existing =>
          rw [phase] at clean
          exact put_inSomeOrder there (congrArg isReturned phase) clean tenantId h
        | written existing => exact h
        | returned settings => exact h
        | failed => exact h
      | postgres =>
        simp only [advancePostgres]
        cases phase : call.phase with
        | called => exact goOn_inSomeOrder there (congrArg isReturned phase) rfl tenantId h
        | read existing =>
          dsimp only
          split
          · exact h
          · split
            · exact goOn_inSomeOrder there (congrArg isReturned phase) rfl tenantId h
            · exact goOn_inSomeOrder there (congrArg isReturned phase) rfl tenantId h
        | written existing =>
          rw [phase] at clean
          exact put_inSomeOrder there (congrArg isReturned phase) clean tenantId h
        | returned settings => exact h
        | failed => exact h

end

/-- Where every patch finds the row as it read it when it writes, the patches
that returned took effect one after another. -/
theorem patches_in_some_order (b : Backend) (rows : InsertionMap String TenantSettingsPayload)
    {log : List SettingsStep}
    (undisturbed : Each (fun before e => Undisturbed b (runs (settingsStep b) ⟨rows, []⟩ before) e) log)
    (tenantId : String) :
    InSomeOrder rows (runs (settingsStep b) ⟨rows, []⟩ log) tenantId :=
  runs_each (step_inSomeOrder b tenantId) ⟨[], List.Perm.nil, fun _ => rfl⟩ undisturbed

/-- A key that was there stays there. -/
theorem merge_keeps {base : TenantSettingsPayload} {key : String}
    (there : (base.get key).isSome = true) (patch : TenantSettingsPatch) :
    ((shallowMerge base patch).get key).isSome = true := by
  unfold shallowMerge
  induction patch generalizing base with
  | nil => exact there
  | cons entry rest ih =>
    refine ih ?_
    obtain ⟨name, value⟩ := entry
    cases value with
    | none => exact there
    | some value =>
      simp only [InsertionMap.get_set]
      split
      · rfl
      · exact there

theorem merge_sets {patch : TenantSettingsPatch} {key : String} {value : Json}
    (sets : (key, some value) ∈ patch) (base : TenantSettingsPayload) :
    ((shallowMerge base patch).get key).isSome = true := by
  unfold shallowMerge
  induction patch generalizing base with
  | nil => cases sets
  | cons entry rest ih =>
    rcases List.mem_cons.mp sets with rfl | later
    · exact @merge_keeps (base.set key value) key (by simp) rest
    · exact ih later _

/-- No order of the patches loses a key that one of them sets. -/
theorem order_sets {order : List TenantSettingsPatch} {patch : TenantSettingsPatch} {key : String}
    {value : Json} (inside : patch ∈ order) (sets : (key, some value) ∈ patch)
    (base : TenantSettingsPayload) : ((order.foldl shallowMerge base).get key).isSome = true := by
  induction order generalizing base with
  | nil => cases inside
  | cons first rest ih =>
    rcases List.mem_cons.mp inside with rfl | later
    · have kept : ∀ (others : List TenantSettingsPatch) (b : TenantSettingsPayload),
          (b.get key).isSome = true → ((others.foldl shallowMerge b).get key).isSome = true := by
        intro others
        induction others with
        | nil => exact fun _ there => there
        | cons other others more => exact fun b there => more _ (merge_keeps there other)
      exact kept rest _ (merge_sets sets base)
    · exact ih later _

def owner : String := "11111111-1111-4111-8111-111111111111"

/-- Two calls that set one key each. -/
def startBoth : List SettingsStep :=
  [.patch owner [("digest", some (.bool true))], .patch owner [("policy", some (.bool true))]]

theorem owner_uuid : isUuid owner = true := by decide

/-- The second call starts when the first has returned. -/
def inTurn : List SettingsStep :=
  startBoth ++ [.advance 0, .advance 0, .advance 1, .advance 1]

theorem in_turn_undisturbed : Each (fun before e => Undisturbed .inMemory
    (runs (settingsStep .inMemory) ⟨.empty, []⟩ before) e) inTurn := by
  simp [Each, EachAfter, inTurn, startBoth, runs, settingsStep, owner_uuid, Undisturbed,
    advanceInMemory, goOn, put]


theorem patches_in_turn : InSomeOrder .empty
    (runs (settingsStep .inMemory) ⟨.empty, []⟩ inTurn) owner :=
  patches_in_some_order .inMemory .empty in_turn_undisturbed owner

/-- Both calls read before either writes. -/
def crossing : Backend → List SettingsStep
  | .inMemory => startBoth ++ [.advance 0, .advance 1, .advance 0, .advance 1]
  | .postgres =>
    startBoth ++ [.advance 0, .advance 1, .advance 0, .advance 0, .advance 1, .advance 1]

/-- The row of the tenant at the start. -/
def emptyRow : InsertionMap String TenantSettingsPayload := InsertionMap.empty.set owner .empty

theorem crossing_end (b : Backend) :
    ((document (runs (settingsStep b) ⟨emptyRow, []⟩ (crossing b)).rows owner).get "digest").isSome =
        false ∧
      [("digest", some (.bool true))] ∈
        applied (runs (settingsStep b) ⟨emptyRow, []⟩ (crossing b)) owner := by
  cases b with
  | inMemory =>
    refine ⟨by decide, ?_⟩
    simp [crossing, startBoth, runs, settingsStep, owner_uuid, advanceInMemory, goOn, put, applied,
      isReturned]
  | postgres =>
    refine ⟨by decide, ?_⟩
    simp [crossing, startBoth, runs, settingsStep, owner_uuid, advancePostgres, goOn, put, applied,
      isReturned, locked, emptyRow]

/-- On neither store does the patch that writes first survive. -/
theorem crossing_patches_lost : ¬ ∃ b : Backend,
    ∀ (rows : InsertionMap String TenantSettingsPayload) (log : List SettingsStep) (tenantId : String),
      InSomeOrder rows (runs (settingsStep b) ⟨rows, []⟩ log) tenantId := by
  rintro ⟨b, claim⟩
  obtain ⟨order, perm, same⟩ := claim emptyRow (crossing b) owner
  obtain ⟨lost, returned⟩ := crossing_end b
  have kept := order_sets (perm.symm.subset returned) (List.mem_singleton_self _)
    (document emptyRow owner)
  rw [← same, lost] at kept
  cases kept

end VantGrowth.Proofs.SettingsPatches
