import Mathlib.Data.List.Induction
import VantGrowth.Lib.Runs
import VantGrowth.Secrets.SecretManager

namespace VantGrowth.Proofs.SecretNames
open Lib Lib.Text Db Secrets

/-! Secret paths and the variables that hold their values. -/

inductive SecretCall where
  | get (path : String)
  | put (now : Instant) (path value : String)
  | delete (path : String)
  | list (pre : String)

section
variable (m : EnvSecretManager)

def performCall (env : Env) : SecretCall → Env
  | .get path => ((m.get path).run env).2
  | .put now path value => ((m.put now path value).run env).2
  | .delete path => ((m.delete path).run env).2
  | .list pre => ((m.list pre).run env).2

/-- The environment, empty at first, after calls made one after another. -/
def after (calls : List SecretCall) : Env := runs (performCall m) .empty calls

end

/-- A path with each separator read as `_`, which is all its variable tells. -/
def spelling (path : String) : String := mapChars separator path

/-- What a call does to the paths that are spelled as one is. -/
def effect (path : String) : SecretCall → Option (Option String)
  | .put _ p value => if validPath p = true ∧ spelling p = spelling path then some (some value) else none
  | .delete p => if validPath p = true ∧ spelling p = spelling path then some none else none
  | _ => none

/-- The value that was put last at a path spelled so, and not deleted since. -/
def held (calls : List SecretCall) (path : String) : Option String :=
  (calls.filterMap (effect path)).getLast?.join

structure MapsSpellings (m : EnvSecretManager) (calls : List SecretCall) : Prop where
  get : ∀ path, validPath path = true →
    (m.get path).run (after m calls) = (.ok (held calls path), after m calls)
  list : ∀ pre, validPath pre = true → ∃ listed,
    (m.list pre).run (after m calls) = (.ok listed, after m calls) ∧ listed.Nodup ∧
      ∀ path, path ∈ listed ↔
        ∃ s, path = pre ++ "/" ++ s ∧ spelling s = s ∧ (held calls path).isSome = true
  readable : ∀ pre listed env, (m.list pre).run (after m calls) = (.ok listed, env) →
    ∀ path ∈ listed, validPath path = true ∧ ∃ value, ((m.get path).run env).1 = .ok (some value)

inductive TenantCall where
  | get (tenantId key : String)
  | put (now : Instant) (tenantId key value : String)
  | delete (tenantId key : String)
  | listKeys (tenantId : String)

def TenantCall.tenantId : TenantCall → String
  | .get tenantId _ | .put _ tenantId _ _ | .delete tenantId _ | .listKeys tenantId => tenantId

section
variable (m : EnvSecretManager)

def performTenantCall (env : Env) : TenantCall → Env
  | .get tenantId key => ((TenantSecretsService.get m tenantId key).run env).2
  | .put now tenantId key value => ((TenantSecretsService.put m now tenantId key value).run env).2
  | .delete tenantId key => ((TenantSecretsService.delete m tenantId key).run env).2
  | .listKeys tenantId => ((TenantSecretsService.listKeys m tenantId).run env).2

def afterTenants (calls : List TenantCall) : Env := runs (performTenantCall m) .empty calls

/-- What a tenant reads is what it would read alone. -/
structure Isolated (calls : List TenantCall) (tenantId : String) : Prop where
  get : ∀ key, ((TenantSecretsService.get m tenantId key).run (afterTenants m calls)).1 =
    ((TenantSecretsService.get m tenantId key).run
      (afterTenants m (calls.filter (·.tenantId = tenantId)))).1
  listKeys : ((TenantSecretsService.listKeys m tenantId).run (afterTenants m calls)).1 =
    ((TenantSecretsService.listKeys m tenantId).run
      (afterTenants m (calls.filter (·.tenantId = tenantId)))).1

end

/-- The character that a path's character becomes in a variable. -/
def cap (c : Char) : Char := separator c.toUpper

theorem pathChar_ascii {c : Char} (path : isPathChar c = true) : c.toNat < 128 := by
  have lower : c.isLower = (decide (c.val ≥ 'a'.val) && decide (c.val ≤ 'z'.val)) := rfl
  simp only [isPathChar, lower, Char.isDigit, Bool.or_eq_true, Bool.and_eq_true,
    decide_eq_true_eq, beq_iff_eq, ge_iff_le, UInt32.le_iff_toNat_le] at path
  rcases path with (((⟨_, low⟩ | ⟨_, low⟩) | rfl) | rfl) | rfl
  · exact Nat.lt_of_le_of_lt low (by decide)
  · exact Nat.lt_of_le_of_lt low (by decide)
  all_goals decide

/-- The capitals of a path's character tell it up to the separators. -/
theorem pathChar_cases {c : Char} (path : isPathChar c = true) :
    (cap c).toLower = separator c ∧ cap (separator c) = cap c ∧
      separator (separator c) = separator c ∧ isPathChar (separator c) = true ∧
        (cap c).toNat < 128 := by
  have all : ∀ n < 128, isPathChar (Char.ofNat n) = true →
      (cap (Char.ofNat n)).toLower = separator (Char.ofNat n) ∧
        cap (separator (Char.ofNat n)) = cap (Char.ofNat n) ∧
          separator (separator (Char.ofNat n)) = separator (Char.ofNat n) ∧
            isPathChar (separator (Char.ofNat n)) = true ∧ (cap (Char.ofNat n)).toNat < 128 := by
    decide
  have low : c.toNat < 128 := pathChar_ascii path
  have same : Char.ofNat c.toNat = c := Char.ofNat_toNat c
  have facts := all c.toNat low
  rw [same] at facts
  exact facts path

theorem validPath_chars {path : String} (valid : validPath path = true) :
    ∀ c ∈ path.toList, isPathChar c = true := by
  simp only [validPath, Bool.and_eq_true, List.all_eq_true] at valid
  exact valid.2

theorem isAscii_path {path : String} (chars : ∀ c ∈ path.toList, isPathChar c = true) :
    isAscii path = true := by
  simp only [isAscii, List.all_eq_true, decide_eq_true_eq]
  exact fun c member => pathChar_ascii (chars c member)

section
variable {m : EnvSecretManager}

/-- How every variable of a manager starts. -/
def root (m : EnvSecretManager) : List Char :=
  (mapChars separator
    (m.casing.toUpperCase (if m.keyPrefix = "" then "" else m.keyPrefix ++ "/"))).toList

theorem toEnvKey_chars {path : String} (chars : ∀ c ∈ path.toList, isPathChar c = true) :
    (m.toEnvKey path).toList = root m ++ path.toList.map cap := by
  have full : (if m.keyPrefix = "" then path else m.keyPrefix ++ "/" ++ path) =
      (if m.keyPrefix = "" then "" else m.keyPrefix ++ "/") ++ path := by
    split <;> simp
  unfold EnvSecretManager.toEnvKey root
  dsimp only
  rw [full, m.casing.upper_append _ _ (isAscii_path chars)]
  simp only [mapChars, String.toList_append, String.toList_ofList, List.map_append, List.map_map]
  rfl

theorem cap_spelling {path : String} (chars : ∀ c ∈ path.toList, isPathChar c = true) :
    (path.toList.map cap).map Char.toLower = (spelling path).toList := by
  simp only [spelling, mapChars, String.toList_ofList, List.map_map]
  exact List.map_congr_left fun c member => (pathChar_cases (chars c member)).1

theorem spelling_cap {path : String} (chars : ∀ c ∈ path.toList, isPathChar c = true) :
    (spelling path).toList.map cap = path.toList.map cap := by
  simp only [spelling, mapChars, String.toList_ofList, List.map_map]
  exact List.map_congr_left fun c member => (pathChar_cases (chars c member)).2.1

/-- Two paths have one variable exactly where they are spelled alike. -/
theorem toEnvKey_inj {p q : String} (hp : ∀ c ∈ p.toList, isPathChar c = true)
    (hq : ∀ c ∈ q.toList, isPathChar c = true) :
    m.toEnvKey p = m.toEnvKey q ↔ spelling p = spelling q := by
  rw [← String.toList_inj, toEnvKey_chars hp, toEnvKey_chars hq, List.append_cancel_left_eq,
    ← String.toList_inj]
  constructor
  · intro same
    rw [← cap_spelling hp, same, cap_spelling hq]
  · intro same
    rw [← spelling_cap hp, same, spelling_cap hq]

theorem held_snoc (calls : List SecretCall) (call : SecretCall) (path : String) :
    held (calls ++ [call]) path =
      match effect path call with
      | some value => value
      | none => held calls path := by
  unfold held
  rw [List.filterMap_append]
  cases changed : effect path call <;> simp [changed]

theorem get_run (env : Env) (path : String) : (m.get path).run env =
    (if validPath path = true then .ok (env.get (m.toEnvKey path)) else .error .zod, env) := by
  by_cases valid : validPath path = true <;> simp [EnvSecretManager.get, Store.run_bind, valid]

theorem put_run (env : Env) (now : Instant) (path value : String) :
    ((m.put now path value).run env).2 =
      if validPath path = true then env.set (m.toEnvKey path) value else env := by
  by_cases valid : validPath path = true <;> simp [EnvSecretManager.put, Store.run_bind, valid]

theorem delete_run (env : Env) (path : String) : ((m.delete path).run env).2 =
    if validPath path = true then env.erase (m.toEnvKey path) else env := by
  by_cases valid : validPath path = true <;> simp [EnvSecretManager.delete, Store.run_bind, valid]

/-- The variables under a path. -/
def under (m : EnvSecretManager) (pre key : String) : Bool :=
  (m.toEnvKey pre ++ "_").toList.isPrefixOf key.toList

theorem list_run (env : Env) (pre : String) : (m.list pre).run env =
    (if validPath pre = true then
        .ok (((env.entries.map Prod.fst).filter (under m pre)).map (m.listedPath pre))
      else .error .zod, env) := by
  have filled : ∀ keys : List String,
      (keys.map (m.listedPath pre)).filter (· ≠ "") = keys.map (m.listedPath pre) := by
    intro keys
    rw [List.filter_eq_self]
    intro path member
    obtain ⟨key, _, rfl⟩ := List.mem_map.mp member
    have slash : '/' ∈ (m.listedPath pre key).toList := by
      simp [EnvSecretManager.listedPath]
    simp only [ne_eq, decide_not, Bool.not_eq_true', decide_eq_false_iff_not]
    rintro empty
    rw [empty] at slash
    cases slash
  by_cases valid : validPath pre = true
  · simp only [EnvSecretManager.list, Store.run_bind, valid, if_true, Store.run_require,
      Store.run_read, Store.run_pure, filled]
    rfl
  · simp [EnvSecretManager.list, Store.run_bind, valid]

/-- A stored variable is some path's. -/
def Named (m : EnvSecretManager) (env : Env) : Prop :=
  ∀ key value, env.get key = some value → ∃ path, validPath path = true ∧ key = m.toEnvKey path

theorem performCall_named {env : Env} (h : Named m env) (call : SecretCall) :
    Named m (performCall m env call) := by
  cases call with
  | get path =>
    show Named m ((m.get path).run env).2
    rw [get_run]
    exact h
  | put now path value =>
    show Named m ((m.put now path value).run env).2
    rw [put_run]
    split
    · rename_i valid
      intro key v stored
      rw [InsertionMap.get_set] at stored
      split at stored
      · rename_i same
        exact ⟨path, valid, same⟩
      · exact h key v stored
    · exact h
  | delete path =>
    show Named m ((m.delete path).run env).2
    rw [delete_run]
    split
    · intro key v stored
      rw [InsertionMap.get_erase] at stored
      split at stored
      · cases stored
      · exact h key v stored
    · exact h
  | list pre =>
    show Named m ((m.list pre).run env).2
    rw [list_run]
    exact h

theorem after_named (m : EnvSecretManager) (calls : List SecretCall) : Named m (after m calls) := by
  apply runs_invariant (I := Named m)
  · intro env call h
    exact performCall_named h call
  · intro key value stored
    cases stored

/-- A call changes a path's variable as it changes the paths spelled alike. -/
theorem performCall_get (env : Env) (call : SecretCall) {path : String}
    (valid : validPath path = true) : (performCall m env call).get (m.toEnvKey path) =
      match effect path call with
      | some value => value
      | none => env.get (m.toEnvKey path) := by
  have chars := validPath_chars valid
  cases call with
  | get p =>
    show ((m.get p).run env).2.get _ = _
    rw [get_run]
    rfl
  | put now p value =>
    show ((m.put now p value).run env).2.get _ = _
    rw [put_run]
    by_cases proper : validPath p = true
    · have key := toEnvKey_inj (m := m) chars (validPath_chars proper)
      rw [if_pos proper, InsertionMap.get_set]
      by_cases same : spelling p = spelling path
      · simp [effect, proper, same, key.mpr same.symm]
      · have apart : m.toEnvKey path ≠ m.toEnvKey p := fun one => same (key.mp one).symm
        simp [effect, same, apart]
    · simp [effect, proper]
  | delete p =>
    show ((m.delete p).run env).2.get _ = _
    rw [delete_run]
    by_cases proper : validPath p = true
    · have key := toEnvKey_inj (m := m) chars (validPath_chars proper)
      rw [if_pos proper, InsertionMap.get_erase]
      by_cases same : spelling p = spelling path
      · simp [effect, proper, same, key.mpr same.symm]
      · have apart : m.toEnvKey path ≠ m.toEnvKey p := fun one => same (key.mp one).symm
        simp [effect, same, apart]
    · simp [effect, proper]
  | list pre =>
    show ((m.list pre).run env).2.get _ = _
    rw [list_run]
    rfl

theorem after_get (m : EnvSecretManager) (calls : List SecretCall) {path : String}
    (valid : validPath path = true) :
    (after m calls).get (m.toEnvKey path) = held calls path := by
  induction calls using List.reverseRecOn with
  | nil => rfl
  | append_singleton calls call ih =>
    rw [held_snoc, ← ih]
    unfold after
    rw [runs_append]
    exact performCall_get _ call valid

theorem spelling_chars {path : String} (chars : ∀ c ∈ path.toList, isPathChar c = true) :
    ∀ c ∈ (spelling path).toList, isPathChar c = true := by
  simp only [spelling, mapChars, String.toList_ofList, List.mem_map]
  rintro _ ⟨c, member, rfl⟩
  exact (pathChar_cases (chars c member)).2.2.2.1

theorem spelling_spelled {path : String} (chars : ∀ c ∈ path.toList, isPathChar c = true) :
    spelling (spelling path) = spelling path := by
  rw [← String.toList_inj]
  simp only [spelling, mapChars, String.toList_ofList, List.map_map]
  exact List.map_congr_left fun c member => (pathChar_cases (chars c member)).2.2.1

theorem spelling_append (s t : String) : spelling (s ++ t) = spelling s ++ spelling t := by
  rw [← String.toList_inj]
  simp [spelling, mapChars]

section
variable {pre rest : String} (hp : ∀ c ∈ pre.toList, isPathChar c = true)
  (hr : ∀ c ∈ rest.toList, isPathChar c = true)
include hp hr

theorem joined_chars : ∀ c ∈ (pre ++ "/" ++ rest).toList, isPathChar c = true := by
  intro c member
  simp only [String.toList_append, List.mem_append] at member
  rcases member with (inPre | slash) | inRest
  · exact hp c inPre
  · rw [show c = '/' by simpa using slash]
    decide
  · exact hr c inRest

theorem joined_valid : validPath (pre ++ "/" ++ rest) = true := by
  have filled : (pre ++ "/" ++ rest) ≠ "" := by
    intro empty
    have listed := congrArg String.toList empty
    simp at listed
  simp only [validPath, Bool.and_eq_true, List.all_eq_true, bne_iff_ne]
  exact ⟨filled, joined_chars hp hr⟩

theorem joined_key : (m.toEnvKey (pre ++ "/" ++ rest)).toList =
    (m.toEnvKey pre ++ "_").toList ++ rest.toList.map cap := by
  have slash : "/".toList.map cap = "_".toList := by decide
  rw [toEnvKey_chars (joined_chars hp hr)]
  simp only [String.toList_append, List.map_append, toEnvKey_chars hp, slash, List.append_assoc]

/-- What `list` makes of the variable of a path under its prefix. -/
theorem joined_listed : under m pre (m.toEnvKey (pre ++ "/" ++ rest)) = true ∧
    m.listedPath pre (m.toEnvKey (pre ++ "/" ++ rest)) = pre ++ "/" ++ spelling rest := by
  have key := joined_key (m := m) hp hr
  constructor
  · rw [under, key]
    simp
  · have length : (m.toEnvKey pre).toList.length + 1 = (m.toEnvKey pre ++ "_").toList.length := by
      simp
    have ascii : isAscii (String.ofList (rest.toList.map cap)) = true := by
      simp only [isAscii, String.toList_ofList, List.all_eq_true, List.mem_map, decide_eq_true_eq]
      rintro _ ⟨c, member, rfl⟩
      exact (pathChar_cases (hr c member)).2.2.2.2
    rw [EnvSecretManager.listedPath, key, length, List.drop_left, m.casing.lower_ascii _ ascii]
    congr 1
    rw [← String.toList_inj, mapChars, String.toList_ofList, String.toList_ofList, cap_spelling hr]

end

/-- A path whose variable is under another path is spelled as one that is. -/
theorem under_joined {pre path : String} (hp : ∀ c ∈ pre.toList, isPathChar c = true)
    (chars : ∀ c ∈ path.toList, isPathChar c = true) (below : under m pre (m.toEnvKey path) = true) :
    ∃ rest : String, (∀ c ∈ rest.toList, isPathChar c = true) ∧
      m.toEnvKey path = m.toEnvKey (pre ++ "/" ++ rest) := by
  have rest_chars : ∀ c ∈ (String.ofList (path.toList.drop (pre.toList.length + 1))).toList,
      isPathChar c = true := by
    rw [String.toList_ofList]
    exact fun c member => chars c (List.mem_of_mem_drop member)
  refine ⟨_, rest_chars, ?_⟩
  rw [under, List.isPrefixOf_iff_prefix] at below
  obtain ⟨t, split⟩ := below
  rw [← String.toList_inj, joined_key hp rest_chars, ← split, String.toList_ofList]
  congr 1
  rw [toEnvKey_chars chars, String.toList_append, toEnvKey_chars hp] at split
  have cut := congrArg (List.drop (root m ++ pre.toList.map cap ++ "_".toList).length) split
  rw [List.drop_left] at cut
  rw [cut, List.map_drop]
  simp [List.drop_append]

theorem mem_keys (env : Env) (key : String) :
    key ∈ env.entries.map Prod.fst ↔ ∃ value, env.get key = some value := by
  simp [InsertionMap.get_eq_some_iff]

/-- A listed variable is of a path under the prefix. -/
theorem listed_joined {env : Env} (h : Named m env) {pre key : String}
    (hp : ∀ c ∈ pre.toList, isPathChar c = true)
    (member : key ∈ (env.entries.map Prod.fst).filter (under m pre)) :
    ∃ rest : String, (∀ c ∈ rest.toList, isPathChar c = true) ∧
      key = m.toEnvKey (pre ++ "/" ++ rest) ∧ ∃ value, env.get key = some value := by
  obtain ⟨stored, below⟩ := List.mem_filter.mp member
  obtain ⟨value, held⟩ := (mem_keys env key).mp stored
  obtain ⟨path, valid, rfl⟩ := h key value held
  obtain ⟨rest, chars, same⟩ := under_joined hp (validPath_chars valid) below
  exact ⟨rest, chars, same, value, held⟩

/-- What is listed under a prefix are paths as they are spelled, with a value. -/
theorem mem_listed {env : Env} (h : Named m env) {pre : String}
    (hp : ∀ c ∈ pre.toList, isPathChar c = true) (path : String) :
    path ∈ ((env.entries.map Prod.fst).filter (under m pre)).map (m.listedPath pre) ↔
      ∃ s : String, path = pre ++ "/" ++ s ∧ spelling s = s ∧
        (∀ c ∈ s.toList, isPathChar c = true) ∧ ∃ value, env.get (m.toEnvKey path) = some value := by
  constructor
  · intro member
    obtain ⟨key, inside, rfl⟩ := List.mem_map.mp member
    obtain ⟨rest, chars, rfl, value, held⟩ := listed_joined h hp inside
    have spelled := spelling_chars chars
    have same : m.toEnvKey (pre ++ "/" ++ spelling rest) = m.toEnvKey (pre ++ "/" ++ rest) := by
      rw [toEnvKey_inj (joined_chars hp spelled) (joined_chars hp chars)]
      simp only [spelling_append, spelling_spelled chars]
    rw [(joined_listed hp chars).2]
    exact ⟨spelling rest, rfl, spelling_spelled chars, spelled, value, by rw [same]; exact held⟩
  · rintro ⟨s, rfl, spelled, chars, value, held⟩
    obtain ⟨below, listed⟩ := joined_listed (m := m) hp chars
    refine List.mem_map.mpr ⟨_, List.mem_filter.mpr ⟨(mem_keys _ _).mpr ⟨value, held⟩, below⟩, ?_⟩
    rw [listed, spelled]

theorem listed_nodup {env : Env} (h : Named m env) {pre : String}
    (hp : ∀ c ∈ pre.toList, isPathChar c = true) :
    (((env.entries.map Prod.fst).filter (under m pre)).map (m.listedPath pre)).Nodup := by
  refine List.Nodup.map_on ?_ (env.unique.filter _)
  intro k hk k' hk' same
  obtain ⟨rest, chars, rfl, _⟩ := listed_joined h hp hk
  obtain ⟨rest', chars', rfl, _⟩ := listed_joined h hp hk'
  rw [(joined_listed hp chars).2, (joined_listed hp chars').2] at same
  have spelled : spelling rest = spelling rest' := by
    rw [← String.toList_inj] at same ⊢
    simpa using same
  rw [toEnvKey_inj (joined_chars hp chars) (joined_chars hp chars')]
  simp only [spelling_append, spelled]

/-- A value is held only at a path that is spelled as a valid one. -/
theorem held_chars {calls : List SecretCall} {path : String} (some_ : (held calls path).isSome = true) :
    ∀ c ∈ (spelling path).toList, isPathChar c = true := by
  induction calls using List.reverseRecOn with
  | nil => cases some_
  | append_singleton calls call ih =>
    rw [held_snoc] at some_
    cases changed : effect path call with
    | none =>
      rw [changed] at some_
      exact ih some_
    | some value =>
      have spelled : ∃ p, validPath p = true ∧ spelling p = spelling path := by
        cases call with
        | get p => cases changed
        | list pre => cases changed
        | put now p v =>
          simp only [effect] at changed
          split at changed
          · rename_i same
            exact ⟨p, same⟩
          · cases changed
        | delete p =>
          simp only [effect] at changed
          split at changed
          · rename_i same
            exact ⟨p, same⟩
          · cases changed
      obtain ⟨p, valid, same⟩ := spelled
      rw [← same]
      exact spelling_chars (validPath_chars valid)

theorem maps_spellings (m : EnvSecretManager) (calls : List SecretCall) : MapsSpellings m calls := by
  have named := after_named m calls
  have listed : ∀ pre, validPath pre = true → ∀ path,
      path ∈ (((after m calls).entries.map Prod.fst).filter (under m pre)).map (m.listedPath pre) ↔
        ∃ s, path = pre ++ "/" ++ s ∧ spelling s = s ∧ (held calls path).isSome = true := by
    intro pre valid path
    have hp := validPath_chars valid
    rw [mem_listed named hp]
    constructor
    · rintro ⟨s, rfl, spelled, chars, value, stored⟩
      rw [after_get m calls (joined_valid hp chars)] at stored
      exact ⟨s, rfl, spelled, by rw [stored]; rfl⟩
    · rintro ⟨s, rfl, spelled, some_⟩
      have chars : ∀ c ∈ s.toList, isPathChar c = true := by
        intro c member
        have whole := held_chars some_
        rw [spelling_append, spelled, String.toList_append] at whole
        exact whole c (List.mem_append_right _ member)
      obtain ⟨value, stored⟩ := Option.isSome_iff_exists.mp some_
      refine ⟨s, rfl, spelled, chars, value, ?_⟩
      rw [after_get m calls (joined_valid hp chars), stored]
  constructor
  · intro path valid
    rw [get_run, if_pos valid, after_get m calls valid]
  · intro pre valid
    refine ⟨_, ?_, listed_nodup named (validPath_chars valid), listed pre valid⟩
    rw [list_run, if_pos valid]
  · intro pre paths env run path member
    rw [list_run] at run
    split at run
    · rename_i valid
      cases run
      have hp := validPath_chars valid
      obtain ⟨s, rfl, spelled, chars, value, stored⟩ := (mem_listed named hp path).mp member
      refine ⟨joined_valid hp chars, value, ?_⟩
      rw [get_run, if_pos (joined_valid hp chars), stored]
    · cases run

/-- A tenant's part of the paths. -/
def tenantPath (tenantId : String) : String := "tenants/" ++ tenantId

theorem scopedPath_run (env : Env) (tenantId key : String) :
    (TenantSecretsService.scopedPath tenantId key).run env =
      (if isUuid tenantId = true ∧ validPath (tenantPath tenantId ++ "/" ++ key) = true then
        .ok (tenantPath tenantId ++ "/" ++ key) else .error .zod, env) := by
  unfold TenantSecretsService.scopedPath tenantPath
  by_cases tenant : isUuid tenantId = true
  · by_cases valid : validPath ("tenants/" ++ tenantId ++ "/" ++ key) = true <;>
      simp [Store.run_bind, tenant, valid]
  · simp [Store.run_bind, tenant]

/-- The service reads and writes at the paths of the tenant. -/
theorem scoped_bind {α : Type} (env : Env) (tenantId key : String) (next : String → EnvStore α) :
    (TenantSecretsService.scopedPath tenantId key >>= next).run env =
      if isUuid tenantId = true ∧ validPath (tenantPath tenantId ++ "/" ++ key) = true then
        (next (tenantPath tenantId ++ "/" ++ key)).run env else (.error .zod, env) := by
  rw [Store.run_bind, scopedPath_run]
  by_cases proper : isUuid tenantId = true ∧ validPath (tenantPath tenantId ++ "/" ++ key) = true
  · rw [if_pos proper, if_pos proper]
  · rw [if_neg proper, if_neg proper]

theorem uuid_unspelled {c : Char} (h : c = '-' ∨ isHexDigit c = true) :
    (if separator c = '_' then '-' else separator c) = c := by
  rcases h with rfl | hex
  · decide
  · have slash : c ≠ '/' := by
      rintro rfl
      exact absurd hex (by decide)
    have hyphen : c ≠ '-' := by
      rintro rfl
      exact absurd hex (by decide)
    have score : c ≠ '_' := by
      rintro rfl
      exact absurd hex (by decide)
    simp [separator, slash, hyphen, score]

/-- Uuids that are spelled alike are the same. -/
theorem uuid_spelling {s t : String} (hs : isUuid s = true) (ht : isUuid t = true)
    (same : spelling s = spelling t) : s = t := by
  have back : ∀ s, isUuid s = true →
      (spelling s).toList.map (fun c => if c = '_' then '-' else c) = s.toList := by
    intro s hs
    simp only [spelling, mapChars, String.toList_ofList, List.map_map]
    conv_rhs => rw [← List.map_id s.toList]
    exact List.map_congr_left fun c member => uuid_unspelled (uuid_char hs member)
  rw [← String.toList_inj, ← back s hs, same, back t ht]

theorem uuid_length {s : String} (h : isUuid s = true) : s.toList.length = 36 := by
  simp only [isUuid, Bool.and_eq_true, beq_iff_eq] at h
  exact h.1

/-- No variable of a tenant is under another tenant's part. -/
theorem tenant_apart {s t rest : String} (hs : isUuid s = true) (ht : isUuid t = true)
    (apart : t ≠ s) (sChars : ∀ c ∈ (tenantPath s).toList, isPathChar c = true)
    (tChars : ∀ c ∈ (tenantPath t ++ "/" ++ rest).toList, isPathChar c = true) :
    under m (tenantPath s) (m.toEnvKey (tenantPath t ++ "/" ++ rest)) = false := by
  rw [Bool.eq_false_iff]
  intro below
  obtain ⟨r, rChars, same⟩ := under_joined sChars tChars below
  rw [toEnvKey_inj tChars (joined_chars sChars rChars)] at same
  apply apart
  apply uuid_spelling ht hs
  simp only [tenantPath, spelling_append] at same
  rw [← String.toList_inj] at same ⊢
  simp only [String.toList_append, List.append_assoc, List.append_cancel_left_eq] at same
  refine (List.append_inj same ?_).1
  simp [spelling, mapChars, uuid_length hs, uuid_length ht]

/-- Two environments hold the same variables of a tenant. -/
def SameFor (m : EnvSecretManager) (tenantId : String) (e f : Env) : Prop :=
  e.restrict (under m (tenantPath tenantId)) = f.restrict (under m (tenantPath tenantId))

theorem scoped_chars {tenantId key : String} (valid : validPath (tenantPath tenantId ++ "/" ++ key) = true) :
    (∀ c ∈ (tenantPath tenantId).toList, isPathChar c = true) ∧ ∀ c ∈ key.toList, isPathChar c = true := by
  have chars := validPath_chars valid
  simp only [String.toList_append, List.mem_append] at chars
  exact ⟨fun c member => chars c (.inl (.inl member)), fun c member => chars c (.inr member)⟩

theorem get_scoped (env : Env) (tenantId key : String) :
    (TenantSecretsService.get m tenantId key).run env =
      (if isUuid tenantId = true ∧ validPath (tenantPath tenantId ++ "/" ++ key) = true then
        .ok (env.get (m.toEnvKey (tenantPath tenantId ++ "/" ++ key))) else .error .zod, env) := by
  rw [TenantSecretsService.get, scoped_bind]
  split
  · rename_i proper
    rw [get_run, if_pos proper.2]
  · rfl

theorem put_scoped (env : Env) (now : Instant) (tenantId key value : String) :
    ((TenantSecretsService.put m now tenantId key value).run env).2 =
      if isUuid tenantId = true ∧ validPath (tenantPath tenantId ++ "/" ++ key) = true then
        env.set (m.toEnvKey (tenantPath tenantId ++ "/" ++ key)) value else env := by
  rw [TenantSecretsService.put, scoped_bind]
  split
  · rename_i proper
    rw [put_run, if_pos proper.2]
  · rfl

theorem delete_scoped (env : Env) (tenantId key : String) :
    ((TenantSecretsService.delete m tenantId key).run env).2 =
      if isUuid tenantId = true ∧ validPath (tenantPath tenantId ++ "/" ++ key) = true then
        env.erase (m.toEnvKey (tenantPath tenantId ++ "/" ++ key)) else env := by
  rw [TenantSecretsService.delete, scoped_bind]
  split
  · rename_i proper
    rw [delete_run, if_pos proper.2]
  · rfl

theorem listKeys_scoped (env : Env) (tenantId : String) :
    (TenantSecretsService.listKeys m tenantId).run env =
      (if isUuid tenantId = true ∧ validPath (tenantPath tenantId) = true then
        .ok ((((env.restrict (under m (tenantPath tenantId))).map fun e =>
          m.listedPath (tenantPath tenantId) e.1).map fun p =>
            String.ofList (p.toList.drop (tenantPath tenantId ++ "/").toList.length)).filter (· ≠ ""))
        else .error .zod, env) := by
  have keys : (env.restrict (under m (tenantPath tenantId))).map (fun e =>
      m.listedPath (tenantPath tenantId) e.1) =
        ((env.entries.map Prod.fst).filter (under m (tenantPath tenantId))).map
          (m.listedPath (tenantPath tenantId)) := by
    rw [InsertionMap.restrict, List.filter_map, List.map_map]
    rfl
  rw [keys]
  unfold TenantSecretsService.listKeys
  by_cases tenant : isUuid tenantId = true
  · by_cases valid : validPath (tenantPath tenantId) = true
    · have listed := list_run (m := m) env (tenantPath tenantId)
      rw [if_pos valid] at listed
      unfold tenantPath at valid listed ⊢
      simp only [Store.run_bind, Store.run_require, tenant, valid, listed, if_true, and_self]
      rfl
    · unfold tenantPath at valid ⊢
      simp [Store.run_bind, tenant, valid]
  · simp [Store.run_bind, tenant]

section
variable {tenantId : String} {e f : Env}

theorem own_call (same : SameFor m tenantId e f) {call : TenantCall} (own : call.tenantId = tenantId) :
    SameFor m tenantId (performTenantCall m e call) (performTenantCall m f call) := by
  cases call with
  | get t key =>
    simp only [performTenantCall, get_scoped]
    exact same
  | put now t key value =>
    cases own
    simp only [performTenantCall, put_scoped, TenantCall.tenantId] at same ⊢
    split
    · rename_i proper
      obtain ⟨tenantChars, keyChars⟩ := scoped_chars proper.2
      exact InsertionMap.restrict_set (joined_listed tenantChars keyChars).1 same value
    · exact same
  | delete t key =>
    simp only [performTenantCall, delete_scoped]
    split
    · exact InsertionMap.restrict_erase same
    · exact same
  | listKeys t =>
    simp only [performTenantCall, listKeys_scoped]
    exact same

theorem other_call (env : Env) (tenant : isUuid tenantId = true)
    (chars : ∀ c ∈ (tenantPath tenantId).toList, isPathChar c = true) {call : TenantCall}
    (other : call.tenantId ≠ tenantId) : SameFor m tenantId (performTenantCall m env call) env := by
  cases call with
  | get t key =>
    simp only [performTenantCall, get_scoped]
    rfl
  | put now t key value =>
    simp only [performTenantCall, put_scoped]
    split
    · rename_i proper
      exact InsertionMap.restrict_set_other _
        (tenant_apart tenant proper.1 other chars (validPath_chars proper.2)) value
    · rfl
  | delete t key =>
    simp only [performTenantCall, delete_scoped]
    split
    · rename_i proper
      exact InsertionMap.restrict_erase_other _
        (tenant_apart tenant proper.1 other chars (validPath_chars proper.2))
    · rfl
  | listKeys t =>
    simp only [performTenantCall, listKeys_scoped]
    rfl

/-- The calls of other tenants leave no trace in a tenant's variables. -/
theorem tenants_same (m : EnvSecretManager) (calls : List TenantCall) (tenant : isUuid tenantId = true)
    (chars : ∀ c ∈ (tenantPath tenantId).toList, isPathChar c = true) :
    SameFor m tenantId (afterTenants m calls)
      (afterTenants m (calls.filter (·.tenantId = tenantId))) := by
  induction calls using List.reverseRecOn with
  | nil => rfl
  | append_singleton calls call ih =>
    have next : ∀ calls, afterTenants m (calls ++ [call]) =
        performTenantCall m (afterTenants m calls) call := by
      intro calls
      unfold afterTenants
      rw [runs_append]
      rfl
    rw [next, List.filter_append]
    by_cases own : call.tenantId = tenantId
    · have kept : [call].filter (·.tenantId = tenantId) = [call] := by simp [own]
      rw [kept, next]
      exact own_call ih own
    · have dropped : [call].filter (·.tenantId = tenantId) = [] := by simp [own]
      rw [dropped, List.append_nil]
      exact (other_call _ tenant chars own).trans ih

theorem isolated (m : EnvSecretManager) (calls : List TenantCall) (tenantId : String) :
    Isolated m calls tenantId := by
  constructor
  · intro key
    rw [get_scoped, get_scoped]
    dsimp only
    split
    · rename_i proper
      obtain ⟨tenantChars, keyChars⟩ := scoped_chars proper.2
      have same := tenants_same m calls proper.1 tenantChars
      rw [InsertionMap.get_restrict same (joined_listed tenantChars keyChars).1]
    · rfl
  · rw [listKeys_scoped, listKeys_scoped]
    dsimp only
    split
    · rename_i proper
      rw [tenants_same m calls proper.1 (validPath_chars proper.2)]
    · rfl

end

end

/-- The store maps the spellings of paths to values, and a tenant's reads do not
depend on what other tenants write. -/
theorem secrets_by_spelling (m : EnvSecretManager) :
    (∀ calls, MapsSpellings m calls) ∧ ∀ calls tenantId, Isolated m calls tenantId :=
  ⟨maps_spellings m, isolated m⟩

def asciiCasing : Casing where
  toUpperCase := mapChars Char.toUpper
  toLowerCase := mapChars Char.toLower
  upper_append := by
    intro s t _
    rw [← String.toList_inj]
    simp [mapChars]
  lower_ascii := fun _ _ => rfl

/-- What was put at `a/b` is read at `a-b`, where nothing was put. -/
theorem put_read_elsewhere : ¬ ∀ (m : EnvSecretManager) (calls : List SecretCall) (path : String),
    validPath path = true → (∀ now value, .put now path value ∉ calls) →
      ((m.get path).run (after m calls)).1 = .ok none := by
  intro claim
  have unread := claim { casing := asciiCasing } [.put 0 "a/b" "1"] "a-b" (by decide)
    (by simp)
  have read : ((({ casing := asciiCasing } : EnvSecretManager).get "a-b").run
      (after { casing := asciiCasing } [.put 0 "a/b" "1"])).1 = .ok (some "1") := by decide
  rw [read] at unread
  cases unread

end VantGrowth.Proofs.SecretNames
