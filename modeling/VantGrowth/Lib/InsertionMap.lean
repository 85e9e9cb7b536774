import Mathlib.Data.List.Nodup

namespace VantGrowth.Lib

/-- Keyed entries in insertion order, one entry for each key. Writing a key
again replaces its value in place, as a JavaScript `Map` does. -/
structure InsertionMap (κ ν : Type) where
  entries : List (κ × ν)
  unique : (entries.map Prod.fst).Nodup

namespace InsertionMap

def empty : InsertionMap κ ν := ⟨[], List.nodup_nil⟩

def values (m : InsertionMap κ ν) : List ν := m.entries.map Prod.snd

section
variable [DecidableEq κ]

def get (m : InsertionMap κ ν) (k : κ) : Option ν :=
  (m.entries.find? (fun e => e.1 == k)).map Prod.snd

def place (k : κ) (v : ν) : List (κ × ν) → List (κ × ν)
  | [] => [(k, v)]
  | e :: es => if e.1 = k then (k, v) :: es else e :: place k v es

theorem place_keys (k : κ) (v : ν) (es : List (κ × ν)) :
    (place k v es).map Prod.fst =
      if k ∈ es.map Prod.fst then es.map Prod.fst else es.map Prod.fst ++ [k] := by
  induction es with
  | nil => simp [place]
  | cons e es ih =>
    by_cases he : e.1 = k
    · simp [place, he]
    · have hk : k ≠ e.1 := fun h => he h.symm
      simp only [place, he, ↓reduceIte, List.map_cons, ih, List.mem_cons, hk, false_or]
      split <;> simp

def set (m : InsertionMap κ ν) (k : κ) (v : ν) : InsertionMap κ ν where
  entries := place k v m.entries
  unique := by
    rw [place_keys]
    split
    · exact m.unique
    · rename_i hk
      exact List.nodup_append.mpr ⟨m.unique, List.nodup_singleton k, by
        intro a ha b hb
        rw [List.mem_singleton.mp hb]
        exact fun he => hk (he ▸ ha)⟩

@[simp] theorem get_empty (k : κ) : (empty : InsertionMap κ ν).get k = none := rfl

theorem find_place_self (k : κ) (v : ν) (es : List (κ × ν)) :
    (place k v es).find? (fun e => e.1 == k) = some (k, v) := by
  induction es with
  | nil => simp [place]
  | cons e es ih =>
    by_cases he : e.1 = k
    · simp [place, he]
    · simp [place, he, ih]

theorem find_place_other {j k : κ} (hj : j ≠ k) (v : ν) (es : List (κ × ν)) :
    (place k v es).find? (fun e => e.1 == j) = es.find? (fun e => e.1 == j) := by
  induction es with
  | nil => simp [place, hj.symm]
  | cons e es ih =>
    by_cases he : e.1 = k
    · have hej : e.1 ≠ j := fun h => hj (h.symm.trans he)
      simp [place, he, hj.symm]
    · simp only [place, he, ↓reduceIte, List.find?_cons, ih]

@[simp] theorem get_set_self (m : InsertionMap κ ν) (k : κ) (v : ν) :
    (m.set k v).get k = some v := by
  simp [get, set, find_place_self]

theorem get_set_other (m : InsertionMap κ ν) {j k : κ} (hj : j ≠ k) (v : ν) :
    (m.set k v).get j = m.get j := by
  simp [get, set, find_place_other hj]

theorem get_set (m : InsertionMap κ ν) (j k : κ) (v : ν) :
    (m.set k v).get j = if j = k then some v else m.get j := by
  split
  · rename_i h
    simp [h]
  · rename_i h
    exact m.get_set_other h v

theorem get_eq_some_iff (m : InsertionMap κ ν) (k : κ) (v : ν) :
    m.get k = some v ↔ (k, v) ∈ m.entries := by
  constructor
  · intro h
    obtain ⟨e, he, rfl⟩ := Option.map_eq_some_iff.mp h
    have hk : e.1 = k := by simpa using List.find?_some he
    exact hk ▸ List.mem_of_find?_eq_some he
  · intro h
    cases hf : m.entries.find? (fun e => e.1 == k) with
    | none => simpa using List.find?_eq_none.mp hf (k, v) h
    | some e =>
      have hk : e.1 = k := by simpa using List.find?_some hf
      have he := List.inj_on_of_nodup_map m.unique (List.mem_of_find?_eq_some hf) h hk
      simp [get, hf, he]

/-- The stored values are exactly those some key gives back. -/
theorem mem_values (m : InsertionMap κ ν) (v : ν) : v ∈ m.values ↔ ∃ k, m.get k = some v := by
  simp only [values, List.mem_map, m.get_eq_some_iff]
  constructor
  · rintro ⟨⟨k, w⟩, hm, rfl⟩
    exact ⟨k, hm⟩
  · rintro ⟨k, hm⟩
    exact ⟨(k, v), hm, rfl⟩

theorem place_fresh {k : κ} {es : List (κ × ν)} (hk : k ∉ es.map Prod.fst) (v : ν) :
    place k v es = es ++ [(k, v)] := by
  induction es with
  | nil => rfl
  | cons e es ih =>
    simp only [List.map_cons, List.mem_cons, not_or] at hk
    simp [place, Ne.symm hk.1, ih hk.2]

theorem not_mem_keys {m : InsertionMap κ ν} {k : κ} (h : m.get k = none) :
    k ∉ m.entries.map Prod.fst := by
  intro hk
  obtain ⟨e, he, rfl⟩ := List.mem_map.mp hk
  have hs : m.get e.1 = some e.2 := (m.get_eq_some_iff e.1 e.2).mpr he
  rw [h] at hs
  cases hs

theorem mem_values_set {m : InsertionMap κ ν} {k : κ} {v w : ν} (h : w ∈ (m.set k v).values) :
    w = v ∨ w ∈ m.values := by
  obtain ⟨j, stored⟩ := (mem_values _ _).mp h
  rw [get_set] at stored
  split at stored
  · cases stored
    exact Or.inl rfl
  · exact Or.inr ((mem_values _ _).mpr ⟨j, stored⟩)

/-- Writing a new key appends its value. -/
theorem values_set_fresh {m : InsertionMap κ ν} {k : κ} (h : m.get k = none) (v : ν) :
    (m.set k v).values = m.values ++ [v] := by
  simp [values, set, place_fresh (not_mem_keys h)]

theorem set_set (m : InsertionMap κ ν) (k : κ) (v w : ν) : (m.set k v).set k w = m.set k w := by
  have placed : ∀ es : List (κ × ν), place k w (place k v es) = place k w es := by
    intro es
    induction es with
    | nil => simp [place]
    | cons e es ih =>
      by_cases here : e.1 = k
      · simp [place, here]
      · simp [place, here, ih]
  simp [set, placed]

/-- Writing the value that is there changes nothing. -/
theorem set_same {m : InsertionMap κ ν} {k : κ} {v : ν} (stored : m.get k = some v) : m.set k v = m := by
  have placed : ∀ es : List (κ × ν), (es.find? (fun e => e.1 == k)).map Prod.snd = some v →
      place k v es = es := by
    intro es found
    induction es with
    | nil => simp at found
    | cons e es ih =>
      by_cases here : e.1 = k
      · have value : e.2 = v := by simpa [here] using found
        simp [place, ← here, ← value]
      · simp only [place, here, ↓reduceIte]
        rw [ih (by simpa [here] using found)]
  obtain ⟨entries, unique⟩ := m
  simp [set, placed entries stored]

/-- A key that is there keeps its place whatever else is written. -/
theorem set_comm {m : InsertionMap κ ν} {j k : κ} (apart : j ≠ k) {w : ν} (stored : m.get k = some w)
    (v u : ν) : (m.set j v).set k u = (m.set k u).set j v := by
  have placed : ∀ es : List (κ × ν), k ∈ es.map Prod.fst →
      place k u (place j v es) = place j v (place k u es) := by
    intro es there
    induction es with
    | nil => simp at there
    | cons e es ih =>
      by_cases here : e.1 = k
      · simp [place, here, Ne.symm apart]
      · have later : k ∈ es.map Prod.fst := by simpa [Ne.symm here] using there
        by_cases other : e.1 = j
        · simp [place, other, apart]
        · simp [place, here, other, ih later]
  have there : k ∈ m.entries.map Prod.fst :=
    List.mem_map.mpr ⟨(k, w), (m.get_eq_some_iff k w).mp stored, rfl⟩
  simp [set, placed m.entries there]

/-- Values that tell their keys apart are stored once each. -/
theorem values_nodup {m : InsertionMap κ ν} {f : ν → κ}
    (named : ∀ k v, m.get k = some v → f v = k) : m.values.Nodup := by
  have keys : m.values.map f = m.entries.map Prod.fst := by
    rw [values, List.map_map]
    refine List.map_congr_left fun e he => ?_
    exact named e.1 e.2 ((m.get_eq_some_iff e.1 e.2).mpr he)
  exact List.Nodup.of_map f (keys ▸ m.unique)

/-- The values that pass are counted by the keys. -/
theorem countP_values (m : InsertionMap κ ν) (p : ν → Bool) {keys : List κ} (once : keys.Nodup)
    (all : ∀ k, k ∈ keys ↔ (m.get k).isSome = true) :
    m.values.countP p = keys.countP fun k => (m.get k).any p := by
  have found : ∀ e ∈ m.entries, m.get e.1 = some e.2 := fun e there =>
    (m.get_eq_some_iff e.1 e.2).mpr there
  have same : keys.Perm (m.entries.map Prod.fst) := by
    apply (List.perm_ext_iff_of_nodup once m.unique).mpr
    intro k
    rw [all, Option.isSome_iff_exists]
    simp [m.get_eq_some_iff]
  rw [same.countP_eq, values, List.countP_map, List.countP_map]
  apply List.countP_congr
  intro e there
  simp [found e there]

/-- Writing a key that is there changes its value in place. -/
theorem values_set_stored {m : InsertionMap κ ν} {f : ν → κ}
    (named : ∀ k v, m.get k = some v → f v = k) {k : κ} {w : ν} (stored : m.get k = some w) (v : ν) :
    (m.set k v).values = m.values.map fun u => if f u = k then v else u := by
  have placed : ∀ es : List (κ × ν), (∀ e ∈ es, f e.2 = e.1) → (es.map Prod.fst).Nodup →
      k ∈ es.map Prod.fst →
        (place k v es).map Prod.snd = (es.map Prod.snd).map fun u => if f u = k then v else u := by
    intro es told once there
    induction es with
    | nil => simp at there
    | cons e es ih =>
      have key := told e List.mem_cons_self
      simp only [List.map_cons, List.nodup_cons] at once
      by_cases here : e.1 = k
      · have others : es.map Prod.snd = (es.map Prod.snd).map fun u => if f u = k then v else u := by
          conv_lhs => rw [← List.map_id (es.map Prod.snd)]
          apply List.map_congr_left
          intro u member
          obtain ⟨d, inside, rfl⟩ := List.mem_map.mp member
          have apart : f d.2 ≠ k := by
            rw [told d (List.mem_cons_of_mem _ inside), ← here]
            intro same
            exact once.1 (List.mem_map.mpr ⟨d, inside, same⟩)
          simp [apart]
        simp [place, here, key, ← others]
      · have later : k ∈ es.map Prod.fst := by
          simpa [Ne.symm here] using there
        have rest := ih (fun d inside => told d (List.mem_cons_of_mem _ inside)) once.2 later
        simp [place, here, key, rest]
  apply placed m.entries _ m.unique
  · exact List.mem_map.mpr ⟨(k, w), (m.get_eq_some_iff k w).mp stored, rfl⟩
  · intro e member
    exact named e.1 e.2 ((m.get_eq_some_iff e.1 e.2).mpr member)

end

/-- The same keys with what `f` makes of their values. -/
def map (f : ν → μ) (m : InsertionMap κ ν) : InsertionMap κ μ where
  entries := m.entries.map fun e => (e.1, f e.2)
  unique := by
    rw [List.map_map]
    exact m.unique

theorem values_map (f : ν → μ) (m : InsertionMap κ ν) : (m.map f).values = m.values.map f := by
  simp [values, map]

section
variable [DecidableEq ι] [DecidableEq κ] {index : InsertionMap ι κ} {table : InsertionMap κ ν}
  {keyOf : ν → ι}

/-- The index gives for a key the entry of the table whose value has that key. -/
def Indexes (index : InsertionMap ι κ) (table : InsertionMap κ ν) (keyOf : ν → ι) : Prop :=
  ∀ i k, index.get i = some k ↔ ∃ v, table.get k = some v ∧ keyOf v = i

theorem Indexes.empty : Indexes (empty : InsertionMap ι κ) (empty : InsertionMap κ ν) keyOf := by
  intro i k
  simp

/-- An index only sees which key gives a value of which key. -/
theorem Indexes.congr (h : Indexes index table keyOf) {other : InsertionMap κ ν}
    (same : ∀ k, (other.get k).map keyOf = (table.get k).map keyOf) : Indexes index other keyOf := by
  intro i k
  rw [h i k, ← Option.map_eq_some_iff, ← Option.map_eq_some_iff, same]

/-- Going through the index finds what a search of the table finds. -/
theorem Indexes.get (h : Indexes index table keyOf) (i : ι) :
    (index.get i).bind table.get = table.values.find? (keyOf · == i) := by
  cases found : table.values.find? (keyOf · == i) with
  | none =>
    refine Option.bind_eq_none_iff.mpr fun k known => ?_
    obtain ⟨v, stored, key⟩ := (h i k).mp known
    exact absurd key (by
      simpa using List.find?_eq_none.mp found v ((table.mem_values v).mpr ⟨k, stored⟩))
  | some v =>
    obtain ⟨k, stored⟩ := (table.mem_values v).mp (List.mem_of_find?_eq_some found)
    have key : keyOf v = i := by simpa using List.find?_some found
    rw [(h i k).mpr ⟨v, stored, key⟩]
    exact stored

/-- A key that no value has is free. -/
theorem Indexes.free (h : Indexes index table keyOf) {i : ι}
    (unknown : (index.get i).bind table.get = none) : index.get i = none := by
  cases known : index.get i with
  | none => rfl
  | some k =>
    obtain ⟨v, stored, _⟩ := (h i k).mp known
    rw [known] at unknown
    cases stored.symm.trans unknown

theorem Indexes.insert (h : Indexes index table keyOf) {k : κ} {v : ν} (fresh : table.get k = none)
    (free : index.get (keyOf v) = none) :
    Indexes (index.set (keyOf v) k) (table.set k v) keyOf := by
  intro i j
  simp only [get_set]
  by_cases mine : i = keyOf v
  · subst mine
    simp only [↓reduceIte, Option.some.injEq]
    constructor
    · rintro rfl
      exact ⟨v, by simp⟩
    · rintro ⟨w, stored, key⟩
      by_cases same : j = k
      · exact same.symm
      · rw [if_neg same] at stored
        rw [(h _ j).mpr ⟨w, stored, key⟩] at free
        cases free
  · simp only [mine, ↓reduceIte, h i j]
    by_cases same : j = k
    · subst same
      simp [fresh, Ne.symm mine]
    · simp [same]

/-- A row may change as long as it keeps its key. -/
theorem Indexes.update (h : Indexes index table keyOf) {k : κ} {v w : ν}
    (stored : table.get k = some v) (same : keyOf w = keyOf v) :
    Indexes index (table.set k w) keyOf := by
  intro i j
  rw [h i j]
  simp only [get_set]
  by_cases here : j = k
  · subst here
    simp [stored, same]
  · simp [here]

end

end InsertionMap

/-- The one element of a list without repetition that passes. -/
theorem filter_only {l : List α} (nodup : l.Nodup) {p : α → Bool} {v : α} (member : v ∈ l)
    (holds : p v = true) (only : ∀ u ∈ l, p u = true → u = v) : l.filter p = [v] := by
  have once := nodup.filter p
  have all : ∀ u ∈ l.filter p, u = v := by
    intro u hu
    obtain ⟨hl, hp⟩ := List.mem_filter.mp hu
    exact only u hl hp
  have some_ : v ∈ l.filter p := List.mem_filter.mpr ⟨member, holds⟩
  generalize l.filter p = m at once all some_
  cases m with
  | nil => cases some_
  | cons u m =>
    obtain rfl := all u List.mem_cons_self
    cases m with
    | nil => rfl
    | cons w m =>
      obtain rfl := all w (List.mem_cons_of_mem _ List.mem_cons_self)
      exact absurd List.mem_cons_self (List.nodup_cons.mp once).1

end VantGrowth.Lib
