import Mathlib.Data.List.TakeDrop
import Mathlib.Data.List.Sort
import Mathlib.Data.List.Pairwise
import VantGrowth.Lib.Faults

namespace VantGrowth.Lib

/-- A connection to a database: what is committed, and within a transaction
block what only this connection sees. -/
structure Connection (δ : Type) where
  committed : δ
  working : Option δ

namespace Connection

variable {δ ε α β : Type}

/-- Outside a transaction block every query is a transaction of its own. -/
def query (q : δ → Except ε (α × δ)) : Store ε (Connection δ) α :=
  ⟨fun c =>
    match c.working with
    | none =>
      match q c.committed with
      | .ok (a, d) => (.ok a, { c with committed := d })
      | .error e => (.error e, c)
    | some w =>
      match q w with
      | .ok (a, d) => (.ok a, { c with working := some d })
      | .error e => (.error e, c)⟩

def begin : Store ε (Connection δ) Unit := Store.modify fun c => { c with working := some c.committed }

def commit : Store ε (Connection δ) Unit :=
  Store.modify fun c => ⟨c.working.getD c.committed, none⟩

def rollback : Store ε (Connection δ) Unit := Store.modify fun c => { c with working := none }

section
variable (lost : Fault → ε)

/-- `BEGIN`, a body, and `COMMIT`, with a `ROLLBACK` where one of the last two
throws; every statement may be lost on its way. -/
def transaction (body : Store ε (Faulty (Connection δ)) α) : Store ε (Faulty (Connection δ)) α := do
  begin.faulty lost
  Store.tryCatch
    (do
      let a ← body
      commit.faulty lost
      return a)
    fun e => do
      rollback.faulty lost
      Store.throw e

end

/-- Within a block the body leaves what is committed alone, and returns only
after going along `S` on its own copy. -/
def Inside (S : δ → δ → Prop) (m : Store ε (Faulty (Connection δ)) α) : Prop :=
  ∀ c w, c.state.working = some w → m.Ends c fun x c' =>
    c'.state.committed = c.state.committed ∧
      ∀ a, x = .ok a → ∃ w', c'.state.working = some w' ∧ S w w'

section
variable {S T : δ → δ → Prop} {lost : Fault → ε} {c : Faulty (Connection δ)}

theorem Inside.query {q : δ → Except ε (α × δ)} (step : ∀ w a w', q w = .ok (a, w') → S w w') :
    Inside S ((query q).faulty lost) := by
  intro c w inside
  have kept : (Connection.query q).Ends c.state fun x c' => c'.committed = c.state.committed ∧
      ∀ a, x = .ok a → ∃ w', c'.working = some w' ∧ S w w' := by
    unfold Store.Ends Connection.query
    simp only [inside]
    cases answer : q w with
    | error e => exact ⟨rfl, nofun⟩
    | ok r => exact ⟨rfl, fun _ _ => ⟨r.2, rfl, step w r.1 r.2 answer⟩⟩
  refine Store.Ends.faulty kept ?_ ?_ ?_
  · exact fun _ _ _ done => done
  · exact fun _ _ => ⟨rfl, nofun⟩
  · exact fun _ _ _ _ done => ⟨done.1, nofun⟩

theorem Inside.bind {m : Store ε (Faulty (Connection δ)) α} {f : α → Store ε (Faulty (Connection δ)) β}
    (first : Inside S m) (next : ∀ a, Inside T (f a)) :
    Inside (fun w w' => ∃ v, S w v ∧ T v w') (m >>= f) := by
  intro c w inside
  apply Store.Ends.bind (first c w inside)
  · rintro e c' ⟨kept, _⟩
    exact ⟨kept, nofun⟩
  · rintro a c' ⟨kept, went⟩
    obtain ⟨v, here, step⟩ := went a rfl
    refine (next a c' v here).weaken ?_
    rintro x c'' ⟨kept', went'⟩
    refine ⟨kept'.trans kept, fun b returned => ?_⟩
    obtain ⟨w', there, step'⟩ := went' b returned
    exact ⟨w', there, v, step, step'⟩

theorem Inside.pure (a : α) : Inside Eq (Pure.pure a : Store ε (Faulty (Connection δ)) α) := by
  intro c w inside
  exact ⟨rfl, fun _ _ => ⟨w, inside, rfl⟩⟩

theorem Inside.weaken {m : Store ε (Faulty (Connection δ)) α} (inside : Inside S m)
    (sub : ∀ w w', S w w' → T w w') : Inside T m := by
  intro c w here
  refine (inside c w here).weaken ?_
  rintro x c' ⟨kept, went⟩
  refine ⟨kept, fun a returned => ?_⟩
  obtain ⟨w', there, step⟩ := went a returned
  exact ⟨w', there, sub w w' step⟩

/-- A query on its own takes its effect or none, and shows what it answers. -/
theorem query_ends {q : δ → Except ε (α × δ)} (alone : c.state.working = none) :
    ((query q).faulty lost).Ends c fun x c' => c'.state.working = none ∧
      (c'.state.committed = c.state.committed ∨ ∃ a, q c.state.committed = .ok (a, c'.state.committed)) ∧
      ∀ a, x = .ok a → q c.state.committed = .ok (a, c'.state.committed) := by
  have asked : (query q).Ends c.state fun x d => d.working = none ∧
      (d.committed = c.state.committed ∨ ∃ a, q c.state.committed = .ok (a, d.committed)) ∧
      ∀ a, x = .ok a → q c.state.committed = .ok (a, d.committed) := by
    unfold Store.Ends query
    simp only [alone]
    cases answer : q c.state.committed with
    | error e => exact ⟨alone, Or.inl rfl, nofun⟩
    | ok r =>
      refine ⟨rfl, Or.inr ⟨r.1, rfl⟩, ?_⟩
      rintro a ⟨⟩
      rfl
  refine Store.Ends.faulty asked ?_ ?_ ?_
  · exact fun _ _ _ done => done
  · exact fun _ _ => ⟨alone, Or.inl rfl, nofun⟩
  · exact fun _ _ _ _ done => ⟨done.1, done.2.1, nofun⟩

/-- A statement of the block that leaves what is committed alone. -/
theorem faulty_kept {m : Store ε (Connection δ) α} (kept : ∀ d, ((m.run d).2).committed = d.committed) :
    (m.faulty lost).Ends c fun _ c' => c'.state.committed = c.state.committed := by
  have alone : m.Ends c.state fun _ d => d.committed = c.state.committed := kept c.state
  refine Store.Ends.faulty alone ?_ ?_ ?_
  · exact fun _ _ _ same => same
  · exact fun _ _ => rfl
  · exact fun _ _ _ _ same => same

theorem begin_ends : ((begin : Store ε (Connection δ) Unit).faulty lost).Ends c fun x c' =>
    c'.state.committed = c.state.committed ∧ ∀ a, x = .ok a → c'.state.working = some c.state.committed := by
  have begun : (begin : Store ε (Connection δ) Unit).Ends c.state fun _ d =>
      d.committed = c.state.committed ∧ d.working = some c.state.committed := ⟨rfl, rfl⟩
  refine Store.Ends.faulty begun ?_ ?_ ?_
  · exact fun _ _ _ done => ⟨done.1, fun _ _ => done.2⟩
  · exact fun _ _ => ⟨rfl, nofun⟩
  · exact fun _ _ _ _ done => ⟨done.1, nofun⟩

theorem commit_ends {w : δ} (inside : c.state.working = some w) :
    ((commit : Store ε (Connection δ) Unit).faulty lost).Ends c fun x c' =>
      (c'.state.committed = c.state.committed ∨ c'.state.committed = w) ∧
        ∀ a, x = .ok a → c'.state.committed = w ∧ c'.state.working = none := by
  have committed : (commit : Store ε (Connection δ) Unit).Ends c.state fun _ d =>
      d.committed = w ∧ d.working = none := by
    refine ⟨?_, rfl⟩
    show c.state.working.getD c.state.committed = w
    rw [inside]
    rfl
  refine Store.Ends.faulty committed ?_ ?_ ?_
  · exact fun _ _ _ done => ⟨Or.inr done.1, fun _ _ => done⟩
  · exact fun _ _ => ⟨Or.inl rfl, nofun⟩
  · exact fun _ _ _ _ done => ⟨Or.inr done.1, nofun⟩

/-- Whatever is lost on the way, a transaction commits all of its body or
nothing, and it returns only after it has committed. -/
theorem transaction_ends {body : Store ε (Faulty (Connection δ)) α} (inside : Inside S body) :
    (transaction lost body).Ends c fun x c' =>
      (c'.state.committed = c.state.committed ∨ S c.state.committed c'.state.committed) ∧
        ∀ a, x = .ok a → S c.state.committed c'.state.committed ∧ c'.state.working = none := by
  apply Store.Ends.bind begin_ends
  · rintro e c' ⟨kept, _⟩
    exact ⟨Or.inl kept, nofun⟩
  · rintro _ c' ⟨kept, opened⟩
    have here := opened () rfl
    rw [← kept] at here ⊢
    have tried : (do
        let a ← body
        commit.faulty lost
        return a : Store ε (Faulty (Connection δ)) α).Ends c' fun x d =>
          (d.state.committed = c'.state.committed ∨ S c'.state.committed d.state.committed) ∧
            ∀ a, x = .ok a → S c'.state.committed d.state.committed ∧ d.state.working = none := by
      apply Store.Ends.bind (inside c' _ here)
      · rintro e d ⟨same, _⟩
        exact ⟨Or.inl same, nofun⟩
      · rintro a d ⟨same, went⟩
        obtain ⟨w, copy, step⟩ := went a rfl
        apply Store.Ends.bind (commit_ends copy)
        · rintro e d' ⟨same' | rfl, _⟩
          · exact ⟨Or.inl (same'.trans same), nofun⟩
          · exact ⟨Or.inr step, nofun⟩
        · rintro _ d' ⟨_, done⟩
          obtain ⟨rfl, closed⟩ := done () rfl
          exact Store.Ends.pure ⟨Or.inr step, fun _ _ => ⟨step, closed⟩⟩
    apply Store.Ends.tryCatch tried
    · exact fun _ _ done => done
    · rintro e d ⟨either, _⟩
      apply Store.Ends.bind (faulty_kept fun _ => rfl)
      · intro e' d' same
        rw [same]
        exact ⟨either, nofun⟩
      · intro _ d' same
        rw [← same] at either
        exact Store.Ends.throw ⟨either, nofun⟩

end

end Connection

end VantGrowth.Lib

namespace VantGrowth.Lib

variable {α σ : Type} {step : α → σ → σ → Prop} {idle : σ → σ → Prop}

/-- From the first state to the second by these steps, each whole and in this
order, with idle moves in between. -/
inductive Through (step : α → σ → σ → Prop) (idle : σ → σ → Prop) (s : σ) : List α → σ → Prop where
  | start : Through step idle s [] s
  | idle {xs t u} (before : Through step idle s xs t) (move : idle t u) : Through step idle s xs u
  | step {xs x t u} (before : Through step idle s xs t) (move : step x t u) :
      Through step idle s (xs ++ [x]) u

section
variable {key : α → Nat} {all ys : List α}

/-- The greatest of the keys, nought where there is none. -/
def lastKey (keys : List Nat) : Nat := keys.max?.getD 0

theorem le_lastKey {keys : List Nat} {n : Nat} (member : n ∈ keys) : n ≤ lastKey keys := by
  cases greatest : keys.max? with
  | none =>
    rw [List.max?_eq_none_iff.mp greatest] at member
    cases member
  | some m =>
    rw [lastKey, greatest]
    exact (List.max?_eq_some_iff.mp greatest).2 n member

theorem lastKey_mem (keys : List Nat) : lastKey keys = 0 ∨ lastKey keys ∈ keys := by
  cases greatest : keys.max? with
  | none => exact Or.inl (by rw [lastKey, greatest]; rfl)
  | some m =>
    rw [lastKey, greatest]
    exact Or.inr (List.max?_mem greatest)

/-- What has a greater key than a beginning of the list is the rest of it. -/
theorem pending_eq_drop (increasing : all.Pairwise fun a b => key a < key b)
    (positive : ∀ a ∈ all, 0 < key a) (part : ys <+: all) (k : Nat) :
    ys.filter (fun a => decide (lastKey ((all.take k).map key) < key a)) = ys.drop k := by
  have done : ∀ a ∈ all.take k, ¬ lastKey ((all.take k).map key) < key a := fun a member =>
    Nat.not_lt.mpr (le_lastKey (List.mem_map_of_mem member))
  have due : ∀ a ∈ all.drop k, lastKey ((all.take k).map key) < key a := by
    intro a member
    rcases lastKey_mem ((all.take k).map key) with none_ | last
    · rw [none_]
      exact positive a (List.mem_of_mem_drop member)
    · obtain ⟨b, before, same⟩ := List.mem_map.mp last
      rw [← same]
      rw [← List.take_append_drop k all] at increasing
      exact (List.pairwise_append.mp increasing).2.2 b before a member
  obtain ⟨zs, rfl⟩ := part
  have early : (ys.take k).filter (fun a => decide (lastKey (((ys ++ zs).take k).map key) < key a)) = [] := by
    refine List.filter_eq_nil_iff.mpr fun a member => ?_
    rw [decide_eq_true_eq]
    exact done a (by rw [List.take_append]; exact List.mem_append_left _ member)
  have late : (ys.drop k).filter (fun a => decide (lastKey (((ys ++ zs).take k).map key) < key a)) =
      ys.drop k := by
    refine List.filter_eq_self.mpr fun a member => ?_
    rw [decide_eq_true_eq]
    exact due a (by rw [List.drop_append]; exact List.mem_append_left _ member)
  have parts := congrArg (List.filter fun a => decide (lastKey (((ys ++ zs).take k).map key) < key a))
    (List.take_append_drop k ys)
  rw [← parts, List.filter_append, early, late, List.nil_append]

end

end VantGrowth.Lib
