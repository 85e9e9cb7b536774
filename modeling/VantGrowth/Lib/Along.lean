import Mathlib.Order.Defs.Unbundled
import VantGrowth.Lib.Faults

namespace VantGrowth.Lib.Store

/-- Wherever it starts and however it ends, the computation goes along `R`. -/
def Along (R : σ → σ → Prop) (m : Store ε σ α) : Prop := ∀ s, m.Ends s fun _ t => R s t

/-- It goes along `R`, and what it answers has `P`. -/
def Giving (R : σ → σ → Prop) (P : α → Prop) (m : Store ε σ α) : Prop :=
  ∀ s, m.Ends s fun x t => R s t ∧ ∀ a, x = .ok a → P a

namespace Along

section
variable {R : σ → σ → Prop} [IsPreorder σ R] {m : Store ε σ α}

theorem pure (a : α) : Along R (Pure.pure a : Store ε σ α) := fun s => Ends.pure (refl s)

theorem throw (e : ε) : Along R (Store.throw e : Store ε σ α) := fun s => Ends.throw (refl s)

theorem read (f : σ → α) : Along R (Store.read f : Store ε σ α) := fun s => Ends.read f (refl s)

theorem bind {f : α → Store ε σ β} (first : Along R m) (next : ∀ a, Along R (f a)) :
    Along R (m >>= f) := by
  intro s
  apply Ends.bind (first s)
  · intro e t kept
    exact kept
  · intro a t kept
    exact (next a t).weaken fun _ _ later => IsTrans.trans _ _ _ kept later

/-- As `bind`, where what is answered has `P`. -/
theorem bind_giving {P : α → Prop} {f : α → Store ε σ β} (first : Giving R P m)
    (next : ∀ a, P a → Along R (f a)) : Along R (m >>= f) := by
  intro s
  apply Ends.bind (first s)
  · intro e t given
    exact given.1
  · intro a t given
    exact (next a (given.2 a rfl) t).weaken fun _ _ later => IsTrans.trans _ _ _ given.1 later

theorem mapM {f : β → Store ε σ α} {l : List β} (each : ∀ b ∈ l, Along R (f b)) : Along R (l.mapM f) := by
  have := lawful (ε := ε) (σ := σ)
  induction l with
  | nil =>
    rw [List.mapM_nil]
    exact pure []
  | cons b l ih =>
    rw [List.mapM_cons]
    refine bind (each b List.mem_cons_self) fun a => bind (ih fun c member => ?_) fun _ => pure _
    exact each c (List.mem_cons_of_mem b member)

theorem require (p : Prop) [Decidable p] (e : ε) : Along R (Store.require p e : Store ε σ Unit) := by
  intro s
  have checked : (Store.require p e >>= Pure.pure : Store ε σ Unit).Ends s fun _ t => R s t :=
    Ends.require_bind (fun _ => refl s) fun _ => Ends.pure (refl s)
  have := lawful (ε := ε) (σ := σ)
  rwa [bind_pure] at checked

theorem transaction (body : Along R m) : Along R (Store.transaction m) :=
  fun s => Ends.transaction (body s) (fun _ _ kept => kept) fun _ _ _ => refl s

/-- A call that may be lost takes its effect or none. -/
theorem faulty {lost : Fault → ε} (whole : Along R m) :
    Along (fun s t : Faulty σ => R s.state t.state) (m.faulty lost) :=
  fun s => Ends.faulty (whole s.state) (fun _ _ _ kept => kept) (fun _ _ => refl s.state)
    fun _ _ _ _ kept => kept

end

section
variable {R : σ → σ → Prop} {m : Store ε σ α}

theorem ite {p : Prop} [Decidable p] {n : Store ε σ α} (yes : Along R m) (no : Along R n) :
    Along R (if p then m else n) :=
  fun s => Ends.ite (fun _ => yes s) fun _ => no s

theorem modify {f : σ → σ} (step : ∀ s, R s (f s)) : Along R (Store.modify f : Store ε σ Unit) := step

theorem mapError {f : ε → ε'} (whole : Along R m) : Along R (m.mapError f) :=
  fun s => Ends.mapError (whole s) fun _ _ kept => kept

theorem sound (whole : Along R m) :
    Along (fun s t : Faulty σ => R s.state t.state) (Store.sound m) :=
  fun s => Ends.sound (whole s.state) fun _ _ kept => kept

theorem zoom {S : τ → τ → Prop} {get : τ → σ} {put : τ → σ → τ} (whole : Along R m)
    (lift : ∀ s t, R (get s) t → S s (put s t)) : Along S (Store.zoom get put m) :=
  fun s => Ends.zoom (whole (get s)) fun _ t kept => lift s t kept

end

end Along

namespace Giving
variable {R : σ → σ → Prop} {P : α → Prop} {Q : β → Prop} {m : Store ε σ α}

theorem weaken {P' : α → Prop} (given : Giving R P m) (imp : ∀ a, P a → P' a) : Giving R P' m :=
  fun s => (given s).weaken fun _ _ ended => ⟨ended.1, fun a done => imp a (ended.2 a done)⟩

theorem of_along (along : Along R m) : Giving R (fun _ => True) m :=
  fun s => (along s).weaken fun _ _ kept => ⟨kept, fun _ _ => trivial⟩

variable [IsPreorder σ R]

theorem pure {a : α} (h : P a) : Giving R P (Pure.pure a : Store ε σ α) := by
  intro s
  refine Ends.pure ⟨refl s, fun b same => ?_⟩
  cases same
  exact h

theorem bind {f : α → Store ε σ β} (first : Giving R P m) (next : ∀ a, P a → Giving R Q (f a)) :
    Giving R Q (m >>= f) := by
  intro s
  apply Ends.bind (first s)
  · intro e t given
    exact ⟨given.1, fun _ thrown => by cases thrown⟩
  · intro a t given
    exact (next a (given.2 a rfl) t).weaken fun _ _ later =>
      ⟨IsTrans.trans _ _ _ given.1 later.1, later.2⟩

end Giving

end VantGrowth.Lib.Store
