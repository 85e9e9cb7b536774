import Mathlib.Data.List.Forall2

namespace VantGrowth.Lib

/-- A computation that mutates a store and may throw. A throw keeps what was
written before it: nothing is rolled back. -/
structure Store (ε σ α : Type) where
  run : σ → Except ε α × σ

namespace Store

instance : Monad (Store ε σ) where
  pure a := ⟨fun s => (.ok a, s)⟩
  bind m f := ⟨fun s =>
    match m.run s with
    | (.ok a, t) => (f a).run t
    | (.error e, t) => (.error e, t)⟩

def throw (e : ε) : Store ε σ α := ⟨fun s => (.error e, s)⟩

def read (f : σ → α) : Store ε σ α := ⟨fun s => (.ok (f s), s)⟩

def modify (f : σ → σ) : Store ε σ Unit := ⟨fun s => (.ok (), f s)⟩

/-- Throws `e` unless `p` holds. -/
def require (p : Prop) [Decidable p] (e : ε) : Store ε σ Unit :=
  if p then pure () else throw e

/-- Runs `handler` on what `m` threw, in the store `m` left. -/
def tryCatch (m : Store ε σ α) (handler : ε → Store ε σ α) : Store ε σ α :=
  ⟨fun s =>
    match m.run s with
    | (.ok a, t) => (.ok a, t)
    | (.error e, t) => (handler e).run t⟩

/-- The outcome of a computation that runs inside a `try`. -/
def attempt (m : Store ε σ α) : Store ε' σ (Except ε α) := ⟨fun s => (.ok (m.run s).1, (m.run s).2)⟩

/-- All or nothing: a throw leaves the store as it was. -/
def transaction (m : Store ε σ α) : Store ε σ α :=
  ⟨fun s =>
    match m.run s with
    | (.ok a, t) => (.ok a, t)
    | (.error e, _) => (.error e, s)⟩

/-- Runs a computation on one component of the store. -/
def zoom (get : σ → τ) (put : σ → τ → σ) (m : Store ε τ α) : Store ε σ α :=
  ⟨fun s => ((m.run (get s)).1, put s (m.run (get s)).2)⟩

@[simp] theorem run_pure (a : α) (s : σ) : (pure a : Store ε σ α).run s = (.ok a, s) := rfl

@[simp] theorem run_throw (e : ε) (s : σ) : (throw e : Store ε σ α).run s = (.error e, s) := rfl

@[simp] theorem run_read (f : σ → α) (s : σ) :
    (read f : Store ε σ α).run s = (.ok (f s), s) := rfl

@[simp] theorem run_modify (f : σ → σ) (s : σ) :
    (modify f : Store ε σ Unit).run s = (.ok (), f s) := rfl

theorem run_bind (m : Store ε σ α) (f : α → Store ε σ β) (s : σ) :
    (m >>= f).run s = match m.run s with
      | (.ok a, t) => (f a).run t
      | (.error e, t) => (.error e, t) := rfl

theorem bind_assoc (m : Store ε σ α) (f : α → Store ε σ β) (g : β → Store ε σ γ) :
    m >>= f >>= g = m >>= fun a => f a >>= g := by
  refine congrArg Store.mk (funext fun s => ?_)
  show (m >>= f >>= g).run s = (m >>= fun a => f a >>= g).run s
  simp only [run_bind]
  rcases m.run s with ⟨x, t⟩
  cases x <;> rfl

theorem run_ext {m n : Store ε σ α} (h : ∀ s, m.run s = n.run s) : m = n :=
  congrArg Store.mk (funext h)

theorem lawful : LawfulMonad (Store ε σ) :=
  LawfulMonad.mk' _
    (fun m => run_ext fun s => by
      show (m >>= fun a => pure a).run s = m.run s
      rw [run_bind]
      rcases m.run s with ⟨x, t⟩
      cases x <;> rfl)
    (fun _ _ => rfl) bind_assoc

@[simp] theorem run_ite (p : Prop) [Decidable p] (m n : Store ε σ α) (s : σ) :
    (if p then m else n).run s = if p then m.run s else n.run s := by
  split <;> rfl

@[simp] theorem run_require (p : Prop) [Decidable p] (e : ε) (s : σ) :
    (require p e : Store ε σ Unit).run s = if p then (.ok (), s) else (.error e, s) := by
  simp [require]

/-- Started in `s`, the computation ends with a result and a store that `Q`
admits. -/
def Ends (m : Store ε σ α) (s : σ) (Q : Except ε α → σ → Prop) : Prop :=
  Q (m.run s).1 (m.run s).2

namespace Ends

theorem pure {Q : Except ε α → σ → Prop} (h : Q (.ok a) s) :
    (Pure.pure a : Store ε σ α).Ends s Q := h

theorem throw {Q : Except ε α → σ → Prop} (h : Q (.error e) s) :
    (Store.throw e : Store ε σ α).Ends s Q := h

theorem throw_bind {f : α → Store ε σ β} {Q : Except ε β → σ → Prop} (h : Q (.error e) s) :
    (Store.throw e >>= f).Ends s Q := h

theorem pure_bind {f : α → Store ε σ β} {Q : Except ε β → σ → Prop} (h : (f a).Ends s Q) :
    (Pure.pure a >>= f).Ends s Q := h

theorem bind {m : Store ε σ α} {f : α → Store ε σ β} {R : Except ε α → σ → Prop}
    {Q : Except ε β → σ → Prop} (first : m.Ends s R)
    (thrown : ∀ e t, R (.error e) t → Q (.error e) t)
    (next : ∀ a t, R (.ok a) t → (f a).Ends t Q) : (m >>= f).Ends s Q := by
  unfold Ends at first ⊢
  rw [run_bind]
  rcases hm : m.run s with ⟨x, t⟩
  rw [hm] at first
  cases x with
  | error e => exact thrown e t first
  | ok a => exact next a t first

theorem weaken {m : Store ε σ α} {R Q : Except ε α → σ → Prop} (h : m.Ends s R)
    (sub : ∀ x t, R x t → Q x t) : m.Ends s Q := sub _ _ h

theorem read {Q : Except ε α → σ → Prop} (f : σ → α) (h : Q (.ok (f s)) s) :
    (Store.read f : Store ε σ α).Ends s Q := h

theorem read_bind {Q : Except ε β → σ → Prop} {f : σ → α} {g : α → Store ε σ β}
    (h : (g (f s)).Ends s Q) : (Store.read f >>= g).Ends s Q := h

theorem modify_bind {Q : Except ε β → σ → Prop} {f : σ → σ} {g : Unit → Store ε σ β}
    (h : (g ()).Ends (f s) Q) : (Store.modify f >>= g).Ends s Q := h

/-- A check that fails ends the computation with the store as it was. -/
theorem require_bind {p : Prop} [Decidable p] {g : Unit → Store ε σ β}
    {Q : Except ε β → σ → Prop} (refused : ¬ p → Q (.error e) s)
    (passed : p → (g ()).Ends s Q) : (require p e >>= g).Ends s Q := by
  by_cases hp : p
  · have hr : require p e >>= g = (Pure.pure () : Store ε σ Unit) >>= g := by simp [require, hp]
    rw [hr]
    exact passed hp
  · have hr : require p e >>= g = (Store.throw e : Store ε σ Unit) >>= g := by simp [require, hp]
    rw [hr]
    exact refused hp

theorem ite {p : Prop} [Decidable p] {m n : Store ε σ α} {Q : Except ε α → σ → Prop}
    (yes : p → m.Ends s Q) (no : ¬ p → n.Ends s Q) : (if p then m else n).Ends s Q := by
  split
  · exact yes ‹_›
  · exact no ‹_›

theorem tryCatch {m : Store ε σ α} {handler : ε → Store ε σ α} {R Q : Except ε α → σ → Prop}
    (first : m.Ends s R) (returned : ∀ a t, R (.ok a) t → Q (.ok a) t)
    (thrown : ∀ e t, R (.error e) t → (handler e).Ends t Q) :
    (Store.tryCatch m handler).Ends s Q := by
  unfold Ends Store.tryCatch at *
  rcases hm : m.run s with ⟨x, t⟩
  rw [hm] at first
  cases x with
  | error e => simpa only [hm] using thrown e t first
  | ok a => simpa only [hm] using returned a t first

theorem attempt {m : Store ε σ α} {R : Except ε α → σ → Prop}
    {Q : Except ε' (Except ε α) → σ → Prop} (h : m.Ends s R) (sub : ∀ x t, R x t → Q (.ok x) t) :
    (Store.attempt m).Ends s Q := sub _ _ h

/-- A loop whose every turn keeps `I` and returns something related by `P`. -/
theorem mapM {f : α → Store ε σ β} {P : α → β → Prop} {I : σ → Prop}
    (step : ∀ a s, I s → (f a).Ends s fun x t => I t ∧ ∃ b, x = .ok b ∧ P a b) (xs : List α)
    (s : σ) (hs : I s) :
    (xs.mapM f).Ends s fun x t => I t ∧ ∃ bs, x = .ok bs ∧ List.Forall₂ P xs bs := by
  induction xs generalizing s with
  | nil => exact Ends.pure ⟨hs, [], rfl, .nil⟩
  | cons a xs ih =>
    have := lawful (ε := ε) (σ := σ)
    rw [List.mapM_cons]
    refine (step a s hs).bind ?_ ?_
    · rintro e t ⟨_, b, thrown, _⟩
      cases thrown
    · rintro b t ⟨ht, _, same, hb⟩
      cases same
      refine (ih t ht).bind ?_ ?_
      · rintro e u ⟨_, bs, thrown, _⟩
        cases thrown
      · rintro bs u ⟨hu, _, same, hbs⟩
        cases same
        exact Ends.pure ⟨hu, b :: bs, rfl, .cons hb hbs⟩

theorem transaction {m : Store ε σ α} {R Q : Except ε α → σ → Prop} (body : m.Ends s R)
    (returned : ∀ a t, R (.ok a) t → Q (.ok a) t) (thrown : ∀ e t, R (.error e) t → Q (.error e) s) :
    (Store.transaction m).Ends s Q := by
  unfold Ends Store.transaction at *
  rcases hm : m.run s with ⟨x, t⟩
  rw [hm] at body
  cases x with
  | error e => simpa only [hm] using thrown e t body
  | ok a => simpa only [hm] using returned a t body

/-- A computation on one component is judged on that component. -/
theorem zoom {get : σ → τ} {put : σ → τ → σ} {m : Store ε τ α} {R : Except ε α → τ → Prop}
    {Q : Except ε α → σ → Prop} (h : m.Ends (get s) R) (sub : ∀ x t, R x t → Q x (put s t)) :
    (Store.zoom get put m).Ends s Q := sub _ _ h

end Ends

end Store

end VantGrowth.Lib
