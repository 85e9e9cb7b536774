import VantGrowth.Lib.Store

/-! Two computations on stores of their own, run side by side. -/

namespace VantGrowth.Lib

/-- Both returned, what `V` relates, or both threw, what `E` relates. -/
inductive Alike (E : ε → ε' → Prop) (V : α → β → Prop) : Except ε α → Except ε' β → Prop
  | ok (h : V a b) : Alike E V (.ok a) (.ok b)
  | error (h : E e f) : Alike E V (.error e) (.error f)

theorem Alike.refl (x : Except ε α) : Alike Eq Eq x x := by
  cases x with
  | ok a => exact .ok rfl
  | error e => exact .error rfl

/-- Started in `s` and `t`, the computations end alike in stores that `R` relates. -/
structure Twin (R : σ → τ → Prop) (E : ε → ε' → Prop) (V : α → β → Prop) (m : Store ε σ α)
    (n : Store ε' τ β) (s : σ) (t : τ) : Prop where
  outcomes : Alike E V (m.run s).1 (n.run t).1
  stores : R (m.run s).2 (n.run t).2

namespace Twin
variable {R : σ → τ → Prop} {E : ε → ε' → Prop} {V : α → β → Prop} {W : γ → δ → Prop} {s : σ} {t : τ}

theorem pure (h : R s t) (same : V a b) : Twin R E V (Pure.pure a) (Pure.pure b) s t :=
  ⟨.ok same, h⟩

theorem throw (h : R s t) (same : E e f) :
    Twin R E V (Store.throw e : Store ε σ α) (Store.throw f : Store ε' τ β) s t :=
  ⟨.error same, h⟩

theorem read_bind {f : σ → γ} {f' : τ → δ} {g : γ → Store ε σ α} {k : δ → Store ε' τ β}
    (next : Twin R E V (g (f s)) (k (f' t)) s t) :
    Twin R E V (Store.read f >>= g) (Store.read f' >>= k) s t := ⟨next.outcomes, next.stores⟩

theorem bind {m : Store ε σ γ} {n : Store ε' τ δ} {f : γ → Store ε σ α} {g : δ → Store ε' τ β}
    (first : Twin R E W m n s t)
    (next : ∀ a b s t, W a b → R s t → Twin R E V (f a) (g b) s t) :
    Twin R E V (m >>= f) (n >>= g) s t := by
  obtain ⟨outcomes, stores⟩ := first
  rcases hm : m.run s with ⟨x, s'⟩
  rcases hn : n.run t with ⟨y, t'⟩
  rw [hm, hn] at outcomes stores
  have related : Alike E W x y := outcomes
  cases related with
  | ok same =>
    obtain ⟨outcomes, stores⟩ := next _ _ s' t' same stores
    constructor
    · simpa only [Store.run_bind, hm, hn] using outcomes
    · simpa only [Store.run_bind, hm, hn] using stores
  | error same =>
    constructor
    · simpa only [Store.run_bind, hm, hn] using .error same
    · simpa only [Store.run_bind, hm, hn] using stores

/-- A check that both make. -/
theorem require_bind {p : Prop} [Decidable p] {f : Unit → Store ε σ α} {g : Unit → Store ε' τ β}
    (h : R s t) (refused : E e e') (passed : p → Twin R E V (f ()) (g ()) s t) :
    Twin R E V (Store.require p e >>= f) (Store.require p e' >>= g) s t := by
  by_cases hp : p
  · have left : (Store.require p e >>= f).run s = (f ()).run s := by simp [Store.run_bind, hp]
    have right : (Store.require p e' >>= g).run t = (g ()).run t := by simp [Store.run_bind, hp]
    obtain ⟨outcomes, stores⟩ := passed hp
    exact ⟨left ▸ right ▸ outcomes, left ▸ right ▸ stores⟩
  · have left : (Store.require p e >>= f).run s = (.error e, s) := by simp [Store.run_bind, hp]
    have right : (Store.require p e' >>= g).run t = (.error e', t) := by simp [Store.run_bind, hp]
    exact ⟨left ▸ right ▸ .error refused, left ▸ right ▸ h⟩

theorem tryCatch {m : Store ε σ α} {n : Store ε' τ β} {f : ε → Store ε σ α} {g : ε' → Store ε' τ β}
    {F : ε → ε' → Prop} (first : Twin R F V m n s t)
    (next : ∀ d e s t, F d e → R s t → Twin R E V (f d) (g e) s t) :
    Twin R E V (Store.tryCatch m f) (Store.tryCatch n g) s t := by
  obtain ⟨outcomes, stores⟩ := first
  rcases hm : m.run s with ⟨x, s'⟩
  rcases hn : n.run t with ⟨y, t'⟩
  rw [hm, hn] at outcomes stores
  have related : Alike F V x y := outcomes
  cases related with
  | ok same =>
    constructor
    · simpa only [Store.tryCatch, hm, hn] using .ok same
    · simpa only [Store.tryCatch, hm, hn] using stores
  | error same =>
    obtain ⟨outcomes, stores⟩ := next _ _ s' t' same stores
    constructor
    · simpa only [Store.tryCatch, hm, hn] using outcomes
    · simpa only [Store.tryCatch, hm, hn] using stores

/-- Steps that are the same computation may be replaced on either side. -/
theorem congr {m m' : Store ε σ α} {n n' : Store ε' τ β} (left : m'.run s = m.run s)
    (right : n'.run t = n.run t) (h : Twin R E V m n s t) : Twin R E V m' n' s t :=
  ⟨left ▸ right ▸ h.outcomes, left ▸ right ▸ h.stores⟩

/-- Both sides have come this far. -/
theorem onward {m m' : Store ε σ α} {n n' : Store ε' τ β} {s' : σ} {t' : τ} (left : m'.run s' = m.run s)
    (right : n'.run t' = n.run t) (h : Twin R E V m n s t) : Twin R E V m' n' s' t' :=
  ⟨left ▸ right ▸ h.outcomes, left ▸ right ▸ h.stores⟩

/-- What the right side does alone once both are here. -/
theorem bind_right {m : Store ε σ α} {n : Store ε' τ δ} {g : δ → Store ε' τ β} {W : α → δ → Prop}
    (first : Twin R E W m n s t)
    (next : ∀ a b s t, W a b → R s t → Twin R E V (Pure.pure a : Store ε σ α) (g b) s t) :
    Twin R E V m (n >>= g) s t := by
  have same : (m >>= Pure.pure).run s = m.run s := by
    rw [Store.run_bind]
    rcases m.run s with ⟨x, s'⟩
    cases x <;> rfl
  exact congr same.symm rfl (first.bind next)

/-- What the left side does alone once both are here. -/
theorem bind_left {m : Store ε σ γ} {n : Store ε' τ β} {f : γ → Store ε σ α} {W : γ → β → Prop}
    (first : Twin R E W m n s t)
    (next : ∀ a b s t, W a b → R s t → Twin R E V (f a) (Pure.pure b : Store ε' τ β) s t) :
    Twin R E V (m >>= f) n s t := by
  have same : (n >>= Pure.pure).run t = n.run t := by
    rw [Store.run_bind]
    rcases n.run t with ⟨y, t'⟩
    cases y <;> rfl
  exact congr rfl same.symm (first.bind next)

/-- A transaction that does not throw is no different. -/
theorem transaction {m : Store ε σ α} {n : Store ε' τ β} (h : Twin R (fun _ _ => False) V m n s t) :
    Twin R E V m (Store.transaction n) s t := by
  obtain ⟨outcomes, stores⟩ := h
  rcases hm : m.run s with ⟨x, s'⟩
  rcases hn : n.run t with ⟨y, t'⟩
  rw [hm, hn] at outcomes stores
  have related : Alike (fun _ _ => False) V x y := outcomes
  cases related with
  | ok same =>
    constructor
    · simpa only [Store.transaction, hm, hn] using .ok same
    · simpa only [Store.transaction, hm, hn] using stores
  | error impossible => exact impossible.elim

end Twin

namespace Store

/-- A transaction that starts with what only reads. -/
theorem transaction_ok {m : Store ε σ α} {g : α → Store ε σ β} (h : m.run s = (.ok a, s)) :
    (transaction (m >>= g)).run s = (transaction (g a)).run s := by
  simp only [transaction, run_bind, h]

/-- A savepoint at the start of a transaction is no different from none. -/
theorem transaction_inner {m : Store ε σ α} {g : α → Store ε σ β} :
    (transaction (transaction m >>= g)).run s = (transaction (m >>= g)).run s := by
  simp only [transaction, run_bind]
  rcases m.run s with ⟨x, t⟩
  cases x <;> rfl

end Store

end VantGrowth.Lib
