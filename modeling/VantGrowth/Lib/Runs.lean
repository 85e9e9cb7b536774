import Mathlib.Data.List.Induction

namespace VantGrowth.Lib

/-- The state after performing operations one after another. -/
def runs (perform : σ → ε → σ) (s : σ) (es : List ε) : σ := es.foldl perform s

@[simp] theorem runs_nil (perform : σ → ε → σ) (s : σ) : runs perform s [] = s := rfl

@[simp] theorem runs_cons (perform : σ → ε → σ) (s : σ) (e : ε) (es : List ε) :
    runs perform s (e :: es) = runs perform (perform s e) es := rfl

theorem runs_append (perform : σ → ε → σ) (s : σ) (es fs : List ε) :
    runs perform s (es ++ fs) = runs perform (runs perform s es) fs := by
  simp [runs]

/-- What every operation preserves holds after any sequence of them. -/
theorem runs_invariant {perform : σ → ε → σ} {I : σ → Prop}
    (step : ∀ s e, I s → I (perform s e)) {s : σ} (h : I s) (es : List ε) :
    I (runs perform s es) := by
  induction es generalizing s with
  | nil => exact h
  | cons e es ih => exact ih (step s e h)

/-- A reflexive and transitive relation that every operation respects from
states with the invariant relates the ends of any sequence. -/
theorem runs_related {perform : σ → ε → σ} {I : σ → Prop} {R : σ → σ → Prop}
    (refl : ∀ s, R s s) (trans : ∀ s t u, R s t → R t u → R s u)
    (keep : ∀ s e, I s → I (perform s e)) (step : ∀ s e, I s → R s (perform s e))
    {s : σ} (h : I s) (es : List ε) : R s (runs perform s es) := by
  induction es generalizing s with
  | nil => exact refl s
  | cons e es ih => exact trans _ _ _ (step s e h) (ih (keep s e h))

end VantGrowth.Lib

namespace VantGrowth.Lib.Logs

section
variable {α : Type} {K : List α → α → Prop}

/-- Every entry meets `K` at the entries that come before it. -/
def EachAfter (K : List α → α → Prop) (before : List α) : List α → Prop
  | [] => True
  | e :: rest => K before e ∧ EachAfter K (before ++ [e]) rest

def Each (K : List α → α → Prop) (log : List α) : Prop := EachAfter K [] log

instance EachAfter.decidable [∀ a e, Decidable (K a e)] :
    ∀ before log, Decidable (EachAfter K before log)
  | _, [] => isTrue trivial
  | before, e :: rest =>
    have := EachAfter.decidable (before ++ [e]) rest
    inferInstanceAs (Decidable (K before e ∧ EachAfter K (before ++ [e]) rest))

instance Each.decidable [∀ a e, Decidable (K a e)] (log : List α) : Decidable (Each K log) :=
  EachAfter.decidable [] log

theorem eachAfter_at {before a b : List α} {e : α} (h : EachAfter K before (a ++ e :: b)) :
    K (before ++ a) e := by
  induction a generalizing before with
  | nil =>
    rw [List.append_nil]
    exact h.1
  | cons f a ih =>
    have later := ih h.2
    rwa [List.append_assoc, List.singleton_append] at later

theorem eachAfter_init {before a b : List α} (h : EachAfter K before (a ++ b)) :
    EachAfter K before a := by
  induction a generalizing before with
  | nil => trivial
  | cons f a ih => exact ⟨h.1, ih h.2⟩

theorem eachAfter_of_splits {before log : List α}
    (h : ∀ a e b, log = a ++ e :: b → K (before ++ a) e) : EachAfter K before log := by
  induction log generalizing before with
  | nil => trivial
  | cons e log ih =>
    refine ⟨?_, ih fun a f b split => ?_⟩
    · simpa using h [] e log rfl
    · simpa using h (e :: a) f b (by rw [split]; rfl)

theorem Each.of_splits {log : List α} (h : ∀ a e b, log = a ++ e :: b → K a e) : Each K log :=
  eachAfter_of_splits fun a e b split => by simpa using h a e b split

theorem Each.at {a b : List α} {e : α} (h : Each K (a ++ e :: b)) : K a e := eachAfter_at h

theorem Each.init {a b : List α} (h : Each K (a ++ b)) : Each K a := eachAfter_init h

/-- What each operation preserves where it meets `K` holds after a run in which
every operation meets `K` at the state it starts from. -/
theorem runs_each {σ : Type} {perform : σ → α → σ} {I : σ → Prop} {J : σ → α → Prop} {s : σ}
    (step : ∀ s e, I s → J s e → I (perform s e)) (start : I s) {es : List α}
    (each : Each (fun before e => J (runs perform s before) e) es) : I (runs perform s es) := by
  induction es using List.reverseRecOn with
  | nil => exact start
  | append_singleton es e ih =>
    rw [runs_append]
    exact step _ e (ih each.init) each.at

/-- An entry of a log that grew by one is the new one, or it was there. -/
theorem split_snoc {log a b : List α} {e f : α} (h : log ++ [e] = a ++ f :: b) :
    (a = log ∧ f = e) ∨ ∃ c, log = a ++ f :: c := by
  induction b using List.reverseRecOn with
  | nil =>
    obtain ⟨rfl, he⟩ := List.append_inj' h rfl
    cases he
    exact Or.inl ⟨rfl, rfl⟩
  | append_singleton b d _ =>
    have hs : log ++ [e] = (a ++ f :: b) ++ [d] := by simpa using h
    exact Or.inr ⟨b, (List.append_inj' hs rfl).1⟩

/-- Two entries of one log are the same entry, or one comes after the other. -/
theorem split_order {a b c d : List α} {e f : α} (h : a ++ e :: b = c ++ f :: d) :
    (a = c ∧ e = f ∧ b = d) ∨ (∃ m, c = a ++ e :: m ∧ b = m ++ f :: d) ∨
      ∃ m, a = c ++ f :: m ∧ d = m ++ e :: b := by
  rcases List.append_eq_append_iff.mp h with ⟨m, rfl, hm⟩ | ⟨m, rfl, hm⟩
  · cases m with
    | nil =>
      cases hm
      exact Or.inl ⟨(List.append_nil a).symm, rfl, rfl⟩
    | cons g m =>
      cases hm
      exact Or.inr (Or.inl ⟨m, rfl, rfl⟩)
  · cases m with
    | nil =>
      cases hm
      exact Or.inl ⟨List.append_nil c, rfl, rfl⟩
    | cons g m =>
      cases hm
      exact Or.inr (Or.inr ⟨m, rfl, rfl⟩)

/-- An entry of a log that grew is one it had, or one of the new ones. -/
theorem split_append {a b c d : List α} {e : α} (h : a ++ b = c ++ e :: d) :
    (∃ m, a = c ++ e :: m ∧ d = m ++ b) ∨ ∃ m, c = a ++ m ∧ b = m ++ e :: d := by
  rcases List.append_eq_append_iff.mp h with ⟨m, rfl, hm⟩ | ⟨m, rfl, hm⟩
  · exact Or.inr ⟨m, rfl, hm⟩
  · cases m with
    | nil => exact Or.inr ⟨[], by simp, hm.symm⟩
    | cons g m =>
      cases hm
      exact Or.inl ⟨m, rfl, rfl⟩

end

end VantGrowth.Lib.Logs
