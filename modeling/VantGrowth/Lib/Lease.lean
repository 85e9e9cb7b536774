import Mathlib.Data.List.Induction
import Mathlib.Order.Lattice

namespace VantGrowth.Lib.Lease

/-- What one call does to the lease on a resource. -/
inductive Event (ι τ : Type) where
  | issue (token : ι) (expires : τ)
  | revoke
  | redeem (token : ι)
  | idle
deriving DecidableEq

/-- The lease that is held, until the resource is closed by redeeming it. -/
structure State (ι τ : Type) where
  held : Option (ι × τ)
  closed : Bool

section
variable {ι τ : Type} [LinearOrder τ]

def vacant : State ι τ := ⟨none, false⟩

/-- No lease is held that is still unexpired. -/
def Lapsed (s : State ι τ) (now : τ) : Prop := ∀ t x, s.held = some (t, x) → x ≤ now

/-- The rules: nothing is issued, revoked or redeemed once closed, an
unexpired lease is neither replaced nor revoked, and only the held lease is
redeemed, before it expires. -/
inductive Step (now : τ) : State ι τ → Event ι τ → State ι τ → Prop where
  | issue (s : State ι τ) (t : ι) (x : τ) (live : s.closed = false) (lapsed : Lapsed s now) :
      Step now s (.issue t x) ⟨some (t, x), false⟩
  | revoke (s : State ι τ) (live : s.closed = false) (lapsed : Lapsed s now) :
      Step now s .revoke vacant
  | redeem (t : ι) (x : τ) (unexpired : now < x) :
      Step now ⟨some (t, x), false⟩ (.redeem t) ⟨none, true⟩
  | idle (s : State ι τ) : Step now s .idle s

/-- A log of timed events the rules allow, with the state it ends in. -/
inductive Runs : List (τ × Event ι τ) → State ι τ → Prop where
  | nil : Runs [] vacant
  | snoc (log : List (τ × Event ι τ)) (s t : State ι τ) (now : τ) (e : Event ι τ)
      (before : Runs log s) (step : Step now s e t) : Runs (log ++ [(now, e)]) t

/-- The times of a log never go back. -/
def Ordered (log : List (τ × Event ι τ)) : Prop := log.Pairwise fun d e => d.1 ≤ e.1

theorem Ordered.before {log : List (τ × Event ι τ)} {d : τ × Event ι τ}
    (h : Ordered (log ++ [d])) : ∀ e ∈ log, e.1 ≤ d.1 := by
  intro e he
  exact (List.pairwise_append.mp h).2.2 e he d (List.mem_singleton_self d)

theorem Ordered.init {log : List (τ × Event ι τ)} {d : τ × Event ι τ}
    (h : Ordered (log ++ [d])) : Ordered log :=
  (List.pairwise_append.mp h).1

/-- While open, every lease issued so far has expired or is the one held. -/
theorem issued_lapsed {log : List (τ × Event ι τ)} {s : State ι τ} (h : Runs log s)
    (live : s.closed = false) : ∀ n t x, (n, Event.issue t x) ∈ log →
      s.held = some (t, x) ∨ ∃ e ∈ log, x ≤ e.1 := by
  induction h with
  | nil => simp
  | snoc log s t now e before step ih =>
    intro n u x hm
    have replaced : s.closed = false → Lapsed s now → (n, Event.issue u x) ∈ log →
        ∃ d ∈ log ++ [(now, e)], x ≤ d.1 := by
      intro open_ lapsed old
      rcases ih open_ n u x old with held | ⟨d, hd, hx⟩
      · exact ⟨(now, e), by simp, lapsed u x held⟩
      · exact ⟨d, List.mem_append_left _ hd, hx⟩
    rcases List.mem_append.mp hm with old | new
    · cases step with
      | issue _ t y open_ lapsed => exact Or.inr (replaced open_ lapsed old)
      | revoke _ open_ lapsed => exact Or.inr (replaced open_ lapsed old)
      | redeem t y unexpired => cases live
      | idle =>
        rcases ih live n u x old with held | ⟨d, hd, hx⟩
        · exact Or.inl held
        · exact Or.inr ⟨d, List.mem_append_left _ hd, hx⟩
    · cases List.mem_singleton.mp new
      cases step with
      | issue => exact Or.inl rfl

/-- The held lease was issued last: only idle events came after it. -/
theorem held_newest {log : List (τ × Event ι τ)} {s : State ι τ} (h : Runs log s) {t : ι} {x : τ}
    (held : s.held = some (t, x)) : ∃ a b n, log = a ++ (n, Event.issue t x) :: b ∧
      ∀ e ∈ b, e.2 = .idle := by
  induction h with
  | nil => cases held
  | snoc log s u now e before step ih =>
    cases step with
    | issue _ u y live lapsed =>
      cases held
      exact ⟨log, [], now, rfl, by simp⟩
    | revoke => cases held
    | redeem => cases held
    | idle =>
      obtain ⟨a, b, n, rfl, quiet⟩ := ih held
      refine ⟨a, b ++ [(now, .idle)], n, by simp, ?_⟩
      intro e he
      rcases List.mem_append.mp he with he | he
      · exact quiet e he
      · rw [List.mem_singleton.mp he]

theorem closed_redeemed {log : List (τ × Event ι τ)} {s : State ι τ} (h : Runs log s)
    (redeemed : ∃ n t, (n, Event.redeem t) ∈ log) : s.closed = true := by
  induction h with
  | nil => simp at redeemed
  | snoc log s t now e before step ih =>
    obtain ⟨n, u, hm⟩ := redeemed
    rcases List.mem_append.mp hm with old | new
    · have closed := ih ⟨n, u, old⟩
      cases step with
      | issue _ _ _ live => exact absurd closed (by simp [live])
      | revoke _ live => exact absurd closed (by simp [live])
      | redeem => cases closed
      | idle => exact closed
    · cases List.mem_singleton.mp new
      cases step with
      | redeem => rfl

/-- Every prefix of a run is a run, and the next event obeys the rules there. -/
theorem Runs.split {a c : List (τ × Event ι τ)} {now : τ} {e : Event ι τ} {s : State ι τ}
    (h : Runs (a ++ (now, e) :: c) s) : ∃ r t, Runs a r ∧ Step now r e t := by
  induction c using List.reverseRecOn generalizing s with
  | nil =>
    generalize hl : a ++ [(now, e)] = log at h
    cases h with
    | nil => simp at hl
    | snoc log r t n d before step =>
      obtain ⟨rfl, hd⟩ := List.append_inj' hl rfl
      cases hd
      exact ⟨r, _, before, step⟩
  | append_singleton c d ih =>
    generalize hl : a ++ (now, e) :: (c ++ [d]) = log at h
    cases h with
    | nil => simp at hl
    | snoc log r t n f before step =>
      have hs : (a ++ (now, e) :: c) ++ [d] = log ++ [(n, f)] := by simpa using hl
      obtain ⟨rfl, _⟩ := List.append_inj' hs rfl
      exact ih before

/-- What a lease is for. A new lease is issued only when every earlier one has
expired, only the newest lease is redeemed, unexpired and with nothing done to
it since, and no second one ever is. -/
structure Fenced (log : List (τ × Event ι τ)) : Prop where
  exclusive : ∀ a b c n t x m u y,
    log = a ++ (n, .issue t x) :: b ++ (m, .issue u y) :: c → x ≤ m
  newest : ∀ a c n t, log = a ++ (n, .redeem t) :: c →
    ∃ b d m x, a = b ++ (m, .issue t x) :: d ∧ n < x ∧ ∀ e ∈ d, e.2 = .idle
  once : ∀ a c n t, log = a ++ (n, .redeem t) :: c → ∀ m u, (m, .redeem u) ∉ c

theorem fenced {log : List (τ × Event ι τ)} {s : State ι τ} (h : Runs log s)
    (ordered : Ordered log) : Fenced log := by
  constructor
  · rintro a b c n t x m u y rfl
    obtain ⟨r, _, before, step⟩ := h.split
    have earlier : ∀ e ∈ a ++ (n, .issue t x) :: b, e.1 ≤ m := fun e he =>
      (List.pairwise_append.mp ordered).2.2 e he _ List.mem_cons_self
    cases step with
    | issue _ u y live lapsed =>
      rcases issued_lapsed before live n t x (by simp) with held | ⟨e, he, hx⟩
      · exact lapsed t x held
      · exact le_trans hx (earlier e he)
  · rintro a c n t rfl
    obtain ⟨r, _, before, step⟩ := h.split
    cases step with
    | redeem t x unexpired =>
      obtain ⟨b, d, m, rfl, quiet⟩ := held_newest before rfl
      exact ⟨b, d, m, x, rfl, unexpired, quiet⟩
  · rintro a c n t rfl m u hm
    obtain ⟨c₁, c₂, rfl⟩ := List.append_of_mem hm
    have h' : Runs ((a ++ (n, .redeem t) :: c₁) ++ (m, .redeem u) :: c₂) s := by simpa using h
    obtain ⟨r, _, before, step⟩ := h'.split
    have closed := closed_redeemed before ⟨n, t, by simp⟩
    cases step with
    | redeem => cases closed

end

end VantGrowth.Lib.Lease
