import VantGrowth.Lib.Store

namespace VantGrowth.Lib

/-- How an awaited operation is lost: before it took effect, or after. -/
structure Fault where
  message : String
  written : Bool
deriving DecidableEq

/-- A state and what is in store for the next awaited operations. -/
structure Faulty (σ : Type) where
  state : σ
  faults : List (Option Fault)

namespace Store

/-- The operation where nothing fails. -/
def sound (m : Store ε σ α) : Store ε (Faulty σ) α :=
  zoom (·.state) (fun s t => { s with state := t }) m

/-- The operation where it meets the next fault in store. -/
def faulty (lost : Fault → ε) (m : Store ε σ α) : Store ε (Faulty σ) α :=
  ⟨fun s =>
    match s.faults with
    | [] => (m.sound).run s
    | none :: rest => (m.sound).run { s with faults := rest }
    | some f :: rest =>
      (.error (lost f),
        { state := if f.written then (m.run s.state).2 else s.state, faults := rest })⟩

/-- The next operation meets no fault. -/
def Clear (s : Faulty σ) : Prop := s.faults.head?.join = none

theorem faulty_clear {m : Store ε σ α} {lost : Fault → ε} {s : Faulty σ} (h : Clear s) :
    (m.faulty lost).run s = ((m.run s.state).1, ⟨(m.run s.state).2, s.faults.tail⟩) := by
  obtain ⟨state, faults⟩ := s
  cases faults with
  | nil => rfl
  | cons f rest =>
    cases f with
    | none => rfl
    | some f => cases h

theorem faulty_hit {m : Store ε σ α} {lost : Fault → ε} {s : σ} {f : Fault}
    {rest : List (Option Fault)} :
    (m.faulty lost).run ⟨s, some f :: rest⟩ =
      (.error (lost f), ⟨if f.written then (m.run s).2 else s, rest⟩) := rfl

namespace Ends

theorem sound {m : Store ε σ α} {s : Faulty σ} {R : Except ε α → σ → Prop}
    {Q : Except ε α → Faulty σ → Prop} (h : m.Ends s.state R)
    (sub : ∀ x t, R x t → Q x { s with state := t }) : (Store.sound m).Ends s Q :=
  Ends.zoom h sub

/-- Whatever faults are in store, the operation takes its effect or none. -/
theorem faulty {m : Store ε σ α} {lost : Fault → ε} {s : Faulty σ} {R : Except ε α → σ → Prop}
    {Q : Except ε α → Faulty σ → Prop} (h : m.Ends s.state R)
    (returned : ∀ x t fs, R x t → Q x ⟨t, fs⟩) (missed : ∀ f fs, Q (.error (lost f)) ⟨s.state, fs⟩)
    (broken : ∀ f x t fs, R x t → Q (.error (lost f)) ⟨t, fs⟩) :
    (Store.faulty lost m).Ends s Q := by
  obtain ⟨state, faults⟩ := s
  unfold Ends Store.faulty
  cases faults with
  | nil => exact returned _ _ _ h
  | cons f rest =>
    cases f with
    | none => exact returned _ _ _ h
    | some f =>
      dsimp only
      cases hw : f.written with
      | false => exact missed f rest
      | true => exact broken f _ _ rest h

/-- With nothing in store to fail, the operation is a sound one. -/
theorem calm {m : Store ε σ α} {lost : Fault → ε} {s : σ} {R : Except ε α → σ → Prop}
    {Q : Except ε α → Faulty σ → Prop} (h : m.Ends s R) (sub : ∀ x t, R x t → Q x ⟨t, []⟩) :
    (Store.faulty lost m).Ends ⟨s, []⟩ Q := sub _ _ h

end Ends

/-- The error of a computation, seen as another. -/
def mapError (f : ε → ε') (m : Store ε σ α) : Store ε' σ α :=
  ⟨fun s => ((m.run s).1.mapError f, (m.run s).2)⟩

theorem Ends.mapError {f : ε → ε'} {m : Store ε σ α} {R : Except ε α → σ → Prop}
    {Q : Except ε' α → σ → Prop} (h : m.Ends s R) (sub : ∀ x t, R x t → Q (x.mapError f) t) :
    (Store.mapError f m).Ends s Q := sub _ _ h

end Store

end VantGrowth.Lib
