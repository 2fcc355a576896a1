import UxLint.Fault
import Mathlib.Tactic.Choose

/-!
# What every result of a computation satisfies

A rule runs in a monad that is left open, because the lookup that it asks may remember its answers.
That every result of a computation has a property is said by writing the computation as one whose
results carry the property. The property can be read off as soon as the monad is known.
-/

set_option autoImplicit false

namespace UxLint

/-- Each result of a row of computations comes from one of them. -/
theorem exists_of_mem_mapM {α β : Type} {f : α → Except Fault β} {l : List α} {r : List β}
    (h : l.mapM f = .ok r) : ∀ y ∈ r, ∃ x ∈ l, f x = .ok y := by
  induction l generalizing r with
  | nil =>
    cases h
    simp
  | cons a l ih =>
    rw [List.mapM_cons] at h
    cases ha : f a with
    | error e => rw [ha] at h; cases h
    | ok b =>
      cases hl : l.mapM f with
      | error e => rw [ha, hl] at h; cases h
      | ok bs =>
        rw [ha, hl] at h
        cases h
        intro y hy
        rcases List.mem_cons.1 hy with rfl | hy
        · exact ⟨a, List.mem_cons_self, ha⟩
        · obtain ⟨x, hx, hfx⟩ := ih hl y hy
          exact ⟨x, List.mem_cons_of_mem a hx, hfx⟩

/-- Two computations one after the other come to a result if both do. -/
theorem run_bind_eq_ok_iff {α β : Type} {x : ExceptT Fault Id α} {f : α → ExceptT Fault Id β} {b : β} :
    (x >>= f).run = .ok b ↔ ∃ a, x.run = .ok a ∧ (f a).run = .ok b := by
  rw [ExceptT.run_bind]
  cases x.run with
  | error fault => exact ⟨nofun, fun ⟨a, ha, _⟩ => nomatch ha⟩
  | ok a =>
    refine ⟨fun h => ⟨a, rfl, h⟩, ?_⟩
    rintro ⟨a', ha', h⟩
    cases ha'
    exact h

variable {m : Type → Type} [Monad m] {α β : Type}

/-- Every result of a computation satisfies `P`; nothing is said about its faults. -/
def Ensures (P : α → Prop) (x : ExceptT Fault m α) : Prop :=
  ∃ y : ExceptT Fault m {a // P a}, x = Subtype.val <$> y

namespace Ensures

variable [LawfulMonad m] {P : α → Prop} {Q : β → Prop}

/-- A value ensures what holds of it. -/
theorem pure {a : α} (h : P a) : Ensures P (Pure.pure a : ExceptT Fault m α) :=
  ⟨Pure.pure ⟨a, h⟩, by rw [map_pure]⟩

/-- A value or a fault ensures what holds of the value. -/
theorem ofExcept {e : Except Fault α} (h : ∀ a, e = .ok a → P a) :
    Ensures P (MonadExcept.ofExcept e : ExceptT Fault m α) := by
  cases e with
  | ok a => exact Ensures.pure (h a rfl)
  | error fault =>
    refine ⟨throw fault, ?_⟩
    apply ExceptT.ext
    rw [ExceptT.run_map, ExceptT.run_throw, map_pure]
    rfl

/-- Everything ensures what is always true. -/
theorem true (x : ExceptT Fault m α) : Ensures (fun _ => True) x :=
  ⟨(fun a => ⟨a, trivial⟩) <$> x, by rw [Functor.map_map]; exact (id_map x).symm⟩

/-- What ensures something ensures what follows from it. -/
theorem imp {P' : α → Prop} {x : ExceptT Fault m α} (h : ∀ a, P a → P' a) (hx : Ensures P x) :
    Ensures P' x := by
  obtain ⟨y, rfl⟩ := hx
  exact ⟨(fun a => ⟨a.1, h a.1 a.2⟩) <$> y, by rw [Functor.map_map]⟩

/-- What goes on ensures what it ensures from each value that was ensured. -/
theorem bind {x : ExceptT Fault m α} {f : α → ExceptT Fault m β} (hx : Ensures P x)
    (hf : ∀ a, P a → Ensures Q (f a)) : Ensures Q (x >>= f) := by
  obtain ⟨y, rfl⟩ := hx
  choose g hg using hf
  refine ⟨y >>= fun a => g a.1 a.2, ?_⟩
  rw [map_bind, bind_map_left]
  congr 1
  funext a
  exact hg a.1 a.2

/-- A computation with a state whose results say that they are reached from some state. -/
def reached {σ : Type} (x : ExceptT Fault (StateM σ) α) :
    StateM σ (Except Fault {a // ∃ s, (x.run.run s).1 = .ok a}) := fun s =>
  match h : x.run.run s with
  | (.ok a, s') => (.ok ⟨a, s, by rw [h]⟩, s')
  | (.error e, s') => (.error e, s')

omit [Monad m] [LawfulMonad m] in
/-- Every result of a computation with a state is reached from some state. -/
theorem exists_state {σ : Type} (x : ExceptT Fault (StateM σ) α) :
    Ensures (fun a => ∃ s, (x.run.run s).1 = .ok a) x := by
  refine ⟨ExceptT.mk (reached x), ?_⟩
  apply ExceptT.ext
  rw [ExceptT.run_map]
  funext s
  change x.run.run s = (Except.map Subtype.val (reached x s).1, (reached x s).2)
  unfold reached
  split
  · next a s' h => exact h
  · next e s' h => exact h

omit [Monad m] [LawfulMonad m] in
/-- A result without a state satisfies what is ensured. -/
theorem of_ok {x : ExceptT Fault Id α} (hx : Ensures P x) {a : α} (h : x.run = .ok a) : P a := by
  obtain ⟨y, rfl⟩ := hx
  rw [ExceptT.run_map] at h
  cases hy : y.run with
  | error e => rw [hy] at h; cases h
  | ok b => rw [hy] at h; cases h; exact b.2

omit [Monad m] [LawfulMonad m] in
/-- A result from any state satisfies what is ensured. -/
theorem of_state_ok {σ : Type} {x : ExceptT Fault (StateM σ) α} (hx : Ensures P x) {s : σ} {a : α}
    (h : (x.run.run s).1 = .ok a) : P a := by
  obtain ⟨y, rfl⟩ := hx
  rw [ExceptT.run_map, StateT.run_map] at h
  change Except.map Subtype.val (y.run.run s).1 = .ok a at h
  cases hy : (y.run.run s).1 with
  | error e => rw [hy] at h; cases h
  | ok b => rw [hy] at h; cases h; exact b.2

end Ensures

end UxLint
