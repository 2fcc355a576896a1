import UxLint.Action.Resolver
import UxLint.Proofs.Resolver.Agreement

/-!
# The memo of a resolver cannot be seen

What a resolver remembers is keyed by an action and a path, not by the unit that asks. As long as no
two units that ask have one path, everything remembered is what a search would find again, so the
resolver answers as one that forgets. `asLookup_agrees` is the top.
-/

set_option autoImplicit false

namespace UxLint.Resolver

/-- The resolver as a way to ask that works every answer out anew. -/
def forgetful (r : Resolver) : Lookup Id := fun strict action u => r.answer strict action u

/-- Whether no two different units of a run have one path. -/
def ToldApart (units : SourceUnit → Prop) : Prop :=
  ∀ u v, units u → units v → u.path = v.path → u = v

/-- What is remembered for the units of a run is what a search finds. -/
def Sound (r : Resolver) (units : SourceUnit → Prop) (memo : Memo) : Prop :=
  ∀ action u found, units u → remembered? memo action u.path = some found →
    r.find? action u = .ok found

variable {r : Resolver} {units : SourceUnit → Prop} {memo : Memo}

/-- An empty memo is sound. -/
theorem sound_nil : r.Sound units [] := by
  intro action u found _ h
  cases h

/-- What is remembered after one more answer: that answer under its key, and else what was. -/
theorem remembered?_cons (memo : Memo) (action path : String) (found : Option Binding)
    (action' path' : String) :
    remembered? (((action, path), found) :: memo) action' path' =
      if action = action' ∧ path = path' then some found else remembered? memo action' path' := by
  unfold remembered?
  rw [List.find?_cons]
  by_cases h : action = action' ∧ path = path'
  · obtain ⟨rfl, rfl⟩ := h
    simp
  · rw [if_neg h]
    have hkey : (action == action' && path == path') = false := by
      simpa [← Bool.not_eq_true, Bool.and_eq_true] using h
    rw [hkey]

/-- A sound memo stays sound with one more answer of the plain search. -/
theorem Sound.cons (h : r.Sound units memo) (hapart : ToldApart units) {action : String}
    {u : SourceUnit} {found : Option Binding} (hu : units u) (hfound : r.find? action u = .ok found) :
    r.Sound units (((action, u.path), found) :: memo) := by
  intro action' v found' hv hmem
  rw [remembered?_cons] at hmem
  split_ifs at hmem with hkey
  · obtain ⟨rfl, hpath⟩ := hkey
    cases hmem
    exact hapart u v hu hv hpath ▸ hfound
  · exact h action' v found' hv hmem

/-- One question: the answer is the one worked out anew, and what is remembered stays sound. -/
theorem resolve_agrees (hapart : ToldApart units) (h : r.Sound units memo) {u : SourceUnit}
    (hu : units u) (strict : Bool) (action : String) :
    (r.resolve strict action u memo).1 = r.answer strict action u ∧
      r.Sound units (r.resolve strict action u memo).2 := by
  unfold resolve answer
  by_cases hempty : (action == "") = true
  · rw [if_pos hempty, if_pos hempty]
    exact ⟨rfl, h⟩
  · rw [if_neg hempty, if_neg hempty]
    cases hmem : remembered? memo action u.path with
    | some found =>
      rw [h action u found hu hmem]
      exact ⟨rfl, h⟩
    | none =>
      cases hfind : r.find? action u with
      | error fault => exact ⟨rfl, h⟩
      | ok found => exact ⟨rfl, h.cons hapart hu hfind⟩

/-- A resolver that remembers answers every question of a run as one that forgets. -/
theorem asLookup_agrees (hapart : ToldApart units) {u : SourceUnit} (hu : units u) :
    LookupsAgree (r.Sound units) u (some r.asLookup) (some r.forgetful) := by
  refine .some fun strict action => ?_
  intro memo hmemo
  exact resolve_agrees hapart hmemo hu strict action

end UxLint.Resolver
