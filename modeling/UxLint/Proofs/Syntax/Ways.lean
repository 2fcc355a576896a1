import UxLint.Proofs.Syntax.Walks

/-!
# Ways through a tree

A way down a tree is a row of numbers, each of which picks one of the children of a node, named or not. Two
nodes that look alike stand on different ways, so a way is what tells the places of a tree apart. A walk goes
along its ways in order (`map_follow_ways`) and along none of them twice (`nodup_ways`).
-/

set_option autoImplicit false

namespace UxLint

namespace Node

mutual

/-- The ways on which a walk goes down from a node. -/
def ways : Node → List (List Nat)
  | node _ cs => [] :: waysFrom 0 cs

/-- The ways that go on through children, the first of which is picked by `i`. -/
def waysFrom (i : Nat) : List Node → List (List Nat)
  | [] => []
  | c :: cs => if c.isNamed then (ways c).map (i :: ·) ++ waysFrom (i + 1) cs else waysFrom (i + 1) cs

end

variable {way : List Nat}

/-- A way over a row goes to one of its nodes first. -/
theorem exists_of_mem_waysFrom {i : Nat} {cs : List Node} (h : way ∈ waysFrom i cs) :
    ∃ j rest, way = j :: rest ∧ i ≤ j := by
  induction cs generalizing i with
  | nil => cases h
  | cons c cs ih =>
    have hrest : way ∈ waysFrom (i + 1) cs → ∃ j rest, way = j :: rest ∧ i ≤ j := by
      intro h
      obtain ⟨j, rest, hway, hj⟩ := ih h
      exact ⟨j, rest, hway, Nat.le_of_succ_le hj⟩
    rw [waysFrom] at h
    split at h
    · rcases List.mem_append.1 h with h | h
      · obtain ⟨rest, -, rfl⟩ := List.mem_map.1 h
        exact ⟨i, rest, rfl, Nat.le_refl i⟩
      · exact hrest h
    · exact hrest h

/-- No way over a row is there twice. -/
theorem nodup_waysFrom {i : Nat} {cs : List Node} (h : ∀ c ∈ cs, (ways c).Nodup) :
    (waysFrom i cs).Nodup := by
  induction cs generalizing i with
  | nil => exact List.nodup_nil
  | cons c cs ih =>
    have hrest : (waysFrom (i + 1) cs).Nodup := ih fun d hd => h d (List.mem_cons_of_mem c hd)
    rw [waysFrom]
    split
    · refine ((h c List.mem_cons_self).map List.cons_injective).append hrest ?_
      intro way hway hlater
      obtain ⟨rest, -, rfl⟩ := List.mem_map.1 hway
      obtain ⟨j, rest', heq, hj⟩ := exists_of_mem_waysFrom hlater
      cases heq
      exact Nat.not_succ_le_self i hj
    · exact hrest

/-- A walk takes no way twice. -/
theorem nodup_ways (n : Node) : n.ways.Nodup := by
  induction n using induction_children with
  | h l cs ih =>
    rw [ways, List.nodup_cons]
    refine ⟨fun h => ?_, nodup_waysFrom ih⟩
    obtain ⟨j, rest, heq, -⟩ := exists_of_mem_waysFrom h
    cases heq

end Node

namespace Place

/-- The place that a way leads to. -/
def follow (p : Place) : List Nat → Option Place
  | [] => some p
  | i :: way => p.node.children[i]?.bind fun c => follow ⟨c, p.node :: p.above⟩ way

/-- A way in two parts is followed part by part. -/
theorem follow_append (p : Place) (v w : List Nat) :
    p.follow (v ++ w) = (p.follow v).bind fun q => q.follow w := by
  induction v generalizing p with
  | nil => rfl
  | cons i v ih =>
    rw [List.cons_append, follow, follow, Option.bind_assoc]
    exact congrArg _ (funext fun c => ih _)

/-- A walk goes along its ways. -/
theorem map_follow_ways (p : Place) : p.node.ways.map p.follow = p.walk.map some := by
  obtain ⟨n, above⟩ := p
  induction n using Node.induction_children generalizing above with
  | h l cs ih =>
    let p : Place := ⟨.node l cs, above⟩
    let child : Node → Place := fun c => ⟨c, .node l cs :: above⟩
    -- The ways through the last children, behind those that were gone through.
    have hfrom : ∀ later earlier, cs = earlier ++ later →
        (Node.waysFrom earlier.length later).map p.follow =
          (((later.filter Node.isNamed).map child).flatMap walk).map some := by
      intro later
      induction later with
      | nil => exact fun _ _ => rfl
      | cons c later ihLater =>
        intro earlier hcs
        have hpick : cs[earlier.length]? = some c := by
          rw [hcs, List.getElem?_append_right (Nat.le_refl _), Nat.sub_self]
          rfl
        have hrest := ihLater (earlier ++ [c]) (by rw [hcs, List.append_assoc]; rfl)
        rw [List.length_append, List.length_singleton] at hrest
        rw [Node.waysFrom, List.filter_cons]
        split
        · have hhere : ((Node.ways c).map (earlier.length :: ·)).map p.follow =
              (child c).walk.map some := by
            rw [← ih c (hcs ▸ List.mem_append_right _ List.mem_cons_self), List.map_map]
            refine List.map_congr_left fun way _ => ?_
            change cs[earlier.length]?.bind _ = _
            rw [hpick]
            rfl
          rw [List.map_append, hhere, hrest, List.map_cons, List.flatMap_cons, List.map_append]
        · exact hrest
    rw [walk_eq, Node.ways, List.map_cons, List.map_cons]
    exact congrArg (some p :: ·) (hfrom cs [] rfl)

/-- What is picked out on the ways of a walk is what is picked out of the walk. -/
theorem filterMap_ways {β : Type} (p : Place) (f : Place → Option β) :
    (p.node.ways.filterMap fun way => (p.follow way).bind f) = p.walk.filterMap f := by
  have hwalk := congrArg (List.filterMap fun o : Option Place => o.bind f) p.map_follow_ways
  rw [List.filterMap_map, List.filterMap_map] at hwalk
  exact hwalk

/-- The places with a property are met on as many ways as the walk meets them. -/
theorem map_follow_filter_ways (p : Place) (q : Place → Bool) :
    (p.node.ways.filter fun way => (p.follow way).any q).map p.follow = (p.walk.filter q).map some := by
  have hwalk := congrArg (List.filter fun o : Option Place => o.any q) p.map_follow_ways
  rw [List.filter_map, List.filter_map] at hwalk
  exact hwalk

/-- A walk comes to what its ways lead to. -/
theorem mem_walk_iff_exists_way {p q : Place} :
    q ∈ p.walk ↔ ∃ way ∈ p.node.ways, p.follow way = some q := by
  rw [← List.mem_map, p.map_follow_ways, List.mem_map]
  simp

/-- A walk comes to what its ways lead to. -/
theorem mem_walk_of_mem_ways {p q : Place} {way : List Nat} (hway : way ∈ p.node.ways)
    (h : p.follow way = some q) : q ∈ p.walk :=
  mem_walk_iff_exists_way.2 ⟨way, hway, h⟩

end Place

end UxLint
