import UxLint.Proofs.Syntax.Ways

/-!
# The callbacks of page entry

A callback is handed to a hook of page entry, or it is a function with the name of a method that runs on
page entry. Grouping the functions of a file by their names loses none of them and takes none twice
(`indexed_functionIndex`), so the callbacks of a file are those that are handed over together with those
that are named so, each as often as the walk meets it (`lifecycleCallbacks_perm`). A function can be both, and a
callback can stand inside another one: the callbacks of a file are told apart by the way that leads to each
and by why it runs (`map_place_callbacks`, `nodup_callbacks`).
-/

set_option autoImplicit false

namespace UxLint

namespace Place

/-- The places that an index has under the names with a property. -/
def indexed (keep : String → Bool) (index : List (String × List Place)) : List Place :=
  (index.filter fun e => keep e.1).flatMap (·.2)

variable {keep : String → Bool} {name : String} {index : List (String × List Place)} {p root : Place}

/-- The indexed places under some names go name by name. -/
theorem indexed_cons (e : String × List Place) (rest : List (String × List Place)) :
    indexed keep (e :: rest) = if keep e.1 then e.2 ++ indexed keep rest else indexed keep rest := by
  unfold indexed
  rw [List.filter_cons]
  split
  · rw [List.flatMap_cons]
  · rfl

/-- To add a place under a name adds it to those indexed under this name. -/
theorem indexed_addUnder (p : Place) (index : List (String × List Place)) :
    (indexed keep (addUnder name p index)).Perm
      (if keep name then p :: indexed keep index else indexed keep index) := by
  induction index with
  | nil =>
    rw [addUnder, indexed_cons]
    exact .refl _
  | cons e rest ih =>
    rw [addUnder]
    split
    · next hname =>
      obtain rfl := eq_of_beq hname
      rw [indexed_cons, indexed_cons]
      split
      · rw [List.append_assoc, List.singleton_append]
        exact List.perm_middle
      · exact .refl _
    · rw [indexed_cons, indexed_cons]
      cases hkeep : keep name with
      | false =>
        rw [hkeep] at ih
        split
        · exact ih.append_left e.2
        · exact ih
      | true =>
        rw [hkeep] at ih
        split
        · exact (ih.append_left e.2).trans List.perm_middle
        · exact ih

/-- The functions that an index has under some names are those of the walk with these names. -/
theorem indexed_functionIndex (hempty : keep "" = false) (root : Place) :
    (indexed keep root.functionIndex).Perm
      ((root.findAll Node.isFunction).filter fun p => keep p.functionName) := by
  -- The fold keeps: what is indexed is what was indexed before it and the functions that it went over.
  have hfold : ∀ (found : List Place) (index : List (String × List Place)),
      (indexed keep (found.foldl
        (fun index p => if p.functionName == "" then index else addUnder p.functionName p index)
        index)).Perm ((found.filter fun p => keep p.functionName) ++ indexed keep index) := by
    intro found
    induction found with
    | nil => exact fun index => .refl _
    | cons p found ih =>
      intro index
      rw [List.foldl_cons, List.filter_cons]
      refine (ih _).trans ?_
      by_cases hname : p.functionName = ""
      · rw [hname, hempty]
        exact .refl _
      · rw [if_neg (by simpa using hname)]
        refine ((indexed_addUnder p index).append_left _).trans ?_
        split
        · exact List.perm_middle
        · exact .refl _
  have h := hfold (root.findAll Node.isFunction) []
  rwa [show indexed keep [] = [] from rfl, List.append_nil] at h

end Place

namespace InitialLoading

/-- Whether a place is a function with the name of a method that runs on page entry. -/
def isLifecycleMethod (p : Place) : Bool :=
  p.node.isFunction && lifecycleMethods.contains p.functionName

variable {root p : Place}

/-- The callbacks of page entry are those that are handed over and those that are named so. -/
theorem lifecycleCallbacks_perm (root : Place) :
    (lifecycleCallbacks root).Perm
      (root.calls.filterMap hookCallback? ++ root.walk.filter isLifecycleMethod) := by
  have hempty : lifecycleMethods.contains "" = false := by decide
  have hmethods := Place.indexed_functionIndex hempty root
  have hwalk : (root.findAll Node.isFunction).filter
      (fun p => lifecycleMethods.contains p.functionName) = root.walk.filter isLifecycleMethod := by
    rw [Place.findAll, List.filter_filter]
    exact List.filter_congr fun p _ => Bool.and_comm _ _
  rw [hwalk] at hmethods
  exact (List.mergeSort_perm _ _).trans (hmethods.append_left _)

/-- A callback of page entry is handed over or named so. -/
theorem mem_lifecycleCallbacks_iff : p ∈ lifecycleCallbacks root ↔
    (∃ call ∈ root.calls, hookCallback? call = some p) ∨
      p ∈ root.walk ∧ isLifecycleMethod p = true := by
  rw [(lifecycleCallbacks_perm root).mem_iff, List.mem_append, List.mem_filterMap, List.mem_filter]

/-! ## Ways to the callbacks -/

/-- Why a function runs on page entry. -/
inductive Cause where
  /-- It is handed to an effect hook. -/
  | handed
  /-- It has the name of a method that runs on page entry. -/
  | named

/-- A callback, the way that leads to it, and why it runs. -/
structure Callback where
  site : List Nat
  cause : Cause
  place : Place

/-- The way from a call to its first argument. -/
def firstArgumentWay (call : Node) : List Nat :=
  match call.field? "arguments" with
  | none => []
  | some args => [call.children.findIdx fun c => c.label.field == "arguments",
      args.children.findIdx fun c => c.isNamed && !c.isComment]

/-- The callback that the call at the end of a way hands to an effect hook. -/
def handedAt? (root : Place) (way : List Nat) : Option Callback :=
  (root.follow way).bind fun call =>
    if call.node.isCall then
      (hookCallback? call).map fun p => ⟨way ++ firstArgumentWay call.node, .handed, p⟩
    else none

/-- The callback at the end of a way that is one by its name. -/
def namedAt? (root : Place) (way : List Nat) : Option Callback :=
  (root.follow way).bind fun p => if isLifecycleMethod p then some ⟨way, .named, p⟩ else none

/-- The callbacks of a tree. -/
def callbacks (root : Place) : List Callback :=
  root.node.ways.filterMap (handedAt? root) ++ root.node.ways.filterMap (namedAt? root)

/-- The way to the first argument leads to the callback that is handed over. -/
theorem follow_firstArgumentWay {call : Place} (h : hookCallback? call = some p) :
    ∃ i j, firstArgumentWay call.node = [i, j] ∧ call.follow [i, j] = some p := by
  unfold hookCallback? at h
  split at h
  · obtain ⟨hhead, -⟩ := Option.filter_eq_some_iff.1 h
    unfold Place.arguments Place.field? at hhead
    cases hfield : call.node.field? "arguments" with
    | none =>
      rw [hfield] at hhead
      cases hhead
    | some args =>
      rw [hfield] at hhead
      have hargs : call.node.children[call.node.children.findIdx fun c =>
          c.label.field == "arguments"]? = some args := by
        rw [← List.find?_eq_getElem?_findIdx]
        exact hfield
      have hitems : args.items.head? =
          args.children[args.children.findIdx fun c => c.isNamed && !c.isComment]? := by
        rw [← List.find?_eq_getElem?_findIdx, ← List.head?_filter, Node.items, Node.namedChildren,
          List.filter_filter]
        exact congrArg List.head? (List.filter_congr fun c _ => Bool.and_comm _ _)
      refine ⟨_, _, by rw [firstArgumentWay, hfield], ?_⟩
      rw [Place.follow, hargs, Option.bind_some, Place.follow, ← hitems]
      change (args.items.map _).head? = some p at hhead
      rw [List.head?_map] at hhead
      cases hhead' : args.items.head? with
      | none =>
        rw [hhead'] at hhead
        cases hhead
      | some a =>
        rw [hhead'] at hhead
        exact hhead
  · cases h

variable {way : List Nat} {c : Callback}

/-- A callback is handed over at a way if a call stands there that hands it over. -/
theorem handedAt?_eq_some_iff : handedAt? root way = some c ↔
    ∃ call p, root.follow way = some call ∧ call.node.isCall = true ∧ hookCallback? call = some p ∧
      ⟨way ++ firstArgumentWay call.node, .handed, p⟩ = c := by
  unfold handedAt?
  rw [Option.bind_eq_some_iff]
  refine exists_congr fun call => ?_
  split
  · next hcall => simp [hcall]
  · next hcall => simp [hcall]

/-- A callback is named at a way if a method of page entry stands there. -/
theorem namedAt?_eq_some_iff : namedAt? root way = some c ↔
    ∃ p, root.follow way = some p ∧ isLifecycleMethod p = true ∧ ⟨way, .named, p⟩ = c := by
  unfold namedAt?
  rw [Option.bind_eq_some_iff]
  refine exists_congr fun p => ?_
  split
  · next hp => simp [hp]
  · next hp => simp [hp]

/-- The way to a callback leads to it. -/
theorem follow_site (h : c ∈ callbacks root) : root.follow c.site = some c.place := by
  rcases List.mem_append.1 h with h | h
  · obtain ⟨way, -, hat⟩ := List.mem_filterMap.1 h
    obtain ⟨call, p, hcall, -, hp, rfl⟩ := handedAt?_eq_some_iff.1 hat
    obtain ⟨i, j, hway, hfollow⟩ := follow_firstArgumentWay hp
    rw [Place.follow_append, hcall, hway]
    exact hfollow
  · obtain ⟨way, -, hat⟩ := List.mem_filterMap.1 h
    obtain ⟨p, hp, -, rfl⟩ := namedAt?_eq_some_iff.1 hat
    exact hp

/-- The callbacks of a tree are those that the rule goes through. -/
theorem map_place_callbacks (root : Place) :
    ((callbacks root).map Callback.place).Perm (lifecycleCallbacks root) := by
  have hhanded : (root.node.ways.filterMap (handedAt? root)).map Callback.place =
      root.calls.filterMap hookCallback? := by
    rw [Place.calls, Place.findAll, List.filterMap_filter, ← Place.filterMap_ways, List.map_filterMap]
    refine List.filterMap_congr fun way _ => ?_
    unfold handedAt?
    cases root.follow way with
    | none => rfl
    | some call =>
      rw [Option.bind_some, Option.bind_some]
      split
      · rw [Option.map_map]
        exact Option.map_id'
      · rfl
  have hnamed : (root.node.ways.filterMap (namedAt? root)).map Callback.place =
      root.walk.filter isLifecycleMethod := by
    rw [← List.filterMap_eq_filter, ← Place.filterMap_ways, List.map_filterMap]
    refine List.filterMap_congr fun way _ => ?_
    unfold namedAt?
    cases root.follow way with
    | none => rfl
    | some p =>
      rw [Option.bind_some, Option.bind_some, Option.guard]
      split <;> rfl
  rw [callbacks, List.map_append, hhanded, hnamed]
  exact (lifecycleCallbacks_perm root).symm

/-- No callback is listed twice. -/
theorem nodup_callbacks (root : Place) : (callbacks root).Nodup := by
  refine List.Nodup.append (List.Nodup.filterMap ?_ root.node.nodup_ways)
    (List.Nodup.filterMap ?_ root.node.nodup_ways) ?_
  · intro way way' c hc hc'
    obtain ⟨call, p, -, -, hp, rfl⟩ := handedAt?_eq_some_iff.1 hc
    obtain ⟨call', p', -, -, hp', heq⟩ := handedAt?_eq_some_iff.1 hc'
    obtain ⟨i, j, hargument, -⟩ := follow_firstArgumentWay hp
    obtain ⟨i', j', hargument', -⟩ := follow_firstArgumentWay hp'
    have hsite := congrArg Callback.site heq
    dsimp only at hsite
    rw [hargument, hargument'] at hsite
    exact (List.append_inj_left' hsite rfl).symm
  · intro way way' c hc hc'
    obtain ⟨p, -, -, rfl⟩ := namedAt?_eq_some_iff.1 hc
    obtain ⟨p', -, -, heq⟩ := namedAt?_eq_some_iff.1 hc'
    exact (congrArg Callback.site heq).symm
  · intro c hhanded hnamed
    obtain ⟨way, -, hat⟩ := List.mem_filterMap.1 hhanded
    obtain ⟨way', -, hat'⟩ := List.mem_filterMap.1 hnamed
    obtain ⟨call, p, -, -, -, rfl⟩ := handedAt?_eq_some_iff.1 hat
    obtain ⟨p', -, -, heq⟩ := namedAt?_eq_some_iff.1 hat'
    cases congrArg Callback.cause heq

end InitialLoading

end UxLint
