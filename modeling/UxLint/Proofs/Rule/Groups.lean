import UxLint.Proofs.Syntax.Inside
import UxLint.Rule.DoubleSubmit
import Mathlib.Data.List.Basic
import Mathlib.Data.List.Induction

/-!
# Groups of handlers

The first rule puts the handlers of a file that mean one function into one group. No two groups stand for one
stretch of the source, a group holds all handlers that mean its function in the order in which they were met, and
every function that a handler means has its group (`grouped_groupHandlers`). The groups of a file are thereby
known without the loop that makes them (`mem_groupsIn_iff`). A difference makes the rule look at all of them if
the file is new, and else at those that it touches (`mem_groupsOf_iff`).
-/

set_option autoImplicit false

namespace UxLint

/-- A difference adds a line from `first` to `last`. -/
def Diff.AddsWithin (d : Diff) (first last : Int) : Prop :=
  ∃ line ∈ d.added, first ≤ line.number ∧ line.number ≤ last

/-- A difference of a file that is not new touches some lines if it adds one of them. -/
theorem Diff.touches_iff {d : Diff} (hchanged : d.isNew = false) {first last : Int} :
    d.touches first last = true ↔ d.AddsWithin first last := by
  rw [touches, hchanged, Bool.false_or, List.any_eq_true]
  simp only [Bool.and_eq_true, decide_eq_true_eq, AddsWithin]

namespace DoubleSubmit

/-! ## Functions of handlers -/

/-- A place is a function of the tree of a unit. -/
def IsFunctionOf (u : SourceUnit) (f : Place) : Prop :=
  ∃ root, u.root? = some root ∧ f ∈ root.findAll Node.isFunction

/-- A function of the tree is one by its node. -/
theorem IsFunctionOf.isFunction {u : SourceUnit} {f : Place} (h : IsFunctionOf u f) :
    f.node.isFunction = true := by
  obtain ⟨root, -, hf⟩ := h
  exact (List.mem_filter.1 hf).2

section Grouping

variable {functions : Functions} {name : String} {f p : Place} {h : Handler} {groups : List Group}
  {g k : Group}

/-- A function that is found under a name is one of those under this name. -/
theorem exists_mem_of_functionAt? (h : functionAt? functions name = some p) :
    ∃ e ∈ functions, p ∈ e.2 := by
  obtain ⟨e, he, hp⟩ := Option.bind_eq_some_iff.1 h
  exact ⟨e, List.mem_of_find?_eq_some he, List.mem_of_head? hp⟩

/-- The function that a handler means is one of those it is looked up in. -/
theorem exists_mem_of_matchFunction? (h : matchFunction? functions name = some p) :
    ∃ e ∈ functions, p ∈ e.2 := by
  unfold matchFunction? at h
  split at h
  · next hexact =>
    cases h
    exact exists_mem_of_functionAt? hexact
  · dsimp only at h
    split at h
    · exact exists_mem_of_functionAt? h
    · obtain ⟨c, -, hc⟩ := Option.bind_eq_some_iff.1 h
      exact exists_mem_of_functionAt? hc

/-! ## Making groups -/

/-- Two groups stand for different stretches of the source. -/
def Apart (g g' : Group) : Prop :=
  ¬ (g.function.node.start = g'.function.node.start ∧ g.function.node.stop = g'.function.node.stop)

/-- After a handler was added, a group stands for its function, or for a function that there was a group for. -/
theorem function_of_mem_addHandler (hg : g ∈ addHandler f h groups) :
    g.function = f ∨ ∃ g' ∈ groups, g.function = g'.function := by
  induction groups with
  | nil =>
    rw [addHandler, List.mem_singleton] at hg
    exact .inl (hg ▸ rfl)
  | cons k rest ih =>
    rw [addHandler] at hg
    split at hg
    · rcases List.mem_cons.1 hg with rfl | hg
      · exact .inr ⟨k, List.mem_cons_self, rfl⟩
      · exact .inr ⟨g, List.mem_cons_of_mem k hg, rfl⟩
    · rcases List.mem_cons.1 hg with rfl | hg
      · exact .inr ⟨g, List.mem_cons_self, rfl⟩
      · refine (ih hg).imp id ?_
        rintro ⟨g', hg', heq⟩
        exact ⟨g', List.mem_cons_of_mem k hg', heq⟩

/-- Adding a handler keeps groups apart. -/
theorem pairwise_addHandler (hgroups : groups.Pairwise Apart) :
    (addHandler f h groups).Pairwise Apart := by
  induction groups with
  | nil => exact List.pairwise_singleton _ _
  | cons k rest ih =>
    obtain ⟨hk, hrest⟩ := List.pairwise_cons.1 hgroups
    rw [addHandler]
    split
    · exact List.pairwise_cons.2 ⟨hk, hrest⟩
    · next hother =>
      refine List.pairwise_cons.2 ⟨fun g hg => ?_, ih hrest⟩
      unfold Apart
      rcases function_of_mem_addHandler hg with heq | ⟨g', hg', heq⟩
      · rw [heq]
        simpa only [Bool.and_eq_true, beq_iff_eq] using hother
      · rw [heq]
        exact hk g' hg'

/-- Whether two functions cover the same octets. -/
def covers (f p : Place) : Bool :=
  f.node.start == p.node.start && f.node.stop == p.node.stop

/-- Whether a handler means a function, or one that covers the same octets. -/
def means (functions : Functions) (f : Place) (h : Handler) : Bool :=
  (matchFunction? functions h.name).any (covers f)

/-- Functions cover the same octets if they start and stop alike. -/
theorem covers_iff : covers f p = true ↔
    f.node.start = p.node.start ∧ f.node.stop = p.node.stop := by
  rw [covers, Bool.and_eq_true, beq_iff_eq, beq_iff_eq]

/-- A function covers the octets that it covers. -/
theorem covers_self (f : Place) : covers f f = true := covers_iff.2 ⟨rfl, rfl⟩

/-- Two functions that cover the octets of a third one cover those of each other. -/
theorem covers_of_covers {q : Place} (hp : covers p q = true) (hf : covers f q = true) :
    covers p f = true := by
  obtain ⟨hstart, hstop⟩ := covers_iff.1 hp
  obtain ⟨hstart', hstop'⟩ := covers_iff.1 hf
  exact covers_iff.2 ⟨hstart.trans hstart'.symm, hstop.trans hstop'.symm⟩

/-- Of two groups that stand apart, at most one stands for the octets of a function. -/
theorem covers_of_apart (hg : covers g.function f = true) (h : Apart g k) :
    covers k.function f = false :=
  Bool.eq_false_iff.2 fun hk => h (covers_iff.1 (covers_of_covers hg hk))

/-- Functions that cover the same octets are meant by the same handlers. -/
theorem means_congr (h : covers f p = true) : means functions f = means functions p := by
  obtain ⟨hstart, hstop⟩ := covers_iff.1 h
  have hcovers : covers f = covers p := by
    funext q
    rw [covers, covers, hstart, hstop]
  funext x
  rw [means, means, hcovers]

/-- Adding a handler changes the group of its function, or starts one if there is none. -/
theorem mem_addHandler (hapart : groups.Pairwise Apart) : g ∈ addHandler f h groups →
    (g ∈ groups ∧ covers g.function f = false) ∨
      (∃ k ∈ groups, covers k.function f = true ∧ g = { k with handlers := k.handlers ++ [h] }) ∨
      ((∀ k ∈ groups, covers k.function f = false) ∧ g = ⟨f, [h]⟩) := by
  induction groups with
  | nil => exact fun hg => .inr (.inr ⟨nofun, List.mem_singleton.1 hg⟩)
  | cons k rest ih =>
    obtain ⟨hk, hrest⟩ := List.pairwise_cons.1 hapart
    rw [addHandler]
    intro hg
    split at hg
    · next hcovers =>
      rcases List.mem_cons.1 hg with rfl | hg
      · exact .inr (.inl ⟨k, List.mem_cons_self, hcovers, rfl⟩)
      · exact .inl ⟨List.mem_cons_of_mem k hg, covers_of_apart hcovers (hk g hg)⟩
    · next hother =>
      have hkf : covers k.function f = false := Bool.eq_false_iff.2 hother
      rcases List.mem_cons.1 hg with rfl | hg
      · exact .inl ⟨List.mem_cons_self, hkf⟩
      · rcases ih hrest hg with ⟨hmem, hg⟩ | ⟨k', hk', hkf', rfl⟩ | ⟨hnone, rfl⟩
        · exact .inl ⟨List.mem_cons_of_mem k hmem, hg⟩
        · exact .inr (.inl ⟨k', List.mem_cons_of_mem k hk', hkf', rfl⟩)
        · exact .inr (.inr ⟨List.forall_mem_cons.2 ⟨hkf, hnone⟩, rfl⟩)

/-- After a handler was added, a group stands for its function, and for every function before it. -/
theorem exists_covers_addHandler (hp : p = f ∨ ∃ k ∈ groups, covers k.function p = true) :
    ∃ g ∈ addHandler f h groups, covers g.function p = true := by
  induction groups with
  | nil =>
    rcases hp with rfl | ⟨k, hk, -⟩
    · exact ⟨⟨p, [h]⟩, List.mem_singleton_self _, covers_self p⟩
    · cases hk
  | cons k rest ih =>
    rw [addHandler]
    split
    · next hcovers =>
      rcases hp with rfl | ⟨k', hk', hp⟩
      · exact ⟨_, List.mem_cons_self, hcovers⟩
      · rcases List.mem_cons.1 hk' with rfl | hk'
        · exact ⟨_, List.mem_cons_self, hp⟩
        · exact ⟨k', List.mem_cons_of_mem _ hk', hp⟩
    · by_cases hkp : covers k.function p = true
      · exact ⟨k, List.mem_cons_self, hkp⟩
      · have hrest : p = f ∨ ∃ k' ∈ rest, covers k'.function p = true := by
          refine hp.imp_right ?_
          rintro ⟨k', hk', hk'p⟩
          rcases List.mem_cons.1 hk' with rfl | hk'
          · exact absurd hk'p hkp
          · exact ⟨k', hk', hk'p⟩
        obtain ⟨g, hg, hgp⟩ := ih hrest
        exact ⟨g, List.mem_cons_of_mem k hg, hgp⟩

/-- Groups hold the handlers that were met, each in the group of the function that it means. -/
structure Grouped (functions : Functions) (met : List Handler) (groups : List Group) : Prop where
  apart : groups.Pairwise Apart
  /-- A group holds all handlers that mean its function. -/
  handlers : ∀ g ∈ groups, g.handlers = met.filter (means functions g.function)
  /-- The function of a group is the one that its first handler means. -/
  meant : ∀ g ∈ groups, ∃ first rest, g.handlers = first :: rest ∧
    matchFunction? functions first.name = some g.function
  /-- There is a group for every function that a handler means. -/
  present : ∀ h ∈ met, ∀ p, matchFunction? functions h.name = some p →
    ∃ g ∈ groups, covers g.function p = true

namespace Grouped

variable {met : List Handler}

/-- A handler that means a function without a group is the first to mean it. -/
theorem filter_means_of_absent (hgroups : Grouped functions met groups)
    (hnone : ∀ k ∈ groups, covers k.function f = false) : met.filter (means functions f) = [] := by
  refine List.filter_eq_nil_iff.2 fun x hx hmeans => ?_
  rw [means, Option.any_eq_true] at hmeans
  obtain ⟨q, hq, hfq⟩ := hmeans
  obtain ⟨g, hg, hgq⟩ := hgroups.present x hx q hq
  have hgf := covers_of_covers hgq hfq
  rw [hnone g hg] at hgf
  cases hgf

/-- A handler that means a function is put into the group of the function. -/
theorem add (hgroups : Grouped functions met groups) (hf : matchFunction? functions h.name = some f) :
    Grouped functions (met ++ [h]) (addHandler f h groups) := by
  have hmeans (p : Place) : means functions p h = covers p f := by
    rw [means, hf]
    rfl
  refine ⟨pairwise_addHandler hgroups.apart, fun g hg => ?_, fun g hg => ?_, fun x hx p hp => ?_⟩
  · rw [List.filter_append, List.filter_singleton, hmeans]
    rcases mem_addHandler hgroups.apart hg with ⟨hmem, hgf⟩ | ⟨k, hk, hkf, rfl⟩ | ⟨hnone, rfl⟩
    · rw [hgf, hgroups.handlers g hmem]
      exact (List.append_nil _).symm
    · rw [hkf, hgroups.handlers k hk]
      rfl
    · rw [hgroups.filter_means_of_absent hnone, covers_self]
      rfl
  · rcases mem_addHandler hgroups.apart hg with ⟨hmem, -⟩ | ⟨k, hk, -, rfl⟩ | ⟨-, rfl⟩
    · exact hgroups.meant g hmem
    · obtain ⟨first, rest, hhandlers, hmeant⟩ := hgroups.meant k hk
      exact ⟨first, rest ++ [h], by rw [hhandlers]; rfl, hmeant⟩
    · exact ⟨h, [], rfl, hf⟩
  · refine exists_covers_addHandler ?_
    rcases List.mem_append.1 hx with hx | hx
    · exact .inr (hgroups.present x hx p hp)
    · rw [List.mem_singleton.1 hx, hf] at hp
      exact .inl (Option.some.inj hp).symm

/-- A handler that means no function changes no group. -/
theorem pass (hgroups : Grouped functions met groups)
    (hnone : matchFunction? functions h.name = none) : Grouped functions (met ++ [h]) groups := by
  refine ⟨hgroups.apart, fun g hg => ?_, hgroups.meant, fun x hx p hp => ?_⟩
  · have hother : means functions g.function h = false := by
      rw [means, hnone]
      rfl
    rw [List.filter_append, List.filter_singleton, hother, hgroups.handlers g hg]
    exact (List.append_nil _).symm
  · rcases List.mem_append.1 hx with hx | hx
    · exact hgroups.present x hx p hp
    · rw [List.mem_singleton.1 hx, hnone] at hp
      cases hp

end Grouped

/-- The loop over the handlers puts each of them into the group of the function that it means. -/
theorem grouped_groupHandlers (functions : Functions) (handlers : List Handler) :
    Grouped functions handlers (groupHandlers functions handlers) := by
  induction handlers using List.reverseRecOn with
  | nil => exact ⟨List.Pairwise.nil, nofun, nofun, nofun⟩
  | append_singleton met h ih =>
    rw [groupHandlers, List.foldl_concat]
    cases hmatch : matchFunction? functions h.name with
    | none => exact ih.pass hmatch
    | some f => exact ih.add hmatch

end Grouping

/-! ## Groups of a file -/

/-- The handlers that mean some function and are not exempt, put into groups. -/
def groupsIn (settings : RuleSettings) (root : Place) (handlers : List Handler) : List Group :=
  groupHandlers root.functionIndex (handlers.filter fun h => !h.isWhitelisted settings)

/-- A group of a file: a function of its tree, and all handlers in the file that mean it and are not exempt, in
the order of their elements. The function is the one that the first of them means. -/
structure IsGroupOf (settings : RuleSettings) (u : SourceUnit) (root : Place) (handlers : List Handler)
    (g : Group) : Prop where
  tree : u.root? = some root
  discovered : Handler.discover u.elements = .ok handlers
  members : g.handlers = (handlers.filter fun h => !h.isWhitelisted settings).filter
    (means root.functionIndex g.function)
  meant : ∃ first rest, g.handlers = first :: rest ∧
    matchFunction? root.functionIndex first.name = some g.function

/-- A difference touches a group: it adds a line to the function, or to the opening tag of an element. -/
def Touches (d : Diff) (u : SourceUnit) (g : Group) : Prop :=
  d.AddsWithin (u.lineOf g.function.node) (u.endLineOf g.function.node) ∨
    ∃ h ∈ g.handlers, d.AddsWithin h.element.line h.element.endLine

section Groups

variable {settings : RuleSettings} {u : SourceUnit} {root : Place} {handlers : List Handler} {g : Group}
  {d : Diff}

/-- The handlers of a group are handlers of the file. -/
theorem IsGroupOf.mem_handlers (hg : IsGroupOf settings u root handlers g) {h : Handler}
    (hh : h ∈ g.handlers) : h ∈ handlers := by
  rw [hg.members] at hh
  exact (List.mem_filter.1 (List.mem_filter.1 hh).1).1

/-- A group stands for a function of the tree. -/
theorem IsGroupOf.isFunctionOf (hg : IsGroupOf settings u root handlers g) : IsFunctionOf u g.function := by
  obtain ⟨first, rest, -, hmeant⟩ := hg.meant
  obtain ⟨e, he, hmem⟩ := exists_mem_of_matchFunction? hmeant
  exact ⟨root, hg.tree, Place.mem_findAll_of_mem_functionIndex he hmem⟩

/-- The rule makes exactly the groups of the file. -/
theorem mem_groupsIn_iff (hroot : u.root? = some root)
    (hdiscovered : Handler.discover u.elements = .ok handlers) :
    g ∈ groupsIn settings root handlers ↔ IsGroupOf settings u root handlers g := by
  have hgrouped := grouped_groupHandlers root.functionIndex
    (handlers.filter fun h => !h.isWhitelisted settings)
  constructor
  · intro hg
    exact ⟨hroot, hdiscovered, hgrouped.handlers g hg, hgrouped.meant g hg⟩
  · rintro ⟨-, -, hmembers, first, rest, hfirst, hmeant⟩
    have hmem : first ∈ handlers.filter fun h => !h.isWhitelisted settings := by
      have hhead : first ∈ g.handlers := hfirst ▸ List.mem_cons_self
      rw [hmembers] at hhead
      exact (List.mem_filter.1 hhead).1
    obtain ⟨k, hk, hcovers⟩ := hgrouped.present first hmem g.function hmeant
    have hhandlers : k.handlers = g.handlers := by
      rw [hgrouped.handlers k hk, means_congr hcovers, hmembers]
    obtain ⟨first', rest', hfirst', hmeant'⟩ := hgrouped.meant k hk
    obtain rfl : first' = first :=
      (List.cons.inj (hfirst'.symm.trans (hhandlers.trans hfirst))).1
    have hfunction : k.function = g.function := Option.some.inj (hmeant'.symm.trans hmeant)
    have heq : k = g := by
      cases k
      cases g
      dsimp only at hfunction hhandlers
      rw [hfunction, hhandlers]
    exact heq ▸ hk

/-- Whether a change touches a group is decided by the lines that it adds. -/
theorem touched_iff (hchanged : d.isNew = false) : touched u d g = true ↔ Touches d u g := by
  rw [touched, Bool.or_eq_true, List.any_eq_true, Diff.touches_iff hchanged]
  simp only [Diff.touches_iff hchanged, Touches]

/-- The rule looks at all groups of a new file, and at those of a changed file that the change touches. -/
theorem mem_groupsOf_iff (hroot : u.root? = some root)
    (hdiscovered : Handler.discover u.elements = .ok handlers) :
    g ∈ groupsOf settings u root d handlers ↔
      IsGroupOf settings u root handlers g ∧ (d.isNew = true ∨ Touches d u g) := by
  have hlooked : (d.isNew || touched u d g) = true ↔ d.isNew = true ∨ Touches d u g := by
    cases hnew : d.isNew with
    | false => rw [Bool.false_or, touched_iff hnew, or_iff_right Bool.false_ne_true]
    | true => exact ⟨fun _ => .inl rfl, fun _ => rfl⟩
  rw [groupsOf, List.mem_filter, hlooked, ← mem_groupsIn_iff hroot hdiscovered]
  rfl

/-- The groups that the rule looks at stand apart. -/
theorem pairwise_groupsOf (settings : RuleSettings) (u : SourceUnit) (root : Place) (d : Diff)
    (handlers : List Handler) : (groupsOf settings u root d handlers).Pairwise Apart :=
  (grouped_groupHandlers _ _).apart.filter _

end Groups

end DoubleSubmit

end UxLint
