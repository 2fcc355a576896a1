import UxLint.Proofs.Resolver.Calls
import UxLint.Proofs.Resolver.Candidates
import UxLint.Proofs.Syntax.Inside

/-!
# Declarations that are looked for

Before a file is parsed, its text is searched for the action and for the declaring function. Nothing is
lost by that: however a declaration is written, both names stand in the tree as they stand in the file
(`mentions_of_declaration?`). The search therefore comes to what it comes to if every candidate is parsed,
the first file that declares the action, and a file that cannot be read or parsed only passes the question
on to the next (`find?_eq_plainFind?`).
-/

set_option autoImplicit false

namespace UxLint

/-- A text holds another one if this is a piece of it. -/
theorem Text.holds_iff {piece t : Text} : Text.holds piece t = true ↔ piece <:+: t := by
  induction t with
  | nil => rw [Text.holds, List.isEmpty_iff, List.infix_nil]
  | cons c t ih =>
    rw [Text.holds, Bool.or_eq_true, List.isPrefixOf_iff_prefix, ih, List.infix_cons_iff]

/-! ## What a tree mentions -/

namespace Node

/-- A word occurs in the text of a node of the tree. -/
def Mentions (root : Node) (word : String) : Prop :=
  ∃ n, root.Inside n ∧ word.toList <:+: n.text.toList

variable {root n m : Node} {o : Option Node} {s : String}

/-- Every tree mentions the empty text. -/
theorem mentions_empty (root : Node) : root.Mentions "" :=
  ⟨root, .self, List.nil_infix⟩

/-- A tree mentions the texts of its nodes. -/
theorem mentions_text (h : root.Inside n) : root.Mentions n.text :=
  ⟨n, h, List.infix_rfl⟩

/-- A tree mentions the text of a node that may be missing. -/
theorem mentions_textOf (h : ∀ m ∈ o, root.Inside m) : root.Mentions (textOf o) := by
  cases o with
  | none => exact mentions_empty root
  | some m => exact mentions_text (h m rfl)

/-- What fills a field stands inside of the tree. -/
theorem inside_field? (h : root.Inside n) (name : String) : ∀ m ∈ n.field? name, root.Inside m :=
  fun _ hm => h.field? hm

/-- A tree mentions the texts in fields. -/
theorem mentions_fieldText (h : root.Inside n) (name : String) : root.Mentions (n.fieldText name) :=
  mentions_textOf (inside_field? h name)

mutual

/-- Unwrapping stays in the tree. -/
theorem inside_unwrap? (n : Node) (hm : n.unwrap? = some m) : n.Inside m := by
  match n with
  | .node l cs =>
    rw [unwrap?] at hm
    split at hm
    · obtain ⟨c, hc, hin⟩ := inside_unwrapFirst? cs hm
      exact (Inside.self.child hc).trans hin
    · exact Option.some.inj hm ▸ .self

/-- What is unwrapped first stands inside of one of the values. -/
theorem inside_unwrapFirst? (cs : List Node) (hm : unwrapFirst? cs = some m) :
    ∃ c ∈ cs, c.Inside m := by
  match cs with
  | [] => simp [unwrapFirst?] at hm
  | c :: cs =>
    rw [unwrapFirst?] at hm
    split at hm
    · exact ⟨c, List.mem_cons_self, inside_unwrap? c hm⟩
    · obtain ⟨d, hd, hin⟩ := inside_unwrapFirst? cs hm
      exact ⟨d, List.mem_cons_of_mem c hd, hin⟩

end

/-- What stands between the first and the last character of a text is a piece of it. -/
theorem inside_infix (s : String) : (inside s).toList <:+: s.toList := by
  rw [inside, String.toList_ofList]
  exact (List.dropLast_prefix _).isInfix.trans (List.drop_suffix 1 _).isInfix

/-- A tree mentions the values of its strings. -/
theorem mentions_stringValue? (h : root.Inside n) (hs : n.stringValue? = some s) :
    root.Mentions s := by
  unfold stringValue? at hs
  split at hs
  · cases hs
  · next m hm =>
    have hquoted : root.Mentions (inside m.text) :=
      ⟨m, h.trans (inside_unwrap? n hm), inside_infix m.text⟩
    split at hs
    · exact Option.some.inj hs ▸ hquoted
    · split at hs
      · split at hs
        · cases hs
        · exact Option.some.inj hs ▸ hquoted
      · cases hs

/-- A tree mentions the value of a string that may be missing. -/
theorem mentions_stringValueOf? (h : ∀ m ∈ o, root.Inside m) (hs : stringValueOf? o = some s) :
    root.Mentions s := by
  obtain ⟨m, hm, hs⟩ := Option.bind_eq_some_iff.1 hs
  exact mentions_stringValue? (h m hm) hs

/-- A tree mentions the properties that are accessed in it. -/
theorem mentions_memberPropertyOf (h : ∀ m ∈ o, root.Inside m) :
    root.Mentions (memberPropertyOf o) := by
  cases o with
  | none => exact mentions_empty root
  | some n =>
    rw [memberPropertyOf, memberProperty]
    split
    · exact mentions_empty root
    · next m hm =>
      split
      · exact mentions_fieldText ((h n rfl).trans (inside_unwrap? n hm)) "property"
      · exact mentions_empty root

/-- A key is mentioned, with its quotes or without them. -/
theorem mentions_key (h : root.Inside n) (name : String) :
    root.Mentions (firstNonempty ((stringValueOf? (n.field? name)).getD "") (n.fieldText name)) := by
  unfold firstNonempty
  split
  · exact mentions_fieldText h name
  · cases hs : stringValueOf? (n.field? name) with
    | none => exact mentions_empty root
    | some s => exact mentions_stringValueOf? (inside_field? h name) hs

end Node

/-! ## What a declaration mentions -/

namespace Action

open Node

variable {root n : Node} {function action flag name : String} {value : Option Node}

/-- However a name is declared, the tree mentions it. -/
theorem mentions_of_declared? (h : root.Inside n) (hd : declared? n = some (name, value)) :
    root.Mentions name ∧ ∀ m ∈ value, root.Inside m := by
  unfold declared? at hd
  split at hd
  · obtain ⟨rfl, rfl⟩ := Prod.mk.inj (Option.some.inj hd)
    refine ⟨mentions_textOf fun m hm => ?_, inside_field? h _⟩
    exact h.field? (Option.filter_eq_some_iff.1 hm).1
  · split at hd
    · obtain ⟨rfl, rfl⟩ := Prod.mk.inj (Option.some.inj hd)
      exact ⟨mentions_memberPropertyOf (inside_field? h _), inside_field? h _⟩
    · split at hd
      · obtain ⟨rfl, rfl⟩ := Prod.mk.inj (Option.some.inj hd)
        exact ⟨mentions_key h "key", inside_field? h _⟩
      · cases hd

/-- A call whose first string is taken mentions the function that it calls. -/
theorem mentions_of_firstStringOf? (h : root.Inside n) (hs : firstStringOf? function n = some flag) :
    root.Mentions function := by
  unfold firstStringOf? at hs
  split at hs
  · next hcall =>
    have hname : textOf n.callTarget? = function := eq_of_beq (Bool.and_eq_true_iff.1 hcall).2
    exact hname ▸ mentions_textOf (inside_field? h _)
  · cases hs

/-- A tree that declares a flag for an action mentions the action and the declaring function. -/
theorem mentions_of_flagAt? (h : root.Inside n) (hf : flagAt? function action n = some flag) :
    root.Mentions action ∧ root.Mentions function := by
  unfold flagAt? at hf
  split at hf
  · cases hf
  · next name value hd =>
    obtain ⟨hname, hvalue⟩ := mentions_of_declared? h hd
    split at hf
    · next heq =>
      obtain ⟨call, hcall, hs⟩ := Option.bind_eq_some_iff.1 hf
      obtain ⟨m, hm, hcall⟩ := Option.bind_eq_some_iff.1 hcall
      have hin : root.Inside call := (hvalue m hm).trans (inside_unwrap? m hcall)
      exact ⟨eq_of_beq heq ▸ hname, mentions_of_firstStringOf? hin hs⟩
    · cases hf

/-- A tree that declares an action mentions the action and the declaring function. -/
theorem mentions_of_declaration? (h : declaration? function action root = some flag) :
    root.Mentions action ∧ root.Mentions function := by
  obtain ⟨n, hn, hf⟩ := List.exists_of_findSome?_eq_some h
  exact mentions_of_flagAt? (root.inside_of_mem_walk hn) hf

end Action

/-! ## The plain search -/

namespace Resolver

variable (r : Resolver)

/-- The declaration of an action in the text of a file, which is always parsed. -/
def plainBindingInText? (action file : String) (t : Text) : Option Binding :=
  (SourceUnit.readScript? r.grammars file t).bind fun root =>
    (Action.declaration? r.declareFunction action root).map fun flag => ⟨action, flag, file⟩

/-- The declaration of an action in a file, which is always parsed. -/
def plainBindingIn? (action file : String) : Except Fault (Option Binding) :=
  (r.project.readable? file).map fun text => text.bind (r.plainBindingInText? action file)

/-- The first declaration of an action in several files, each of which is parsed. -/
def plainFirstBinding? (action : String) : List String → Except Fault (Option Binding)
  | [] => .ok none
  | file :: rest => do
    match ← r.plainBindingIn? action file with
    | some b => return some b
    | none => plainFirstBinding? action rest

/-- The declaration of an action as seen from a file, found by parsing every candidate. -/
def plainFind? (action : String) (u : SourceUnit) : Except Fault (Option Binding) := do
  r.plainFirstBinding? action (← r.candidates u)

/-- The file of a binding is read and parsed, and declares the action with the flag. -/
def Declares (b : Binding) : Prop :=
  ∃ t root, r.project.read b.source = .ok t ∧
    SourceUnit.readScript? r.grammars b.source t = some root ∧
    Action.declaration? r.declareFunction b.action root = some b.flag

/-- Why a file is no answer to the question where an action is declared. -/
inductive PassedOver (action file : String) : Prop where
  /-- The file system does not hand it out. -/
  | unreadable (e : FileError) (hread : r.project.read file = .error e)
      (hpassed : e.isOfFileSystem = true)
  /-- There is no script in it, or a malformed one. -/
  | unparsable (t : Text) (hread : r.project.read file = .ok t)
      (hnone : SourceUnit.readScript? r.grammars file t = none)
  /-- It declares other things. -/
  | undeclared (t : Text) (root : Node) (hread : r.project.read file = .ok t)
      (hroot : SourceUnit.readScript? r.grammars file t = some root)
      (hnone : Action.declaration? r.declareFunction action root = none)

variable {r} {action file : String} {b : Binding}

/-- The plain search finds a flag in a text exactly if the text can be read and declares it. -/
theorem plainBindingInText?_eq_some_iff {t : Text} :
    r.plainBindingInText? action file t = some b ↔ b.action = action ∧ b.source = file ∧
      ∃ root, SourceUnit.readScript? r.grammars file t = some root ∧
        Action.declaration? r.declareFunction action root = some b.flag := by
  simp only [plainBindingInText?, Option.bind_eq_some_iff, Option.map_eq_some_iff]
  constructor
  · rintro ⟨root, hroot, flag, hflag, rfl⟩
    exact ⟨rfl, rfl, root, hroot, hflag⟩
  · rintro ⟨rfl, rfl, root, hroot, hflag⟩
    exact ⟨root, hroot, b.flag, hflag, rfl⟩

/-- The plain search finds nothing in a text exactly if this cannot be read or declares nothing. -/
theorem plainBindingInText?_eq_none_iff {t : Text} :
    r.plainBindingInText? action file t = none ↔
      SourceUnit.readScript? r.grammars file t = none ∨
        ∃ root, SourceUnit.readScript? r.grammars file t = some root ∧
          Action.declaration? r.declareFunction action root = none := by
  unfold plainBindingInText?
  cases SourceUnit.readScript? r.grammars file t <;> simp

/-- What looking into a file comes to: its text is looked into, or it is passed over, or its path is one
that no file system is asked for. -/
theorem plainBindingIn?_eq (r : Resolver) (action file : String) : r.plainBindingIn? action file =
    match r.project.read file with
    | .ok t => .ok (r.plainBindingInText? action file t)
    | .error e => if e.isOfFileSystem then .ok none else .error (.file file e) := by
  unfold plainBindingIn? Project.readable?
  cases r.project.read file with
  | ok t => rfl
  | error e => cases e <;> rfl

/-- The plain search finds a flag in a file exactly if the file declares it. -/
theorem plainBindingIn?_eq_some_iff : r.plainBindingIn? action file = .ok (some b) ↔
    b.action = action ∧ b.source = file ∧ r.Declares b := by
  rw [plainBindingIn?_eq]
  constructor
  · intro h
    split at h
    · next t hread =>
      obtain ⟨rfl, rfl, root, hroot, hflag⟩ :=
        plainBindingInText?_eq_some_iff.1 (Except.ok.inj h)
      exact ⟨rfl, rfl, t, root, hread, hroot, hflag⟩
    · split at h <;> cases h
  · rintro ⟨rfl, rfl, t, root, hread, hroot, hflag⟩
    rw [hread]
    exact congrArg Except.ok (plainBindingInText?_eq_some_iff.2 ⟨rfl, rfl, root, hroot, hflag⟩)

/-- The plain search finds nothing in a file exactly if the file is passed over. -/
theorem plainBindingIn?_eq_none_iff :
    r.plainBindingIn? action file = .ok none ↔ r.PassedOver action file := by
  rw [plainBindingIn?_eq]
  constructor
  · intro h
    split at h
    · next t hread =>
      rcases plainBindingInText?_eq_none_iff.1 (Except.ok.inj h) with hnone | ⟨root, hroot, hnone⟩
      · exact .unparsable t hread hnone
      · exact .undeclared t root hread hroot hnone
    · next e hread =>
      split at h
      · next hpassed => exact .unreadable e hread hpassed
      · cases h
  · intro h
    cases h with
    | unreadable e hread hpassed => rw [hread]; exact if_pos hpassed
    | unparsable t hread hnone =>
      rw [hread]
      exact congrArg Except.ok (plainBindingInText?_eq_none_iff.2 (.inl hnone))
    | undeclared t root hread hroot hnone =>
      rw [hread]
      exact congrArg Except.ok (plainBindingInText?_eq_none_iff.2 (.inr ⟨root, hroot, hnone⟩))

/-- The first file decides, or hands the question on. -/
theorem plainFirstBinding?_cons (r : Resolver) (action file : String) (rest : List String) :
    r.plainFirstBinding? action (file :: rest) =
      match r.plainBindingIn? action file with
      | .error fault => .error fault
      | .ok (some b) => .ok (some b)
      | .ok none => r.plainFirstBinding? action rest := by
  rw [plainFirstBinding?]
  rcases r.plainBindingIn? action file with fault | _ | b <;> rfl

/-- The plain search finds nothing in a row of files exactly if all are passed over. -/
theorem plainFirstBinding?_eq_none_iff {files : List String} :
    r.plainFirstBinding? action files = .ok none ↔ ∀ file ∈ files, r.PassedOver action file := by
  induction files with
  | nil => simp [plainFirstBinding?]
  | cons file rest ih =>
    rw [plainFirstBinding?_cons, List.forall_mem_cons, ← plainBindingIn?_eq_none_iff, ← ih]
    rcases r.plainBindingIn? action file with fault | _ | b <;> simp

/-- The plain search finds a flag in a row of files exactly if it is declared in one and all files in front of
that are passed over. -/
theorem plainFirstBinding?_eq_some_iff {files : List String} :
    r.plainFirstBinding? action files = .ok (some b) ↔
      b.action = action ∧ r.Declares b ∧
        ∃ before after, files = before ++ b.source :: after ∧
          ∀ file ∈ before, r.PassedOver action file := by
  induction files with
  | nil => simp [plainFirstBinding?]
  | cons file rest ih =>
    rw [plainFirstBinding?_cons]
    constructor
    · intro h
      split at h
      · cases h
      · next b' hb =>
        obtain rfl : b' = b := Option.some.inj (Except.ok.inj h)
        obtain ⟨haction, rfl, hdeclares⟩ := plainBindingIn?_eq_some_iff.1 hb
        exact ⟨haction, hdeclares, [], rest, rfl, by simp⟩
      · next hnone =>
        obtain ⟨haction, hdeclares, before, after, rfl, hbefore⟩ := ih.1 h
        refine ⟨haction, hdeclares, file :: before, after, rfl, List.forall_mem_cons.2 ⟨?_, hbefore⟩⟩
        exact plainBindingIn?_eq_none_iff.1 hnone
    · rintro ⟨haction, hdeclares, before, after, hfiles, hbefore⟩
      cases before with
      | nil =>
        obtain ⟨rfl, -⟩ := List.cons.inj hfiles
        rw [plainBindingIn?_eq_some_iff.2 ⟨haction, rfl, hdeclares⟩]
      | cons f before =>
        obtain ⟨rfl, rfl⟩ := List.cons.inj hfiles
        obtain ⟨hf, hbefore⟩ := List.forall_mem_cons.1 hbefore
        rw [plainBindingIn?_eq_none_iff.2 hf]
        exact ih.2 ⟨haction, hdeclares, before, after, rfl, hbefore⟩

/-- A plain search only breaks down at a path that no file system is asked for. -/
theorem exists_plainFirstBinding? {files : List String}
    (h : ∀ file ∈ files, r.project.read file ≠ .error .nullCharacter) (action : String) :
    ∃ found, r.plainFirstBinding? action files = .ok found := by
  induction files with
  | nil => exact ⟨none, rfl⟩
  | cons file rest ih =>
    obtain ⟨hfile, hrest⟩ := List.forall_mem_cons.1 h
    rw [plainFirstBinding?_cons, plainBindingIn?_eq]
    rcases hread : r.project.read file with e | t
    · have hpassed : e.isOfFileSystem = true := by
        cases e with
        | nullCharacter => exact absurd hread hfile
        | _ => rfl
      simp only [hpassed, if_true]
      exact ih hrest
    · dsimp only
      rcases r.plainBindingInText? action file t with _ | b
      · exact ih hrest
      · exact ⟨some b, rfl⟩

/-! ## Nothing is lost by looking at the text first -/

/-- The text of every node of a candidate's tree is a piece of the text that was read. -/
def ReadsSlices (r : Resolver) (u : SourceUnit) : Prop :=
  ∀ files, r.candidates u = .ok files → ∀ file ∈ files, ∀ t, r.project.read file = .ok t →
    ∀ root, SourceUnit.readScript? r.grammars file t = some root →
      ∀ n, root.Inside n → n.text.toList <:+: t

/-- The fast search in a text answers what the plain one does, if the nodes of a tree are slices of the text. -/
theorem bindingInText?_eq_plain {t : Text}
    (hslices : ∀ root, SourceUnit.readScript? r.grammars file t = some root →
      ∀ n, root.Inside n → n.text.toList <:+: t) :
    r.bindingInText? action file t = r.plainBindingInText? action file t := by
  unfold bindingInText?
  split
  · next hmissing =>
    -- A declaration would have left both names in the text.
    cases hplain : r.plainBindingInText? action file t with
    | none => rfl
    | some b =>
      obtain ⟨-, -, root, hroot, hflag⟩ := plainBindingInText?_eq_some_iff.1 hplain
      obtain ⟨⟨n, hn, haction⟩, ⟨m, hm, hfunction⟩⟩ := Action.mentions_of_declaration? hflag
      rw [Text.holds_iff.2 (haction.trans (hslices root hroot n hn)),
        Text.holds_iff.2 (hfunction.trans (hslices root hroot m hm))] at hmissing
      cases hmissing
  · rfl

/-- The fast search in a file answers what the plain one does. -/
theorem bindingIn?_eq_plain
    (hslices : ∀ t, r.project.read file = .ok t →
      ∀ root, SourceUnit.readScript? r.grammars file t = some root →
        ∀ n, root.Inside n → n.text.toList <:+: t) :
    r.bindingIn? action file = r.plainBindingIn? action file := by
  unfold bindingIn? plainBindingIn? Project.readable?
  cases hread : r.project.read file with
  | ok t => exact congrArg Except.ok (bindingInText?_eq_plain (hslices t hread))
  | error e => cases e <;> rfl

/-- The fast search in a row of files answers what the plain one does. -/
theorem firstBinding?_eq_plain {files : List String}
    (h : ∀ file ∈ files, r.bindingIn? action file = r.plainBindingIn? action file) :
    r.firstBinding? action files = r.plainFirstBinding? action files := by
  induction files with
  | nil => rfl
  | cons file rest ih =>
    obtain ⟨hfile, hrest⟩ := List.forall_mem_cons.1 h
    rw [plainFirstBinding?_cons, firstBinding?, hfile, ih hrest]
    rcases r.plainBindingIn? action file with fault | _ | b <;> rfl

/-- The search that looks at the texts first answers as the search that parses every candidate: with the
declaration in the first file that is read, parsed and declares the action, and with nothing if there is
no such file. All files before it are passed over, those that cannot be read or parsed among them, and no
candidate stops the search. -/
theorem find?_eq_plainFind? (r : Resolver) (action : String) (u : SourceUnit)
    (hslices : r.ReadsSlices u) :
    r.find? action u = r.plainFind? action u ∧
      (∀ b, r.find? action u = .ok (some b) ↔ b.action = action ∧ r.Declares b ∧
        ∃ before after, r.candidates u = .ok (before ++ b.source :: after) ∧
          ∀ file ∈ before, r.PassedOver action file) ∧
      (r.find? action u = .ok none ↔
        ∃ files, r.candidates u = .ok files ∧ ∀ file ∈ files, r.PassedOver action file) ∧
      (r.project.top.nullFree = true → ∀ files, r.candidates u = .ok files →
        ∃ found, r.find? action u = .ok found) := by
  unfold find? plainFind?
  cases hfiles : r.candidates u with
  | error fault => simp [bind, Except.bind]
  | ok files =>
    have hplain : r.firstBinding? action files = r.plainFirstBinding? action files :=
      firstBinding?_eq_plain fun file hfile => bindingIn?_eq_plain (hslices files hfiles file hfile)
    simp only [bind, Except.bind, hplain, Except.ok.injEq, true_and]
    refine ⟨fun b => plainFirstBinding?_eq_some_iff, ?_, ?_⟩
    · rw [plainFirstBinding?_eq_none_iff]
      exact ⟨fun h => ⟨files, rfl, h⟩, fun ⟨_, h, hpassed⟩ => h ▸ hpassed⟩
    · rintro hnames _ rfl
      exact exists_plainFirstBinding? (read_candidate_ne hnames hfiles) action

/-- The nodes of the declaring script are cut out of it. -/
theorem readsSlices_inDeclaringProject : inDeclaringProject.ReadsSlices askingPage := by
  intro files hfiles file hfile t hread root hroot n hn
  rw [candidates_inDeclaringProject] at hfiles
  cases hfiles
  obtain rfl : file = "/save.js" := List.mem_singleton.1 hfile
  rw [read_inDeclaringProject] at hread
  cases hread
  obtain rfl : declaringOutline.laidOver (Text.encode declaringScript) = root :=
    Option.some.inj hroot
  have hevery : (declaringOutline.laidOver (Text.encode declaringScript)).every
      (fun m => Text.holds m.text.toList declaringScript) = true := by
    decide +kernel
  exact Text.holds_iff.1 (Node.holds_of_every (hn.every hevery))

/-- The page asks for an action that the script beside it declares. -/
theorem find?_eq_plainFind?_page : inDeclaringProject.ReadsSlices askingPage ∧
    inDeclaringProject.Declares ⟨"save", "saving", "/save.js"⟩ := by
  refine ⟨readsSlices_inDeclaringProject, ?_⟩
  obtain ⟨-, hsome, -⟩ := find?_eq_plainFind? inDeclaringProject "save" askingPage
    readsSlices_inDeclaringProject
  exact ((hsome _).1 find?_inDeclaringProject).2.1

end Resolver

end UxLint
