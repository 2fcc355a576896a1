import UxLint.Proofs.Pattern.Reading
import UxLint.Proofs.Text.LineFeeds
import UxLint.Source.Unit
import Mathlib.Data.List.Infix

/-!
# The regions of a file

A unit holds a script and markup that were cut out of its file. Each of them stands in the file from some
offset on, and the unit knows how many lines of the file come before it (`regions_of_read?`). The tree of
a unit was laid over its script.
-/

set_option autoImplicit false

namespace UxLint

/-- What comes before the last occurrence of a piece is a start of the text. -/
theorem Text.prefix_of_beforeLast? {piece t before : Text} (h : beforeLast? piece t = some before) :
    before <+: t := by
  induction t generalizing before with
  | nil =>
    unfold beforeLast? at h
    split at h
    · cases h
      exact List.nil_prefix
    · cases h
  | cons c t ih =>
    unfold beforeLast? at h
    split at h
    · next r hr =>
      cases h
      exact List.cons_prefix_cons.2 ⟨rfl, ih hr⟩
    · split at h
      · cases h
        exact List.nil_prefix
      · cases h

namespace SourceUnit

/-- The offset at which the contents of a script block start. -/
def blockStart (block : Pattern.Match) : Nat := ((block.capture? 2).map (·.start)).getD 0

/-- The offset at which the script of a file starts. -/
def scriptStart (path : String) (t : Text) : Nat :=
  match Format.ofPath? path with
  | some .component => ((Source.scriptBlock.search? t).map blockStart).getD 0
  | _ => 0

/-- The offset at which the markup of a file starts. -/
def markupStart (path : String) (t : Text) : Nat :=
  match Format.ofPath? path with
  | some .component => ((Source.templateOpening.search? t).map (·.stop.offset)).getD 0
  | _ => 0

/-- The script and the markup of a unit stand in the file, and the unit knows the lines before them. -/
structure Regions (u : SourceUnit) (path : String) (t : Text) : Prop where
  /-- The script stands at its offset. -/
  script : u.script <+: t.drop (scriptStart path t)
  /-- The unit knows the lines before the script. -/
  scriptOffset : u.scriptOffset = Text.lineFeeds (t.take (scriptStart path t))
  /-- The markup stands at its offset. -/
  markup : ∀ m, u.markup = some m → m <+: t.drop (markupStart path t)
  /-- The unit knows the lines before the markup. -/
  markupOffset : ∀ m, u.markup = some m →
    u.markupOffset = Text.lineFeeds (t.take (markupStart path t))

variable {grammars : Grammars} {path : String} {t : Text} {u : SourceUnit}

/-- The contents of a script block stand in the text. -/
theorem blockParts_prefix {block : Pattern.Match} (h : Source.scriptBlock.search? t = some block) :
    (blockParts t block).2.1 <+: t.drop (blockStart block) := by
  unfold blockParts blockStart Pattern.Match.group
  dsimp only
  cases hcapture : block.capture? 2 with
  | none => exact List.nil_prefix
  | some k =>
    have hk : k ∈ block.stop.captures := List.mem_of_find?_eq_some hcapture
    have hon := (Pattern.search?_found h).stop_on.captures k hk
    change k.source.take k.length <+: t.drop k.start
    rw [hon.source]
    exact List.take_prefix _ _

/-- The template of a component stands behind its opening tag. -/
theorem template?_prefix {m : Text} {lines : Nat} (h : template? t = some (m, lines)) :
    ∃ opening, Source.templateOpening.search? t = some opening ∧
      m <+: t.drop opening.stop.offset ∧ lines = Text.lineFeeds (t.take opening.stop.offset) := by
  unfold template? at h
  split at h
  · next opening before hopening hbefore =>
    split at h
    · cases h
      refine ⟨opening, hopening, ?_, rfl⟩
      exact List.IsPrefix.drop (Text.prefix_of_beforeLast? hbefore) _
    · cases h
  · cases h

/-- Where a component's markup and its lines come from. -/
theorem markup_withTemplate {grammar : Grammar} {tree : Option Node} {script m : Text}
    {scriptOffset : Nat}
    (h : (withTemplate path t grammar tree script scriptOffset).markup = some m) :
    template? t = some (m, (withTemplate path t grammar tree script scriptOffset).markupOffset) := by
  unfold withTemplate at h ⊢
  dsimp only at h ⊢
  obtain ⟨r, hr, rfl⟩ := Option.map_eq_some_iff.1 h
  rw [hr]
  rfl

/-- The regions of a component, given where its script comes from. -/
theorem regions_withTemplate (hformat : Format.ofPath? path = some .component) {grammar : Grammar}
    {tree : Option Node} {script : Text} {scriptOffset : Nat}
    (hscript : script <+: t.drop (scriptStart path t))
    (hoffset : scriptOffset = Text.lineFeeds (t.take (scriptStart path t))) :
    (withTemplate path t grammar tree script scriptOffset).Regions path t := by
  have hmarkup : ∀ m, (withTemplate path t grammar tree script scriptOffset).markup = some m →
      m <+: t.drop (markupStart path t) ∧
        (withTemplate path t grammar tree script scriptOffset).markupOffset =
          Text.lineFeeds (t.take (markupStart path t)) := by
    intro m hm
    obtain ⟨opening, hopening, hstands, hlines⟩ := template?_prefix (markup_withTemplate hm)
    have hstart : markupStart path t = opening.stop.offset := by
      unfold markupStart
      rw [hformat, hopening]
      rfl
    rw [hstart]
    exact ⟨hstands, hlines⟩
  exact ⟨hscript, hoffset, fun m hm => (hmarkup m hm).1, fun m hm => (hmarkup m hm).2⟩

/-- A page is one region of markup. -/
theorem regions_ofPage (hformat : Format.ofPath? path = some .page) :
    (ofPage path t).Regions path t := by
  have hscript : scriptStart path t = 0 := by
    unfold scriptStart
    rw [hformat]
  have hmarkup : markupStart path t = 0 := by
    unfold markupStart
    rw [hformat]
  refine ⟨List.nil_prefix, ?_, ?_, ?_⟩
  · rw [hscript]
    rfl
  · rintro m ⟨⟩
    rw [hmarkup]
    exact List.prefix_refl t
  · rintro m ⟨⟩
    rw [hmarkup]
    rfl

/-- A script is one region of code. -/
theorem regions_of_ofScript? {grammar : Grammar}
    (hformat : Format.ofPath? path = some (.script grammar))
    (h : ofScript? grammars path grammar t = some u) : u.Regions path t := by
  have hscript : scriptStart path t = 0 := by
    unfold scriptStart
    rw [hformat]
  obtain ⟨tree, -, rfl⟩ := Option.map_eq_some_iff.1 h
  refine ⟨?_, ?_, ?_, ?_⟩
  · rw [hscript]
    exact List.prefix_refl t
  · rw [hscript]
    rfl
  · rintro m ⟨⟩
  · rintro m ⟨⟩

/-- A component has a region of code and one of markup. -/
theorem regions_of_ofComponent? (hformat : Format.ofPath? path = some .component)
    (h : ofComponent? grammars path t = some u) : u.Regions path t := by
  have hstart : ∀ found, Source.scriptBlock.search? t = found →
      scriptStart path t = (found.map blockStart).getD 0 := by
    rintro found rfl
    unfold scriptStart
    rw [hformat]
  unfold ofComponent? at h
  split at h
  · next hnone =>
    cases h
    refine regions_withTemplate hformat List.nil_prefix ?_
    rw [hstart none hnone]
    rfl
  · next block hblock =>
    obtain ⟨tree, -, rfl⟩ := Option.map_eq_some_iff.1 h
    refine regions_withTemplate hformat ?_ ?_
    · rw [hstart (some block) hblock]
      exact blockParts_prefix hblock
    · rw [hstart (some block) hblock]
      rfl

/-- Both regions of a file that can be read stand where the unit says. -/
theorem regions_of_read? (h : read? grammars path t = some u) : u.Regions path t := by
  unfold read? at h
  split at h
  · cases h
  · next hformat =>
    cases h
    exact regions_ofPage hformat
  · next hformat => exact regions_of_ofComponent? hformat h
  · next grammar hformat => exact regions_of_ofScript? hformat h

/-- A script with a tree is read whole. -/
theorem read?_script {grammar : Grammar} {root : Node}
    (hformat : Format.ofPath? path = some (.script grammar))
    (htree : grammars.tree? grammar t = some root) :
    read? grammars path t = some ⟨path, grammar.name, some root, t, none, 0, 0⟩ := by
  unfold read? ofScript?
  rw [hformat]
  dsimp only
  rw [htree]
  rfl

/-- A component is read as its first script block and its template. -/
theorem read?_component {grammar : Grammar} {root : Node} {script markup : Text}
    {scriptOffset markupOffset : Nat} (hformat : Format.ofPath? path = some .component)
    (hscript : (Source.scriptBlock.search? t).map (blockParts t) = some (grammar, script, scriptOffset))
    (htemplate : template? t = some (markup, markupOffset))
    (htree : grammars.tree? grammar script = some root) :
    read? grammars path t = some ⟨path, Format.name .component ++ ":" ++ grammar.name, some root, script,
      some markup, scriptOffset, markupOffset⟩ := by
  obtain ⟨block, hblock, hparts⟩ := Option.map_eq_some_iff.1 hscript
  unfold read? ofComponent?
  rw [hformat]
  dsimp only
  rw [hblock]
  dsimp only
  rw [hparts]
  dsimp only
  rw [htree]
  unfold withTemplate
  rw [htemplate]
  rfl

/-- The tree of a unit was laid over its script. -/
theorem tree_of_read? (h : read? grammars path t = some u) {root : Node} (htree : u.tree = some root) :
    ∃ grammar, grammars.tree? grammar u.script = some root := by
  unfold read? at h
  split at h
  · cases h
  · cases h
    cases htree
  · unfold ofComponent? at h
    split at h
    · cases h
      cases htree
    · obtain ⟨tree, hparse, rfl⟩ := Option.map_eq_some_iff.1 h
      cases htree
      exact ⟨_, hparse⟩
  · obtain ⟨tree, hparse, rfl⟩ := Option.map_eq_some_iff.1 h
    cases htree
    exact ⟨_, hparse⟩

end SourceUnit

end UxLint
