import UxLint.Proofs.Markup.Closing
import Mathlib.Data.List.Forall2

/-!
# Extracting written elements

A scan of a rendered forest finds the tag of each element, in the order in which the elements are written
(`exists_scanText`). Name, attributes and start are those of the element, whatever is in the values; the end
is that of its own closing tag if what is inside the element is clear of its name, and then the spans tell
which elements are inside which (`scanText_render`).
-/

set_option autoImplicit false

namespace UxLint.Markup

open Pattern Text

open Cursor (between)

variable {u r t : Text} {f : Forest} {around : List Nat} {s : Site} {m : Match}

/-- A match is that of the tag of a site. -/
def MatchOf (s : Site) (m : Match) : Prop :=
  ∃ u r, s.start = u.length ∧ m = tagMatch s.tag s.inside.isNone u (s.behind ++ r)

/-- In a text without brackets there is no tag. -/
theorem allFrom_tag_plain (ht : '<' ∉ t) :
    tag.allFrom (between u (t ++ r) []) = tag.allFrom (between (u ++ t) r []) := by
  apply allFrom_skip not_fits_tag_nil
  rintro v x v' rfl
  exact refuses_tag fun hx => absurd (by simp [hx]) ht

/-- The closing of a tag is no tag by itself. -/
theorem allFrom_tag_closing (t : WrittenTag) :
    tag.allFrom (between u (t.closing ++ r) []) = tag.allFrom (between (u ++ t.closing) r []) := by
  have hplain : '<' ∉ '/' :: (t.name ++ ['>']) := by simp [t.not_mem_name (c := '<') (by decide)]
  have hskip := allFrom_tag_plain (u := u ++ ['<']) (r := r) hplain
  rw [List.append_assoc] at hskip
  rw [WrittenTag.closing, List.cons_append, allFrom_next not_fits_tag_nil (refuses_tag fun _ => rfl)]
  exact hskip

/-- The opening of a tag is the first tag, and the others stand behind it. -/
theorem allFrom_tag_opening (t : WrittenTag) (selfClosing : Bool) :
    tag.allFrom (between u (t.opening selfClosing ++ r) []) =
      tagMatch t selfClosing u r :: tag.allFrom (between (u ++ t.opening selfClosing) r []) :=
  allFrom_match (List.cons_ne_nil _ _) (leads_tag t selfClosing)

/-- The scan for tags finds the tag of each site, and goes on behind the forest. -/
theorem exists_allFrom_tag (f : Forest) (around : List Nat) (u r : Text) :
    ∃ ms, tag.allFrom (between u (f.render ++ r) []) = ms ++ tag.allFrom (between (u ++ f.render) r []) ∧
      List.Forall₂ MatchOf (f.sites around u.length) ms := by
  induction f generalizing around u r with
  | nil => exact ⟨[], by simp [Forest.render], .nil⟩
  | text t plain rest ih =>
    obtain ⟨ms, hms, hsites⟩ := ih around (u ++ t) r
    refine ⟨ms, ?_, ?_⟩
    · rw [Forest.render, List.append_assoc, allFrom_tag_plain plain, hms, List.append_assoc]
    · rwa [List.length_append] at hsites
  | closed tag rest ih =>
    obtain ⟨ms, hms, hsites⟩ := ih around (u ++ tag.opening true) r
    refine ⟨tagMatch tag true u (rest.render ++ r) :: ms, ?_, .cons ⟨u, rest.render ++ r, rfl, rfl⟩ ?_⟩
    · rw [Forest.render, List.append_assoc, allFrom_tag_opening, hms, List.append_assoc, List.cons_append]
    · rwa [List.length_append] at hsites
  | element tag inside rest ih ih' =>
    obtain ⟨ms, hms, hsites⟩ := ih (u.length :: around) (u ++ tag.opening false)
      (tag.closing ++ (rest.render ++ r))
    obtain ⟨ms', hms', hsites'⟩ := ih' around (u ++ tag.opening false ++ inside.render ++ tag.closing) r
    refine ⟨tagMatch tag false u (inside.render ++ (tag.closing ++ (rest.render ++ r))) :: (ms ++ ms'), ?_,
      .cons ⟨u, rest.render ++ r, rfl, ?_⟩ (List.rel_append ?_ ?_)⟩
    · rw [Forest.render, List.append_assoc, List.append_assoc, List.append_assoc, allFrom_tag_opening, hms,
        allFrom_tag_closing, hms']
      simp
    · simp [Site.behind]
    · rwa [List.length_append] at hsites
    · simpa [Nat.add_assoc] using hsites'

/-- The elements of a rendered forest are those of the tags of its sites. -/
theorem exists_scanText (f : Forest) (lineOffset : Int) :
    ∃ ms, scanText f.render lineOffset = ms.map (elementOf f.render lineOffset) ∧
      List.Forall₂ MatchOf (f.sites [] 0) ms := by
  obtain ⟨ms, hms, hsites⟩ := exists_allFrom_tag f [] [] []
  have hend : tag.allFrom (between ([] ++ f.render) [] []) = [] := by
    apply allFrom_end
    intro v w hnil
    obtain ⟨rfl, rfl⟩ := List.append_eq_nil_iff.1 hnil.symm
    intro w r hw hfits
    obtain ⟨rfl, rfl⟩ := List.append_eq_nil_iff.1 hw.symm
    exact not_fits_tag_nil _ _ hfits
  rw [hend, List.append_nil, List.append_nil] at hms
  exact ⟨ms, congrArg (List.map _) hms, hsites⟩

/-! ## Elements -/

/-- An element has the name, the attributes and the start of a site. -/
structure Describes (s : Site) (e : Element) : Prop where
  name : e.name = String.ofList s.tag.name
  attributes : e.attributes = s.tag.attributes.map readAttribute
  start : e.start = s.start
  origin : e.origin = .text

variable {text : Text} {lineOffset : Int}

/-- The element of a match is that of its site. -/
theorem MatchOf.describes (h : MatchOf s m) : Describes s (elementOf text lineOffset m) := by
  obtain ⟨u, r, hstart, rfl⟩ := h
  constructor
  · exact congrArg String.ofList (group_name s.tag _ u _)
  · have hmiddle := group_middle s.tag s.inside.isNone u (s.behind ++ r)
    unfold elementOf
    dsimp only
    rw [hmiddle, attributesOf_middle]
  · exact hstart.symm
  · rfl

/-- A tag that closes itself ends the element. -/
theorem elementOf_stop_closed (text : Text) (lineOffset : Int) (t : WrittenTag) (u r : Text) :
    (elementOf text lineOffset (tagMatch t true u r)).stop = (u ++ t.opening true).length := by
  unfold elementOf
  dsimp only
  rw [group_slash]
  rfl

/-- An element whose tag does not close itself ends at the place that is found behind the tag. -/
theorem elementOf_stop (text : Text) (lineOffset : Int) {t : WrittenTag} {v w : Text} {ks : List Capture}
    (hplace : closingPlace? t.name 1 (tagMatch t false u r).stop = some (between v w ks)) :
    (elementOf text lineOffset (tagMatch t false u r)).stop = v.length := by
  unfold elementOf
  dsimp only
  rw [group_slash, group_name, hplace]
  rfl

/-- An element stops where its site does. -/
theorem MatchOf.stop (h : MatchOf s m) (hs : s.Clear) : (elementOf text lineOffset m).stop = s.stop := by
  obtain ⟨u, r, hstart, rfl⟩ := h
  obtain ⟨t, inside, start, around⟩ := s
  cases inside with
  | none =>
    have hstop := elementOf_stop_closed text lineOffset t u r
    rw [List.length_append, ← hstart] at hstop
    exact hstop
  | some inside =>
    obtain ⟨ks, hplace⟩ := exists_closingPlace? (hs inside rfl) (u ++ t.opening false) r
      (tagCaptures t false u (inside.render ++ (t.closing ++ r)))
    have hstop := elementOf_stop text lineOffset hplace
    rw [← List.append_assoc inside.render] at hstop
    apply hstop.trans
    simp [Site.stop, Site.opening, Site.behind, ← hstart, Nat.add_assoc]

/-- Around a tag of its name that looks closed and is not, an element ends too early. -/
theorem MatchOf.stop_lt {t : WrittenTag} {rest : Forest} (h : MatchOf s m)
    (hinside : s.inside = some (.element t .nil rest)) (ht : ∀ a ∈ t.attributes, ¬Mentions s.tag.name a.value)
    (hname : t.name = s.tag.name) (hlooks : looksClosed (t.opening false) = true) :
    (elementOf text lineOffset m).stop < s.stop := by
  obtain ⟨u, r, hstart, rfl⟩ := h
  obtain ⟨outer, inside, start, around⟩ := s
  cases hinside
  obtain ⟨ks, hplace⟩ := exists_closingPlace?_of_looksClosed ht hname hlooks (u ++ outer.opening false)
    (rest.render ++ (outer.closing ++ r)) (tagCaptures outer false u
      (t.opening false ++ (t.closing ++ (rest.render ++ (outer.closing ++ r)))))
  have hstop := elementOf_stop text lineOffset hplace
  have hbehind : t.opening false ++ (t.closing ++ (rest.render ++ (outer.closing ++ r))) =
      Site.behind ⟨outer, some (.element t .nil rest), start, around⟩ ++ r := by
    simp [Site.behind, Forest.render]
  rw [hbehind] at hstop
  apply Nat.lt_of_le_of_lt (Nat.le_of_eq hstop)
  have hclosing : 0 < outer.closing.length := Nat.succ_pos _
  simp only [Site.stop, Site.opening, Site.behind, Forest.render, Option.isNone_some,
    List.length_append] at hstart ⊢
  omega

/-- An element contains another one exactly if its span does. -/
theorem contains_iff {a b : Site} {e e' : Element} (h : Describes a e) (h' : Describes b e')
    (hstop : e.stop = a.stop) (hstop' : e'.stop = b.stop) : e.contains e' = true ↔ SpanInside a b := by
  unfold Element.contains SpanInside
  rw [h.origin, h'.origin, h.start, h'.start, hstop, hstop']
  by_cases hsame : a.start = b.start ∧ a.stop = b.stop
  · simp [hsame]
  · simp [hsame]

/-- A rendered forest is read as one element for each written one, in order. An element whose inside is clear
of its name ends where its own closing tag does, and of two such elements one contains the other exactly if it
is around it. -/
theorem scanText_render (f : Forest) (lineOffset : Int) :
    List.Forall₂ (fun s e => Describes s e ∧ (s.Clear → e.stop = s.stop)) (f.sites [] 0)
        (scanText f.render lineOffset) ∧
      ∀ p ∈ (f.sites [] 0).zip (scanText f.render lineOffset),
        ∀ q ∈ (f.sites [] 0).zip (scanText f.render lineOffset), p.1.Clear → q.1.Clear →
          (p.2.contains q.2 = true ↔ p.1.start ∈ q.1.around) := by
  obtain ⟨ms, hscan, hms⟩ := exists_scanText f lineOffset
  have hall : List.Forall₂ (fun s e => Describes s e ∧ (s.Clear → e.stop = s.stop)) (f.sites [] 0)
      (scanText f.render lineOffset) := by
    rw [hscan, List.forall₂_map_right_iff]
    exact hms.imp fun s m h => ⟨h.describes, h.stop⟩
  refine ⟨hall, fun p hp q hq hpclear hqclear => ?_⟩
  obtain ⟨hdescribes, hstop⟩ := (List.forall₂_iff_zip.1 hall).2 hp
  obtain ⟨hdescribes', hstop'⟩ := (List.forall₂_iff_zip.1 hall).2 hq
  rw [mem_around_iff (by simp) (List.of_mem_zip hp).1 (List.of_mem_zip hq).1]
  exact contains_iff hdescribes hdescribes' (hstop hpclear) (hstop' hqclear)

def divTag (attributes : List WrittenAttribute) : WrittenTag :=
  ⟨"div".toList, attributes, ⟨'d', "iv".toList, rfl, rfl⟩, List.all_eq_true.1 (by decide)⟩

/-- A tag with one attribute of the given value. -/
def valuedDiv (value : Text) (unquoted : '"' ∉ value) : WrittenTag :=
  divTag [⟨['a'], value, by decide, List.all_eq_true.1 (by decide), unquoted⟩]

/-- The tag inside another one of its name. -/
def nestedDiv (value : Text) (unquoted : '"' ∉ value) : Forest :=
  .element (divTag []) (.element (valuedDiv value unquoted) .nil .nil) .nil

/-- A value without brackets mentions no tag. -/
theorem valuedDiv_unmentioned {name value : Text} {unquoted : '"' ∉ value} (h : '<' ∉ value) :
    ∀ a ∈ (valuedDiv value unquoted).attributes, ¬Mentions name a.value := by
  intro a ha
  cases List.mem_singleton.1 ha
  exact not_mentions_of_plain h

/-- A bracket in a quoted value ends no tag: the outer element holds the inner one. -/
theorem scanText_render_nestedDiv :
    ∃ e e', scanText (nestedDiv "x>y".toList (by decide)).render 0 = [e, e'] ∧ e.stop = 30 ∧ e'.stop = 24 ∧
      e.contains e' = true := by
  have hrender := scanText_render (nestedDiv "x>y".toList (by decide)) 0
  have hclear : ∀ s ∈ (nestedDiv "x>y".toList (by decide)).sites [] 0, s.Clear := by
    intro s hs
    rcases List.mem_cons.1 hs with rfl | hs
    · rintro _ ⟨⟩
      exact ⟨⟨valuedDiv_unmentioned (by decide), fun _ => by decide⟩, trivial, trivial⟩
    · cases List.mem_singleton.1 hs
      rintro _ ⟨⟩
      trivial
  generalize scanText _ 0 = es at hrender ⊢
  obtain ⟨hall, hcontains⟩ := hrender
  cases hall with
  | cons houter hall =>
    cases hall with
    | cons hinner hall =>
      cases hall
      have houter_clear := hclear _ List.mem_cons_self
      have hinner_clear := hclear _ (List.mem_cons_of_mem _ List.mem_cons_self)
      refine ⟨_, _, rfl, houter.2 houter_clear, hinner.2 hinner_clear, ?_⟩
      apply (hcontains _ List.mem_cons_self _ (List.mem_cons_of_mem _ List.mem_cons_self) houter_clear
        hinner_clear).2
      exact List.mem_singleton_self _

/-- A slash before a `>` in a value makes the outer element end with the inner one. -/
theorem not_all_stops :
    ¬List.Forall₂ (fun s e => e.stop = s.stop) ((nestedDiv "/>".toList (by decide)).sites [] 0)
      (scanText (nestedDiv "/>".toList (by decide)).render 0) := by
  obtain ⟨ms, hscan, hms⟩ := exists_scanText (nestedDiv "/>".toList (by decide)) 0
  rw [hscan, List.forall₂_map_right_iff]
  intro hall
  cases hms with
  | cons hm _ =>
    cases hall with
    | cons hstop _ =>
      exact absurd hstop (Nat.ne_of_lt (hm.stop_lt rfl (valuedDiv_unmentioned (by decide)) rfl (by decide)))

end UxLint.Markup
