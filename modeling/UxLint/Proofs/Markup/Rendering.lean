import UxLint.Text.Search
import UxLint.Text.Word

/-!
# Written markup

Markup is written as texts and elements, one after the other and one inside the other. Where each element
stands in the text that is written is said by its site: from the sign that opens its tag to the end of its
own closing tag. The spans of two elements lie inside each other exactly if one element is inside the other
(`mem_around_iff`).
-/

set_option autoImplicit false

namespace UxLint.Markup

/-- Whether a character can stand in the name of a written element. -/
def isNameLetter (c : Char) : Bool := c.isAlphanum || c == '-'

/-- Whether a character can stand in the name of a written attribute. -/
def isAttributeLetter (c : Char) : Bool :=
  Text.isWord c || c == ':' || c == '@' || c == '.' || c == '-'

/-- An attribute with a value in double quotes. -/
structure WrittenAttribute where
  name : Text
  value : Text
  name_ne : name ≠ []
  letters : ∀ c ∈ name, isAttributeLetter c = true
  unquoted : '"' ∉ value

/-- The name and the attributes of an element. -/
structure WrittenTag where
  name : Text
  attributes : List WrittenAttribute
  head : ∃ c w, name = c :: w ∧ c.isAlpha = true
  letters : ∀ c ∈ name, isNameLetter c = true

/-- Elements and texts, in the order in which they are written. -/
inductive Forest where
  | nil
  | text (t : Text) (plain : '<' ∉ t) (rest : Forest)
  /-- A tag that closes itself. -/
  | closed (tag : WrittenTag) (rest : Forest)
  | element (tag : WrittenTag) (inside rest : Forest)

def WrittenAttribute.render (a : WrittenAttribute) : Text :=
  ' ' :: (a.name ++ '=' :: '"' :: (a.value ++ ['"']))

/-- The end of a tag that closes itself, and of one that does not. -/
def tagEnd : Bool → Text
  | true => [' ', '/', '>']
  | false => ['>']

namespace WrittenTag

def middle (t : WrittenTag) : Text := t.attributes.flatMap (·.render)

/-- The tag, as one that closes itself or as one that does not. -/
def opening (t : WrittenTag) (selfClosing : Bool) : Text :=
  '<' :: (t.name ++ (t.middle ++ tagEnd selfClosing))

def closing (t : WrittenTag) : Text := '<' :: '/' :: (t.name ++ ['>'])

/-- The opening of a tag is not empty. -/
theorem opening_length_pos (t : WrittenTag) (selfClosing : Bool) : 0 < (t.opening selfClosing).length := by
  simp [opening]

end WrittenTag

/-- An element in a written text. -/
structure Site where
  tag : WrittenTag
  /-- What is inside the element; nothing if its tag closes itself. -/
  inside : Option Forest
  start : Nat
  /-- The starts of the elements around it. -/
  around : List Nat

namespace Forest

def render : Forest → Text
  | nil => []
  | text t _ rest => t ++ rest.render
  | closed tag rest => tag.opening true ++ rest.render
  | element tag inside rest => tag.opening false ++ (inside.render ++ (tag.closing ++ rest.render))

/-- The elements in the order of their tags, written from an offset on inside other elements. -/
def sites (around : List Nat) (offset : Nat) : Forest → List Site
  | nil => []
  | text t _ rest => rest.sites around (offset + t.length)
  | closed tag rest =>
    ⟨tag, none, offset, around⟩ :: rest.sites around (offset + (tag.opening true).length)
  | element tag inside rest =>
    ⟨tag, some inside, offset, around⟩ ::
      (inside.sites (offset :: around) (offset + (tag.opening false).length) ++
        rest.sites around (offset + (tag.opening false).length + inside.render.length + tag.closing.length))

end Forest

namespace Site

def opening (s : Site) : Text := s.tag.opening s.inside.isNone

/-- What is written from the end of the tag to the end of the element. -/
def behind (s : Site) : Text :=
  match s.inside with
  | none => []
  | some inside => inside.render ++ s.tag.closing

/-- The end of the element's own closing tag, or of the tag itself if it closes itself. -/
def stop (s : Site) : Nat := s.start + s.opening.length + s.behind.length

/-- A site is not empty. -/
theorem start_lt_stop (s : Site) : s.start < s.stop := by
  have := s.tag.opening_length_pos s.inside.isNone
  unfold stop opening
  omega

end Site

/-! ## Spans -/

variable {f : Forest} {around : List Nat} {offset : Nat} {s a b : Site}

/-- From its start to its stop, an element is written as its tag and what is behind the tag. -/
theorem exists_written (hs : s ∈ f.sites around offset) :
    ∃ u r, f.render = u ++ (s.opening ++ s.behind ++ r) ∧ s.start = offset + u.length := by
  induction f generalizing around offset with
  | nil => cases hs
  | text t plain rest ih =>
    obtain ⟨u, r, hrest, hstart⟩ := ih hs
    refine ⟨t ++ u, r, ?_, ?_⟩
    · rw [Forest.render, hrest, List.append_assoc t]
    · rw [hstart, List.length_append, Nat.add_assoc]
  | closed tag rest ih =>
    rcases List.mem_cons.1 hs with rfl | hs
    · exact ⟨[], rest.render, by simp [Forest.render, Site.opening, Site.behind], rfl⟩
    · obtain ⟨u, r, hrest, hstart⟩ := ih hs
      refine ⟨tag.opening true ++ u, r, ?_, ?_⟩
      · rw [Forest.render, hrest, List.append_assoc (tag.opening true)]
      · rw [hstart, List.length_append, Nat.add_assoc]
  | element tag inside rest ih ih' =>
    rcases List.mem_cons.1 hs with rfl | hs
    · exact ⟨[], rest.render, by simp [Forest.render, Site.opening, Site.behind], rfl⟩
    · rcases List.mem_append.1 hs with hs | hs
      · obtain ⟨u, r, hinside, hstart⟩ := ih hs
        refine ⟨tag.opening false ++ u, r ++ (tag.closing ++ rest.render), ?_, ?_⟩
        · simp [Forest.render, hinside]
        · rw [hstart, List.length_append, Nat.add_assoc]
      · obtain ⟨u, r, hrest, hstart⟩ := ih' hs
        refine ⟨tag.opening false ++ inside.render ++ tag.closing ++ u, r, ?_, ?_⟩
        · simp [Forest.render, hrest]
        · simp [hstart, Nat.add_assoc]

/-- The sites of a row lie within its text. -/
theorem site_bounds (hs : s ∈ f.sites around offset) :
    offset ≤ s.start ∧ s.stop ≤ offset + f.render.length := by
  obtain ⟨u, r, hrender, hstart⟩ := exists_written hs
  have hlength := congrArg List.length hrender
  simp only [List.length_append] at hlength
  unfold Site.stop
  omega

/-- The elements around an element are those around the forest, and others that start inside it. -/
theorem site_around (hs : s ∈ f.sites around offset) :
    (∀ x ∈ around, x ∈ s.around) ∧
      ∀ x ∈ s.around, x ∈ around ∨ (offset ≤ x ∧ x < offset + f.render.length) := by
  induction f generalizing around offset with
  | nil => cases hs
  | text t plain rest ih =>
    obtain ⟨hall, hnew⟩ := ih hs
    refine ⟨hall, fun x hx => (hnew x hx).imp_right fun h => ?_⟩
    simp only [Forest.render, List.length_append]
    omega
  | closed tag rest ih =>
    rcases List.mem_cons.1 hs with rfl | hs
    · exact ⟨fun x hx => hx, fun x hx => .inl hx⟩
    · obtain ⟨hall, hnew⟩ := ih hs
      refine ⟨hall, fun x hx => (hnew x hx).imp_right fun h => ?_⟩
      simp only [Forest.render, List.length_append]
      omega
  | element tag inside rest ih ih' =>
    have hopening := tag.opening_length_pos false
    rcases List.mem_cons.1 hs with rfl | hs
    · exact ⟨fun x hx => hx, fun x hx => .inl hx⟩
    · simp only [Forest.render, List.length_append]
      rcases List.mem_append.1 hs with hs | hs
      · obtain ⟨hall, hnew⟩ := ih hs
        refine ⟨fun x hx => hall x (List.mem_cons_of_mem offset hx), fun x hx => ?_⟩
        rcases hnew x hx with hx | hx
        · rcases List.mem_cons.1 hx with rfl | hx
          · exact .inr (by omega)
          · exact .inl hx
        · exact .inr (by omega)
      · obtain ⟨hall, hnew⟩ := ih' hs
        exact ⟨hall, fun x hx => (hnew x hx).imp_right fun h => by omega⟩

/-- Whether a site is inside another one, as its span says it. -/
def SpanInside (a b : Site) : Prop :=
  a.start ≤ b.start ∧ b.stop ≤ a.stop ∧ ¬(a.start = b.start ∧ a.stop = b.stop)

/-- What starts in front of a span or stops behind its end is not inside of it. -/
theorem not_spanInside (h : b.start < a.start ∨ a.stop ≤ b.start) : ¬SpanInside a b := by
  have := b.start_lt_stop
  unfold SpanInside
  omega

/-- Of two elements one of which ends before the other starts, neither is inside the other. -/
theorem inside_iff_of_apart {lo mid : Nat} (hlo : lo ≤ a.start) (hstop : a.stop ≤ mid)
    (hstart : mid ≤ b.start) (ha : ∀ x ∈ a.around, x < mid) (hb : ∀ x ∈ b.around, x < lo ∨ mid ≤ x) :
    (a.start ∈ b.around ↔ SpanInside a b) ∧ (b.start ∈ a.around ↔ SpanInside b a) := by
  have hpos := a.start_lt_stop
  refine ⟨iff_of_false (fun h => ?_) (not_spanInside (.inr (Nat.le_trans hstop hstart))),
    iff_of_false (fun h => ?_) (not_spanInside (.inl ?_))⟩
  · have := hb _ h
    omega
  · have := ha _ h
    omega
  · omega

/-- An element and what is inside it end before the rest starts. -/
theorem element_bounds {tag : WrittenTag} {inside : Forest} (houter : ∀ x ∈ around, x < offset)
    (hs : s ∈ ⟨tag, some inside, offset, around⟩ ::
      inside.sites (offset :: around) (offset + (tag.opening false).length)) :
    offset ≤ s.start ∧
      s.stop ≤ offset + (tag.opening false).length + inside.render.length + tag.closing.length ∧
      ∀ x ∈ s.around,
        x < offset + (tag.opening false).length + inside.render.length + tag.closing.length := by
  have hopening := tag.opening_length_pos false
  have hrest : ∀ x ∈ around,
      x < offset + (tag.opening false).length + inside.render.length + tag.closing.length := by
    intro x hx
    have := houter x hx
    omega
  rcases List.mem_cons.1 hs with rfl | hs
  · refine ⟨Nat.le_refl _, ?_, hrest⟩
    simp [Site.stop, Site.opening, Site.behind]
    omega
  · have hbounds := site_bounds hs
    refine ⟨by omega, by omega, fun x hx => ?_⟩
    rcases (site_around hs).2 x hx with hx | hx
    · rcases List.mem_cons.1 hx with rfl | hx
      · omega
      · exact hrest x hx
    · omega

/-- One element is inside another exactly if its span is inside the span of the other. -/
theorem mem_around_iff (houter : ∀ x ∈ around, x < offset) (ha : a ∈ f.sites around offset)
    (hb : b ∈ f.sites around offset) : a.start ∈ b.around ↔ SpanInside a b := by
  have hself : offset ∉ around := fun h => Nat.lt_irrefl _ (houter offset h)
  induction f generalizing around offset with
  | nil => cases ha
  | text t plain rest ih =>
    have hrest : ∀ x ∈ around, x < offset + t.length := fun x hx =>
      Nat.lt_of_lt_of_le (houter x hx) (Nat.le_add_right _ _)
    exact ih hrest ha hb fun h => Nat.lt_irrefl _ (hrest _ h)
  | closed tag rest ih =>
    have hrest : ∀ x ∈ around, x < offset + (tag.opening true).length := fun x hx =>
      Nat.lt_of_lt_of_le (houter x hx) (Nat.le_add_right _ _)
    have hapart {s : Site} (hs : s ∈ rest.sites around (offset + (tag.opening true).length)) :=
      inside_iff_of_apart (a := ⟨tag, none, offset, around⟩) (Nat.le_refl offset) (Nat.le_refl _)
        (site_bounds hs).1 hrest fun x hx =>
          ((site_around hs).2 x hx).imp (houter x) fun h => h.1
    rcases List.mem_cons.1 ha with rfl | ha
    · rcases List.mem_cons.1 hb with rfl | hb
      · exact iff_of_false hself (by simp [SpanInside])
      · exact (hapart hb).1
    · rcases List.mem_cons.1 hb with rfl | hb
      · exact (hapart ha).2
      · exact ih hrest ha hb fun h => Nat.lt_irrefl _ (hrest _ h)
  | element tag inside rest ih ih' =>
    have hopening := tag.opening_length_pos false
    have hinside : ∀ x ∈ offset :: around, x < offset + (tag.opening false).length := by
      intro x hx
      rcases List.mem_cons.1 hx with rfl | hx
      · omega
      · have := houter x hx
        omega
    have hrest : ∀ x ∈ around, x < offset + (tag.opening false).length + inside.render.length +
        tag.closing.length := by
      intro x hx
      have := houter x hx
      omega
    rw [Forest.sites, ← List.cons_append] at ha hb
    have hapart {s t : Site} (hs : s ∈ ⟨tag, some inside, offset, around⟩ ::
        inside.sites (offset :: around) (offset + (tag.opening false).length))
        (ht : t ∈ rest.sites around (offset + (tag.opening false).length + inside.render.length +
          tag.closing.length)) :=
      inside_iff_of_apart (element_bounds houter hs).1 (element_bounds houter hs).2.1 (site_bounds ht).1
        (element_bounds houter hs).2.2 fun x hx => ((site_around ht).2 x hx).imp (houter x) fun h => h.1
    rcases List.mem_append.1 ha with ha | ha
    · rcases List.mem_append.1 hb with hb | hb
      · rcases List.mem_cons.1 ha with rfl | ha
        · rcases List.mem_cons.1 hb with rfl | hb
          · exact iff_of_false hself (by simp [SpanInside])
          · have hbounds := site_bounds hb
            refine iff_of_true ((site_around hb).1 offset List.mem_cons_self) ?_
            simp only [SpanInside, Site.stop, Site.opening, Site.behind, Option.isNone_some,
              List.length_append] at hbounds ⊢
            omega
        · have hbounds := site_bounds ha
          rcases List.mem_cons.1 hb with rfl | hb
          · refine iff_of_false (fun h => ?_) (not_spanInside (.inl ?_))
            · have := houter _ h
              omega
            · dsimp only
              omega
          · exact ih hinside ha hb fun h => Nat.lt_irrefl _ (hinside _ h)
      · exact (hapart ha hb).1
    · rcases List.mem_append.1 hb with hb | hb
      · exact (hapart hb ha).2
      · exact ih' hrest ha hb fun h => Nat.lt_irrefl _ (hrest _ h)

end UxLint.Markup
