import UxLint.Markup.TextScan
import UxLint.Proofs.Markup.Rendering
import UxLint.Proofs.Pattern.Leading
import UxLint.Proofs.Text.Trimming

/-!
# Reading written tags

The pattern of a tag knows values in quotes, so it reads a written tag to its end, whatever its values
hold (`leads_tag`), and the attributes are read back as they were written (`attributesOf_middle`).
-/

set_option autoImplicit false

namespace UxLint.Markup

open Pattern Text

open Cursor (between)

variable {u r w : Text} {ks : List Capture} {c : Char}

/-! ## Classes of characters -/

/-- Whether a character ends the name of an attribute. -/
def endsAttributeName (c : Char) : Bool :=
  isBlank c || c == '=' || c == '/' || c == '>' || c == '"' || c == '\''

/-- What ends the name of an attribute is no letter of it. -/
theorem not_attributeLetter_of_ends (h : endsAttributeName c = true) : isAttributeLetter c = false := by
  unfold endsAttributeName at h
  simp only [Bool.or_eq_true, beq_iff_eq] at h
  rcases h with ((((h | rfl) | rfl) | rfl) | rfl) | rfl
  · apply eq_false_of_blank _ h
    decide +kernel
  all_goals decide

/-- A letter of an attribute's name does not end it. -/
theorem goesOn_of_attributeLetter (h : isAttributeLetter c = true) : (!endsAttributeName c) = true := by
  cases hends : endsAttributeName c with
  | true =>
    rw [not_attributeLetter_of_ends hends] at h
    cases h
  | false => rfl

/-- A letter of an attribute's name is not blank. -/
theorem not_blank_of_attributeLetter (h : isAttributeLetter c = true) : isBlank c = false := by
  have hends := goesOn_of_attributeLetter h
  simp only [endsAttributeName, Bool.not_eq_true', Bool.or_eq_false_iff] at hends
  exact hends.1.1.1.1.1

namespace WrittenAttribute

variable (a : WrittenAttribute)

/-- The name, the sign and the quoted value of an attribute. -/
def body : Text := a.name ++ '=' :: '"' :: (a.value ++ ['"'])

/-- An attribute is written behind a space. -/
theorem render_eq : a.render = ' ' :: a.body := rfl

def quoted : Text := '"' :: (a.value ++ ['"'])

/-- The name of an attribute starts with a letter. -/
theorem exists_head : ∃ c w, a.name = c :: w ∧ isAttributeLetter c = true := by
  obtain ⟨c, w, hname⟩ := List.exists_cons_of_ne_nil a.name_ne
  exact ⟨c, w, hname, a.letters c (by rw [hname]; exact List.mem_cons_self)⟩

end WrittenAttribute

variable {a : WrittenAttribute}

/-- The pattern of names leads over the name of an attribute. -/
theorem leads_name :
    Leads attributeName (between u (a.name ++ '=' :: r) ks) (between (u ++ a.name) ('=' :: r) ks) :=
  .plus_one a.name_ne (fun c hc => goesOn_of_attributeLetter (a.letters c hc)) (by simp)

/-- The pattern of equals signs leads over one. -/
theorem leads_equalsSign :
    Leads equalsSign (between u ('=' :: '"' :: r) ks) (between (u ++ ['=']) ('"' :: r) ks) :=
  .both (.stop (refuses_one (by simp; decide))) (.both (.char '=') (.stop (refuses_one (by simp; decide))))

/-- The pattern of values leads over a quoted value. -/
theorem leads_value : Leads attributeValue (between u (a.quoted ++ r) ks) (between (u ++ a.quoted) r ks) := by
  have hquote : ∀ c ∈ a.value, (!"\"".toList.contains c) = true := by
    intro c hc
    have : c ≠ '"' := fun h => a.unquoted (h ▸ hc)
    simpa using this
  have hleads : Leads (inOrder [char '"', star (noneOf "\""), char '"'])
      (between u ('"' :: (a.value ++ '"' :: r)) ks) (between (u ++ ['"'] ++ a.value ++ ['"']) r ks) :=
    .both (.char '"') (.both (.star_one hquote (by simp)) (.char '"'))
  unfold WrittenAttribute.quoted
  exact .left (by simpa using hleads)

/-! ## The tag -/

/-- An attribute in a tag, and the blanks before it. -/
def spacedAttribute : Pattern :=
  inOrder [plus blank, attributeName, optional (inOrder [equalsSign, attributeValue])]

/-- The pattern of attributes leads over an attribute and the space in front of it. -/
theorem leads_spacedAttribute (a : WrittenAttribute) :
    Leads spacedAttribute (between u (a.render ++ r) ks) (between (u ++ a.render) r ks) := by
  obtain ⟨c, w, hname, hc⟩ := a.exists_head
  have hleads : Leads spacedAttribute (between u ([' '] ++ (a.name ++ '=' :: (a.quoted ++ r))) ks)
      (between (u ++ [' '] ++ a.name ++ ['='] ++ a.quoted) r ks) := by
    have hblank : ∀ x ∈ [' '], isBlank x = true := List.forall_mem_singleton.2 (by decide)
    refine .both (.plus_one (by simp) hblank ?_)
      (.both leads_name (.left (.both leads_equalsSign leads_value)))
    intro x hx
    rw [hname] at hx
    cases hx
    exact not_blank_of_attributeLetter hc
  have htext : a.render ++ r = [' '] ++ (a.name ++ '=' :: (a.quoted ++ r)) := by
    simp [WrittenAttribute.render, WrittenAttribute.quoted]
  have hbehind : u ++ a.render = u ++ [' '] ++ a.name ++ ['='] ++ a.quoted := by
    simp [WrittenAttribute.render, WrittenAttribute.quoted]
  rw [htext, hbehind]
  exact hleads

/-- No attribute stands at the end of a tag. -/
theorem refuses_tagEnd (before : Option Char) (selfClosing : Bool) :
    Refuses spacedAttribute before (tagEnd selfClosing ++ r) := by
  intro w r' hw hfits
  obtain ⟨b, v, rfl, hblanks, hfits⟩ := fits_both_iff.1 hfits
  obtain ⟨n, v', rfl, hname, -⟩ := fits_both_iff.1 hfits
  obtain ⟨hb, hblank⟩ := fits_plus_one_iff.1 hblanks
  obtain ⟨hn, hletters⟩ := fits_plus_one_iff.1 hname
  obtain ⟨x, b, rfl⟩ := List.exists_cons_of_ne_nil hb
  obtain ⟨y, n, rfl⟩ := List.exists_cons_of_ne_nil hn
  have hx := hblank x List.mem_cons_self
  cases selfClosing with
  | false =>
    obtain ⟨rfl, -⟩ := List.cons.inj hw
    exact absurd hx (by decide)
  | true =>
    obtain ⟨rfl, hrest⟩ := List.cons.inj hw
    cases b with
    | nil =>
      obtain ⟨rfl, -⟩ := List.cons.inj hrest
      exact absurd (hletters '/' List.mem_cons_self) (by decide)
    | cons z b =>
      obtain ⟨rfl, -⟩ := List.cons.inj hrest
      exact absurd (hblank '/' (by simp)) (by decide)

/-- The pattern of attributes leads over all attributes of a tag, up to its end. -/
theorem leads_middle (as : List WrittenAttribute) (selfClosing : Bool) :
    Leads (star spacedAttribute) (between u (as.flatMap (·.render) ++ (tagEnd selfClosing ++ r)) ks)
      (between (u ++ as.flatMap (·.render)) (tagEnd selfClosing ++ r) ks) := by
  induction as generalizing u with
  | nil =>
    rw [List.flatMap_nil, List.append_nil]
    exact .stop (refuses_tagEnd _ selfClosing)
  | cons a as ih =>
    rw [List.flatMap_cons, List.append_assoc, ← List.append_assoc u]
    apply Leads.more (leads_spacedAttribute a) _ ih
    simp [WrittenAttribute.render]
    omega

/-- A tag's name holds letters of names only. -/
theorem WrittenTag.not_mem_name (t : WrittenTag) (hc : isNameLetter c = false) : c ∉ t.name := by
  intro h
  rw [t.letters c h] at hc
  cases hc

/-- A letter of names goes on in a tag's name. -/
theorem nameLetter_goesOn (h : isNameLetter c = true) :
    (isWord c || c == '.' || c == ':' || c == '-') = true := by
  unfold isNameLetter at h
  unfold isWord
  rcases Bool.or_eq_true_iff.1 h with h | h
  all_goals simp [h]

/-- The pattern of tag names leads over the name of a tag. -/
theorem leads_tagName (t : WrittenTag) (hr : ∀ x ∈ r.head?, x = ' ' ∨ x = '>') :
    Leads (inOrder [one Char.isAlpha, star (one fun c => isWord c || c == '.' || c == ':' || c == '-')])
      (between u (t.name ++ r) ks) (between (u ++ t.name) r ks) := by
  obtain ⟨c, w, hname, hc⟩ := t.head
  have hw : ∀ x ∈ w, (isWord x || x == '.' || x == ':' || x == '-') = true := fun x hx =>
    nameLetter_goesOn (t.letters x (by rw [hname]; exact List.mem_cons_of_mem c hx))
  rw [hname]
  apply Leads.one_star hc hw
  intro x hx
  rcases hr x hx with rfl | rfl
  all_goals decide

/-- The slash by which a tag closes itself. -/
def slash : Bool → Text
  | true => ['/']
  | false => []

/-- The blank before the slash. -/
def gap : Bool → Text
  | true => [' ']
  | false => []

/-- A tag ends with a gap and a slash if it closes itself, and then with its bracket. -/
theorem tagEnd_eq (selfClosing : Bool) :
    tagEnd selfClosing = gap selfClosing ++ (slash selfClosing ++ ['>']) := by
  cases selfClosing <;> rfl

/-- The pattern of slashes leads over the slash of a tag that closes itself, and over nothing in others. -/
theorem leads_slash (selfClosing : Bool) (hr : ∀ x ∈ r.head?, x ≠ '/') :
    Leads (optional (char '/')) (between u (slash selfClosing ++ r) ks)
      (between (u ++ slash selfClosing) r ks) := by
  cases selfClosing with
  | true => exact .left (.char '/')
  | false =>
    unfold slash
    rw [List.append_nil]
    exact .right (refuses_one fun x hx => beq_false_of_ne (hr x hx)) (.nothing _)

/-- The pattern of tag ends leads over the end of a tag and remembers the slash. -/
theorem leads_tagEnd (selfClosing : Bool) (u r : Text) (ks : List Capture) :
    Leads (inOrder [blanks, capture 3 (optional (char '/')), char '>'])
      (between u (gap selfClosing ++ (slash selfClosing ++ '>' :: r)) ks)
      (between (u ++ gap selfClosing ++ slash selfClosing ++ ['>']) r
        (⟨3, (u ++ gap selfClosing).length, (slash selfClosing).length,
          slash selfClosing ++ '>' :: r⟩ :: ks)) := by
  have hgap : Leads blanks (between u (gap selfClosing ++ (slash selfClosing ++ '>' :: r)) ks)
      (between (u ++ gap selfClosing) (slash selfClosing ++ '>' :: r) ks) := by
    apply Leads.star_one
    all_goals
      cases selfClosing
      all_goals simp [gap, slash]
      all_goals decide
  exact .both hgap (.both (.capture (leads_slash selfClosing (by simp))) (.char '>'))

/-- What is remembered of a tag that starts behind `u`. -/
def tagCaptures (t : WrittenTag) (selfClosing : Bool) (u r : Text) : List Capture :=
  [⟨3, (u ++ ['<'] ++ t.name ++ t.middle ++ gap selfClosing).length, (slash selfClosing).length,
      slash selfClosing ++ '>' :: r⟩,
    ⟨2, (u ++ ['<'] ++ t.name).length, t.middle.length, t.middle ++ (tagEnd selfClosing ++ r)⟩,
    ⟨1, (u ++ ['<']).length, t.name.length, t.name ++ (t.middle ++ (tagEnd selfClosing ++ r))⟩]

/-- What follows the name of a tag. -/
theorem exists_middle (t : WrittenTag) (selfClosing : Bool) (r : Text) :
    ∃ c w, t.middle ++ (tagEnd selfClosing ++ r) = c :: w ∧ (c = ' ' ∨ c = '>') := by
  unfold WrittenTag.middle
  cases t.attributes with
  | nil =>
    cases selfClosing
    all_goals simp [tagEnd]
  | cons a as => simp [WrittenAttribute.render]

/-- A tag is read to its end, whatever its values hold. -/
theorem leads_tag (t : WrittenTag) (selfClosing : Bool) :
    Leads tag (between u (t.opening selfClosing ++ r) [])
      (between (u ++ t.opening selfClosing) r (tagCaptures t selfClosing u r)) := by
  have hleads : Leads tag (between u ('<' :: (t.name ++ (t.middle ++ (tagEnd selfClosing ++ r)))) [])
      (between (u ++ ['<'] ++ t.name ++ t.middle ++ gap selfClosing ++ slash selfClosing ++ ['>']) r
        (tagCaptures t selfClosing u r)) := by
    have hend : tagEnd selfClosing ++ r = gap selfClosing ++ (slash selfClosing ++ '>' :: r) := by
      simp [tagEnd_eq]
    have hlast := leads_tagEnd selfClosing (u ++ ['<'] ++ t.name ++ t.middle) r
      (tagCaptures t selfClosing u r).tail
    rw [← hend] at hlast
    have hhead : ∀ x ∈ (t.middle ++ (tagEnd selfClosing ++ r)).head?, x = ' ' ∨ x = '>' := by
      obtain ⟨c, w, hw, hc⟩ := exists_middle t selfClosing r
      rw [hw]
      rintro _ ⟨⟩
      exact hc
    exact .both (.char '<') (.both (.capture (leads_tagName t hhead))
      (.both (.capture (leads_middle _ _)) hlast))
  have htext : t.opening selfClosing ++ r = '<' :: (t.name ++ (t.middle ++ (tagEnd selfClosing ++ r))) := by
    simp [WrittenTag.opening]
  have hbehind : u ++ t.opening selfClosing =
      u ++ ['<'] ++ t.name ++ t.middle ++ gap selfClosing ++ slash selfClosing ++ ['>'] := by
    simp [WrittenTag.opening, tagEnd_eq]
  rw [htext, hbehind]
  exact hleads

/-- The match of a tag that starts behind `u`. -/
def tagMatch (t : WrittenTag) (selfClosing : Bool) (u r : Text) : Match :=
  ⟨u.length, between (u ++ t.opening selfClosing) r (tagCaptures t selfClosing u r), t.opening selfClosing⟩

section Groups

variable (t : WrittenTag) (selfClosing : Bool) (u r : Text)

/-- The match of a tag remembers its name. -/
theorem group_name : (tagMatch t selfClosing u r).group 1 = t.name := by
  simp [tagMatch, tagCaptures, Match.group, Match.capture?, Capture.text]

/-- The match of a tag remembers its attributes. -/
theorem group_middle : (tagMatch t selfClosing u r).group 2 = t.middle := by
  simp [tagMatch, tagCaptures, Match.group, Match.capture?, Capture.text]

/-- The match of a tag remembers its slash. -/
theorem group_slash : (tagMatch t selfClosing u r).group 3 = slash selfClosing := by
  simp [tagMatch, tagCaptures, Match.group, Match.capture?, Capture.text]

end Groups

/-- A tag starts at an opening sign that no slash follows. -/
theorem refuses_tag {before : Option Char} {x : Char} {t : Text}
    (h : x = '<' → t.head? = some '/') : Refuses tag before (x :: t) := by
  intro w r hw hfits
  obtain ⟨_, v, rfl, hopen, hfits⟩ := fits_both_iff.1 hfits
  obtain ⟨y, rfl, hy⟩ := fits_one_iff.1 hopen
  obtain ⟨rfl, ht⟩ := List.cons.inj hw
  obtain ⟨n, v, rfl, hname, -⟩ := fits_both_iff.1 hfits
  cases hname with
  | capture hname =>
    obtain ⟨_, n, rfl, hhead, -⟩ := fits_both_iff.1 hname
    obtain ⟨z, rfl, hz⟩ := fits_one_iff.1 hhead
    rw [ht] at h
    cases h (beq_iff_eq.1 hy)
    exact absurd hz (by decide)

/-- No tag is empty. -/
theorem not_fits_tag_nil (before : Option Char) (r : Text) : ¬Fits tag before [] r :=
  not_fits_nil_of_char before r

/-! ## The attributes -/

/-- What is read of a written attribute. -/
def readAttribute (a : WrittenAttribute) : Attribute :=
  ⟨String.ofList (normalize a.name).1, some (String.ofList a.value), (normalize a.name).2,
    String.ofList a.name⟩

/-- The pattern that reads an attribute leads over its text and remembers the name and the value. -/
theorem leads_attributeText (a : WrittenAttribute) :
    Leads attributeText (between u (a.body ++ r) [])
      (between (u ++ a.body) r [⟨2, (u ++ a.name ++ ['=']).length, a.quoted.length, a.quoted ++ r⟩,
        ⟨1, u.length, a.name.length, a.name ++ '=' :: (a.quoted ++ r)⟩]) := by
  have hleads : Leads attributeText (between u (a.name ++ '=' :: (a.quoted ++ r)) [])
      (between (u ++ a.name ++ ['='] ++ a.quoted) r
        [⟨2, (u ++ a.name ++ ['=']).length, a.quoted.length, a.quoted ++ r⟩,
          ⟨1, u.length, a.name.length, a.name ++ '=' :: (a.quoted ++ r)⟩]) :=
    .both (.capture leads_name) (.left (.both leads_equalsSign (.capture leads_value)))
  have htext : a.body ++ r = a.name ++ '=' :: (a.quoted ++ r) := by
    simp [WrittenAttribute.body, WrittenAttribute.quoted]
  have hbehind : u ++ a.body = u ++ a.name ++ ['='] ++ a.quoted := by
    simp [WrittenAttribute.body, WrittenAttribute.quoted]
  rw [htext, hbehind]
  exact hleads

/-- What reads as an attribute starts with a letter of its name. -/
theorem fits_attributeText {before : Option Char} (hfits : Fits attributeText before w r) :
    ∃ c w', w = c :: w' ∧ endsAttributeName c = false := by
  obtain ⟨n, v, rfl, hname, -⟩ := fits_both_iff.1 hfits
  cases hname with
  | capture hname =>
    obtain ⟨hn, hletters⟩ := fits_plus_one_iff.1 hname
    obtain ⟨c, n, rfl⟩ := List.exists_cons_of_ne_nil hn
    have hc : (!endsAttributeName c) = true := hletters c List.mem_cons_self
    exact ⟨c, n ++ v, rfl, by simpa using hc⟩

/-- The match of an attribute is read as the attribute. -/
theorem attributeOf_match (a : WrittenAttribute) {start p q : Nat} {u r v : Text} {text : Text} :
    attributeOf ⟨start, between u r [⟨2, p, a.quoted.length, a.quoted ++ v⟩,
      ⟨1, q, a.name.length, a.name ++ '=' :: (a.quoted ++ v)⟩], text⟩ = readAttribute a := by
  have hvalue : readValue a.quoted = (a.value, false) := by
    simp [WrittenAttribute.quoted, readValue]
  simp [attributeOf, Match.group, Match.capture?, Capture.text, hvalue, readAttribute]

/-- The attributes of a tag are read back as they were written. -/
theorem attributesOf_middle (t : WrittenTag) : attributesOf t.middle = t.attributes.map readAttribute := by
  have hscan (as : List WrittenAttribute) (u : Text) :
      (attributeText.allFrom (between u (as.flatMap (·.render)) [])).map attributeOf =
        as.map readAttribute := by
    induction as generalizing u with
    | nil =>
      rw [List.flatMap_nil, allFrom_end, List.map_nil, List.map_nil]
      intro v w hnil w' r hw hfits
      obtain ⟨c, n, rfl, -⟩ := fits_attributeText hfits
      simp [hw] at hnil
    | cons a as ih =>
      have hempty : ∀ before r, ¬Fits attributeText before [] r := fun before r hfits => by
        obtain ⟨c, w, hnil, -⟩ := fits_attributeText hfits
        cases hnil
      have hblank : Refuses attributeText (lastOf none u) (' ' :: (a.body ++ as.flatMap (·.render))) := by
        intro w r hw hfits
        obtain ⟨c, w, rfl, hc⟩ := fits_attributeText hfits
        obtain ⟨rfl, -⟩ := List.cons.inj hw
        exact absurd hc (by decide)
      have hmatch := allFrom_match (w := a.body) (by simp [WrittenAttribute.body])
        (leads_attributeText (u := u ++ [' ']) (r := as.flatMap (·.render)) a)
      rw [List.flatMap_cons, WrittenAttribute.render_eq, List.cons_append, allFrom_next hempty hblank, hmatch,
        List.map_cons, List.map_cons, ih, attributeOf_match]
  exact hscan t.attributes []

end UxLint.Markup
