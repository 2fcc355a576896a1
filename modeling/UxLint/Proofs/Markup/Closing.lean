import UxLint.Proofs.Markup.TagReading

/-!
# Counting the tags of a name

The closing tag of an element is found by a second pattern, which knows nothing of quotes: a tag ends for it
at the first `>`, and what is written like a tag inside a value is counted. Where no value holds such text
and no tag of the name seems to be cut short by its values (`Forest.Clear`), the count is as high behind a
forest as before it (`closingPlace?_render`).
-/

set_option autoImplicit false

namespace UxLint.Markup

open Pattern Text

open Cursor (between)

/-- Whether a character ends the name of a tag. -/
def endsTagName (c : Char) : Bool := isBlank c || c == '/' || c == '>'

/-- A text behind an opening sign goes on like a tag of the name. -/
def Names (name t : Text) : Prop :=
  ∃ closes c r, t = slash closes ++ (name ++ c :: r) ∧ endsTagName c = true

/-- A text holds the start of a tag of the name. -/
def Mentions (name v : Text) : Prop := ∃ p t, v = p ++ '<' :: t ∧ Names name t

/-- Whether a tag closes itself if it ends at the first `>`, be it inside a value. -/
def looksClosed (tag : Text) : Bool := (tag.takeWhile (· != '>')).getLast? == some '/'

/-- No value of the tag mentions the name, and the values do not change how a tag of the name looks. -/
structure WrittenTag.Clear (name : Text) (t : WrittenTag) (selfClosing : Bool) : Prop where
  unmentioned : ∀ a ∈ t.attributes, ¬Mentions name a.value
  looks : t.name = name → looksClosed (t.opening selfClosing) = selfClosing

/-- All tags of a forest are clear of the name. -/
def Forest.Clear (name : Text) : Forest → Prop
  | nil => True
  | text _ _ rest => rest.Clear name
  | closed tag rest => tag.Clear name true ∧ rest.Clear name
  | element tag inside rest => tag.Clear name false ∧ inside.Clear name ∧ rest.Clear name

/-- What is inside an element is clear of its name. -/
def Site.Clear (s : Site) : Prop := ∀ f ∈ s.inside, f.Clear s.tag.name

variable {name u r t v w : Text} {outer : WrittenTag} {depth : Nat} {ks : List Capture} {c : Char}

/-! ## Texts without a tag of the name -/

/-- What ends the name of a tag is no letter of it. -/
theorem not_nameLetter_of_ends (h : endsTagName c = true) : isNameLetter c = false := by
  unfold endsTagName at h
  simp only [Bool.or_eq_true, beq_iff_eq] at h
  rcases h with (h | rfl) | rfl
  · apply eq_false_of_blank _ h
    decide
  all_goals decide

/-- What the pattern of slashes fits is a slash or nothing. -/
theorem fits_slash {number : Nat} {before : Option Char}
    (h : Fits (capture number (optional (char '/'))) before w r) : ∃ closes, w = slash closes := by
  cases h with
  | capture h =>
    cases h with
    | left h =>
      obtain ⟨x, rfl, hx⟩ := fits_one_iff.1 h
      cases beq_iff_eq.1 hx
      exact ⟨true, rfl⟩
    | right h =>
      cases h
      exact ⟨false, rfl⟩

/-- What reads as a tag of a name starts with a bracket and that name. -/
theorem fits_tagOf {before : Option Char} (h : Fits (tagOf name) before w r) :
    ∃ t, w ++ r = '<' :: t ∧ Names name t := by
  obtain ⟨_, v, rfl, hopen, h⟩ := fits_both_iff.1 h
  obtain ⟨x, rfl, hx⟩ := fits_one_iff.1 hopen
  obtain ⟨s, v, rfl, hslash, h⟩ := fits_both_iff.1 h
  obtain ⟨n, v, rfl, hname, h⟩ := fits_both_iff.1 h
  obtain ⟨l, v, rfl, hlook, -⟩ := fits_both_iff.1 h
  obtain ⟨rfl, hends⟩ := fits_look_iff.1 hlook
  cases fits_chars_iff.1 hname
  cases beq_iff_eq.1 hx
  obtain ⟨c, hc, hends⟩ := (Option.any_eq_true _ _).1 hends
  obtain ⟨r', hr⟩ := List.head?_eq_some_iff.1 hc
  refine ⟨s ++ (name ++ (v ++ r)), by simp, ?_⟩
  obtain ⟨closes, rfl⟩ := fits_slash hslash
  exact ⟨closes, c, r', by rw [hr], hends⟩

/-- The pattern of a tag is refused where no bracket is followed by its name. -/
theorem refuses_tagOf {before : Option Char} {x : Char} (h : x = '<' → ¬Names name t) :
    Refuses (tagOf name) before (x :: t) := by
  intro w r hw hfits
  obtain ⟨t', ht, hnames⟩ := fits_tagOf hfits
  rw [← hw] at ht
  obtain ⟨rfl, rfl⟩ := List.cons.inj ht
  exact h rfl hnames

/-- No tag of a name is empty. -/
theorem not_fits_tagOf_nil (before : Option Char) (r : Text) : ¬Fits (tagOf name) before [] r :=
  not_fits_nil_of_char before r

/-- A value without brackets mentions no tag. -/
theorem not_mentions_of_plain (h : '<' ∉ v) : ¬Mentions name v := by
  rintro ⟨p, t, rfl, -⟩
  simp at h

/-- Nothing in a text starts like a tag of the name, whatever follows it. -/
def Silent (name w : Text) : Prop := ∀ p t r, w = p ++ '<' :: t → ¬Names name (t ++ r)

/-- A text without brackets is silent about every tag. -/
theorem silent_of_plain (h : '<' ∉ w) : Silent name w := by
  rintro p t r rfl
  exact absurd (by simp) h

/-- Two silent texts are silent together. -/
theorem Silent.append (hv : Silent name v) (hw : Silent name w) : Silent name (v ++ w) := by
  intro p t r heq
  rcases List.append_eq_append_iff.1 heq with ⟨p', rfl, hsplit⟩ | ⟨t', rfl, hsplit⟩
  · exact hw p' t r hsplit
  · cases t' with
    | nil => exact hw [] t r (by simpa using hsplit.symm)
    | cons x t' =>
      rw [List.cons_append] at hsplit
      obtain ⟨rfl, rfl⟩ := List.cons.inj hsplit
      rw [List.append_assoc]
      exact hv p t' (w ++ r) rfl

/-- A bracket in front of a silent text is silent if it does not start the name. -/
theorem Silent.cons (hfirst : ∀ r, ¬Names name (w ++ r)) (hw : Silent name w) : Silent name ('<' :: w) := by
  intro p t r heq
  cases p with
  | nil =>
    obtain ⟨-, rfl⟩ := List.cons.inj heq
    exact hfirst r
  | cons x p =>
    obtain ⟨-, heq⟩ := List.cons.inj heq
    exact hw p t r heq

/-- The end of a silent text is silent. -/
theorem Silent.behind (h : Silent name (v ++ w)) : Silent name w := by
  rintro p t r rfl
  exact h (v ++ p) t r (List.append_assoc _ _ _).symm

/-- A name is not read over a quotation mark that is none of its letters. -/
theorem Names.cut (hname : '"' ∉ name) (h : Names name (t ++ '"' :: r)) : Names name t := by
  obtain ⟨closes, c, s, ht, hc⟩ := h
  -- What makes a tag of the name has no quotes, so it ends before the quote or goes on behind it.
  have hplain : '"' ∉ slash closes ++ (name ++ [c]) := by
    intro hmem
    rcases List.mem_append.1 hmem with hmem | hmem
    · cases closes
      all_goals simp [slash] at hmem
    · rcases List.mem_append.1 hmem with hmem | hmem
      · exact hname hmem
      · rw [← List.mem_singleton.1 hmem] at hc
        exact absurd hc (by decide)
  have hsplit : t ++ '"' :: r = slash closes ++ (name ++ [c]) ++ s := by simpa using ht
  rcases List.append_eq_append_iff.1 hsplit with ⟨t', hhead, hquote⟩ | ⟨t', rfl, -⟩
  · cases t' with
    | nil => exact ⟨closes, c, [], by simpa using hhead.symm, hc⟩
    | cons x t' =>
      obtain ⟨rfl, -⟩ := List.cons.inj hquote
      exact absurd (by simp [hhead]) hplain
  · exact ⟨closes, c, t', by simp, hc⟩

/-- A text in quotes holds no start of a tag of a name if what is quoted holds none. -/
theorem silent_quoted (hname : '"' ∉ name) (h : ¬Mentions name v) : Silent name (v ++ ['"']) := by
  intro p t r heq hnames
  rcases List.append_eq_append_iff.1 heq with ⟨p', rfl, hquote⟩ | ⟨t', rfl, hquote⟩
  · cases p'
    all_goals simp at hquote
  · cases t' with
    | nil => simp at hquote
    | cons x t' =>
      rw [List.cons_append] at hquote
      obtain ⟨rfl, rfl⟩ := List.cons.inj hquote
      rw [List.append_assoc] at hnames
      exact h ⟨p, t', rfl, hnames.cut hname⟩

/-! ## Tags of other names -/

/-- Behind its opening sign, a tag goes on like a tag of its own name and of no other name. -/
theorem name_eq_of_names {t : WrittenTag} (closes : Bool) (hc : endsTagName c = true)
    (h : Names outer.name (slash closes ++ (t.name ++ c :: r))) : t.name = outer.name := by
  have hslash (t : WrittenTag) (closes : Bool) (r : Text) :
      (slash closes ++ (t.name ++ r)).dropWhile (· == '/') = t.name ++ r := by
    obtain ⟨x, w, hname, hx⟩ := t.head
    have hne : x ≠ '/' := by
      rintro rfl
      exact absurd hx (by decide)
    cases closes
    all_goals simp [slash, hname, hne]
  have hletters (t : WrittenTag) {c : Char} (hc : endsTagName c = true) (r : Text) :
      (t.name ++ c :: r).takeWhile isNameLetter = t.name := by
    rw [List.takeWhile_append_of_pos t.letters, List.takeWhile_cons_of_neg, List.append_nil]
    rw [not_nameLetter_of_ends hc]
    exact Bool.false_ne_true
  obtain ⟨closes', c', r', heq, hc'⟩ := h
  have hbehind := congrArg (List.dropWhile (· == '/')) heq
  rw [hslash, hslash] at hbehind
  have hname := congrArg (List.takeWhile isNameLetter) hbehind
  rwa [hletters t hc, hletters outer hc'] at hname

variable {t : WrittenTag}

/-- Attributes whose values mention no tag of a name are silent, up to the end of their tag. -/
theorem silent_attributes {as : List WrittenAttribute} (h : ∀ a ∈ as, ¬Mentions outer.name a.value)
    (selfClosing : Bool) : Silent outer.name (as.flatMap (·.render) ++ tagEnd selfClosing) := by
  induction as with
  | nil =>
    apply silent_of_plain
    cases selfClosing
    all_goals decide
  | cons a as ih =>
    have hplain : '<' ∉ ' ' :: (a.name ++ ['=', '"']) := by
      have : '<' ∉ a.name := fun hmem => absurd (a.letters '<' hmem) (by decide)
      simp [this]
    have hvalue := silent_quoted (outer.not_mem_name (by decide)) (h a List.mem_cons_self)
    have hrest := ih fun b hb => h b (List.mem_cons_of_mem a hb)
    have hparts := (silent_of_plain hplain).append (hvalue.append hrest)
    simpa [WrittenAttribute.render] using hparts

/-- The opening of another tag is silent if its attributes are. -/
theorem silent_opening {selfClosing : Bool} (h : ∀ a ∈ t.attributes, ¬Mentions outer.name a.value)
    (hne : t.name ≠ outer.name) : Silent outer.name (t.opening selfClosing) := by
  have hname : Silent outer.name t.name := silent_of_plain (t.not_mem_name (by decide))
  apply Silent.cons _ (hname.append (silent_attributes h selfClosing))
  intro r hnames
  obtain ⟨c, w, hw, hc⟩ := exists_middle t selfClosing r
  have hends : endsTagName c = true := by
    rcases hc with rfl | rfl
    all_goals decide
  apply hne
  apply name_eq_of_names (r := w) false hends
  rw [← hw]
  simpa [slash, WrittenTag.middle] using hnames

/-- The closing of another tag is silent. -/
theorem silent_closing (hne : t.name ≠ outer.name) : Silent outer.name t.closing := by
  have hplain : Silent outer.name ('/' :: (t.name ++ ['>'])) := by
    apply silent_of_plain
    simp [t.not_mem_name (c := '<') (by decide)]
  apply Silent.cons _ hplain
  intro r hnames
  apply hne
  apply name_eq_of_names (c := '>') (r := r) true (by decide)
  simpa [slash] using hnames

/-! ## Tags of the name -/

/-- What is written like a tag of the name, up to the first `>`. -/
def tagLike (name : Text) (closes : Bool) (middle : Text) (selfClosing : Bool) : Text :=
  '<' :: (slash closes ++ (name ++ (middle ++ (slash selfClosing ++ ['>']))))

/-- The text between the name and the end of what is written like a tag. -/
structure IsMiddle (middle : Text) (selfClosing : Bool) : Prop where
  open_end : '>' ∉ middle
  head : ∀ x ∈ middle.head?, endsTagName x = true
  last : selfClosing = false → middle.getLast? ≠ some '/'

/-- The number of open tags behind a tag. -/
def countBehind (depth : Nat) (closes selfClosing : Bool) : Nat :=
  if closes then depth - 1 else if selfClosing then depth else depth + 1

variable {closes selfClosing : Bool} {middle : Text}

/-- The end of a tag does not fit before its `>` or the slash before that. -/
theorem refuses_end (h : IsMiddle middle selfClosing) {v v' : Text} {x : Char}
    (hmiddle : middle = v ++ x :: v') (before : Option Char) :
    Refuses (inOrder [capture 2 (optional (char '/')), char '>']) before
      (x :: v' ++ (slash selfClosing ++ '>' :: r)) := by
  intro w r' hw hfits
  obtain ⟨s, e, rfl, hslash, hend⟩ := fits_both_iff.1 hfits
  obtain ⟨closes, rfl⟩ := fits_slash hslash
  obtain ⟨y, rfl, hy⟩ := fits_one_iff.1 hend
  cases beq_iff_eq.1 hy
  have hopen : '>' ∉ x :: v' := fun hmem => h.open_end (by rw [hmiddle]; exact List.mem_append_right v hmem)
  cases closes with
  | false =>
    obtain ⟨rfl, -⟩ := List.cons.inj hw
    exact hopen List.mem_cons_self
  | true =>
    obtain ⟨rfl, hrest⟩ := List.cons.inj hw
    cases v' with
    | nil =>
      cases selfClosing with
      | false => exact h.last rfl (by simp [hmiddle])
      | true => exact absurd (List.cons.inj hrest).1 (by decide)
    | cons z v' =>
      obtain ⟨rfl, -⟩ := List.cons.inj hrest
      exact hopen (by simp)

/-- The pattern of a tag leads over what looks like one, and the depth is counted on from there. -/
theorem leads_tagLike (outer : WrittenTag) (depth : Nat) (closes : Bool) (h : IsMiddle middle selfClosing)
    (u r : Text) :
    ∃ ks, Leads (tagOf outer.name) (between u (tagLike outer.name closes middle selfClosing ++ r) [])
        (between (u ++ tagLike outer.name closes middle selfClosing) r ks) ∧
      ∀ start text, depthBehind depth
        ⟨start, between (u ++ tagLike outer.name closes middle selfClosing) r ks, text⟩ =
          countBehind depth closes selfClosing := by
  have hname : ∀ x ∈ (outer.name ++ (middle ++ (slash selfClosing ++ '>' :: r))).head?, x ≠ '/' := by
    obtain ⟨c, w, hname, hc⟩ := outer.head
    rw [hname]
    rintro _ ⟨⟩ rfl
    exact absurd hc (by decide)
  have hends : (middle ++ (slash selfClosing ++ '>' :: r)).head?.any endsTagName = true := by
    cases hm : middle with
    | nil =>
      cases selfClosing
      all_goals simp [slash, endsTagName]
    | cons x w =>
      rw [List.cons_append, List.head?_cons, Option.any_some]
      exact h.head x (by rw [hm]; rfl)
  have hplain : ∀ x ∈ middle, (!">".toList.contains x) = true := by
    intro x hx
    have : x ≠ '>' := fun heq => h.open_end (heq ▸ hx)
    simpa using this
  have hleads : Leads (tagOf outer.name)
      (between u ('<' :: (slash closes ++ (outer.name ++ (middle ++ (slash selfClosing ++ '>' :: r))))) [])
      (between (u ++ ['<'] ++ slash closes ++ outer.name ++ middle ++ slash selfClosing ++ ['>']) r _) :=
    .both (.char '<') (.both (.capture (leads_slash closes hname)) (.both (.chars outer.name)
      (.both (.look hends) (.reluctant_one hplain (fun v x v' hm => refuses_end h hm _)
        (.both (.capture (leads_slash selfClosing (by simp))) (.char '>'))))))
  have htext : tagLike outer.name closes middle selfClosing ++ r =
      '<' :: (slash closes ++ (outer.name ++ (middle ++ (slash selfClosing ++ '>' :: r)))) := by
    simp [tagLike]
  have hbehind : u ++ tagLike outer.name closes middle selfClosing =
      u ++ ['<'] ++ slash closes ++ outer.name ++ middle ++ slash selfClosing ++ ['>'] := by
    simp [tagLike]
  rw [htext, hbehind]
  refine ⟨_, hleads, fun start text => ?_⟩
  cases closes
  all_goals
    cases selfClosing
    all_goals simp [depthBehind, countBehind, Match.group, Match.capture?, Capture.text, slash]

/-! ## The count -/

/-- To look for the closing does not depend on what was remembered. -/
theorem closingPlace?_forget :
    closingPlace? name depth (between u r ks) = closingPlace? name depth (between u r []) := by
  rw [closingPlace?, closingPlace?, searchFrom?_forget]
  rfl

/-- To look for the closing passes over silent text. -/
theorem closingPlace?_silent (h : Silent name w) :
    closingPlace? name depth (between u (w ++ r) []) = closingPlace? name depth (between (u ++ w) r []) := by
  have hskip : (tagOf name).searchFrom? (between u (w ++ r) []) =
      (tagOf name).searchFrom? (between (u ++ w) r []) := by
    apply searchFrom?_skip
    rintro v x v' rfl
    exact refuses_tagOf fun hx => h v v' r (by rw [hx])
  rw [closingPlace?, closingPlace?, hskip]
  cases hsearch : (tagOf name).searchFrom? (between (u ++ w) r []) with
  | none => rfl
  | some m =>
    have hshorter := searchFrom?_left_lt not_fits_tagOf_nil hsearch
    have hlonger := searchFrom?_left_lt not_fits_tagOf_nil (hskip.trans hsearch)
    dsimp only
    rw [if_pos hshorter, if_pos hlonger]

/-- A tag of the name ends the search if it closes the last open one, and else changes the count. -/
theorem closingPlace?_tagLike (outer : WrittenTag) (depth : Nat) (closes : Bool)
    (h : IsMiddle middle selfClosing) (u r : Text) :
    ∃ ks, closingPlace? outer.name depth (between u (tagLike outer.name closes middle selfClosing ++ r) []) =
      if countBehind depth closes selfClosing = 0 then
        some (between (u ++ tagLike outer.name closes middle selfClosing) r ks)
      else closingPlace? outer.name (countBehind depth closes selfClosing)
        (between (u ++ tagLike outer.name closes middle selfClosing) r []) := by
  obtain ⟨ks, hleads, hcount⟩ := leads_tagLike outer depth closes h u r
  have hshorter : (between (u ++ tagLike outer.name closes middle selfClosing) r ks).left <
      (between u (tagLike outer.name closes middle selfClosing ++ r) []).left := by
    simp [tagLike]
    omega
  refine ⟨ks, ?_⟩
  rw [closingPlace?, searchFrom?_of_match (matchAt?_of_leads hleads)]
  dsimp only
  rw [hcount, closingPlace?_forget, if_pos hshorter]
  simp only [beq_iff_eq]

/-- A tag may have no attributes. -/
theorem isMiddle_nil : IsMiddle [] false where
  open_end := by simp
  head := by simp
  last := by simp

/-- The closing of a tag is one that looks like a tag without attributes. -/
theorem closing_eq (t : WrittenTag) : t.closing = tagLike t.name true [] false := by
  simp [WrittenTag.closing, tagLike, slash]

/-- Whether a tag looks closed is told by the character in front of its first closing bracket. -/
theorem looksClosed_append {p tail : Text} (hname : '/' ∉ name) (hname' : '>' ∉ name) (hp : '>' ∉ p) :
    looksClosed ('<' :: (name ++ (p ++ '>' :: tail))) = (p.getLast? == some '/') := by
  have hgoes : ∀ x ∈ '<' :: (name ++ p), (x != '>') = true := by
    intro x hx
    rw [bne_iff_ne]
    rintro rfl
    simp [hname', hp] at hx
  have htake : ('<' :: (name ++ (p ++ '>' :: tail))).takeWhile (· != '>') = '<' :: (name ++ p) := by
    have hall : ('<' :: (name ++ p) ++ '>' :: tail).takeWhile (· != '>') =
        '<' :: (name ++ p) ++ ('>' :: tail).takeWhile (· != '>') := List.takeWhile_append_of_pos hgoes
    simpa using hall
  unfold looksClosed
  rw [htake]
  rcases List.eq_nil_or_concat p with rfl | ⟨q, x, rfl⟩
  · rw [List.append_nil]
    apply beq_false_of_ne
    intro hlast
    have hmem := List.mem_of_getLast? hlast
    simp [hname] at hmem
  · have hlast : ('<' :: (name ++ (q ++ [x]))).getLast? = some x := by
      rw [← List.append_assoc, ← List.cons_append, List.getLast?_concat]
    rw [List.concat_eq_append, hlast, List.getLast?_concat]

/-- A tag of the name is read to the first `>`, and silent from there on. -/
theorem exists_tagLike {looks : Bool} (ht : ∀ a ∈ t.attributes, ¬Mentions outer.name a.value)
    (hname : t.name = outer.name) (hlooks : looksClosed (t.opening selfClosing) = looks) :
    ∃ middle tail, t.opening selfClosing = tagLike outer.name false middle looks ++ tail ∧
      IsMiddle middle looks ∧ Silent outer.name tail := by
  have hend : '>' ∈ t.middle ++ tagEnd selfClosing := by
    cases selfClosing
    all_goals simp [tagEnd]
  obtain ⟨p, tail, hsplit, hp⟩ := List.eq_append_cons_of_mem hend
  have hsilent : Silent outer.name (p ++ ['>'] ++ tail) := by
    have := silent_attributes ht selfClosing
    rw [List.append_assoc]
    rwa [← WrittenTag.middle, hsplit] at this
  have hhead : ∀ x ∈ p.head?, endsTagName x = true := by
    obtain ⟨c, w, hw, hc⟩ := exists_middle t selfClosing []
    rw [List.append_nil, hsplit] at hw
    intro x hx
    obtain ⟨p', rfl⟩ := List.head?_eq_some_iff.1 hx
    obtain ⟨rfl, -⟩ := List.cons.inj hw
    rcases hc with rfl | rfl
    all_goals decide
  have hopening : t.opening selfClosing = '<' :: (outer.name ++ (p ++ '>' :: tail)) := by
    rw [WrittenTag.opening, hname, hsplit]
  rw [hopening, looksClosed_append (outer.not_mem_name (by decide)) (outer.not_mem_name (by decide)) hp]
    at hlooks
  cases looks with
  | false =>
    refine ⟨p, tail, ?_, ⟨hp, hhead, fun _ => ?_⟩, hsilent.behind⟩
    · simp [hopening, tagLike, slash]
    · simpa using hlooks
  | true =>
    obtain ⟨q, rfl⟩ := List.getLast?_eq_some_iff.1 (beq_iff_eq.1 hlooks)
    refine ⟨q, tail, ?_, ⟨?_, ?_, fun h => absurd h (by decide)⟩, hsilent.behind⟩
    · simp [hopening, tagLike, slash]
    · exact fun hmem => hp (List.mem_append_left _ hmem)
    · intro x hx
      obtain ⟨q', rfl⟩ := List.head?_eq_some_iff.1 hx
      exact hhead x rfl

/-- The number of open tags of the name inside an element. -/
def countInside (outer t : WrittenTag) (depth : Nat) : Nat :=
  if t.name = outer.name then depth + 1 else depth

/-- An opening that stands clear makes the search go on one level deeper, if it is one of the same name that
does not close itself. -/
theorem closingPlace?_opening (ht : t.Clear outer.name selfClosing) (hdepth : 0 < depth) :
    closingPlace? outer.name depth (between u (t.opening selfClosing ++ r) []) =
      closingPlace? outer.name (if selfClosing then depth else countInside outer t depth)
        (between (u ++ t.opening selfClosing) r []) := by
  by_cases hname : t.name = outer.name
  · obtain ⟨middle, tail, hopening, hmiddle, htail⟩ := exists_tagLike ht.unmentioned hname (ht.looks hname)
    have hcount : countBehind depth false selfClosing =
        if selfClosing then depth else countInside outer t depth := by
      rw [countInside, if_pos hname]
      rfl
    have hopen : countBehind depth false selfClosing ≠ 0 := by
      unfold countBehind
      cases selfClosing
      all_goals simp
      omega
    obtain ⟨ks, hplace⟩ := closingPlace?_tagLike outer depth false hmiddle u (tail ++ r)
    rw [hopening, List.append_assoc, hplace, if_neg hopen, closingPlace?_silent htail, hcount,
      List.append_assoc]
  · have hcount : (if selfClosing then depth else countInside outer t depth) = depth := by
      rw [countInside, if_neg hname, ite_self]
    rw [hcount, closingPlace?_silent (silent_opening ht.unmentioned hname)]

/-- A closing takes the search back to where it was in front of the opening. -/
theorem closingPlace?_closing (hdepth : 0 < depth) :
    closingPlace? outer.name (countInside outer t depth) (between u (t.closing ++ r) []) =
      closingPlace? outer.name depth (between (u ++ t.closing) r []) := by
  unfold countInside
  by_cases hname : t.name = outer.name
  · obtain ⟨ks, hplace⟩ := closingPlace?_tagLike outer (depth + 1) true isMiddle_nil u r
    have hopen : countBehind (depth + 1) true false ≠ 0 := Nat.pos_iff_ne_zero.1 hdepth
    rw [if_pos hname, closing_eq, hname, hplace, if_neg hopen]
    rfl
  · rw [if_neg hname, closingPlace?_silent (silent_closing hname)]

/-- The count is as high behind a forest as before it. -/
theorem closingPlace?_render {f : Forest} (hf : f.Clear outer.name) (hdepth : 0 < depth) :
    closingPlace? outer.name depth (between u (f.render ++ r) []) =
      closingPlace? outer.name depth (between (u ++ f.render) r []) := by
  induction f generalizing u r depth with
  | nil => rw [Forest.render, List.nil_append, List.append_nil]
  | text t plain rest ih =>
    rw [Forest.render, List.append_assoc, closingPlace?_silent (silent_of_plain plain), ih hf hdepth,
      List.append_assoc]
  | closed tag rest ih =>
    rw [Forest.render, List.append_assoc, closingPlace?_opening hf.1 hdepth, if_pos rfl, ih hf.2 hdepth,
      List.append_assoc]
  | element tag inside rest ih ih' =>
    obtain ⟨htag, hinside, hrest⟩ := hf
    have hcount : 0 < countInside outer tag depth := by
      unfold countInside
      split
      all_goals omega
    rw [Forest.render, List.append_assoc, List.append_assoc, List.append_assoc,
      closingPlace?_opening htag hdepth, if_neg Bool.false_ne_true, ih hinside hcount,
      closingPlace?_closing hdepth, ih' hrest hdepth]
    simp only [List.append_assoc]

/-- With one open tag, a closing tag of the name ends the search. -/
theorem exists_closingPlace?_closing :
    ∃ ks, closingPlace? outer.name 1 (between u (outer.closing ++ r) []) =
      some (between (u ++ outer.closing) r ks) := by
  obtain ⟨ks, hplace⟩ := closingPlace?_tagLike outer 1 true isMiddle_nil u r
  refine ⟨ks, ?_⟩
  rw [closing_eq, hplace]
  rfl

/-- The closing tag of an element is found behind what is inside the element. -/
theorem exists_closingPlace? {f : Forest} (hf : f.Clear outer.name) (u r : Text) (ks : List Capture) :
    ∃ ks', closingPlace? outer.name 1 (between u (f.render ++ (outer.closing ++ r)) ks) =
      some (between (u ++ f.render ++ outer.closing) r ks') := by
  rw [closingPlace?_forget, closingPlace?_render hf Nat.zero_lt_one]
  exact exists_closingPlace?_closing

/-- A tag of the name that looks closed and is not is left out of the count, so its closing tag is taken for
that of the element around it. -/
theorem exists_closingPlace?_of_looksClosed (ht : ∀ a ∈ t.attributes, ¬Mentions outer.name a.value)
    (hname : t.name = outer.name) (hlooks : looksClosed (t.opening false) = true) (u r : Text)
    (ks : List Capture) :
    ∃ ks', closingPlace? outer.name 1 (between u (t.opening false ++ (t.closing ++ r)) ks) =
      some (between (u ++ t.opening false ++ t.closing) r ks') := by
  obtain ⟨middle, tail, hopening, hmiddle, htail⟩ := exists_tagLike ht hname hlooks
  obtain ⟨ks', hplace⟩ := closingPlace?_tagLike outer 1 false hmiddle u (tail ++ (t.closing ++ r))
  have hclosing : t.closing = outer.closing := by
    rw [WrittenTag.closing, hname]
    rfl
  rw [closingPlace?_forget, hopening, List.append_assoc, hplace, if_neg (by decide),
    closingPlace?_silent htail, ← List.append_assoc u, hclosing]
  exact exists_closingPlace?_closing

end UxLint.Markup
