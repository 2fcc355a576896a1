import UxLint.Proofs.Request.Sites
import UxLint.Proofs.Rule.Faults
import UxLint.Proofs.Rule.Findings
import UxLint.Proofs.Rule.Scope
import Mathlib.Data.Set.Card

/-!
# What the number in a report counts

The rule on loading states goes through the callbacks of page entry one by one and gathers the requests without
evidence in each, so the number in its report is that of the pairs of a callback and such a request in it
(`report_counts`). It is the number of the requests exactly if none of them stands in two callbacks. A request in
a callback inside another one, or in a function that is a callback for two reasons, is counted twice
(`counted_twice`).
-/

set_option autoImplicit false

namespace UxLint.InitialLoading

section Counting

variable (settings : RuleSettings) (classifier : Classifier) (lookup : Option (Lookup Id))
  (u : SourceUnit)

/-- Whether a request in a callback lacks evidence. -/
def lacks (hook request : Place) : Bool :=
  match (evidence settings lookup u hook request).run with
  | .ok none => true
  | _ => false

/-- A request in a callback lacks evidence, and the function around the callback is not exempt. -/
structure Unprotected (root : Place) (c : Callback) (site : List Nat) (q : Place) : Prop where
  callback : c ∈ callbacks root
  notExempt : isExempt settings c.place = false
  /-- The walk through the callback comes to the request, which stands at the site in the whole tree. -/
  reached : ∃ way ∈ c.place.node.ways, c.place.follow way = some q ∧ c.site ++ way = site
  request : q ∈ classifier.requests c.place
  bare : (evidence settings lookup u c.place q).run = .ok none

variable {settings classifier lookup u} {root hook q : Place} {c : Callback} {site : List Nat}

/-- A request lacks protection if there is no evidence of any. -/
theorem lacks_iff : lacks settings lookup u hook q = true ↔
    (evidence settings lookup u hook q).run = .ok none := by
  unfold lacks
  split
  · next h => simp [h]
  · next h => simpa using h

/-- A request stands at its site in the whole tree. -/
theorem Unprotected.follow_site (h : Unprotected settings classifier lookup u root c site q) :
    root.follow site = some q := by
  obtain ⟨way, -, hfollow, rfl⟩ := h.reached
  rw [Place.follow_append, InitialLoading.follow_site h.callback]
  exact hfollow

/-! ## What is gathered -/

/-- The uncovered requests of a hook are those that lack protection. -/
theorem uncoveredOf_eq {requests found : List Place}
    (h : (uncoveredOf settings lookup u hook requests).run = .ok found) :
    found = requests.filter (lacks settings lookup u hook) := by
  induction requests generalizing found with
  | nil =>
    cases h
    rfl
  | cons request rest ih =>
    unfold uncoveredOf at h
    obtain ⟨e, hevidence, h⟩ := run_bind_eq_ok_iff.1 h
    obtain ⟨more, hrest, h⟩ := run_bind_eq_ok_iff.1 h
    rw [List.filter_cons, lacks, hevidence, ← ih hrest]
    cases e with
    | none =>
      cases h
      rfl
    | some e =>
      cases h
      rfl

/-- The uncovered requests are those that lack protection, hook by hook. -/
theorem uncovered_eq {hooks found : List Place}
    (h : (uncovered settings classifier lookup u hooks).run = .ok found) :
    found = hooks.flatMap fun hook =>
      (classifier.requests hook).filter (lacks settings lookup u hook) := by
  induction hooks generalizing found with
  | nil =>
    cases h
    rfl
  | cons hook rest ih =>
    unfold uncovered at h
    obtain ⟨here, hhere, h⟩ := run_bind_eq_ok_iff.1 h
    obtain ⟨more, hrest, h⟩ := run_bind_eq_ok_iff.1 h
    cases h
    rw [List.flatMap_cons, uncoveredOf_eq hhere, ih hrest]

/-! ## Pairs of a callback and a request -/

variable (settings classifier lookup u) in
/-- The ways inside a callback to the requests in it that lack evidence. -/
def unprotectedWays (c : Callback) : List (List Nat) :=
  c.place.node.ways.filter fun way => (c.place.follow way).any fun q =>
    q.node.isCall && classifier.startsRequest q.node && lacks settings lookup u c.place q

variable (settings classifier lookup u) in
/-- The callbacks that are not exempt, each with the sites of the requests in it that lack evidence. -/
def tally (root : Place) : List (Callback × List Nat) :=
  ((callbacks root).filter fun c => !isExempt settings c.place).flatMap fun c =>
    (unprotectedWays settings classifier lookup u c).map fun way => (c, c.site ++ way)

/-- The unprotected ways below a callback lead to its requests that lack evidence. -/
theorem mem_unprotectedWays_iff {way : List Nat} :
    way ∈ unprotectedWays settings classifier lookup u c ↔ way ∈ c.place.node.ways ∧
      ∃ q, c.place.follow way = some q ∧ q ∈ classifier.requests c.place ∧
        (evidence settings lookup u c.place q).run = .ok none := by
  unfold unprotectedWays
  rw [List.mem_filter]
  refine and_congr_right fun hway => ?_
  rw [Option.any_eq_true]
  refine exists_congr fun q => and_congr_right fun hq => ?_
  rw [Bool.and_eq_true, Bool.and_eq_true, lacks_iff, classifier.mem_requests_iff]
  have hwalk : q ∈ c.place.walk := Place.mem_walk_of_mem_ways hway hq
  simp only [hwalk, true_and, and_assoc]

/-- The tally holds the unprotected requests, each with its callback. -/
theorem mem_tally_iff {root : Place} {x : Callback × List Nat} :
    x ∈ tally settings classifier lookup u root ↔
      ∃ q, Unprotected settings classifier lookup u root x.1 x.2 q := by
  obtain ⟨c, site⟩ := x
  unfold tally
  rw [List.mem_flatMap]
  constructor
  · rintro ⟨c', hc, hx⟩
    obtain ⟨hcallback, hexempt⟩ := List.mem_filter.1 hc
    obtain ⟨way, hway, heq⟩ := List.mem_map.1 hx
    cases heq
    obtain ⟨hwalk, q, hfollow, hrequest, hbare⟩ := mem_unprotectedWays_iff.1 hway
    exact ⟨q, hcallback, by simpa using hexempt, ⟨way, hwalk, hfollow, rfl⟩, hrequest, hbare⟩
  · rintro ⟨q, hcallback, hexempt, ⟨way, hwalk, hfollow, hsite⟩, hrequest, hbare⟩
    dsimp only at *
    subst hsite
    refine ⟨c, List.mem_filter.2 ⟨hcallback, by simpa using hexempt⟩, List.mem_map.2 ⟨way, ?_, rfl⟩⟩
    exact mem_unprotectedWays_iff.2 ⟨hwalk, q, hfollow, hrequest, hbare⟩

/-- The tally counts nothing twice. -/
theorem nodup_tally (root : Place) : (tally settings classifier lookup u root).Nodup := by
  refine List.nodup_flatMap.2 ⟨fun c _ => ?_, ?_⟩
  · refine (c.place.node.nodup_ways.filter _).map fun way way' heq => ?_
    exact List.append_cancel_left (congrArg Prod.snd heq)
  · refine ((nodup_callbacks root).filter _).imp fun hne => ?_
    intro x hx hx'
    obtain ⟨way, -, rfl⟩ := List.mem_map.1 hx
    obtain ⟨way', -, heq⟩ := List.mem_map.1 hx'
    exact hne (congrArg Prod.fst heq).symm

/-- A callback has as many ways to requests without evidence as it has such requests. -/
theorem length_unprotectedWays (c : Callback) :
    (unprotectedWays settings classifier lookup u c).length =
      ((classifier.requests c.place).filter (lacks settings lookup u c.place)).length := by
  have hways := congrArg List.length (c.place.map_follow_filter_ways fun q =>
    q.node.isCall && classifier.startsRequest q.node && lacks settings lookup u c.place q)
  rw [List.length_map, List.length_map] at hways
  have hsorted : (classifier.requests c.place).Perm
      (c.place.walk.filter fun q => q.node.isCall && classifier.startsRequest q.node) := by
    refine (List.mergeSort_perm _ _).trans ?_
    rw [Place.calls, Place.findAll, List.filter_filter]
    exact .of_eq (List.filter_congr fun q _ => Bool.and_comm _ _)
  rw [(hsorted.filter _).length_eq, List.filter_filter]
  refine hways.trans (congrArg List.length (List.filter_congr fun q _ => ?_))
  exact Bool.and_comm _ _

/-- As many requests are gathered as there are pairs. -/
theorem length_tally (root : Place) :
    (tally settings classifier lookup u root).length =
      (((lifecycleCallbacks root).filter fun h => !isExempt settings h).flatMap fun hook =>
        (classifier.requests hook).filter (lacks settings lookup u hook)).length := by
  have hplaces := (map_place_callbacks root).filter fun h => !isExempt settings h
  rw [← (hplaces.flatMap_right _).length_eq, List.filter_map, List.flatMap_map]
  unfold tally
  rw [List.length_flatMap, List.length_flatMap]
  refine congrArg List.sum (List.map_congr_left fun c _ => ?_)
  rw [List.length_map]
  exact length_unprotectedWays c

/-- What is gathered are the requests without evidence. -/
theorem mem_gathered_iff : q ∈ (((lifecycleCallbacks root).filter fun h => !isExempt settings h).flatMap
      fun hook => (classifier.requests hook).filter (lacks settings lookup u hook)) ↔
    ∃ c site, Unprotected settings classifier lookup u root c site q := by
  rw [List.mem_flatMap]
  constructor
  · rintro ⟨hook, hhook, hq⟩
    obtain ⟨hhook, hexempt⟩ := List.mem_filter.1 hhook
    obtain ⟨c, hc, rfl⟩ := List.mem_map.1 ((map_place_callbacks root).mem_iff.2 hhook)
    obtain ⟨hrequest, hlacks⟩ := List.mem_filter.1 hq
    obtain ⟨way, hway, hfollow⟩ :=
      Place.mem_walk_iff_exists_way.1 (Classifier.mem_walk_of_mem_requests hrequest)
    exact ⟨c, c.site ++ way, hc, by simpa using hexempt, ⟨way, hway, hfollow, rfl⟩, hrequest,
      lacks_iff.1 hlacks⟩
  · rintro ⟨c, site, hc, hexempt, -, hrequest, hbare⟩
    have hmem : c.place ∈ lifecycleCallbacks root :=
      (map_place_callbacks root).mem_iff.1 (List.mem_map_of_mem hc)
    exact ⟨c.place, List.mem_filter.2 ⟨hmem, by simpa using hexempt⟩,
      List.mem_filter.2 ⟨hrequest, lacks_iff.2 hbare⟩⟩

/-! ## The report -/

/-- What the rule finds in a tree: nothing as long as it does not judge the file, and else what it says of the
requests that it gathered. -/
theorem found_of_run {path : String} {diff : Text} {found : Findings} (hroot : u.root? = some root)
    (hrun : (evaluate settings classifier lookup path u diff).run = .ok found) :
    found = none ∨ ∃ gathered, gathered = (((lifecycleCallbacks root).filter
        fun h => !isExempt settings h).flatMap fun hook =>
          (classifier.requests hook).filter (lacks settings lookup u hook)) ∧
      found = some (match gathered with
        | [] => []
        | p :: rest => [report settings path u (leftmost (·.node.start) p rest) (rest.length + 1)]) := by
  by_cases hoff : (!settings.enabled || settings.isPathWhitelisted path) = true
  · unfold evaluate at hrun
    rw [if_pos hoff] at hrun
    cases hrun
    exact .inl rfl
  · rw [Bool.not_eq_true] at hoff
    cases hd : Diff.read diff with
    | error fault =>
      unfold evaluate at hrun
      rw [hoff, if_neg Bool.false_ne_true, hroot, hd] at hrun
      cases hrun
    | ok d =>
      rw [evaluate_eq hoff hroot hd] at hrun
      split at hrun
      · cases hrun
        exact .inl rfl
      · unfold judgement at hrun
        rw [ExceptT.run_bind] at hrun
        cases hgathered : (uncovered settings classifier lookup u
            ((lifecycleCallbacks root).filter fun h => !isExempt settings h)).run with
        | error fault =>
          rw [hgathered] at hrun
          cases hrun
        | ok gathered =>
          rw [hgathered] at hrun
          refine .inr ⟨gathered, uncovered_eq hgathered, ?_⟩
          cases gathered with
          | nil =>
            cases hrun
            rfl
          | cons p rest =>
            cases hrun
            rfl

/-- The members of a list without repetitions are counted by its length, and so are their images exactly if the
list has no two members with one image. -/
theorem ncard_of_nodup {α β : Type} {l : List α} (h : l.Nodup) (f : α → β) :
    l.length = {x | x ∈ l}.ncard ∧
      (l.length = (f '' {x | x ∈ l}).ncard ↔ Set.InjOn f {x | x ∈ l}) := by
  classical
  have hlength : l.length = {x | x ∈ l}.ncard := by
    rw [← List.coe_toFinset, Set.ncard_coe_finset, List.toFinset_card_of_nodup h]
  have hfinite : {x | x ∈ l}.Finite := l.finite_toSet
  refine ⟨hlength, ?_⟩
  rw [hlength, eq_comm]
  exact Set.ncard_image_iff hfinite

/-- What the rule says of a tree. It reports at most one request, the first one of the source among those that
lack evidence in a callback. The number in the report is that of the pairs of a callback and such a request, and
it is the number of the requests themselves exactly if none of them stands in two callbacks. -/
theorem report_counts {path : String} {diff : Text} {found : Findings} (hroot : u.root? = some root)
    (hrun : (evaluate settings classifier lookup path u diff).run = .ok found) :
    let lacking := Unprotected settings classifier lookup u root
    found = none ∨ (found = some [] ∧ ∀ c site q, ¬lacking c site q) ∨
      ∃ first count, found = some [report settings path u first count] ∧
        (∃ c site, lacking c site first) ∧
        (∀ c site q, lacking c site q → first.node.start ≤ q.node.start) ∧
        count = {x : Callback × List Nat | ∃ q, lacking x.1 x.2 q}.ncard ∧
        (count = {site | ∃ c q, lacking c site q}.ncard ↔
          ∀ site c c' q q', lacking c site q → lacking c' site q' → c = c') := by
  intro lacking
  rcases found_of_run hroot hrun with hnone | ⟨gathered, hgathered, hfound⟩
  · exact .inl hnone
  · have hmem : ∀ q, q ∈ gathered ↔ ∃ c site, lacking c site q := by
      intro q
      rw [hgathered]
      exact mem_gathered_iff
    have hlength : (tally settings classifier lookup u root).length = gathered.length := by
      rw [hgathered]
      exact length_tally root
    refine .inr ?_
    cases gathered with
    | nil =>
      refine .inl ⟨hfound, fun c site q hlacking => ?_⟩
      cases (hmem q).2 ⟨c, site, hlacking⟩
    | cons p rest =>
      refine .inr ⟨leftmost (·.node.start) p rest, rest.length + 1, hfound,
        (hmem _).1 (leftmost_mem (·.node.start) p rest), ?_, ?_⟩
      · intro c site q hlacking
        exact leftmost_start_le (·.node.start) p rest q ((hmem q).2 ⟨c, site, hlacking⟩)
      · have hnodup : (tally settings classifier lookup u root).Nodup := nodup_tally root
        obtain ⟨hpairs, hsites⟩ := ncard_of_nodup hnodup Prod.snd
        have hset : {x | x ∈ tally settings classifier lookup u root} =
            {x : Callback × List Nat | ∃ q, lacking x.1 x.2 q} := Set.ext fun x => mem_tally_iff
        have himage : Prod.snd '' {x : Callback × List Nat | ∃ q, lacking x.1 x.2 q} =
            {site | ∃ c q, lacking c site q} := by
          ext site
          simp
        rw [hlength, hset, List.length_cons] at hpairs hsites
        rw [himage] at hsites
        refine ⟨hpairs, hsites.trans ⟨fun hinj => ?_, fun hone => ?_⟩⟩
        · intro site c c' q q' h h'
          have hfirst : (c, site) ∈ {x : Callback × List Nat | ∃ q, lacking x.1 x.2 q} := ⟨q, h⟩
          have hsecond : (c', site) ∈ {x : Callback × List Nat | ∃ q, lacking x.1 x.2 q} := ⟨q', h'⟩
          exact congrArg Prod.fst (hinj hfirst hsecond rfl)
        · rintro ⟨c, site⟩ ⟨q, h⟩ ⟨c', site'⟩ ⟨q', h'⟩ heq
          obtain rfl : site = site' := heq
          rw [hone site c c' q q' h h']

end Counting

/-- Without a lookup the rule judges every file that it looks at. -/
theorem exists_run {settings : RuleSettings} {path : String} {u : SourceUnit} (classifier : Classifier)
    (h : LooksAt settings path u) :
    ∃ vs, (evaluate settings classifier (none : Option (Lookup Id)) path u []).run = .ok (some vs) := by
  have hcalm : Calm (evaluate settings classifier (none : Option (Lookup Id)) path u []) :=
    evaluate_calm classifier (by simp) ⟨_, Diff.read_nil⟩
  obtain ⟨found, hfound⟩ := succeeds_iff.2 hcalm
  obtain ⟨n, hn⟩ := Option.isSome_iff_exists.1 h.tree
  have hroot : u.root? = some (Place.root n) := by rw [SourceUnit.root?, hn]; rfl
  have hwhole : concerns u .whole = true := rfl
  cases found with
  | none =>
    rw [run_evaluate_of_lookedAt h hroot Diff.read_nil, if_pos hwhole] at hfound
    exact absurd hfound (judgement_ne_none (Place.root n))
  | some vs => exact ⟨vs, hfound⟩

/-- The request in the one callback of a page is counted once. -/
theorem report_counts_effect :
    let lacking := Unprotected (.plain 2) (.ofWords []) none effectUnit (Place.root effectTree)
    effectUnit.root? = some (Place.root effectTree) ∧
      ∃ first count, (evaluate (.plain 2) (.ofWords []) (none : Option (Lookup Id)) "a.js"
          effectUnit []).run = .ok (some [report (.plain 2) "a.js" effectUnit first count]) ∧
        count = {site | ∃ c q, lacking c site q}.ncard := by
  intro lacking
  have hroot : effectUnit.root? = some (Place.root effectTree) := rfl
  obtain ⟨vs, hvs⟩ := exists_run (.ofWords []) lookedAt_effect
  have hsites : (tally (.plain 2) (.ofWords []) none effectUnit (Place.root effectTree)).length = 1 := by
    decide +kernel
  obtain ⟨x, hx⟩ := List.length_eq_one_iff.1 hsites
  have hmem {c : Callback} {site : List Nat} {q : Place} (h : lacking c site q) : (c, site) = x := by
    have h' := mem_tally_iff.2 (⟨q, h⟩ : ∃ q, lacking (c, site).1 (c, site).2 q)
    rw [hx] at h'
    exact List.mem_singleton.1 h'
  rcases report_counts hroot hvs with hnone | ⟨-, hempty⟩ | ⟨first, count, hfound, -, -, -, hiff⟩
  · cases hnone
  · obtain ⟨q, hq⟩ := mem_tally_iff.1 (hx ▸ List.mem_singleton_self x)
    exact absurd hq (hempty _ _ q)
  · refine ⟨hroot, first, count, hfound ▸ hvs, hiff.2 fun site c c' q q' h h' => ?_⟩
    exact congrArg Prod.fst ((hmem h).trans (hmem h').symm)

/-- A page that hands a function with the name of a method of page entry to an effect hook. -/
def twofoldText : Text := "useEffect(function mounted() { getDetail(id); });".toList

/-- What the grammar answers to the page. -/
def twofoldOutline : Outline :=
  .node "program" "" true 0 49
    [.node "expression_statement" "" true 0 49
      [.node "call_expression" "" true 0 48
        [.node "identifier" "function" true 0 9 [],
          .node "arguments" "arguments" true 9 48
            [.node "function_expression" "" true 10 47
              [.node "identifier" "name" true 19 26 [],
                .node "formal_parameters" "parameters" true 26 28 [],
                .node "statement_block" "body" true 29 47
                  [.node "expression_statement" "" true 31 45
                    [.node "call_expression" "" true 31 44
                      [.node "identifier" "function" true 31 40 [],
                        .node "arguments" "arguments" true 40 44
                          [.node "identifier" "" true 41 43 []]]]]]]]]]

/-- The tree of the page. -/
def twofoldTree : Node := twofoldOutline.laidOver (Text.encode twofoldText)

/-- The page made ready for the rules. -/
def twofoldUnit : SourceUnit := ⟨"a.js", "javascript", some twofoldTree, twofoldText, none, 0, 0⟩

/-- The one request of the page stands in a function that is a callback for two reasons, and is counted twice. -/
theorem counted_twice :
    let lacking := Unprotected (.plain 2) (.ofWords []) none twofoldUnit (Place.root twofoldTree)
    SourceUnit.read? (fun _ _ => some twofoldOutline) "a.js" twofoldText = some twofoldUnit ∧
      (∃ first, (evaluate (.plain 2) (.ofWords []) (none : Option (Lookup Id)) "a.js"
          twofoldUnit []).run = .ok (some [report (.plain 2) "a.js" twofoldUnit first 2])) ∧
      {site | ∃ c q, lacking c site q}.ncard = 1 := by
  intro lacking
  have hformat : Format.ofPath? "a.js" = some (.script .javascript) := by decide
  have hread : SourceUnit.read? (fun _ _ => some twofoldOutline) "a.js" twofoldText =
      some twofoldUnit :=
    SourceUnit.read?_script hformat rfl
  have hlooks : LooksAt (.plain 2) "a.js" twofoldUnit :=
    lookedAt_of_token rfl (show "getDetail" ∈ pageTokens by decide) (by decide +kernel)
  have hsites : (tally (.plain 2) (.ofWords []) none twofoldUnit (Place.root twofoldTree)).map
      Prod.snd = [[0, 0, 1, 0, 2, 0, 0], [0, 0, 1, 0, 2, 0, 0]] := by
    decide +kernel
  have hlength := congrArg List.length hsites
  rw [List.length_map, length_tally] at hlength
  have hroot : twofoldUnit.root? = some (Place.root twofoldTree) := rfl
  refine ⟨hread, ?_, Set.ncard_eq_one.2 ⟨[0, 0, 1, 0, 2, 0, 0], ?_⟩⟩
  · obtain ⟨vs, hvs⟩ := exists_run (.ofWords []) hlooks
    rcases found_of_run hroot hvs with hnone | ⟨gathered, hgathered, hfound⟩
    · cases hnone
    · rw [← hgathered] at hlength
      obtain ⟨p, q, rfl⟩ := List.length_eq_two.1 hlength
      exact ⟨leftmost (·.node.start) p [q], hfound ▸ hvs⟩
  · ext site
    have hmem : (∃ c q, lacking c site q) ↔ site ∈ (tally (.plain 2) (.ofWords []) none twofoldUnit
        (Place.root twofoldTree)).map Prod.snd := by
      rw [List.mem_map]
      constructor
      · rintro ⟨c, q, h⟩
        exact ⟨(c, site), mem_tally_iff.2 ⟨q, h⟩, rfl⟩
      · rintro ⟨x, hx, rfl⟩
        obtain ⟨q, hq⟩ := mem_tally_iff.1 hx
        exact ⟨x.1, q, hq⟩
    rw [Set.mem_ofPred_eq, hmem, hsites]
    simp

end UxLint.InitialLoading
