import DocumentSearch.Proofs.MemberOrder

/-!
What was not requested is not looked at. Members that no definition asks for change nothing, at the
top of a response or in the value of a nested definition. Behind a filter, where the counts may
stand under a name that the request does not know, one more child can only make decoding fail, as
long as its name is not one of those that are tried first.
-/

namespace DocumentSearch

namespace Aggregation

/-- Definitions side by side have distinct names, at every level of a request. -/
inductive DistinctNames : List (String × Aggregation) → Prop
  | intro {aggregations : List (String × Aggregation)}
      (names : (Entries.names aggregations).Nodup)
      (inside : ∀ child path inner, (child, .nested path inner) ∈ aggregations →
        DistinctNames inner) :
      DistinctNames aggregations

/-- The value of one definition is changed, at the top of a response or inside any number of nested
definitions. -/
inductive Within (edit : Aggregation → Json → Json → Prop) :
    List (String × Aggregation) → Entries Json → Entries Json → Prop
  | here {aggregations : List (String × Aggregation)} {raw : Entries Json} {child : String}
      {definition : Aggregation} {value other : Json} (hmem : (child, definition) ∈ aggregations)
      (hvalue : raw.get? child = some value) (h : edit definition value other) :
      Within edit aggregations raw (raw.put child other)
  | inside {aggregations inner : List (String × Aggregation)} {raw members others : Entries Json}
      {child path : String} (hmem : (child, .nested path inner) ∈ aggregations)
      (hvalue : raw.get? child = some (.object members)) (h : Within edit inner members others) :
      Within edit aggregations raw (raw.put child (.object others))

/-- One more member in the value of a nested definition, named like none of its children. -/
inductive AddsToNested : Aggregation → Json → Json → Prop
  | intro {path name : String} {aggregations : List (String × Aggregation)}
      (front back : Entries Json) (value : Json) (hname : name ∉ Entries.names aggregations) :
      AddsToNested (.nested path aggregations) (.object (front ++ back))
        (.object (front ++ (name, value) :: back))

/-- One more child behind the filter of a definition whose value can be decoded, under neither of
the names that are tried first. -/
inductive AddsToFilter : Aggregation → Json → Json → Prop
  | intro {path resultKey bucketKey name : String} {filters : List (String × List Json)}
      {size : UInt64} {members : Entries Json} (front back : Entries Json) (child : Json)
      (hchildren : members.get? resultKey = some (.object (front ++ back)))
      (hdecoded : ∃ label results,
        filteredResult label resultKey bucketKey (.object members) = .ok results)
      (hsuffixed : name ≠ bucketKey ++ filteredSuffix) (hrequested : name ≠ resultKey) :
      AddsToFilter (.nestedFiltered path resultKey bucketKey filters size) (.object members)
        (.object (members.put resultKey (.object (front ++ (name, child) :: back))))

/-- A relation that outcomes keep when they are put one after another. -/
structure Sequenced (r : Decoded → Decoded → Prop) : Prop where
  refl : ∀ outcome, r outcome outcome
  append : ∀ {first other rest others : Decoded}, r first other → r rest others →
    r (do return (← first) ++ (← rest)) (do return (← other) ++ (← others))

theorem sequenced_eq : Sequenced Eq where
  refl _ := rfl
  append := by
    rintro first _ rest _ rfl rfl
    rfl

/-- The outcome is the same, or there are no results any more. -/
def StaysOrFails (outcome other : Decoded) : Prop :=
  other = outcome ∨ ∃ error, other = .error error

theorem sequenced_staysOrFails : Sequenced StaysOrFails where
  refl _ := Or.inl rfl
  append := by
    rintro _ first rest _ (rfl | ⟨error, rfl⟩) hrest
    · rcases hrest with rfl | ⟨error, rfl⟩
      · exact Or.inl rfl
      · cases first with
        | error error => exact Or.inr ⟨error, rfl⟩
        | ok results => exact Or.inr ⟨error, rfl⟩
    · exact Or.inr ⟨error, rfl⟩

section Outcomes

variable {r : Decoded → Decoded → Prop} {aggregations : List (String × Aggregation)}

/-- Outcomes are related if all definitions find related values. -/
theorem resultsOfAll_rel (hr : Sequenced r) {raw other : Json} (missing : String → DecodeError)
    (h : ∀ entry ∈ aggregations, Option.Rel
      (fun value found => r (entry.2.results entry.1 value) (entry.2.results entry.1 found))
      (raw.get? entry.1) (other.get? entry.1)) :
    r (resultsOfAll missing raw aggregations) (resultsOfAll missing other aggregations) := by
  induction aggregations with
  | nil => exact hr.refl _
  | cons entry rest ih =>
    obtain ⟨name, aggregation⟩ := entry
    rw [List.forall_mem_cons] at h
    obtain ⟨hfirst, hrest⟩ := h
    rw [resultsOfAll, resultsOfAll]
    generalize raw.get? name = value, other.get? name = found at hfirst ⊢
    cases hfirst with
    | none => exact hr.refl _
    | some hfirst => exact hr.append hfirst (ih hrest)

theorem option_rel_of_eq (hr : Sequenced r) {value found : Option Json} (h : value = found)
    (results : Json → Decoded) :
    Option.Rel (fun value found => r (results value) (results found)) value found := by
  subst h
  cases value with
  | none => exact .none
  | some value => exact .some (hr.refl _)

/-- Only the names of the definitions are looked up. -/
theorem resultsOfAll_congr {raw other : Json} (missing : String → DecodeError)
    (h : ∀ name ∈ Entries.names aggregations, raw.get? name = other.get? name) :
    resultsOfAll missing raw aggregations = resultsOfAll missing other aggregations := by
  refine resultsOfAll_rel sequenced_eq missing fun entry hentry => ?_
  exact option_rel_of_eq sequenced_eq (h entry.1 (List.mem_map_of_mem hentry)) _

/-- Only one definition looks at the value that is changed, since no other one has its name. -/
theorem resultsOfAll_put (hr : Sequenced r) (hnames : (Entries.names aggregations).Nodup)
    {child : String} {definition : Aggregation} (hmem : (child, definition) ∈ aggregations)
    {raw : Entries Json} {value other : Json} (hvalue : raw.get? child = some value)
    (h : r (definition.results child value) (definition.results child other))
    (missing : String → DecodeError) :
    r (resultsOfAll missing (.object raw) aggregations)
      (resultsOfAll missing (.object (raw.put child other)) aggregations) := by
  refine resultsOfAll_rel hr missing fun entry hentry => ?_
  obtain ⟨name, aggregation⟩ := entry
  rw [Json.get?_object, Json.get?_object]
  by_cases hname : name = child
  · subst hname
    have hfound := Entries.get?_of_mem hnames hmem
    obtain rfl := Option.some.inj (hfound.symm.trans (Entries.get?_of_mem hnames hentry))
    rw [hvalue, Entries.get?_put_self]
    exact .some h
  · exact option_rel_of_eq hr (Entries.get?_put_of_ne raw other hname).symm _

theorem DistinctNames.resultsOfAll_within (hnames : DistinctNames aggregations)
    (hr : Sequenced r) {edit : Aggregation → Json → Json → Prop}
    (hedit : ∀ {definition value other}, edit definition value other →
      ∀ name, r (definition.results name value) (definition.results name other))
    {raw other : Entries Json} (h : Within edit aggregations raw other)
    (missing : String → DecodeError) :
    r (resultsOfAll missing (.object raw) aggregations)
      (resultsOfAll missing (.object other) aggregations) := by
  induction h generalizing missing with
  | here hmem hvalue h =>
    obtain ⟨hdistinct, -⟩ := hnames
    exact resultsOfAll_put hr hdistinct hmem hvalue (hedit h _) missing
  | inside hmem hvalue _ ih =>
    obtain ⟨hdistinct, hinside⟩ := hnames
    refine resultsOfAll_put hr hdistinct hmem hvalue ?_ missing
    rw [Aggregation.results, Aggregation.results, childResults_eq_resultsOfAll,
      childResults_eq_resultsOfAll]
    exact ih (hinside _ _ _ hmem) _

end Outcomes

theorem get?_object_insert {front back : Entries Json} {key name : String} (h : key ≠ name)
    (value : Json) :
    (Json.object (front ++ (key, value) :: back)).get? name =
      (Json.object (front ++ back)).get? name := by
  rw [Json.get?_object, Json.get?_object, Entries.get?_insert_of_ne front back value h]

theorem AddsToNested.results_eq {definition : Aggregation} {value other : Json}
    (h : AddsToNested definition value other) (name : String) :
    definition.results name value = definition.results name other := by
  cases h with
  | intro front back value hname =>
    rw [results, results, childResults_eq_resultsOfAll, childResults_eq_resultsOfAll]
    refine resultsOfAll_congr _ fun child hchild => (get?_object_insert ?_ value).symm
    rintro rfl
    exact hname hchild

theorem filter_insert {front back : Entries Json} {test : String × Json → Bool}
    {found : String × Json} (h : (front ++ back).filter test = [found])
    (added : String × Json) :
    (front ++ added :: back).filter test = [found] ∨
      (front ++ added :: back).filter test = [added, found] ∨
        (front ++ added :: back).filter test = [found, added] := by
  rw [List.filter_append] at h ⊢
  cases htest : test added with
  | false =>
    rw [List.filter_cons_of_neg (by simp [htest])]
    exact Or.inl h
  | true =>
    rw [List.filter_cons_of_pos htest]
    rcases List.append_eq_singleton_iff.mp h with ⟨hfront, hback⟩ | ⟨hfront, hback⟩
    · exact Or.inr (Or.inl (by rw [hfront, hback, List.nil_append]))
    · exact Or.inr (Or.inr (by rw [hfront, hback, List.singleton_append]))

/-- One more child behind a filter: if it has buckets, it is unclear which child is meant, and
otherwise it is passed over. -/
theorem filteredLeaf_insert {front back : Entries Json} {resultKey bucketKey name : String}
    {found : String × Json} (child : Json) (hsuffixed : name ≠ bucketKey ++ filteredSuffix)
    (hrequested : name ≠ resultKey)
    (h : filteredLeaf (.object (front ++ back)) resultKey bucketKey = some found) :
    filteredLeaf (.object (front ++ (name, child) :: back)) resultKey bucketKey = some found ∨
      filteredLeaf (.object (front ++ (name, child) :: back)) resultKey bucketKey = none := by
  rw [filteredLeaf_object] at h
  rw [filteredLeaf_object, Entries.get?_insert_of_ne front back child hsuffixed,
    Entries.get?_insert_of_ne front back child hrequested]
  cases hfirst : Entries.get? (front ++ back) (bucketKey ++ filteredSuffix) with
  | some leaf =>
    rw [hfirst] at h
    exact Or.inl h
  | none =>
    cases hsecond : Entries.get? (front ++ back) resultKey with
    | some leaf =>
      rw [hfirst, hsecond] at h
      exact Or.inl h
    | none =>
      rw [hfirst, hsecond] at h
      rcases filter_insert (only_eq_some_iff.mp h) (name, child) with hall | hall | hall
      · exact Or.inl (only_eq_some_iff.mpr hall)
      · refine Or.inr ?_
        simp only [hall]
      · refine Or.inr ?_
        simp only [hall]

theorem AddsToFilter.results_staysOrFails {definition : Aggregation} {value other : Json}
    (h : AddsToFilter definition value other) (name : String) :
    StaysOrFails (definition.results name value) (definition.results name other) := by
  cases h with
  | @intro path resultKey bucketKey added filters size members front back child hchildren hdecoded
      hsuffixed hrequested =>
    obtain ⟨label, results, hresults⟩ := hdecoded
    simp only [Aggregation.results, filteredResult, Json.get?_object, hchildren,
      Entries.get?_put_self] at hresults ⊢
    cases hleaf : filteredLeaf (.object (front ++ back)) resultKey bucketKey with
    | none =>
      rw [hleaf] at hresults
      cases hresults
    | some found =>
      rcases filteredLeaf_insert child hsuffixed hrequested hleaf with hstays | hnone
      · rw [hstays]
        exact Or.inl rfl
      · rw [hnone]
        exact Or.inr ⟨_, rfl⟩

end Aggregation

namespace Aggregations

open Aggregation

/-- Reordered members, unrequested members and further children of nested definitions leave the
outcome as it is, and a further child behind a filter never leads to other counts. -/
theorem decoding_ignores_unrequested (requested : Aggregations)
    (hrequested : DistinctNames requested) (raw : Entries Json)
    (hraw : (Json.object raw).hasDistinctNames = true) :
    (∀ other, Json.MembersReordered (.object raw) (.object other) →
        SameOutcome (requested.results raw) (requested.results other)) ∧
      (∀ front back name value, raw = front ++ back → name ∉ requested.names →
        requested.results (front ++ (name, value) :: back) = requested.results raw) ∧
      (∀ other, Within AddsToNested requested raw other →
        requested.results other = requested.results raw) ∧
      ∀ other, Within AddsToFilter requested raw other →
        requested.results other = requested.results raw ∨
          ∃ error, requested.results other = .error error := by
  refine ⟨fun other h => sameOutcome_of_reordered requested hraw h, ?_, ?_, ?_⟩
  · rintro front back name value rfl hname
    rw [results_eq_resultsOfAll, results_eq_resultsOfAll]
    refine resultsOfAll_congr _ fun child hchild => get?_object_insert ?_ value
    rintro rfl
    exact hname hchild
  · intro other h
    rw [results_eq_resultsOfAll, results_eq_resultsOfAll]
    exact (hrequested.resultsOfAll_within sequenced_eq AddsToNested.results_eq h _).symm
  · intro other h
    rw [results_eq_resultsOfAll, results_eq_resultsOfAll]
    exact hrequested.resultsOfAll_within sequenced_staysOrFails
      AddsToFilter.results_staysOrFails h _

def countedExample : Entries Json :=
  [("items", .object [("doc_count", .natural 4), ("tints", onlyLeafExample)]),
    ("price", .single "value" .null), ("tags", bucketsExample)]

def reversedLeafExample : Json :=
  .single "colors" (.object [("shades", bucketsExample), ("doc_count", .natural 2)])

def reversedExample : Entries Json :=
  [("items", .single "tints" reversedLeafExample), ("price", .single "value" .null),
    ("tags", bucketsExample)]

def twoLeavesExample : Json :=
  .single "colors" (.object [("doc_count", .natural 2), ("hues", bucketsExample),
    ("shades", bucketsExample)])

def unclearExample : Entries Json :=
  [("items", .single "tints" twoLeavesExample), ("price", .single "value" .null),
    ("tags", bucketsExample)]

theorem distinctNames_requestExample : DistinctNames requestExample := by
  refine .intro (by decide) fun child path inner hmem => ?_
  simp only [requestExample, List.mem_cons, Prod.mk.injEq, reduceCtorEq, and_false, false_or,
    List.not_mem_nil, or_false, nested.injEq] at hmem
  obtain ⟨-, -, rfl⟩ := hmem
  refine .intro (by decide) fun child path inner hmem => ?_
  simp [tintsExample] at hmem

theorem reordered_reversedExample :
    Json.MembersReordered (.object unorderedExample) (.object reversedExample) :=
  .value [] _ "items" (.value [] [] "tints" (.value [] [] "colors" (.object (.swap _ _ []))))

theorem addsToNested_countedExample :
    Within AddsToNested requestExample unorderedExample countedExample := by
  have hnested : ("items", Aggregation.nested "items" [("tints", tintsExample)]) ∈
      requestExample := by simp [requestExample]
  have hadds : AddsToNested (.nested "items" [("tints", tintsExample)])
      (.single "tints" onlyLeafExample)
      (.object [("doc_count", .natural 4), ("tints", onlyLeafExample)]) :=
    .intro [] [("tints", onlyLeafExample)] (.natural 4) (by decide)
  exact .here hnested rfl hadds

theorem addsToFilter_unclearExample :
    Within AddsToFilter requestExample unorderedExample unclearExample := by
  have hnested : ("items", Aggregation.nested "items" [("tints", tintsExample)]) ∈
      requestExample := by simp [requestExample]
  have hadds : AddsToFilter tintsExample onlyLeafExample twoLeavesExample :=
    .intro [("doc_count", .natural 2)] [("shades", bucketsExample)] bucketsExample rfl
      ⟨"tints", _, rfl⟩ (by decide) (by decide)
  exact .inside hnested rfl (.here List.mem_cons_self rfl hadds)

/-- The filtered counts have been found as the only child that has buckets. A second such child
makes them unclear. -/
theorem decoding_ignores_unorderedExample :
    DistinctNames requestExample ∧ (Json.object unorderedExample).hasDistinctNames = true ∧
      SameOutcome (requestExample.results unorderedExample)
        (requestExample.results reversedExample) ∧
      requestExample.results (("took", .natural 3) :: unorderedExample) =
        requestExample.results unorderedExample ∧
      requestExample.results countedExample = requestExample.results unorderedExample ∧
      (requestExample.results unclearExample = requestExample.results unorderedExample ∨
        ∃ error, requestExample.results unclearExample = .error error) := by
  obtain ⟨hreordered, hadded, hnested, hfilter⟩ := decoding_ignores_unrequested requestExample
    distinctNames_requestExample unorderedExample (by decide)
  exact ⟨distinctNames_requestExample, by decide, hreordered _ reordered_reversedExample,
    hadded [] unorderedExample "took" (.natural 3) rfl (by decide),
    hnested _ addsToNested_countedExample, hfilter _ addsToFilter_unclearExample⟩

end Aggregations

end DocumentSearch
