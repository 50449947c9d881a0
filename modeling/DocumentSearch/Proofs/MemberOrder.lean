import DocumentSearch.Proofs.DecodedAggregations
import DocumentSearch.Proofs.DocumentEquality

/-!
The order of members decides nothing. A response with the members of its objects in another order,
at any depth, is decoded to the same results, up to the order of the members inside their buckets
and metrics, and whatever cannot be decoded in one order cannot be decoded in another.
-/

namespace DocumentSearch

theorem forall₂_trans {α β γ : Type} {r : α → β → Prop} {s : β → γ → Prop} {t : α → γ → Prop}
    (htrans : ∀ a b c, r a b → s b c → t a c) {first : List α} {second : List β} {third : List γ}
    (h : List.Forall₂ r first second) (h' : List.Forall₂ s second third) :
    List.Forall₂ t first third := by
  induction h generalizing third with
  | nil =>
    cases h'
    exact .nil
  | cons hhead _ ih =>
    cases h' with
    | cons hhead' htail' => exact .cons (htrans _ _ _ hhead hhead') (ih htail')

namespace Json

/-- Any number of reorderings of the members of objects, at any depth. -/
inductive MembersReordered : Json → Json → Prop
  | refl (document : Json) : MembersReordered document document
  | trans {a b c : Json} (h : MembersReordered a b) (h' : MembersReordered b c) :
      MembersReordered a c
  | object {entries others : Entries Json} (h : entries.Perm others) :
      MembersReordered (.object entries) (.object others)
  | item (front back : List Json) {item other : Json} (h : MembersReordered item other) :
      MembersReordered (.array (front ++ item :: back)) (.array (front ++ other :: back))
  | value (front back : Entries Json) (name : String) {value other : Json}
      (h : MembersReordered value other) :
      MembersReordered (.object (front ++ (name, value) :: back))
        (.object (front ++ (name, other) :: back))

namespace MembersReordered

theorem symm {a b : Json} (h : MembersReordered a b) : MembersReordered b a := by
  induction h with
  | refl document => exact .refl document
  | trans _ _ ih ih' => exact ih'.trans ih
  | object h => exact .object h.symm
  | item front back _ ih => exact .item front back ih
  | value front back name _ ih => exact .value front back name ih

theorem reordered {a b : Json} (h : MembersReordered a b) : Reordered a b := by
  induction h with
  | refl document => exact .refl document
  | trans _ _ ih ih' => exact ih.trans ih'
  | object h => exact .object h
  | item front back _ ih => exact .item front back ih
  | value front back name _ ih => exact .value front back name ih

theorem eq_number {number : Number} {b : Json} (h : MembersReordered (.number number) b) :
    b = .number number := by
  generalize ha : Json.number number = a at h
  induction h with
  | refl => rfl
  | trans _ _ ih ih' => exact (ih' (ha.trans (ih ha).symm)).trans (ih ha)
  | object => cases ha
  | item => cases ha
  | value => cases ha

/-- The items of an array stay in their order. -/
theorem exists_array {items : List Json} {b : Json} (h : MembersReordered (.array items) b) :
    ∃ others, b = .array others ∧ List.Forall₂ MembersReordered items others := by
  have hself : ∀ items : List Json, List.Forall₂ MembersReordered items items := fun items =>
    List.forall₂_same.mpr fun item _ => .refl item
  generalize ha : Json.array items = a at h
  induction h generalizing items with
  | refl => exact ⟨items, ha.symm, hself items⟩
  | trans _ _ ih ih' =>
    obtain ⟨middle, hmiddle, hfirst⟩ := ih ha
    obtain ⟨others, hothers, hsecond⟩ := ih' hmiddle.symm
    exact ⟨others, hothers, forall₂_trans (fun _ _ _ => .trans) hfirst hsecond⟩
  | object => cases ha
  | item front back h =>
    obtain rfl := Json.array.inj ha
    exact ⟨_, rfl, List.rel_append (hself front) (.cons h (hself back))⟩
  | value => cases ha

/-- What is left by a test that only looks at names is reordered as well. -/
theorem exists_filter {entries : Entries Json} {b : Json}
    (h : MembersReordered (.object entries) b) (test : String × Json → Bool)
    (htest : ∀ name value other, test (name, value) = test (name, other)) :
    ∃ others, b = .object others ∧
      MembersReordered (.object (entries.filter test)) (.object (others.filter test)) := by
  generalize ha : Json.object entries = a at h
  induction h generalizing entries with
  | refl => exact ⟨entries, ha.symm, .refl _⟩
  | trans _ _ ih ih' =>
    obtain ⟨middle, hmiddle, hfirst⟩ := ih ha
    obtain ⟨others, hothers, hsecond⟩ := ih' hmiddle.symm
    exact ⟨others, hothers, hfirst.trans hsecond⟩
  | object h =>
    obtain rfl := Json.object.inj ha
    exact ⟨_, rfl, .object (h.filter test)⟩
  | item => cases ha
  | @value front back name value other h =>
    obtain rfl := Json.object.inj ha
    refine ⟨_, rfl, ?_⟩
    rw [List.filter_append, List.filter_append]
    cases hname : test (name, value) with
    | true =>
      have hother : test (name, other) = true := (htest name other value).trans hname
      rw [List.filter_cons_of_pos hname, List.filter_cons_of_pos hother]
      exact .value _ _ name h
    | false =>
      have hother : test (name, other) = false := (htest name other value).trans hname
      rw [List.filter_cons_of_neg (by simp [hname]), List.filter_cons_of_neg (by simp [hother])]
      exact .refl _

theorem exists_object {entries : Entries Json} {b : Json}
    (h : MembersReordered (.object entries) b) : ∃ others, b = .object others := by
  obtain ⟨others, hothers, -⟩ := h.exists_filter (fun _ => true) fun _ _ _ => rfl
  exact ⟨others, hothers⟩

theorem exists_get? {a b value : Json} {name : String} (h : MembersReordered a b)
    (ha : a.hasDistinctNames = true) (hvalue : a.get? name = some value) :
    ∃ other, b.get? name = some other ∧ MembersReordered value other := by
  induction h generalizing value with
  | refl => exact ⟨value, hvalue, .refl value⟩
  | trans h _ ih ih' =>
    obtain ⟨middle, hmiddle, hfirst⟩ := ih ha hvalue
    obtain ⟨other, hother, hsecond⟩ := ih' (h.reordered.hasDistinctNames ha) hmiddle
    exact ⟨other, hother, hfirst.trans hsecond⟩
  | object h => exact ⟨value, (Entries.get?_of_perm (nodup_names ha) h name).trans hvalue, .refl _⟩
  | item => cases hvalue
  | @value front back key old new h =>
    have hget : ∀ changed, (Json.object (front ++ (key, changed) :: back)).get? name =
        (front.get? name).or (if key = name then some changed else back.get? name) := by
      intro changed
      rw [get?_object, Entries.get?_append, Entries.get?_cons]
    rw [hget] at hvalue ⊢
    cases hfront : front.get? name with
    | some found =>
      rw [hfront] at hvalue
      exact ⟨value, hvalue, .refl value⟩
    | none =>
      rw [hfront, Option.none_or] at hvalue
      rw [Option.none_or]
      by_cases hname : key = name
      · rw [if_pos hname] at hvalue ⊢
        exact ⟨new, rfl, Option.some.inj hvalue ▸ h⟩
      · rw [if_neg hname] at hvalue ⊢
        exact ⟨value, hvalue, .refl value⟩

theorem get?_eq_none {a b : Json} {name : String} (h : MembersReordered a b)
    (ha : a.hasDistinctNames = true) (hnone : a.get? name = none) : b.get? name = none := by
  cases hother : b.get? name with
  | none => rfl
  | some other =>
    obtain ⟨value, hvalue, -⟩ := h.symm.exists_get? (h.reordered.hasDistinctNames ha) hother
    cases hnone.symm.trans hvalue

end MembersReordered

end Json

open Json (MembersReordered)

/-- Buckets with the same count and the same members, up to the order inside them. -/
structure Bucket.Agrees (bucket other : Bucket) : Prop where
  key : MembersReordered bucket.key other.key
  count : bucket.count = other.count
  extra : MembersReordered (.object bucket.extra) (.object other.extra)

inductive AggregationValues.Agree : AggregationValues → AggregationValues → Prop
  | buckets {items others : List Bucket} (h : List.Forall₂ Bucket.Agrees items others) :
      Agree (.buckets items) (.buckets others)
  | metric {members others : Entries Json}
      (h : MembersReordered (.object members) (.object others)) :
      Agree (.metric members) (.metric others)

structure AggregationResult.Agrees (result other : AggregationResult) : Prop where
  name : result.name = other.name
  values : AggregationValues.Agree result.values other.values

abbrev Decoded := Except DecodeError (List AggregationResult)

/-- Two failures, or results that agree one after another. -/
def SameOutcome : Decoded → Decoded → Prop
  | .ok results, .ok others => List.Forall₂ AggregationResult.Agrees results others
  | .error _, .error _ => True
  | _, _ => False

theorem Bucket.Holds.exists_agrees {members others : Entries Json} {bucket : Bucket}
    (h : Bucket.Holds members bucket) (hmembers : (Json.object members).hasDistinctNames = true)
    (hothers : MembersReordered (.object members) (.object others)) :
    ∃ other, Bucket.Holds others other ∧ bucket.Agrees other := by
  obtain ⟨key, hkey, hkeys⟩ := hothers.exists_get? hmembers h.key
  obtain ⟨count, hcount, hcounts⟩ := hothers.exists_get? hmembers h.count
  obtain ⟨_, hsame, hextra⟩ := hothers.exists_filter Bucket.isExtra fun _ _ _ => rfl
  obtain rfl := Json.object.inj hsame
  rw [hcounts.eq_number] at hcount
  rw [← h.extra] at hextra
  exact ⟨⟨key, bucket.count, others.filter Bucket.isExtra⟩, ⟨hkey, hcount, rfl⟩,
    ⟨hkeys, rfl, hextra⟩⟩

namespace Aggregation

theorem forall₂_holds_reordered {items others : List Json} {buckets : List Bucket}
    (hitems : ∀ item ∈ items, item.hasDistinctNames = true)
    (hothers : List.Forall₂ MembersReordered items others)
    (h : List.Forall₂ (fun item bucket => ∃ members, item = .object members ∧
      Bucket.Holds members bucket) items buckets) :
    ∃ found, List.Forall₂ (fun item bucket => ∃ members, item = .object members ∧
        Bucket.Holds members bucket) others found ∧
      List.Forall₂ Bucket.Agrees buckets found := by
  induction hothers generalizing buckets with
  | nil =>
    cases h
    exact ⟨[], .nil, .nil⟩
  | cons hitem _ ih =>
    rw [List.forall_mem_cons] at hitems
    obtain ⟨bucket, rest, ⟨members, rfl, hholds⟩, hrest, rfl⟩ := List.forall₂_cons_left_iff.mp h
    obtain ⟨membersOther, rfl⟩ := hitem.exists_object
    obtain ⟨other, hother, hagrees⟩ := hholds.exists_agrees hitems.1 hitem
    obtain ⟨found, hfound, hall⟩ := ih hitems.2 hrest
    exact ⟨other :: found, .cons ⟨membersOther, rfl, hother⟩ hfound, .cons hagrees hall⟩

theorem HoldAll.exists_agree {value other : Json} {buckets : List Bucket}
    (h : HoldAll value buckets) (hvalue : value.hasDistinctNames = true)
    (hother : MembersReordered value other) :
    ∃ found, HoldAll other found ∧ List.Forall₂ Bucket.Agrees buckets found := by
  obtain ⟨items, hitems, hall⟩ := h
  have hnames := Json.hasDistinctNames_array_iff.mp (Json.hasDistinctNames_of_member hvalue hitems)
  obtain ⟨list, hlist, hreordered⟩ := hother.exists_get? hvalue hitems
  obtain ⟨others, rfl, hothers⟩ := hreordered.exists_array
  obtain ⟨found, hfound, hagree⟩ := forall₂_holds_reordered hnames hothers hall
  exact ⟨found, ⟨others, hlist, hfound⟩, hagree⟩

/-- The counts behind a filter stand under the same name in every order: only one child has
buckets, and it is found wherever it stands. -/
theorem IsLeaf.exists_reordered {children others : Entries Json}
    {resultKey bucketKey name : String} {leaf : Json}
    (h : IsLeaf children resultKey bucketKey name leaf)
    (hchildren : (Json.object children).hasDistinctNames = true)
    (hothers : MembersReordered (.object children) (.object others)) :
    ∃ other, IsLeaf others resultKey bucketKey name other ∧ MembersReordered leaf other := by
  obtain ⟨other, hother, hleaf⟩ := hothers.exists_get? hchildren h.get?
  refine ⟨other, ?_, hleaf⟩
  cases h with
  | suffixed => exact .suffixed hother
  | requested hsuffixed => exact .requested (hothers.get?_eq_none hchildren hsuffixed) hother
  | only hsuffixed hrequested hget hbuckets honly =>
    have hleafNames := Json.hasDistinctNames_of_get? hchildren hget
    have hothersNames := hothers.reordered.hasDistinctNames hchildren
    obtain ⟨list, hlist⟩ := hbuckets
    obtain ⟨listOther, hlistOther, -⟩ := hleaf.exists_get? hleafNames hlist
    refine .only (hothers.get?_eq_none hchildren hsuffixed)
      (hothers.get?_eq_none hchildren hrequested) hother ⟨listOther, hlistOther⟩ ?_
    rintro key child hchild ⟨found, hfound⟩
    obtain ⟨childBefore, hbefore, hchildren'⟩ := hothers.symm.exists_get? hothersNames hchild
    obtain ⟨foundBefore, hfoundBefore, -⟩ :=
      hchildren'.exists_get? (Json.hasDistinctNames_of_get? hothersNames hchild) hfound
    exact honly key childBefore hbefore ⟨foundBefore, hfoundBefore⟩

theorem resultsOfAll_reordered {aggregations : List (String × Aggregation)}
    {missing : String → DecodeError} {value other : Json} {results : List AggregationResult}
    (hchild : ∀ entry ∈ aggregations, ∀ child childOther results,
      value.get? entry.1 = some child → MembersReordered child childOther →
        entry.2.results entry.1 child = .ok results →
          ∃ others, entry.2.results entry.1 childOther = .ok others ∧
            List.Forall₂ AggregationResult.Agrees results others)
    (hvalue : value.hasDistinctNames = true) (hother : MembersReordered value other)
    (h : resultsOfAll missing value aggregations = .ok results) :
    ∃ others, resultsOfAll missing other aggregations = .ok others ∧
      List.Forall₂ AggregationResult.Agrees results others := by
  induction aggregations generalizing results with
  | nil =>
    obtain rfl := Except.ok.inj h
    exact ⟨[], rfl, .nil⟩
  | cons entry rest ih =>
    obtain ⟨name, aggregation⟩ := entry
    rw [List.forall_mem_cons] at hchild
    obtain ⟨found, first, next, hfound, hfirst, hnext, rfl⟩ := resultsOfAll_cons_eq_ok_iff.mp h
    obtain ⟨foundOther, hfoundOther, hreordered⟩ := hother.exists_get? hvalue hfound
    obtain ⟨firstOther, hfirstOther, hfirsts⟩ :=
      hchild.1 found foundOther first hfound hreordered hfirst
    obtain ⟨nextOther, hnextOther, hnexts⟩ := ih hchild.2 hnext
    exact ⟨firstOther ++ nextOther, resultsOfAll_cons_eq_ok_iff.mpr
      ⟨foundOther, firstOther, nextOther, hfoundOther, hfirstOther, hnextOther, rfl⟩,
      List.rel_append hfirsts hnexts⟩

theorem results_reordered (aggregation : Aggregation) (name : String) {value other : Json}
    (hvalue : value.hasDistinctNames = true) (hother : MembersReordered value other)
    {results : List AggregationResult} (h : aggregation.results name value = .ok results) :
    ∃ others, aggregation.results name other = .ok others ∧
      List.Forall₂ AggregationResult.Agrees results others := by
  have hotherNames := hother.reordered.hasDistinctNames hvalue
  induction aggregation using Aggregation.induction generalizing name value other results with
  | terms field size =>
    obtain ⟨buckets, hbuckets, rfl⟩ := (bucketsResult_eq_ok_iff hvalue).mp h
    obtain ⟨found, hfound, hagree⟩ := hbuckets.exists_agree hvalue hother
    exact ⟨_, (bucketsResult_eq_ok_iff hotherNames).mpr ⟨found, hfound, rfl⟩,
      .cons ⟨rfl, .buckets hagree⟩ .nil⟩
  | metric kind field =>
    obtain ⟨members, rfl, rfl⟩ := metricResult_eq_ok_iff.mp h
    obtain ⟨others, rfl⟩ := hother.exists_object
    exact ⟨_, metricResult_eq_ok_iff.mpr ⟨others, rfl, rfl⟩, .cons ⟨rfl, .metric hother⟩ .nil⟩
  | nested path aggregations ih =>
    rw [Aggregation.results, childResults_eq_resultsOfAll] at h ⊢
    refine resultsOfAll_reordered ?_ hvalue hother h
    intro entry hentry child childOther results hchild hreordered hresults
    have hnames := Json.hasDistinctNames_of_member hvalue hchild
    exact ih entry hentry entry.1 hnames hreordered hresults
      (hreordered.reordered.hasDistinctNames hnames)
  | nestedFiltered path resultKey bucketKey filters size =>
    obtain ⟨children, leafName, leaf, buckets, hchildren, hleaf, hbuckets, rfl⟩ :=
      (filteredResult_eq_ok_iff hvalue).mp h
    have hnames := Json.hasDistinctNames_of_member hvalue hchildren
    obtain ⟨_, hothers, hreordered⟩ := hother.exists_get? hvalue hchildren
    obtain ⟨others, rfl⟩ := hreordered.exists_object
    obtain ⟨leafOther, hleafOther, hleaves⟩ := hleaf.exists_reordered hnames hreordered
    obtain ⟨found, hfound, hagree⟩ :=
      hbuckets.exists_agree (Json.hasDistinctNames_of_get? hnames hleaf.get?) hleaves
    exact ⟨_, (filteredResult_eq_ok_iff hotherNames).mpr
      ⟨others, leafName, leafOther, found, hothers, hleafOther, hfound, rfl⟩,
      .cons ⟨rfl, .buckets hagree⟩ .nil⟩

end Aggregation

namespace Aggregations

theorem exists_results_reordered {requested : Aggregations} {raw other : Entries Json}
    (hraw : (Json.object raw).hasDistinctNames = true)
    (hother : MembersReordered (.object raw) (.object other)) {results : List AggregationResult}
    (h : requested.results raw = .ok results) :
    ∃ others, requested.results other = .ok others ∧
      List.Forall₂ AggregationResult.Agrees results others := by
  rw [results_eq_resultsOfAll] at h ⊢
  refine Aggregation.resultsOfAll_reordered ?_ hraw hother h
  intro entry _ child childOther results hchild hreordered hresults
  exact entry.2.results_reordered entry.1 (Json.hasDistinctNames_of_member hraw hchild)
    hreordered hresults

/-- A response is decoded alike in every order of the members of its objects. -/
theorem sameOutcome_of_reordered (requested : Aggregations) {raw other : Entries Json}
    (hraw : (Json.object raw).hasDistinctNames = true)
    (hother : MembersReordered (.object raw) (.object other)) :
    SameOutcome (requested.results raw) (requested.results other) := by
  have hotherNames := hother.reordered.hasDistinctNames hraw
  cases hfirst : requested.results raw with
  | ok results =>
    obtain ⟨others, hothers, hagree⟩ := exists_results_reordered hraw hother hfirst
    rw [hothers]
    exact hagree
  | error error =>
    cases hsecond : requested.results other with
    | error => exact trivial
    | ok others =>
      obtain ⟨results, hresults, -⟩ := exists_results_reordered hotherNames hother.symm hsecond
      cases hfirst.symm.trans hresults

end Aggregations

end DocumentSearch
