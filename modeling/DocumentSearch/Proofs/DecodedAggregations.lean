import DocumentSearch.Proofs.AggregationAnswers

/-!
What can be decoded, and what comes of it. A response is decoded exactly if each requested
definition finds a value of its shape, at any depth. There is then one result for each definition
that is not nested, in the order of the request, and a result that is written again is what the
response holds in its place.
-/

namespace DocumentSearch

namespace Aggregation

/-- The counts that are taken from the children of a filter bucket, and the name that they stand
under. The names that are tried first are taken whatever stands there. -/
inductive IsLeaf (children : Entries Json) (resultKey bucketKey : String) : String → Json → Prop
  | suffixed {leaf : Json} (h : children.get? (bucketKey ++ filteredSuffix) = some leaf) :
      IsLeaf children resultKey bucketKey (bucketKey ++ filteredSuffix) leaf
  | requested {leaf : Json} (hsuffixed : children.get? (bucketKey ++ filteredSuffix) = none)
      (h : children.get? resultKey = some leaf) :
      IsLeaf children resultKey bucketKey resultKey leaf
  | only {name : String} {leaf : Json}
      (hsuffixed : children.get? (bucketKey ++ filteredSuffix) = none)
      (hrequested : children.get? resultKey = none) (h : children.get? name = some leaf)
      (hbuckets : leaf.Has "buckets")
      (honly : ∀ other child, children.get? other = some child → child.Has "buckets" →
        other = name) :
      IsLeaf children resultKey bucketKey name leaf

/-- Whether a value has the shape that a definition asks for. -/
inductive Fits : Aggregation → Json → Prop
  | terms {field : String} {size : UInt64} {value : Json} (h : value.HoldsBuckets) :
      Fits (.terms field size) value
  | metric {kind : MetricKind} {field : String} (members : Entries Json) :
      Fits (.metric kind field) (.object members)
  | nested {path : String} {aggregations : List (String × Aggregation)} {value : Json}
      (there : ∀ entry ∈ aggregations, value.Has entry.1)
      (fits : ∀ entry ∈ aggregations, ∀ child, value.get? entry.1 = some child →
        Fits entry.2 child) :
      Fits (.nested path aggregations) value
  | nestedFiltered {path resultKey bucketKey name : String} {filters : List (String × List Json)}
      {size : UInt64} {value leaf : Json} {children : Entries Json}
      (there : value.get? resultKey = some (.object children))
      (hleaf : IsLeaf children resultKey bucketKey name leaf) (hbuckets : leaf.HoldsBuckets) :
      Fits (.nestedFiltered path resultKey bucketKey filters size) value

/-- A filter leaves exactly one child if it is the only one to pass. -/
theorem filter_eq_singleton_iff {children : Entries Json} (hnames : children.names.Nodup)
    {test : String × Json → Bool} {child : String × Json} :
    children.filter test = [child] ↔
      child ∈ children ∧ test child = true ∧
        ∀ other ∈ children, test other = true → other = child := by
  constructor
  · intro h
    have hmem : ∀ other, other ∈ children.filter test ↔ other = child := by simp [h]
    simp only [List.mem_filter] at hmem
    obtain ⟨hchild, htest⟩ := (hmem child).mpr rfl
    exact ⟨hchild, htest, fun other hother hpasses => (hmem other).mp ⟨hother, hpasses⟩⟩
  · rintro ⟨hchild, htest, honly⟩
    have hnodup := (List.Nodup.of_map Prod.fst hnames).filter test
    refine List.perm_singleton.mp ((List.perm_ext_iff_of_nodup hnodup
      (List.nodup_singleton child)).mpr fun other => ?_)
    rw [List.mem_filter, List.mem_singleton]
    constructor
    · rintro ⟨hother, hpasses⟩
      exact honly other hother hpasses
    · rintro rfl
      exact ⟨hchild, htest⟩

theorem only_eq_some_iff {found : List (String × Json)} {child : String × Json} :
    (match found with
      | [only] => some only
      | _ => none) = some child ↔ found = [child] := by
  rcases found with _ | ⟨first, _ | ⟨second, rest⟩⟩ <;> simp

theorem filteredLeaf_eq_some_iff {children : Entries Json} (hnames : children.names.Nodup)
    {resultKey bucketKey name : String} {leaf : Json} :
    filteredLeaf (.object children) resultKey bucketKey = some (name, leaf) ↔
      IsLeaf children resultKey bucketKey name leaf := by
  rw [filteredLeaf_object]
  cases hsuffixed : children.get? (bucketKey ++ filteredSuffix) with
  | some found =>
    constructor
    · rintro ⟨⟩
      exact .suffixed hsuffixed
    · rintro (⟨h⟩ | ⟨hnone, -⟩ | ⟨hnone, -, -, -, -⟩)
      · rw [Option.some.inj (hsuffixed.symm.trans h)]
      · cases hsuffixed.symm.trans hnone
      · cases hsuffixed.symm.trans hnone
  | none =>
    cases hrequested : children.get? resultKey with
    | some found =>
      constructor
      · rintro ⟨⟩
        exact .requested hsuffixed hrequested
      · rintro (⟨h⟩ | ⟨-, h⟩ | ⟨-, hnone, -, -, -⟩)
        · cases hsuffixed.symm.trans h
        · rw [Option.some.inj (hrequested.symm.trans h)]
        · cases hrequested.symm.trans hnone
    | none =>
      refine only_eq_some_iff.trans ?_
      rw [filter_eq_singleton_iff hnames]
      constructor
      · rintro ⟨hchild, hbuckets, hall⟩
        refine .only hsuffixed hrequested (Entries.get?_of_mem hnames hchild)
          (Option.isSome_iff_exists.mp hbuckets) fun other child hother hhas => ?_
        exact congrArg Prod.fst
          (hall (other, child) (Entries.mem_of_get? hother) (Option.isSome_iff_exists.mpr hhas))
      · rintro (⟨h⟩ | ⟨-, h⟩ | ⟨-, -, h, hbuckets, hall⟩)
        · cases hsuffixed.symm.trans h
        · cases hrequested.symm.trans h
        · refine ⟨Entries.mem_of_get? h, Option.isSome_iff_exists.mpr hbuckets, ?_⟩
          rintro ⟨other, child⟩ hother hhas
          have hfound := Entries.get?_of_mem hnames hother
          obtain rfl := hall other child hfound (Option.isSome_iff_exists.mp hhas)
          rw [Option.some.inj (hfound.symm.trans h)]

/-- Buckets that hold all of the items under `buckets`, one after another. -/
def HoldAll (value : Json) (buckets : List Bucket) : Prop :=
  ∃ items, value.get? "buckets" = some (.array items) ∧
    List.Forall₂ (fun item bucket => ∃ members, item = .object members ∧
      Bucket.Holds members bucket) items buckets

theorem asListOf_eq_ok_iff {α : Type} {read : Json → Except RecordError α} {document : Json}
    {values : List α} :
    document.asListOf read = .ok values ↔
      ∃ items, document = .array items ∧
        List.Forall₂ (fun item value => read item = .ok value) items values := by
  cases document with
  | array items =>
    change items.mapM read = .ok values ↔ _
    rw [mapM_eq_ok_iff]
    simp
  | _ =>
    refine iff_of_false (fun h => ?_) (by simp)
    cases h

theorem forall₂_read_iff {items : List Json} {buckets : List Bucket}
    (hitems : ∀ item ∈ items, item.hasDistinctNames = true) :
    List.Forall₂ (fun item bucket => Bucket.read item = .ok bucket) items buckets ↔
      List.Forall₂ (fun item bucket => ∃ members, item = .object members ∧
        Bucket.Holds members bucket) items buckets := by
  induction items generalizing buckets with
  | nil => simp
  | cons item items ih =>
    rw [List.forall_mem_cons] at hitems
    simp only [List.forall₂_cons_left_iff, Bucket.read_eq_ok_iff hitems.1, ih hitems.2]

theorem bucketsOf_eq_ok_iff {name : String} {value : Json} {buckets : List Bucket}
    (hvalue : value.hasDistinctNames = true) :
    bucketsOf name value = .ok buckets ↔ HoldAll value buckets := by
  have hread : bucketsOf name value = .ok buckets ↔
      ∃ list, value.get? "buckets" = some list ∧ list.asListOf Bucket.read = .ok buckets := by
    unfold bucketsOf
    cases value.get? "buckets" with
    | none => simp
    | some list =>
      cases hlist : list.asListOf Bucket.read <;> simp [hlist]
  rw [hread, HoldAll]
  simp only [asListOf_eq_ok_iff]
  constructor
  · rintro ⟨_, hitems, items, rfl, hall⟩
    have hnames := Json.hasDistinctNames_array_iff.mp
      (Json.hasDistinctNames_of_member hvalue hitems)
    exact ⟨items, hitems, (forall₂_read_iff hnames).mp hall⟩
  · rintro ⟨items, hitems, hall⟩
    have hnames := Json.hasDistinctNames_array_iff.mp
      (Json.hasDistinctNames_of_member hvalue hitems)
    exact ⟨_, hitems, items, rfl, (forall₂_read_iff hnames).mpr hall⟩

theorem bucketsResult_eq_ok_iff {name : String} {value : Json} {results : List AggregationResult}
    (hvalue : value.hasDistinctNames = true) :
    bucketsResult name value = .ok results ↔
      ∃ buckets, HoldAll value buckets ∧ [⟨name, .buckets buckets⟩] = results := by
  simp only [bucketsResult, bind_eq_ok_iff, pure_eq_ok_iff, bucketsOf_eq_ok_iff hvalue]

theorem metricResult_eq_ok_iff {name : String} {value : Json} {results : List AggregationResult} :
    metricResult name value = .ok results ↔
      ∃ members, value = .object members ∧ [⟨name, .metric members⟩] = results := by
  cases value <;> simp [metricResult, Json.entries?]

theorem IsLeaf.get? {children : Entries Json} {resultKey bucketKey name : String} {leaf : Json}
    (h : IsLeaf children resultKey bucketKey name leaf) : children.get? name = some leaf := by
  cases h with
  | suffixed h => exact h
  | requested _ h => exact h
  | only _ _ h _ _ => exact h

theorem exists_object_of_filteredLeaf {filtered : Json} {resultKey bucketKey : String}
    {found : String × Json} (h : filteredLeaf filtered resultKey bucketKey = some found) :
    ∃ children, filtered = .object children := by
  cases filtered with
  | object children => exact ⟨children, rfl⟩
  | _ => cases h

theorem filteredResult_eq_ok_iff {name resultKey bucketKey : String} {value : Json}
    {results : List AggregationResult} (hvalue : value.hasDistinctNames = true) :
    filteredResult name resultKey bucketKey value = .ok results ↔
      ∃ children leafName leaf buckets, value.get? resultKey = some (.object children) ∧
        IsLeaf children resultKey bucketKey leafName leaf ∧ HoldAll leaf buckets ∧
        [⟨leafName, .buckets buckets⟩] = results := by
  have hread : filteredResult name resultKey bucketKey value = .ok results ↔
      ∃ filtered leafName leaf, value.get? resultKey = some filtered ∧
        filteredLeaf filtered resultKey bucketKey = some (leafName, leaf) ∧
        bucketsResult leafName leaf = .ok results := by
    unfold filteredResult
    cases value.get? resultKey with
    | none => simp
    | some filtered =>
      cases hleaf : filteredLeaf filtered resultKey bucketKey with
      | none => simp [hleaf]
      | some found =>
        obtain ⟨leafName, leaf⟩ := found
        simp [hleaf]
  rw [hread]
  constructor
  · rintro ⟨filtered, leafName, leaf, hfiltered, hleaf, hresults⟩
    obtain ⟨children, rfl⟩ := exists_object_of_filteredLeaf hleaf
    have hnames := Json.hasDistinctNames_of_member hvalue hfiltered
    have hfound := (filteredLeaf_eq_some_iff (Json.nodup_names hnames)).mp hleaf
    obtain ⟨buckets, hbuckets, heq⟩ := (bucketsResult_eq_ok_iff
      (Json.hasDistinctNames_of_get? hnames hfound.get?)).mp hresults
    exact ⟨children, leafName, leaf, buckets, hfiltered, hfound, hbuckets, heq⟩
  · rintro ⟨children, leafName, leaf, buckets, hfiltered, hfound, hbuckets, heq⟩
    have hnames := Json.hasDistinctNames_of_member hvalue hfiltered
    exact ⟨_, leafName, leaf, hfiltered,
      (filteredLeaf_eq_some_iff (Json.nodup_names hnames)).mpr hfound,
      (bucketsResult_eq_ok_iff (Json.hasDistinctNames_of_get? hnames hfound.get?)).mpr
        ⟨buckets, hbuckets, heq⟩⟩

theorem exists_holdAll_iff {value : Json} (hvalue : value.hasDistinctNames = true) :
    (∃ buckets, HoldAll value buckets) ↔ value.HoldsBuckets := by
  constructor
  · rintro ⟨buckets, items, hitems, hall⟩
    have hread : List.Forall₂ (fun item bucket => item.IsBucket ∧ True) items buckets := by
      refine hall.imp ?_
      rintro _ bucket ⟨members, rfl, hholds⟩
      exact ⟨⟨⟨_, hholds.key⟩, _, hholds.count⟩, trivial⟩
    exact ⟨items, hitems, ((List.forall₂_and_left _ _).mp hread).1⟩
  · intro h
    obtain ⟨items, buckets, hitems, -, hall⟩ := bucketsOf_of_holdsBuckets "" h hvalue
    exact ⟨buckets, items, hitems, hall⟩

theorem fits_nested_iff {path : String} {aggregations : List (String × Aggregation)}
    {value : Json} :
    Fits (.nested path aggregations) value ↔
      ∀ entry ∈ aggregations, ∃ child, value.get? entry.1 = some child ∧ Fits entry.2 child := by
  constructor
  · rintro (_ | _ | ⟨there, fits⟩) entry hentry
    obtain ⟨child, hchild⟩ := there entry hentry
    exact ⟨child, hchild, fits entry hentry child hchild⟩
  · intro h
    refine .nested (fun entry hentry => ?_) fun entry hentry child hchild => ?_
    · obtain ⟨child, hchild, -⟩ := h entry hentry
      exact ⟨child, hchild⟩
    · obtain ⟨other, hother, hfits⟩ := h entry hentry
      rwa [Option.some.inj (hchild.symm.trans hother)]

theorem exists_resultsOfAll_iff {aggregations : List (String × Aggregation)} {value : Json}
    (hchild : ∀ entry ∈ aggregations, ∀ child, value.get? entry.1 = some child →
      ((∃ results, entry.2.results entry.1 child = .ok results) ↔ Fits entry.2 child))
    (missing : String → DecodeError) :
    (∃ results, resultsOfAll missing value aggregations = .ok results) ↔
      ∀ entry ∈ aggregations, ∃ child, value.get? entry.1 = some child ∧ Fits entry.2 child := by
  induction aggregations with
  | nil => simp [resultsOfAll]
  | cons entry rest ih =>
    obtain ⟨name, aggregation⟩ := entry
    rw [List.forall_mem_cons] at hchild ⊢
    rw [← ih hchild.2]
    simp only [resultsOfAll_cons_eq_ok_iff]
    constructor
    · rintro ⟨results, found, first, others, hfound, hfirst, hothers, -⟩
      exact ⟨⟨found, hfound, (hchild.1 found hfound).mp ⟨first, hfirst⟩⟩, others, hothers⟩
    · rintro ⟨⟨found, hfound, hfits⟩, others, hothers⟩
      obtain ⟨first, hfirst⟩ := (hchild.1 found hfound).mpr hfits
      exact ⟨first ++ others, found, first, others, hfound, hfirst, hothers, rfl⟩

/-- A value is decoded exactly if it has the shape that the definition asks for. -/
theorem exists_results_iff_fits (aggregation : Aggregation) (name : String) {value : Json}
    (hvalue : value.hasDistinctNames = true) :
    (∃ results, aggregation.results name value = .ok results) ↔ Fits aggregation value := by
  induction aggregation using Aggregation.induction generalizing name value with
  | terms field size =>
    simp only [results, bucketsResult_eq_ok_iff hvalue]
    constructor
    · rintro ⟨results, buckets, hbuckets, -⟩
      exact .terms ((exists_holdAll_iff hvalue).mp ⟨buckets, hbuckets⟩)
    · rintro ⟨h⟩
      obtain ⟨buckets, hbuckets⟩ := (exists_holdAll_iff hvalue).mpr h
      exact ⟨_, buckets, hbuckets, rfl⟩
  | metric kind field =>
    simp only [results, metricResult_eq_ok_iff]
    constructor
    · rintro ⟨results, members, rfl, -⟩
      exact .metric members
    · rintro (_ | ⟨members⟩)
      exact ⟨_, members, rfl, rfl⟩
  | nested path aggregations ih =>
    rw [fits_nested_iff]
    simp only [results, childResults_eq_resultsOfAll]
    exact exists_resultsOfAll_iff (fun entry hentry child hchild =>
      ih entry hentry entry.1 (Json.hasDistinctNames_of_member hvalue hchild)) _
  | nestedFiltered path resultKey bucketKey filters size =>
    simp only [results, filteredResult_eq_ok_iff hvalue]
    have hleafNames : ∀ {children leafName leaf}, value.get? resultKey = some (.object children) →
        IsLeaf children resultKey bucketKey leafName leaf → leaf.hasDistinctNames = true :=
      fun hchildren hleaf => Json.hasDistinctNames_of_get?
        (Json.hasDistinctNames_of_member hvalue hchildren) hleaf.get?
    constructor
    · rintro ⟨results, children, leafName, leaf, buckets, hchildren, hleaf, hbuckets, -⟩
      exact .nestedFiltered hchildren hleaf
        ((exists_holdAll_iff (hleafNames hchildren hleaf)).mp ⟨buckets, hbuckets⟩)
    · rintro (_ | _ | _ | ⟨hchildren, hleaf, h⟩)
      obtain ⟨buckets, hbuckets⟩ := (exists_holdAll_iff (hleafNames hchildren hleaf)).mpr h
      exact ⟨_, _, _, _, buckets, hchildren, hleaf, hbuckets, rfl⟩

/-- The items written again are those of the list, one after another; only the members of an item
may stand in another order. -/
def WrittenAgain (list again : Json) : Prop :=
  ∃ items others, list = .array items ∧ again = .array others ∧
    List.Forall₂ (fun item other => ∃ members rest, item = .object members ∧
      other = .object rest ∧ rest.Perm members) items others

theorem HoldAll.writtenAgain {value : Json} {buckets : List Bucket} (h : HoldAll value buckets)
    (hvalue : value.hasDistinctNames = true) :
    ∃ list, value.get? "buckets" = some list ∧
      WrittenAgain list (AggregationValues.buckets buckets).document := by
  obtain ⟨items, hitems, hall⟩ := h
  have hnames := Json.hasDistinctNames_array_iff.mp (Json.hasDistinctNames_of_member hvalue hitems)
  refine ⟨_, hitems, items, _, rfl, rfl, List.forall₂_map_right_iff.mpr ?_⟩
  refine ((List.forall₂_and_left _ _).mpr ⟨hnames, hall⟩).imp ?_
  rintro _ bucket ⟨hdistinct, members, rfl, hholds⟩
  obtain ⟨rest, hrest, hperm⟩ := hholds.document_perm (Json.nodup_names hdistinct)
  exact ⟨members, rest, rfl, hrest, hperm⟩

/-- The result of a definition that is not nested. It is named for the definition or, behind a
filter, for the counts that were found, and written again it is what the value holds. -/
inductive Gives : Aggregation → String → Json → AggregationResult → Prop
  | terms {field name : String} {size : UInt64} {value list : Json} {buckets : List Bucket}
      (there : value.get? "buckets" = some list)
      (again : WrittenAgain list (AggregationValues.buckets buckets).document) :
      Gives (.terms field size) name value ⟨name, .buckets buckets⟩
  | metric {kind : MetricKind} {field name : String} {value : Json} {members : Entries Json}
      (again : (AggregationValues.metric members).document = value) :
      Gives (.metric kind field) name value ⟨name, .metric members⟩
  | nestedFiltered {path resultKey bucketKey name leafName : String}
      {filters : List (String × List Json)} {size : UInt64} {value leaf list : Json}
      {children : Entries Json} {buckets : List Bucket}
      (there : value.get? resultKey = some (.object children))
      (hleaf : IsLeaf children resultKey bucketKey leafName leaf)
      (hlist : leaf.get? "buckets" = some list)
      (again : WrittenAgain list (AggregationValues.buckets buckets).document) :
      Gives (.nestedFiltered path resultKey bucketKey filters size) name value
        ⟨leafName, .buckets buckets⟩

end Aggregation

/-- A definition with a result of its own. Its path leads to its value, by the names of the nested
definitions around it and its own. -/
structure Site where
  path : List String
  name : String
  definition : Aggregation

namespace Site

def under (child : String) (site : Site) : Site := { site with path := child :: site.path }

def Yields (site : Site) (document : Json) (result : AggregationResult) : Prop :=
  ∃ value, Settings.follow site.path document = some value ∧
    Aggregation.Gives site.definition site.name value result

theorem yields_under {child : String} {site : Site} {document value : Json}
    {result : AggregationResult} (hvalue : document.get? child = some value)
    (h : site.Yields value result) : (site.under child).Yields document result := by
  obtain ⟨found, hfound, hgives⟩ := h
  refine ⟨found, ?_, hgives⟩
  rw [under, Settings.follow, hvalue]
  exact hfound

end Site

namespace Aggregation

mutual

/-- The definitions with results of their own, each before those that follow it in the request. -/
def sites : Aggregation → String → List Site
  | .nested _ aggregations, _ => childSites aggregations
  | definition, name => [⟨[], name, definition⟩]

def childSites : List (String × Aggregation) → List Site
  | [] => []
  | (child, aggregation) :: rest =>
      (aggregation.sites child).map (Site.under child) ++ childSites rest

end

theorem resultsOfAll_yield {aggregations : List (String × Aggregation)}
    {missing : String → DecodeError} {value : Json} {results : List AggregationResult}
    (hchild : ∀ entry ∈ aggregations, ∀ child, value.get? entry.1 = some child →
      ∀ results, entry.2.results entry.1 child = .ok results →
        List.Forall₂ (fun site result => site.Yields child result) (entry.2.sites entry.1) results)
    (h : resultsOfAll missing value aggregations = .ok results) :
    List.Forall₂ (fun site result => site.Yields value result) (childSites aggregations)
      results := by
  induction aggregations generalizing results with
  | nil =>
    obtain rfl := Except.ok.inj h
    exact .nil
  | cons entry rest ih =>
    obtain ⟨found, first, others, hfound, hfirst, hothers, rfl⟩ :=
      resultsOfAll_cons_eq_ok_iff.mp h
    rw [List.forall_mem_cons] at hchild
    rw [childSites]
    refine List.rel_append ?_ (ih hchild.2 hothers)
    rw [List.forall₂_map_left_iff]
    exact (hchild.1 found hfound first hfirst).imp fun site result hyields =>
      Site.yields_under hfound hyields

/-- What is decoded from a value are the results of the definitions inside, one after another. -/
theorem results_yield (aggregation : Aggregation) (name : String) {value : Json}
    (hvalue : value.hasDistinctNames = true) {results : List AggregationResult}
    (h : aggregation.results name value = .ok results) :
    List.Forall₂ (fun site result => site.Yields value result) (aggregation.sites name)
      results := by
  induction aggregation using Aggregation.induction generalizing name value results with
  | terms field size =>
    obtain ⟨buckets, hbuckets, rfl⟩ := (bucketsResult_eq_ok_iff hvalue).mp h
    obtain ⟨list, hlist, hagain⟩ := hbuckets.writtenAgain hvalue
    exact .cons ⟨value, rfl, .terms hlist hagain⟩ .nil
  | metric kind field =>
    obtain ⟨members, rfl, rfl⟩ := metricResult_eq_ok_iff.mp h
    exact .cons ⟨_, rfl, .metric rfl⟩ .nil
  | nested path aggregations ih =>
    rw [Aggregation.results, childResults_eq_resultsOfAll] at h
    exact resultsOfAll_yield (fun entry hentry child hchild results hresults =>
      ih entry hentry entry.1 (Json.hasDistinctNames_of_member hvalue hchild) hresults) h
  | nestedFiltered path resultKey bucketKey filters size =>
    obtain ⟨children, leafName, leaf, buckets, hchildren, hleaf, hbuckets, rfl⟩ :=
      (filteredResult_eq_ok_iff hvalue).mp h
    obtain ⟨list, hlist, hagain⟩ := hbuckets.writtenAgain (Json.hasDistinctNames_of_get?
      (Json.hasDistinctNames_of_member hvalue hchildren) hleaf.get?)
    exact .cons ⟨value, rfl, .nestedFiltered hchildren hleaf hlist hagain⟩ .nil

end Aggregation

namespace Aggregations

/-- A response is decoded exactly if each requested definition finds a value of its shape. There is
then one result for each definition that is not nested, in the order of the request. -/
theorem results_ok_iff_fits (requested : Aggregations) (raw : Entries Json)
    (hraw : (Json.object raw).hasDistinctNames = true) :
    ((∃ all, requested.results raw = .ok all) ↔
      ∀ entry ∈ requested, ∃ value, raw.get? entry.1 = some value ∧
        Aggregation.Fits entry.2 value) ∧
      ∀ all, requested.results raw = .ok all →
        List.Forall₂ (fun site result => site.Yields (.object raw) result)
          (Aggregation.childSites requested) all := by
  rw [results_eq_resultsOfAll]
  constructor
  · exact Aggregation.exists_resultsOfAll_iff (fun entry _ child hchild =>
      Aggregation.exists_results_iff_fits entry.2 entry.1
        (Json.hasDistinctNames_of_member hraw hchild)) _
  · intro all hall
    exact Aggregation.resultsOfAll_yield (fun entry _ child hchild results hresults =>
      Aggregation.results_yield entry.2 entry.1
        (Json.hasDistinctNames_of_member hraw hchild) hresults) hall

def onlyLeafExample : Json :=
  .single "colors" (.object [("doc_count", .natural 2), ("shades", bucketsExample)])

def unorderedExample : Entries Json :=
  [("items", .single "tints" onlyLeafExample), ("price", .single "value" .null),
    ("tags", bucketsExample)]

theorem isLeaf_onlyLeafExample :
    Aggregation.IsLeaf [("doc_count", .natural 2), ("shades", bucketsExample)] "colors" "color"
      "shades" bucketsExample := by
  refine .only rfl rfl rfl ⟨_, rfl⟩ fun other child hchild hbuckets => ?_
  have hmem := Entries.mem_of_get? hchild
  rw [List.mem_cons, List.mem_singleton] at hmem
  rcases hmem with heq | heq
  · obtain ⟨rfl, rfl⟩ := Prod.mk.inj heq
    obtain ⟨value, hvalue⟩ := hbuckets
    cases hvalue
  · exact (Prod.mk.inj heq).1

theorem holdsBuckets_bucketsExample : bucketsExample.HoldsBuckets := by
  refine ⟨_, rfl, fun item hitem => ?_⟩
  rw [List.mem_singleton.mp hitem]
  exact ⟨⟨_, rfl⟩, 3, rfl⟩

theorem fits_unorderedExample : ∀ entry ∈ requestExample, ∃ value,
    unorderedExample.get? entry.1 = some value ∧ Aggregation.Fits entry.2 value := by
  simp only [requestExample, List.forall_mem_cons, List.not_mem_nil, false_implies, implies_true,
    and_true]
  refine ⟨⟨_, rfl, .terms holdsBuckets_bucketsExample⟩, ⟨_, rfl, .metric _⟩, _, rfl, ?_⟩
  refine Aggregation.fits_nested_iff.mpr fun entry hentry => ?_
  rw [List.mem_singleton.mp hentry]
  exact ⟨_, rfl, .nestedFiltered rfl isLeaf_onlyLeafExample holdsBuckets_bucketsExample⟩

/-- The filtered counts stand two levels down under a name that the request does not know, and the
response has the order of the request reversed. -/
theorem results_unorderedExample :
    (Json.object unorderedExample).hasDistinctNames = true ∧
      ∃ all, requestExample.results unorderedExample = .ok all ∧
        List.Forall₂ (fun site result => Site.Yields site (.object unorderedExample) result)
          [⟨["tags"], "tags", .terms "tag" 10⟩, ⟨["price"], "price", .metric .avg "price"⟩,
            ⟨["items", "tints"], "tints", tintsExample⟩] all := by
  have hboth := results_ok_iff_fits requestExample unorderedExample (by decide)
  obtain ⟨all, hall⟩ := hboth.1.mpr fits_unorderedExample
  exact ⟨by decide, all, hall, hboth.2 all hall⟩

end Aggregations

end DocumentSearch
