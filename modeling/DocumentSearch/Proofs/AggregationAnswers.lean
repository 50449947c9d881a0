import DocumentSearch.Index.Settings
import DocumentSearch.Proofs.Buckets
import DocumentSearch.Query.Document
import DocumentSearch.Response.Aggregation

/-!
Requests and results of aggregations agree on names and nesting. What it means to answer a request
is said of the request document alone, by the keys of its definitions. Every such answer is
decoded, and gives one result for each definition that is not itself nested, in the order of the
request, with all that the answer holds for it.
-/

namespace DocumentSearch

namespace Json

def Has (document : Json) (name : String) : Prop := ∃ value, document.get? name = some value

/-- An object with a key and a natural count; only objects have members. -/
def IsBucket (document : Json) : Prop :=
  document.Has "key" ∧ ∃ n, document.get? "doc_count" = some (.natural n)

/-- An object whose `buckets` are a list of buckets. -/
def HoldsBuckets (document : Json) : Prop :=
  ∃ items, document.get? "buckets" = some (.array items) ∧ ∀ item ∈ items, item.IsBucket

theorem sizeOf_lt_of_get? {document : Json} {name : String} {entries : Entries Json}
    (h : document.get? name = some (.object entries)) : sizeOf entries < sizeOf document := by
  obtain ⟨members, rfl, hget⟩ := get?_eq_some_iff.mp h
  have hsize := List.sizeOf_lt_of_mem (Entries.mem_of_get? hget)
  simp only [Prod.mk.sizeOf_spec, object.sizeOf_spec] at hsize ⊢
  omega

end Json

mutual

/-- Whether an object answers an `aggs` document: it answers each definition under its name. -/
def Answers (document answer : Entries Json) : Prop :=
  ∀ name body, (name, body) ∈ document →
    ∃ value, answer.get? name = some value ∧ AnswersDefinition body value
termination_by sizeOf document
decreasing_by
  rename_i hmem
  have hsize := List.sizeOf_lt_of_mem hmem
  simp only [Prod.mk.sizeOf_spec] at hsize
  omega

/-- Whether a value answers one definition of an `aggs` document. A definition with inner ones is
answered by an object that answers those and has no members but them and its own count. -/
def AnswersDefinition (body value : Json) : Prop :=
  (body.Has "terms" → value.HoldsBuckets) ∧
    (∀ kind : MetricKind, body.Has kind.name → ∃ members, value = .object members) ∧
    (body.Has "nested" ∨ body.Has "filter" →
      ∃ inner members : Entries Json, ∃ _ : body.get? "aggs" = some (.object inner),
        value = .object members ∧ Answers inner members ∧
        ∀ name ∈ members.names, name ∈ inner.names ∨ name = "doc_count")
termination_by sizeOf body
decreasing_by exact Json.sizeOf_lt_of_get? ‹_›

end

theorem answers_cons_iff {name : String} {body : Json} {rest answer : Entries Json} :
    Answers ((name, body) :: rest) answer ↔
      (∃ value, answer.get? name = some value ∧ AnswersDefinition body value) ∧
        Answers rest answer := by
  rw [Answers, Answers]
  constructor
  · intro h
    exact ⟨h name body List.mem_cons_self, fun other value hmem =>
      h other value (List.mem_cons_of_mem _ hmem)⟩
  · rintro ⟨hfirst, hrest⟩ other value hmem
    rcases List.mem_cons.mp hmem with heq | hmem
    · rw [(Prod.mk.inj heq).1, (Prod.mk.inj heq).2]
      exact hfirst
    · exact hrest other value hmem

theorem answers_nil (answer : Entries Json) : Answers [] answer := by
  rw [Answers]
  intro name body hmem
  simp at hmem

namespace Json

theorem has_single_iff {name other : String} {value : Json} :
    (Json.single name value).Has other ↔ other = name := by
  change (∃ found, Entries.get? [(name, value)] other = some found) ↔ _
  rw [Entries.exists_get?_iff]
  simp [Entries.names]

theorem has_object_pair_iff {first second other : String} {value value' : Json} :
    (Json.object [(first, value), (second, value')]).Has other ↔
      other = first ∨ other = second := by
  change (∃ found, Entries.get? [(first, value), (second, value')] other = some found) ↔ _
  rw [Entries.exists_get?_iff]
  simp [Entries.names]

end Json

namespace Aggregation

theorem answersDefinition_terms_iff {field : String} {size : UInt64} {value : Json} :
    AnswersDefinition (termsDocument field size) value ↔ value.HoldsBuckets := by
  rw [AnswersDefinition, termsDocument]
  constructor
  · intro h
    exact h.1 (Json.has_single_iff.mpr rfl)
  · intro h
    refine ⟨fun _ => h, ?_, ?_⟩
    · intro kind hkind
      have hname := Json.has_single_iff.mp hkind
      cases kind <;> simp [MetricKind.name] at hname
    · simp [Json.has_single_iff]

theorem answersDefinition_metric_iff {kind : MetricKind} {body value : Json} :
    AnswersDefinition (.single kind.name body) value ↔ ∃ members, value = .object members := by
  rw [AnswersDefinition]
  constructor
  · intro h
    exact h.2.1 kind (Json.has_single_iff.mpr rfl)
  · intro h
    refine ⟨?_, fun _ _ => h, ?_⟩
    · intro hterms
      have hname := Json.has_single_iff.mp hterms
      cases kind <;> simp [MetricKind.name] at hname
    · intro hscope
      simp only [Json.has_single_iff] at hscope
      cases kind <;> simp [MetricKind.name] at hscope

/-- A definition that scopes inner ones, to the objects of a field or by a filter. -/
theorem answersDefinition_scope_iff {scope : String} {detail value : Json} {inner : Entries Json}
    (hscope : scope = "nested" ∨ scope = "filter") :
    AnswersDefinition (.object [(scope, detail), ("aggs", .object inner)]) value ↔
      ∃ members : Entries Json, value = .object members ∧ Answers inner members ∧
        ∀ name ∈ members.names, name ∈ inner.names ∨ name = "doc_count" := by
  have haggs : (Json.object [(scope, detail), ("aggs", .object inner)]).get? "aggs" =
      some (.object inner) := by
    rcases hscope with rfl | rfl <;> rfl
  rw [AnswersDefinition]
  simp only [Json.has_object_pair_iff]
  constructor
  · intro h
    have hfound : ("nested" = scope ∨ "nested" = "aggs") ∨ "filter" = scope ∨ "filter" = "aggs" :=
      hscope.imp (fun hnested => Or.inl hnested.symm) (fun hfilter => Or.inl hfilter.symm)
    obtain ⟨others, members, hothers, hvalue, hanswers, hnames⟩ := h.2.2 hfound
    rw [haggs, Option.some.injEq, Json.object.injEq] at hothers
    subst others
    exact ⟨members, hvalue, hanswers, hnames⟩
  · rintro ⟨members, hvalue, hanswers, hnames⟩
    refine ⟨?_, ?_, fun _ => ⟨inner, members, haggs, hvalue, hanswers, hnames⟩⟩
    · intro hterms
      rcases hscope with rfl | rfl <;> simp at hterms
    · intro kind hkind
      rcases hscope with rfl | rfl <;> cases kind <;> simp [MetricKind.name] at hkind

/-- Nested definitions have the property if all their children do. -/
@[elab_as_elim]
theorem induction {motive : Aggregation → Prop}
    (terms : ∀ field size, motive (.terms field size))
    (metric : ∀ kind field, motive (.metric kind field))
    (nested : ∀ path aggregations, (∀ entry ∈ aggregations, motive entry.2) →
      motive (.nested path aggregations))
    (nestedFiltered : ∀ path resultKey bucketKey filters size,
      motive (.nestedFiltered path resultKey bucketKey filters size))
    (aggregation : Aggregation) : motive aggregation :=
  @Aggregation.rec motive (fun aggregations => ∀ entry ∈ aggregations, motive entry.2)
    (fun entry => motive entry.2) terms metric nested nestedFiltered
    (by simp) (fun _ _ head tail => List.forall_mem_cons.mpr ⟨head, tail⟩)
    (fun _ _ definition => definition) aggregation

end Aggregation

/-- The place of a result in an answer: the names that lead to its value, the name that the result
has, and whether the value is a metric as it stands or has buckets. -/
structure ResultPlace where
  path : List String
  name : String
  isMetric : Bool

namespace ResultPlace

def under (child : String) (place : ResultPlace) : ResultPlace :=
  { place with path := child :: place.path }

/-- A result has the name of its place and carries all that stands there. -/
def Holds (place : ResultPlace) (answer : Json) (result : AggregationResult) : Prop :=
  result.name = place.name ∧ ∃ value, Settings.follow place.path answer = some value ∧
    if place.isMetric then ∃ members, value = .object members ∧ result.values = .metric members
    else ∃ items buckets, value.get? "buckets" = some (.array items) ∧
      result.values = .buckets buckets ∧
      List.Forall₂ (fun item bucket => ∃ members, item = .object members ∧
        Bucket.Holds members bucket) items buckets

end ResultPlace

namespace Aggregation

mutual

/-- The places of the results of a definition, below the value that stands under its name. -/
def places : Aggregation → String → List ResultPlace
  | .terms _ _, name => [⟨[], name, false⟩]
  | .metric _ _, name => [⟨[], name, true⟩]
  | .nested _ aggregations, _ => childPlaces aggregations
  | .nestedFiltered _ resultKey _ _ _, _ => [⟨[resultKey, resultKey], resultKey, false⟩]

/-- The places of the results of all definitions, one definition after the other. -/
def childPlaces : List (String × Aggregation) → List ResultPlace
  | [] => []
  | (child, aggregation) :: rest =>
      (aggregation.places child).map (ResultPlace.under child) ++ childPlaces rest

end

theorem bucketsOf_of_holdsBuckets (name : String) {value : Json} (h : value.HoldsBuckets)
    (hnames : value.hasDistinctNames = true) :
    ∃ items buckets, value.get? "buckets" = some (.array items) ∧
      bucketsOf name value = .ok buckets ∧
      List.Forall₂ (fun item bucket => ∃ members, item = .object members ∧
        Bucket.Holds members bucket) items buckets := by
  obtain ⟨items, hitems, hbuckets⟩ := h
  have hdistinct : ∀ item ∈ items, item.hasDistinctNames = true :=
    Json.hasDistinctNames_array_iff.mp (Json.hasDistinctNames_of_member hnames hitems)
  have hread : ∀ item ∈ items, ∃ bucket, Bucket.read item = .ok bucket ∧
      ∃ members, item = .object members ∧ Bucket.Holds members bucket := by
    intro item hitem
    obtain ⟨⟨key, hkey⟩, n, hcount⟩ := hbuckets item hitem
    obtain ⟨members, rfl, hmemberKey⟩ := Json.get?_eq_some_iff.mp hkey
    have hmembers := Json.nodup_names (hdistinct _ hitem)
    obtain ⟨bucket, hbucket, hholds⟩ := Bucket.exists_read hmembers
      (Entries.exists_get?_iff.mp ⟨key, hmemberKey⟩) hcount
    exact ⟨bucket, hbucket, members, rfl, hholds⟩
  obtain ⟨buckets, hmapM, hall⟩ := exists_mapM_of_forall hread
  refine ⟨items, buckets, hitems, ?_, hall⟩
  have hlist : (Json.array items).asListOf Bucket.read = .ok buckets := hmapM
  simp only [bucketsOf, hitems, hlist]

theorem bucketsResult_of_holdsBuckets (name : String) {value : Json} (h : value.HoldsBuckets)
    (hnames : value.hasDistinctNames = true) :
    ∃ result, bucketsResult name value = .ok [result] ∧
      ResultPlace.Holds ⟨[], name, false⟩ value result := by
  obtain ⟨items, buckets, hitems, hbuckets, hall⟩ :=
    bucketsOf_of_holdsBuckets name h hnames
  refine ⟨⟨name, .buckets buckets⟩, ?_, rfl, value, rfl, ?_⟩
  · rw [bucketsResult, hbuckets]
    rfl
  · exact ⟨items, buckets, hitems, rfl, hall⟩

theorem append_filteredSuffix_ne_docCount (bucketKey : String) :
    bucketKey ++ filteredSuffix ≠ "doc_count" := by
  intro h
  have hchars : bucketKey.toList ++ filteredSuffix.toList = "doc_count".toList := by
    rw [← h, String.toList_append]
  have hlast := congrArg List.getLast? hchars
  rw [List.getLast?_append] at hlast
  simp [filteredSuffix] at hlast

theorem filteredLeaf_object (children : Entries Json) (resultKey bucketKey : String) :
    filteredLeaf (.object children) resultKey bucketKey =
      match children.get? (bucketKey ++ filteredSuffix), children.get? resultKey with
      | some leaf, _ => some (bucketKey ++ filteredSuffix, leaf)
      | none, some leaf => some (resultKey, leaf)
      | none, none =>
        match children.filter fun child => (child.2.get? "buckets").isSome with
        | [leaf] => some leaf
        | _ => none := rfl

/-- Whichever of its names is tried first, the only leaf is found, and under its own name: a
child named with the suffix could only be that leaf itself. -/
theorem filteredLeaf_of_only {members : Entries Json} {resultKey : String} {leaf : Json}
    (bucketKey : String) (hleaf : members.get? resultKey = some leaf)
    (hnames : ∀ name ∈ members.names, name = resultKey ∨ name = "doc_count") :
    filteredLeaf (.object members) resultKey bucketKey = some (resultKey, leaf) := by
  rw [filteredLeaf_object, hleaf]
  cases hsuffixed : members.get? (bucketKey ++ filteredSuffix) with
  | none => rfl
  | some found =>
    have hmem := Entries.exists_get?_iff.mp ⟨found, hsuffixed⟩
    have hsame : bucketKey ++ filteredSuffix = resultKey :=
      (hnames _ hmem).resolve_right (append_filteredSuffix_ne_docCount bucketKey)
    rw [hsame, hleaf] at hsuffixed
    rw [hsame, Option.some.inj hsuffixed]

theorem holds_under {child : String} {members : Entries Json} {value : Json}
    {place : ResultPlace} {result : AggregationResult}
    (hvalue : members.get? child = some value) (h : place.Holds value result) :
    (place.under child).Holds (.object members) result := by
  obtain ⟨hname, found, hfound, hcarries⟩ := h
  refine ⟨hname, found, ?_, hcarries⟩
  have hfollow : Settings.follow (child :: place.path) (.object members) =
      (members.get? child).bind (Settings.follow place.path) := rfl
  rw [ResultPlace.under, hfollow, hvalue]
  exact hfound

theorem filteredResult_of_answers (name : String) {path resultKey bucketKey : String}
    {filters : List (String × List Json)} {size : UInt64} {value : Json}
    (h : AnswersDefinition
      (document (.nestedFiltered path resultKey bucketKey filters size)) value)
    (hnames : value.hasDistinctNames = true) :
    ∃ result, filteredResult name resultKey bucketKey value = .ok [result] ∧
      ResultPlace.Holds ⟨[resultKey, resultKey], resultKey, false⟩ value result := by
  rw [document, nestedDocument, filteredDocument] at h
  obtain ⟨members, rfl, hinner, -⟩ := (answersDefinition_scope_iff (Or.inl rfl)).mp h
  obtain ⟨⟨filtered, hfiltered, hscope⟩, -⟩ := answers_cons_iff.mp hinner
  obtain ⟨children, rfl, hleaves, honly⟩ := (answersDefinition_scope_iff (Or.inr rfl)).mp hscope
  obtain ⟨⟨leaf, hleaf, hterms⟩, -⟩ := answers_cons_iff.mp hleaves
  have hchildren := Json.hasDistinctNames_of_get? hnames hfiltered
  obtain ⟨result, hresult, hholds⟩ := bucketsResult_of_holdsBuckets resultKey
    (answersDefinition_terms_iff.mp hterms) (Json.hasDistinctNames_of_get? hchildren hleaf)
  refine ⟨result, ?_, holds_under hfiltered (holds_under hleaf hholds)⟩
  have hfound := (Json.get?_object members resultKey).trans hfiltered
  have honly' : ∀ child ∈ children.names, child = resultKey ∨ child = "doc_count" := by
    simpa [Entries.names] using honly
  rw [filteredResult, hfound]
  simp only [filteredLeaf_of_only bucketKey hleaf honly']
  exact hresult

/-- Definitions decoded one after the other. Only what is said of a missing value differs between
the top of a response and the children of a nested definition. -/
def resultsOfAll (missing : String → DecodeError) (raw : Json) :
    List (String × Aggregation) → Except DecodeError (List AggregationResult)
  | [] => .ok []
  | (name, aggregation) :: rest =>
      match raw.get? name with
      | none => .error (missing name)
      | some value => do
          let first ← aggregation.results name value
          return first ++ (← resultsOfAll missing raw rest)

theorem childResults_eq_resultsOfAll (aggregations : List (String × Aggregation)) (name : String)
    (raw : Json) :
    childResults aggregations name raw = resultsOfAll (.missingChild name) raw aggregations := by
  induction aggregations with
  | nil => rfl
  | cons entry rest ih =>
    obtain ⟨child, aggregation⟩ := entry
    cases hvalue : raw.get? child with
    | none => simp only [childResults, resultsOfAll, hvalue]
    | some value => simp only [childResults, resultsOfAll, hvalue, ih]

theorem resultsOfAll_cons_eq_ok_iff {missing : String → DecodeError} {raw : Json} {name : String}
    {aggregation : Aggregation} {rest : List (String × Aggregation)}
    {results : List AggregationResult} :
    resultsOfAll missing raw ((name, aggregation) :: rest) = .ok results ↔
      ∃ value first others, raw.get? name = some value ∧
        aggregation.results name value = .ok first ∧
        resultsOfAll missing raw rest = .ok others ∧ first ++ others = results := by
  rw [resultsOfAll]
  cases raw.get? name with
  | none => simp
  | some value =>
    simp only [bind_eq_ok_iff, pure_eq_ok_iff, Option.some.injEq]
    constructor
    · rintro ⟨first, hfirst, others, hothers, heq⟩
      exact ⟨value, first, others, rfl, hfirst, hothers, heq⟩
    · rintro ⟨_, first, others, rfl, hfirst, hothers, heq⟩
      exact ⟨first, hfirst, others, hothers, heq⟩

/-- The children of a nested definition are decoded one after the other, if each can be. -/
theorem childResults_of_answers {aggregations : List (String × Aggregation)}
    (hchild : ∀ entry ∈ aggregations, ∀ (name : String) (value : Json),
      AnswersDefinition entry.2.document value → value.hasDistinctNames = true →
        ∃ results, entry.2.results name value = .ok results ∧
          List.Forall₂ (fun place result => place.Holds value result)
            (entry.2.places name) results)
    {members : Entries Json} (name : String)
    (h : Answers (documents aggregations) members)
    (hnames : (Json.object members).hasDistinctNames = true) :
    ∃ results, childResults aggregations name (.object members) = .ok results ∧
      List.Forall₂ (fun place result => place.Holds (.object members) result)
        (childPlaces aggregations) results := by
  induction aggregations with
  | nil => exact ⟨[], rfl, .nil⟩
  | cons entry rest ih =>
    obtain ⟨child, aggregation⟩ := entry
    rw [documents] at h
    obtain ⟨⟨value, hvalue, hdefinition⟩, hrest⟩ := answers_cons_iff.mp h
    obtain ⟨first, hfirst, hfirstHolds⟩ := hchild _ List.mem_cons_self child value hdefinition
      (Json.hasDistinctNames_of_get? hnames hvalue)
    obtain ⟨others, hothers, hothersHold⟩ :=
      ih (fun entry hentry => hchild entry (List.mem_cons_of_mem _ hentry)) hrest
    refine ⟨first ++ others, ?_, ?_⟩
    · rw [childResults_eq_resultsOfAll] at hothers ⊢
      exact resultsOfAll_cons_eq_ok_iff.mpr ⟨value, first, others, hvalue, hfirst, hothers, rfl⟩
    · rw [childPlaces]
      refine List.rel_append ?_ hothersHold
      rw [List.forall₂_map_left_iff]
      exact hfirstHolds.imp fun place result hholds => holds_under hvalue hholds

/-- A value that answers a definition is decoded to results that hold what it holds. -/
theorem results_of_answersDefinition (aggregation : Aggregation) (name : String) (value : Json)
    (h : AnswersDefinition aggregation.document value) (hnames : value.hasDistinctNames = true) :
    ∃ results, aggregation.results name value = .ok results ∧
      List.Forall₂ (fun place result => place.Holds value result)
        (aggregation.places name) results := by
  induction aggregation using Aggregation.induction generalizing name value with
  | terms field size =>
    obtain ⟨result, hresult, hholds⟩ :=
      bucketsResult_of_holdsBuckets name (answersDefinition_terms_iff.mp h) hnames
    exact ⟨[result], hresult, .cons hholds .nil⟩
  | metric kind field =>
    rw [document, answersDefinition_metric_iff] at h
    obtain ⟨members, rfl⟩ := h
    exact ⟨[⟨name, .metric members⟩], rfl, .cons ⟨rfl, _, rfl, members, rfl, rfl⟩ .nil⟩
  | nested path aggregations ih =>
    rw [document, nestedDocument, answersDefinition_scope_iff (Or.inl rfl)] at h
    obtain ⟨members, rfl, hanswers, -⟩ := h
    exact childResults_of_answers ih name hanswers hnames
  | nestedFiltered path resultKey bucketKey filters size =>
    obtain ⟨result, hresult, hholds⟩ := filteredResult_of_answers name h hnames
    exact ⟨[result], hresult, .cons hholds .nil⟩

end Aggregation

namespace Aggregations

theorem results_eq_resultsOfAll (raw : Entries Json) (requested : Aggregations) :
    Aggregations.results raw requested =
      Aggregation.resultsOfAll .missing (.object raw) requested := by
  induction requested with
  | nil => rfl
  | cons entry rest ih =>
    obtain ⟨name, aggregation⟩ := entry
    rw [Aggregations.results, Aggregation.resultsOfAll, Json.get?_object]
    cases raw.get? name with
    | none => rfl
    | some value => simp only [ih]

/-- At the top the definitions are decoded like the children of a nested one; only the errors say
something else. -/
theorem results_of_childResults {raw : Entries Json} {requested : Aggregations} {name : String}
    {all : List AggregationResult}
    (h : Aggregation.childResults requested name (.object raw) = .ok all) :
    Aggregations.results raw requested = .ok all := by
  rw [Aggregation.childResults_eq_resultsOfAll] at h
  rw [results_eq_resultsOfAll]
  induction requested generalizing all with
  | nil => exact h
  | cons entry rest ih =>
    obtain ⟨value, first, others, hvalue, hfirst, hothers, heq⟩ :=
      Aggregation.resultsOfAll_cons_eq_ok_iff.mp h
    exact Aggregation.resultsOfAll_cons_eq_ok_iff.mpr
      ⟨value, first, others, hvalue, hfirst, ih hothers, heq⟩

/-- Whatever answers the document of a request is decoded, with one result in each place. -/
theorem exists_results_of_answers (requested : Aggregations) (raw document : Entries Json)
    (hraw : (Json.object raw).hasDistinctNames = true)
    (hdocument : requested.document = .object document) (h : Answers document raw) :
    ∃ results, requested.results raw = .ok results ∧
      List.Forall₂ (fun place result => ResultPlace.Holds place (.object raw) result)
        (Aggregation.childPlaces requested) results := by
  rw [Aggregations.document, Json.object.injEq] at hdocument
  subst document
  obtain ⟨results, hresults, hholds⟩ := Aggregation.childResults_of_answers
    (fun entry _ name value hdefinition hnames =>
      Aggregation.results_of_answersDefinition entry.2 name value hdefinition hnames) "" h hraw
  exact ⟨results, results_of_childResults hresults, hholds⟩

def tintsExample : Aggregation := .nestedFiltered "items" "colors" "color" [] 5

def requestExample : Aggregations :=
  [("tags", .terms "tag" 10), ("price", .metric .avg "price"),
    ("items", .nested "items" [("tints", tintsExample)])]

def bucketsExample : Json :=
  .single "buckets" (.array [.object [("key", .string "a"), ("doc_count", .natural 3)]])

def tintsAnswerExample : Json :=
  .single "colors" (.object [("colors", bucketsExample), ("doc_count", .natural 2)])

def answerExample : Entries Json :=
  [("items", .object [("doc_count", .natural 4), ("tints", tintsAnswerExample)]),
    ("price", .single "value" .null), ("tags", bucketsExample)]

theorem answers_bucketsExample (field : String) (size : UInt64) :
    AnswersDefinition (Aggregation.termsDocument field size) bucketsExample := by
  refine Aggregation.answersDefinition_terms_iff.mpr ⟨_, rfl, ?_⟩
  intro item hitem
  rw [List.mem_singleton.mp hitem]
  exact ⟨⟨_, rfl⟩, 3, rfl⟩

theorem answers_tintsAnswerExample :
    AnswersDefinition tintsExample.document tintsAnswerExample := by
  refine (Aggregation.answersDefinition_scope_iff (Or.inl rfl)).mpr ⟨_, rfl, ?_, by decide⟩
  refine answers_cons_iff.mpr ⟨⟨_, rfl, ?_⟩, answers_nil _⟩
  refine (Aggregation.answersDefinition_scope_iff (Or.inr rfl)).mpr ⟨_, rfl, ?_, by decide⟩
  exact answers_cons_iff.mpr ⟨⟨_, rfl, answers_bucketsExample _ _⟩, answers_nil _⟩

theorem answers_answerExample : Answers (Aggregation.documents requestExample) answerExample := by
  refine answers_cons_iff.mpr ⟨⟨_, rfl, answers_bucketsExample _ _⟩, ?_⟩
  refine answers_cons_iff.mpr ⟨⟨_, rfl, ?_⟩, ?_⟩
  · exact Aggregation.answersDefinition_metric_iff.mpr ⟨_, rfl⟩
  refine answers_cons_iff.mpr ⟨⟨_, rfl, ?_⟩, answers_nil _⟩
  refine (Aggregation.answersDefinition_scope_iff (Or.inl rfl)).mpr ⟨_, rfl, ?_, by decide⟩
  exact answers_cons_iff.mpr ⟨⟨_, rfl, answers_tintsAnswerExample⟩, answers_nil _⟩

/-- Buckets, a metric, and a filtered bucket two levels down whose request and result have different
names. -/
theorem exists_results_answerExample :
    (Json.object answerExample).hasDistinctNames = true ∧
      Answers (Aggregation.documents requestExample) answerExample ∧
      ∃ results, requestExample.results answerExample = .ok results ∧
        List.Forall₂ (fun place result => ResultPlace.Holds place (.object answerExample) result)
          [⟨["tags"], "tags", false⟩, ⟨["price"], "price", true⟩,
            ⟨["items", "tints", "colors", "colors"], "colors", false⟩] results :=
  ⟨by decide, answers_answerExample, exists_results_of_answers requestExample answerExample _
    (by decide) rfl answers_answerExample⟩

end Aggregations

end DocumentSearch
