import DocumentSearch.Proofs.AggregationDocuments

/-!
The request document of a query determines it. A clause on exact values always states its boost,
so a boost that is not set reads like the default one; a raw clause can look like any other, and
the values of a clause on a field named `boost` are lost to its boost. Everything else can be told
from the document: each kind of clause has a name of its own, members that are left out are told
from members that are empty or zero, and the members of a query have different names.
-/

namespace DocumentSearch

theorem get?_optional (name key : String) (value : Option Json) :
    (optional name value).get? key = if name = key then value else none := by
  cases value <;> simp [optional, Entries.get?]

theorem Json.string_injective : Function.Injective Json.string := fun _ _ => Json.string.inj

theorem Json.natural_injective : Function.Injective Json.natural := fun _ _ h =>
  Number.natural.inj (Json.number.inj h)

theorem Json.strings_injective : Function.Injective Json.strings := fun _ _ h =>
  List.map_injective_iff.mpr Json.string_injective (Json.array.inj h)

theorem optional_map_injective {α : Type} (name : String) {f : α → Json}
    (hf : Function.Injective f) :
    Function.Injective fun value : Option α => optional name (value.map f) := by
  intro value other h
  cases value <;> cases other
  · rfl
  · simp [optional] at h
  · simp [optional] at h
  · have heq := hf (by simpa [optional] using h)
    rw [heq]

namespace RangeBounds

/-- Each bound is found under its name. -/
theorem get?_document (bounds : RangeBounds) :
    bounds.document.get? "gt" = bounds.gt ∧ bounds.document.get? "gte" = bounds.gte ∧
      bounds.document.get? "lt" = bounds.lt ∧ bounds.document.get? "lte" = bounds.lte := by
  simp [document, Json.get?_object, Entries.get?_append, get?_optional]

theorem document_injective : Function.Injective document := by
  intro bounds others h
  have hbounds := bounds.get?_document
  rw [h] at hbounds
  obtain ⟨hgt, hgte, hlt, hlte⟩ := hbounds
  obtain ⟨hgt', hgte', hlt', hlte'⟩ := others.get?_document
  cases bounds
  cases others
  simp_all

end RangeBounds

namespace Clause

/-- A compound clause has the property if all its clauses do, whatever their role. -/
@[elab_as_elim]
theorem induction {motive : Clause → Prop}
    (matching : ∀ field query fuzziness, motive (.matching field query fuzziness))
    (phrase : ∀ field query slop, motive (.phrase field query slop))
    (multiMatch : ∀ query fields fuzziness, motive (.multiMatch query fields fuzziness))
    (term : ∀ field value boost, motive (.term field value boost))
    (terms : ∀ field values boost, motive (.terms field values boost))
    (range : ∀ field bounds, motive (.range field bounds))
    (present : ∀ field, motive (.present field))
    (wildcard : ∀ field pattern, motive (.wildcard field pattern))
    (regexp : ∀ field pattern, motive (.regexp field pattern))
    (queryString : ∀ query defaultField, motive (.queryString query defaultField))
    (within : ∀ path query, motive query → motive (.within path query))
    (compound : ∀ must should filter, (∀ clause ∈ must, motive clause) →
      (∀ clause ∈ should, motive clause) → (∀ clause ∈ filter, motive clause) →
      motive (.compound must should filter))
    (raw : ∀ document, motive (.raw document)) (clause : Clause) : motive clause :=
  @Clause.rec motive (fun clauses => ∀ clause ∈ clauses, motive clause)
    matching phrase multiMatch term terms range present wildcard regexp queryString within
    compound raw (by simp) (fun _ _ head tail => List.forall_mem_cons.mpr ⟨head, tail⟩) clause

def boostIsFinite (boost : Option Binary64) : Bool := boost.all Binary64.isFinite

mutual

/-- Whether the clause can be told from its document: there is no raw clause in it, no clause on
the values of a field named `boost`, and no boost that is infinite or NaN. -/
def isRecoverable : Clause → Bool
  | .term _ _ boost => boostIsFinite boost
  | .terms field _ boost => field != "boost" && boostIsFinite boost
  | .within _ query => query.isRecoverable
  | .compound must should filter =>
      areRecoverable must && areRecoverable should && areRecoverable filter
  | .raw _ => false
  | _ => true

def areRecoverable : List Clause → Bool
  | [] => true
  | clause :: rest => clause.isRecoverable && areRecoverable rest

end

mutual

/-- The clause with the default boost set wherever a boost is not set. -/
def boostsStated : Clause → Clause
  | .term field value boost => .term field value (some (boost.getD defaultBoost))
  | .terms field values boost => .terms field values (some (boost.getD defaultBoost))
  | .within path query => .within path query.boostsStated
  | .compound must should filter =>
      .compound (allBoostsStated must) (allBoostsStated should) (allBoostsStated filter)
  | other => other

def allBoostsStated : List Clause → List Clause
  | [] => []
  | clause :: rest => clause.boostsStated :: allBoostsStated rest

end

theorem allBoostsStated_eq_map (clauses : List Clause) :
    allBoostsStated clauses = clauses.map boostsStated := by
  induction clauses with
  | nil => rfl
  | cons clause rest ih => rw [allBoostsStated, ih, List.map_cons]

theorem documents_eq_map (clauses : List Clause) : documents clauses = clauses.map document := by
  induction clauses with
  | nil => rfl
  | cons clause rest ih => rw [documents, ih, List.map_cons]

theorem documents_allBoostsStated {clauses : List Clause}
    (h : ∀ clause ∈ clauses, clause.boostsStated.document = clause.document) :
    documents (allBoostsStated clauses) = documents clauses := by
  rw [documents_eq_map, documents_eq_map, allBoostsStated_eq_map, List.map_map]
  exact List.map_congr_left h

/-- Stating the default boost changes nothing in the document. -/
theorem document_boostsStated (clause : Clause) :
    clause.boostsStated.document = clause.document := by
  induction clause using Clause.induction with
  | within path query ih => rw [boostsStated, document, ih, document]
  | compound must should filter hmust hshould hfilter =>
    rw [boostsStated, document, documents_allBoostsStated hmust, documents_allBoostsStated hshould,
      documents_allBoostsStated hfilter, document]
  | _ => rfl

theorem boostDocument_inj {boost other : Option Binary64} (hboost : boostIsFinite boost = true)
    (hother : boostIsFinite other = true) :
    boostDocument boost = boostDocument other ↔
      boost.getD defaultBoost = other.getD defaultBoost := by
  have hfinite : ∀ boost, boostIsFinite boost = true →
      boostDocument boost = .number (.float (boost.getD defaultBoost)) := by
    intro boost h
    have hvalue : (boost.getD defaultBoost).isFinite = true := by
      cases boost with
      | none => decide
      | some value => simpa [boostIsFinite] using h
    rw [boostDocument, Json.float, if_pos hvalue]
  rw [hfinite boost hboost, hfinite other hother]
  simp

theorem termsDocument_inj {field otherField : String} {values others : List Json}
    {boost other : Option Binary64} (hfield : field ≠ "boost") (hother : otherField ≠ "boost") :
    termsDocument field values boost = termsDocument otherField others other ↔
      field = otherField ∧ values = others ∧ boostDocument boost = boostDocument other := by
  simp [termsDocument, Entries.put, hfield, hother, Json.single_inj, and_assoc]

/-- The name of the clause's kind, which its document has as its only member. -/
def keyword : Clause → String
  | .matching .. => "match"
  | .phrase .. => "match_phrase"
  | .multiMatch .. => "multi_match"
  | .term .. => "term"
  | .terms .. => "terms"
  | .range .. => "range"
  | .present _ => "exists"
  | .wildcard .. => "wildcard"
  | .regexp .. => "regexp"
  | .queryString .. => "query_string"
  | .within .. => "nested"
  | .compound .. => "bool"
  | .raw _ => ""

theorem exists_document_eq_single {clause : Clause} (h : clause.isRecoverable = true) :
    ∃ body, clause.document = .single clause.keyword body := by
  cases clause with
  | raw document => simp [isRecoverable] at h
  | _ => exact ⟨_, rfl⟩

theorem keyword_eq_of_document {clause other : Clause} (hclause : clause.isRecoverable = true)
    (hother : other.isRecoverable = true) (h : clause.document = other.document) :
    clause.keyword = other.keyword := by
  obtain ⟨body, hbody⟩ := exists_document_eq_single hclause
  obtain ⟨otherBody, hotherBody⟩ := exists_document_eq_single hother
  rw [hbody, hotherBody] at h
  exact (Json.single_inj.mp h).1

/-- Same documents mean the same clause up to boosts, for one clause and any other of its kind. -/
def IsDetermined (clause : Clause) : Prop :=
  ∀ other : Clause, clause.isRecoverable = true → other.isRecoverable = true →
    clause.document = other.document → clause.keyword = other.keyword →
    clause.boostsStated = other.boostsStated

theorem allBoostsStated_eq_of_documents {clauses others : List Clause}
    (hdetermined : ∀ clause ∈ clauses, clause.IsDetermined)
    (hclauses : areRecoverable clauses = true) (hothers : areRecoverable others = true)
    (h : documents clauses = documents others) :
    allBoostsStated clauses = allBoostsStated others := by
  induction clauses generalizing others with
  | nil => cases others <;> simp [documents] at h ⊢
  | cons clause rest ih =>
    rcases others with _ | ⟨other, others⟩
    · simp [documents] at h
    · rw [documents, documents, List.cons.injEq] at h
      rw [areRecoverable, Bool.and_eq_true] at hclauses hothers
      have hfirst := hdetermined clause List.mem_cons_self other hclauses.1 hothers.1 h.1
        (keyword_eq_of_document hclauses.1 hothers.1 h.1)
      have hrest := ih (fun clause hclause => hdetermined clause (List.mem_cons_of_mem _ hclause))
        hclauses.2 hothers.2 h.2
      rw [allBoostsStated, allBoostsStated, hfirst, hrest]

/-- Members that are left out leave their names free, so each is found under its own name. -/
theorem multiMatch_document_inj {query other : String} {fields otherFields : Option (List String)}
    {fuzziness otherFuzziness : Option String}
    (h : (multiMatch query fields fuzziness).document =
      (multiMatch other otherFields otherFuzziness).document) :
    query = other ∧ fields = otherFields ∧ fuzziness = otherFuzziness := by
  have hmember : ∀ (query : String) (fields : Option (List String)) (fuzziness : Option String),
      ((multiMatch query fields fuzziness).document.get? "multi_match").bind (·.get? "query") =
          some (.string query) ∧
        ((multiMatch query fields fuzziness).document.get? "multi_match").bind (·.get? "fields") =
          fields.map .strings ∧
        ((multiMatch query fields fuzziness).document.get? "multi_match").bind
          (·.get? "fuzziness") = fuzziness.map .string := by
    intro query fields fuzziness
    simp [document, Json.single, Json.get?_object, Entries.get?_cons, Entries.get?_append,
      get?_optional]
  obtain ⟨hquery, hfields, hfuzziness⟩ := hmember query fields fuzziness
  obtain ⟨hquery', hfields', hfuzziness'⟩ := hmember other otherFields otherFuzziness
  rw [h] at hquery hfields hfuzziness
  exact ⟨Json.string_injective (Option.some.inj (hquery.symm.trans hquery')),
    Option.map_injective Json.strings_injective (hfields.symm.trans hfields'),
    Option.map_injective Json.string_injective (hfuzziness.symm.trans hfuzziness')⟩

theorem isDetermined (clause : Clause) : clause.IsDetermined := by
  induction clause using Clause.induction with
  | matching field query fuzziness =>
    intro other _ _ h hkey
    cases other
    case matching otherField otherQuery otherFuzziness =>
      obtain ⟨rfl, hbody⟩ := Json.single_inj.mp (Json.single_inj.mp h).2
      obtain ⟨hquery, hfuzziness⟩ := List.cons.inj (Json.object.inj hbody)
      rw [(Prod.mk.inj hquery).2,
        optional_map_injective "fuzziness" Json.string_injective hfuzziness]
    all_goals simp [keyword] at hkey
  | phrase field query slop =>
    intro other _ _ h hkey
    cases other
    case phrase otherField otherQuery otherSlop =>
      obtain ⟨rfl, hbody⟩ := Json.single_inj.mp (Json.single_inj.mp h).2
      obtain ⟨hquery, hslop⟩ := List.cons.inj (Json.object.inj hbody)
      have hnatural : Function.Injective fun n : UInt32 => Json.natural n.toUInt64 :=
        fun m n hmn => UInt32.toUInt64_inj.mp (Json.natural_injective hmn)
      rw [Json.string_injective (Prod.mk.inj hquery).2,
        optional_map_injective "slop" hnatural hslop]
    all_goals simp [keyword] at hkey
  | multiMatch query fields fuzziness =>
    intro other _ _ h hkey
    cases other
    case multiMatch otherQuery otherFields otherFuzziness =>
      obtain ⟨rfl, rfl, rfl⟩ := multiMatch_document_inj h
      rfl
    all_goals simp [keyword] at hkey
  | term field value boost =>
    intro other hclause hother h hkey
    cases other
    case term otherField otherValue otherBoost =>
      obtain ⟨rfl, hbody⟩ := Json.single_inj.mp (Json.single_inj.mp h).2
      obtain ⟨rfl, hboost⟩ : value = otherValue ∧
          boostDocument boost = boostDocument otherBoost := by
        simpa using hbody
      rw [boostsStated, boostsStated, (boostDocument_inj hclause hother).mp hboost]
    all_goals simp [keyword] at hkey
  | terms field values boost =>
    intro other hclause hother h hkey
    cases other
    case terms otherField others otherBoost =>
      rw [isRecoverable, Bool.and_eq_true, bne_iff_ne] at hclause hother
      obtain ⟨rfl, rfl, hboost⟩ := (termsDocument_inj hclause.1 hother.1).mp h
      rw [boostsStated, boostsStated, (boostDocument_inj hclause.2 hother.2).mp hboost]
    all_goals simp [keyword] at hkey
  | range field bounds =>
    intro other _ _ h hkey
    cases other
    case range otherField others =>
      obtain ⟨rfl, hbounds⟩ := Json.single_inj.mp (Json.single_inj.mp h).2
      rw [RangeBounds.document_injective hbounds]
    all_goals simp [keyword] at hkey
  | present field =>
    intro other _ _ h hkey
    cases other
    case present otherField =>
      rw [Json.string_injective (Json.single_inj.mp (Json.single_inj.mp h).2).2]
    all_goals simp [keyword] at hkey
  | wildcard field pattern =>
    intro other _ _ h hkey
    cases other
    case wildcard otherField otherPattern =>
      obtain ⟨rfl, hbody⟩ := Json.single_inj.mp (Json.single_inj.mp h).2
      rw [Json.string_injective (Json.single_inj.mp hbody).2]
    all_goals simp [keyword] at hkey
  | regexp field pattern =>
    intro other _ _ h hkey
    cases other
    case regexp otherField otherPattern =>
      obtain ⟨rfl, hbody⟩ := Json.single_inj.mp (Json.single_inj.mp h).2
      rw [Json.string_injective (Json.single_inj.mp hbody).2]
    all_goals simp [keyword] at hkey
  | queryString query defaultField =>
    intro other _ _ h hkey
    cases other
    case queryString otherQuery otherField =>
      obtain ⟨hquery, hfield⟩ := List.cons.inj (Json.object.inj (Json.single_inj.mp h).2)
      rw [Json.string_injective (Prod.mk.inj hquery).2,
        optional_map_injective "default_field" Json.string_injective hfield]
    all_goals simp [keyword] at hkey
  | within path query ih =>
    intro other hclause hother h hkey
    cases other
    case within otherPath otherQuery =>
      obtain ⟨rfl, hquery⟩ : path = otherPath ∧ query.document = otherQuery.document := by
        simpa using (Json.single_inj.mp h).2
      rw [boostsStated, boostsStated, ih otherQuery hclause hother hquery
        (keyword_eq_of_document hclause hother hquery)]
    all_goals simp [keyword] at hkey
  | compound must should filter hmust hshould hfilter =>
    intro other hclause hother h hkey
    cases other
    case compound otherMust otherShould otherFilter =>
      rw [isRecoverable, Bool.and_eq_true, Bool.and_eq_true] at hclause hother
      obtain ⟨hmustDocs, hshouldDocs, hfilterDocs⟩ : documents must = documents otherMust ∧
          documents should = documents otherShould ∧
          documents filter = documents otherFilter := by
        simpa using (Json.single_inj.mp h).2
      rw [boostsStated, boostsStated,
        allBoostsStated_eq_of_documents hmust hclause.1.1 hother.1.1 hmustDocs,
        allBoostsStated_eq_of_documents hshould hclause.1.2 hother.1.2 hshouldDocs,
        allBoostsStated_eq_of_documents hfilter hclause.2 hother.2 hfilterDocs]
    all_goals simp [keyword] at hkey
  | raw document =>
    intro other hclause
    simp [isRecoverable] at hclause

/-- Clauses that can be told from their documents are the same if the documents are, up to the
boosts that are not set. -/
theorem document_eq_iff {clause other : Clause} (hclause : clause.isRecoverable = true)
    (hother : other.isRecoverable = true) :
    clause.document = other.document ↔ clause.boostsStated = other.boostsStated := by
  constructor
  · intro h
    exact clause.isDetermined other hclause hother h (keyword_eq_of_document hclause hother h)
  · intro h
    rw [← clause.document_boostsStated, h, other.document_boostsStated]

end Clause

theorem SortOrder.name_injective : Function.Injective SortOrder.name := by
  intro order other h
  cases order <;> cases other <;> simp [name] at h ⊢

theorem SortKey.document_injective : Function.Injective SortKey.document := by
  rintro ⟨field, order⟩ ⟨other, otherOrder⟩ h
  obtain ⟨hfield, horder⟩ := Json.single_inj.mp h
  have hsame := SortOrder.name_injective (Json.string_injective horder)
  simp_all

namespace Query

/-- Whether the query can be told from its document: its conditions can, and its least score is a
number. -/
def isRecoverable (query : Query) : Bool :=
  query.conditions.toClause.isRecoverable && query.minScore.all Binary64.isFinite

/-- The query with the default boost set wherever a boost is not set. -/
def boostsStated (query : Query) : Query :=
  { query with
    conditions :=
      { must := Clause.allBoostsStated query.conditions.must
        should := Clause.allBoostsStated query.conditions.should
        filter := Clause.allBoostsStated query.conditions.filter } }

theorem document_boostsStated (query : Query) :
    query.boostsStated.document = query.document := by
  have hconditions : query.boostsStated.conditions.document = query.conditions.document :=
    query.conditions.toClause.document_boostsStated
  rw [document, hconditions]
  rfl

/-- A list that is left out when it is empty is still known. -/
theorem eq_of_listed {α : Type} {items others : List α} (document : List α → Json)
    (hdocument : Function.Injective document)
    (h : (if items.isEmpty then none else some (document items)) =
      if others.isEmpty then none else some (document others)) : items = others := by
  cases items <;> cases others <;> simp at h ⊢
  simpa using hdocument h

theorem ite_eq_optional (name : String) (isEmpty : Bool) (value : Json) :
    (if isEmpty then [] else [(name, value)]) =
      optional name (if isEmpty then none else some value) := by
  cases isEmpty <;> rfl

/-- Each part of the query is found under its name, unless it is left out. -/
theorem get?_document (query : Query) :
    query.document.get? "query" = some query.conditions.document ∧
      query.document.get? "from" = query.offset.map .natural ∧
      query.document.get? "size" = query.limit.map .natural ∧
      query.document.get? "sort" = (if query.sort.isEmpty then none
        else some (.array (query.sort.map SortKey.document))) ∧
      query.document.get? "fields" = query.fields.map .strings ∧
      query.document.get? "min_score" = query.minScore.map .float ∧
      query.document.get? "aggs" = (if query.aggregations.isEmpty then none
        else some (Aggregations.document query.aggregations)) := by
  simp only [document, ite_eq_optional, Json.get?_object, Entries.get?_cons, Entries.get?_append,
    get?_optional]
  simp

theorem minScore_inj {score other : Option Binary64} (hscore : score.all Binary64.isFinite = true)
    (hother : other.all Binary64.isFinite = true) (h : score.map Json.float = other.map .float) :
    score = other := by
  cases score <;> cases other <;> simp_all [Json.float]

theorem aggregations_document_injective : Function.Injective Aggregations.document := by
  intro aggregations others h
  exact Aggregation.documents_injective_of
    (fun _ _ _ hdocument => Aggregation.document_injective hdocument) (Json.object.inj h)

theorem sort_document_injective :
    Function.Injective fun keys : List SortKey => Json.array (keys.map SortKey.document) :=
  fun _ _ h => List.map_injective_iff.mpr SortKey.document_injective (Json.array.inj h)

theorem boostsStated_eq_of_document_eq {query other : Query} (hquery : query.isRecoverable = true)
    (hother : other.isRecoverable = true) (h : query.document = other.document) :
    query.boostsStated = other.boostsStated := by
  rw [isRecoverable, Bool.and_eq_true] at hquery hother
  obtain ⟨hconditions, hoffset, hlimit, hsort, hfields, hscore, haggs⟩ := query.get?_document
  obtain ⟨hconditions', hoffset', hlimit', hsort', hfields', hscore', haggs'⟩ :=
    other.get?_document
  rw [h] at hconditions hoffset hlimit hsort hfields hscore haggs
  have hclauses : query.conditions.toClause.boostsStated =
      other.conditions.toClause.boostsStated :=
    (Clause.document_eq_iff hquery.1 hother.1).mp
      (Option.some.inj (hconditions.symm.trans hconditions'))
  obtain ⟨hmust, hshould, hfilter⟩ := Clause.compound.inj hclauses
  have hoffsets := Option.map_injective Json.natural_injective (hoffset.symm.trans hoffset')
  have hlimits := Option.map_injective Json.natural_injective (hlimit.symm.trans hlimit')
  have hsorts := eq_of_listed _ sort_document_injective (hsort.symm.trans hsort')
  have hlists := Option.map_injective Json.strings_injective (hfields.symm.trans hfields')
  have hscores := minScore_inj hquery.2 hother.2 (hscore.symm.trans hscore')
  have haggregations := eq_of_listed _ aggregations_document_injective (haggs.symm.trans haggs')
  rw [boostsStated, boostsStated, hmust, hshould, hfilter]
  cases query
  cases other
  simp_all

/-- Nothing of a query is lost in its document: two queries have the same document exactly if they
are the same once the default boost is set wherever no boost is. -/
theorem document_determines_query {query other : Query} (hquery : query.isRecoverable = true)
    (hother : other.isRecoverable = true) :
    query.document = other.document ↔ query.boostsStated = other.boostsStated := by
  constructor
  · exact boostsStated_eq_of_document_eq hquery hother
  · intro h
    rw [← query.document_boostsStated, h, other.document_boostsStated]

/-- Clauses below a nested path with this boost, and each part of a query that can be left out. -/
def queryExample (boost : Option Binary64) : Query where
  conditions :=
    { must := [.within "comments" (.compound [.term "comments.author" (.string "kim") boost] []
        [.terms "comments.tag" [.string "a", .null] boost])]
      filter := [.range "price" { gte := some (.natural 10), lt := some .null }] }
  offset := some 0
  sort := [⟨"price", .descending⟩]
  fields := some []
  minScore := some .zero
  aggregations := [
    ("authors", .nested "comments" [("top", .terms "comments.author" 3)]),
    ("brands", .nestedFiltered "attributes" "brand" "value" [("name", [.string "brand"])] 10)]

/-- A boost that is not set reads like the default one. -/
theorem document_determines_queryExample :
    (queryExample none).isRecoverable = true ∧
      (queryExample (some Clause.defaultBoost)).isRecoverable = true ∧
      (queryExample none).document = (queryExample (some Clause.defaultBoost)).document ∧
      (queryExample none).boostsStated =
        (queryExample (some Clause.defaultBoost)).boostsStated := by
  have hplain : (queryExample none).isRecoverable = true := by decide
  have hstated : (queryExample (some Clause.defaultBoost)).isRecoverable = true := by decide
  have hdocument : (queryExample none).document =
      (queryExample (some Clause.defaultBoost)).document := rfl
  exact ⟨hplain, hstated, hdocument, (document_determines_query hplain hstated).mp hdocument⟩

end Query

end DocumentSearch
