import DocumentSearch.Response
import DocumentSearch.Proofs.DecodedAggregations
import DocumentSearch.Proofs.Hits

/-!
Search responses that are decoded. A response must state how many documents match, and what it
lists or aggregates must have the right shape. Beyond the aggregations it may leave out the list of
hits, which is then read as an empty one, and it may give its parts by position in an array instead
of by name in an object.
-/

namespace DocumentSearch

theorem Aggregations.exists_results_iff (requested : Aggregations) {raw : Entries Json}
    (hraw : (Json.object raw).hasDistinctNames = true) :
    (∃ all, requested.results raw = .ok all) ↔
      ∀ entry ∈ requested, ∃ value, raw.get? entry.1 = some value ∧
        Aggregation.Fits entry.2 value := by
  rw [results_eq_resultsOfAll]
  exact Aggregation.exists_resultsOfAll_iff (fun entry _ child hchild =>
    Aggregation.exists_results_iff_fits entry.2 entry.1
      (Json.hasDistinctNames_of_member hraw hchild)) _

namespace Response

/-- A natural number, or an object that has it as `value`. -/
def StatesTotal (document : Json) (n : UInt64) : Prop :=
  document = .natural n ∨ document.get? "value" = some (.natural n)

theorem total_eq_ok_iff {document : Json} {n : UInt64} :
    total document = .ok n ↔ StatesTotal document n := by
  cases document with
  | number value =>
    cases value <;> simp [total, StatesTotal, Json.natural, Json.get?, Json.entries?]
  | object entries =>
    have hvalue : (Json.object entries).get? "value" = Entries.get? entries "value" := rfl
    simp only [total, StatesTotal, hvalue, Json.natural, reduceCtorEq, false_or]
    cases Entries.get? entries "value" with
    | none => simp
    | some value =>
      cases value with
      | number value => cases value <;> simp
      | _ => simp
  | _ => simp [total, StatesTotal, Json.natural, Json.get?, Json.entries?]

theorem hitsRecord_isPlain : hitsRecord.IsPlain where
  nodup := by decide
  synonyms := by simp [hitsRecord]

theorem hitsRecord_isUniform : hitsRecord.IsUniform := by
  simp [Record.IsUniform, Record.Accepts, hitsRecord, map_eq_ok_iff]

theorem total_isPart : hitsRecord.IsPart (fun raw _ => raw) "total" total RawHits.total where
  there := by decide
  own := by simp [hitsRecord, map_eq_ok_iff]
  others := by simp [hitsRecord, map_eq_ok_iff]
  kept _ _ := rfl

theorem hits_isPart :
    hitsRecord.IsPart (fun raw _ => raw) "hits" (Json.asListOf Hit.read) RawHits.hits where
  there := by decide
  own := by simp [hitsRecord, map_eq_ok_iff]
  others := by simp [hitsRecord, map_eq_ok_iff]
  kept _ _ := rfl

theorem record_isPlain : record.IsPlain where
  nodup := by decide
  synonyms := by simp [record]

theorem record_isUniform : record.IsUniform := by
  simp [Record.IsUniform, Record.Accepts, record, map_eq_ok_iff]

theorem rawHits_isPart :
    record.IsPart (fun raw _ => raw) "hits" (hitsRecord.read .refused) RawResponse.hits where
  there := by decide
  own := by simp [record, map_eq_ok_iff]
  others := by simp [record, map_eq_ok_iff]
  kept _ _ := rfl

theorem aggregations_isPart :
    record.IsPart (fun raw _ => raw) "aggregations" (Json.asOption Json.asEntries)
      RawResponse.aggregations where
  there := by decide
  own := by simp [record, map_eq_ok_iff]
  others := by simp [record, map_eq_ok_iff]
  kept _ _ := rfl

/-- The members of a response and those of its hits. -/
structure Sections (response : Json) (members hits : Entries Json) : Prop where
  outer : record.members? response = some members
  inner : ∃ document, members.get? "hits" = some document ∧
    hitsRecord.members? document = some hits

theorem Sections.hasDistinctNames {response : Json} {members hits : Entries Json}
    (h : Sections response members hits) (hresponse : response.hasDistinctNames = true) :
    (Json.object members).hasDistinctNames = true ∧
      (Json.object hits).hasDistinctNames = true := by
  have hmembers := record_isPlain.hasDistinctNames_members hresponse h.outer
  obtain ⟨document, hdocument, hhits⟩ := h.inner
  exact ⟨hmembers, hitsRecord_isPlain.hasDistinctNames_members
    (Json.hasDistinctNames_of_get? hmembers hdocument) hhits⟩

/-- What is asked of the sections: a total, hits that can be read, and all that is requested. A
list of hits need not be there, and neither need aggregations. -/
structure IsAnswer (requested : Aggregations) (members hits : Entries Json) : Prop where
  total : ∃ document n, hits.get? "total" = some document ∧ StatesTotal document n
  hits : ∀ document, hits.get? "hits" = some document →
    ∃ items, document = .array items ∧ ∀ item ∈ items, item.IsHit
  aggregations : ∀ document, members.get? "aggregations" = some document →
    document = .null ∨ ∃ raw : Entries Json, document = .object raw ∧
      ∀ entry ∈ requested, ∃ value, raw.get? entry.1 = some value ∧
        Aggregation.Fits entry.2 value

/-- What the sections give. No hits come of a list that is missing, and no aggregations of members
that are missing or null. -/
structure Gives (requested : Aggregations) (members hits : Entries Json)
    (found : SearchResult) : Prop where
  total : ∃ document, hits.get? "total" = some document ∧ StatesTotal document found.total
  hits : (hits.get? "hits" = none ∧ found.hits = []) ∨
    ∃ items, hits.get? "hits" = some (.array items) ∧
      List.Forall₂ (fun item hit => Hit.read item = .ok hit) items found.hits
  aggregations :
    ((members.get? "aggregations" = none ∨ members.get? "aggregations" = some .null) ∧
      found.aggregations = []) ∨
    ∃ raw, members.get? "aggregations" = some (.object raw) ∧
      requested.results raw = .ok found.aggregations

theorem exists_hitList_iff {document : Json} (hdocument : document.hasDistinctNames = true) :
    (∃ hits, document.asListOf Hit.read = .ok hits) ↔
      ∃ items, document = .array items ∧ ∀ item ∈ items, item.IsHit := by
  cases document with
  | array items =>
    have hmapM : (Json.array items).asListOf Hit.read = items.mapM Hit.read := rfl
    have hread : ∀ item ∈ items, (∃ hit, Hit.read item = .ok hit) ↔ item.IsHit :=
      fun item hitem =>
        Hit.exists_read_iff (Json.hasDistinctNames_array_iff.mp hdocument item hitem)
    rw [hmapM, exists_mapM_iff, forall₂_congr hread]
    simp
  | _ =>
    refine iff_of_false ?_ (by simp)
    rintro ⟨hits, h⟩
    cases h

/-- The hits of a response are read if they state a total and list nothing but hits. -/
theorem exists_readHits_iff {document : Json} (hdocument : document.hasDistinctNames = true) :
    (∃ raw, hitsRecord.read .refused document = .ok raw) ↔
      ∃ hits, hitsRecord.members? document = some hits ∧
        (∃ total, hits.get? "total" = some total ∧ ∃ n, StatesTotal total n) ∧
        ∀ list, hits.get? "hits" = some list →
          ∃ items, list = .array items ∧ ∀ item ∈ items, item.IsHit := by
  simp only [Record.read_refused_eq_ok_iff hitsRecord_isPlain]
  rw [exists_comm]
  refine exists_congr fun hits => ?_
  rw [exists_and_left]
  refine and_congr_right fun hhits => ?_
  have hnames := hitsRecord_isPlain.hasDistinctNames_members hdocument hhits
  have hlist : ∀ list, hits.get? "hits" = some list → _ := fun list hlist =>
    exists_hitList_iff (Json.hasDistinctNames_of_get? hnames hlist)
  rw [Record.exists_ofEntries_iff hitsRecord_isPlain hitsRecord_isUniform
    (Json.nodup_names hnames), Entries.exists_get?_and_iff, ← forall₂_congr hlist]
  simp [hitsRecord, Record.Supplies, Record.Accepts, map_eq_ok_iff, total_eq_ok_iff]

/-- A response is read if its hits are and its aggregations are named values or null. -/
theorem exists_read_iff {response : Json} (hresponse : response.hasDistinctNames = true) :
    (∃ raw, record.read .refused response = .ok raw) ↔
      ∃ members, record.members? response = some members ∧
        (∃ document, members.get? "hits" = some document ∧
          ∃ raw, hitsRecord.read .refused document = .ok raw) ∧
        ∀ document, members.get? "aggregations" = some document →
          document = .null ∨ ∃ raw, document = .object raw := by
  simp only [Record.read_refused_eq_ok_iff record_isPlain]
  rw [exists_comm]
  refine exists_congr fun members => ?_
  rw [exists_and_left]
  refine and_congr_right fun hmembers => ?_
  have hnames := record_isPlain.hasDistinctNames_members hresponse hmembers
  rw [Record.exists_ofEntries_iff record_isPlain record_isUniform (Json.nodup_names hnames),
    Entries.exists_get?_and_iff]
  simp [record, Record.Supplies, Record.Accepts, map_eq_ok_iff, Json.exists_asOption_iff,
    Json.asEntries_eq_ok_iff]

theorem read_eq_ok_iff {response : Json} {raw : RawResponse} :
    read response = .ok raw ↔ record.read .refused response = .ok raw := by
  rw [read]
  cases record.read .refused response <;> simp

theorem result_eq_ok_iff {requested : Aggregations} {response : Json} {found : SearchResult} :
    result requested response = .ok found ↔
      ∃ raw, record.read .refused response = .ok raw ∧ raw.hits.hits = found.hits ∧
        raw.hits.total = found.total ∧
        ((raw.aggregations = none ∧ found.aggregations = []) ∨
          ∃ entries, raw.aggregations = some entries ∧
            requested.results entries = .ok found.aggregations) := by
  simp only [result, bind_eq_ok_iff, read_eq_ok_iff]
  refine exists_congr fun raw => and_congr_right fun _ => ?_
  obtain ⟨hits, total, aggregations⟩ := found
  cases raw.aggregations with
  | none => simp
  | some entries =>
    simp only [bind_eq_ok_iff, pure_eq_ok_iff, SearchResult.mk.injEq, reduceCtorEq, false_and,
      false_or, Option.some.injEq, exists_eq_left']
    constructor
    · rintro ⟨all, hall, rfl, rfl, rfl⟩
      exact ⟨rfl, rfl, hall⟩
    · rintro ⟨rfl, rfl, hall⟩
      exact ⟨_, hall, rfl, rfl, rfl⟩

/-- What a decoded response gives is what its sections hold. -/
theorem gives_of_result {requested : Aggregations} {response : Json} {found : SearchResult}
    (hresponse : response.hasDistinctNames = true) (h : result requested response = .ok found) :
    ∃ members hits, Sections response members hits ∧ Gives requested members hits found := by
  obtain ⟨raw, hraw, hlist, htotal, haggregations⟩ := result_eq_ok_iff.mp h
  obtain ⟨members, hmembers, hentries⟩ :=
    (Record.read_refused_eq_ok_iff record_isPlain).mp hraw
  have hnames := record_isPlain.hasDistinctNames_members hresponse hmembers
  obtain ⟨document, hdocument, hinner⟩ := rawHits_isPart.read_of_ofEntries record_isPlain
    (by simp [record]) (Json.nodup_names hnames) hentries
  obtain ⟨hits, hhits, hinner⟩ := (Record.read_refused_eq_ok_iff hitsRecord_isPlain).mp hinner
  have hsections : Sections response members hits := ⟨hmembers, document, hdocument, hhits⟩
  have hinnerNames := Json.nodup_names (hsections.hasDistinctNames hresponse).2
  refine ⟨members, hits, hsections, ?_, ?_, ?_⟩
  · obtain ⟨total, hfound, hread⟩ := total_isPart.read_of_ofEntries hitsRecord_isPlain
      (by simp [hitsRecord]) hinnerNames hinner
    exact ⟨total, hfound, htotal ▸ total_eq_ok_iff.mp hread⟩
  · have hread := hits_isPart.readOr_of_ofEntries hitsRecord_isPlain hinnerNames hinner
    rw [hlist] at hread
    cases hfound : hits.get? "hits" with
    | none =>
      rw [hfound] at hread
      exact Or.inl ⟨rfl, (Except.ok.inj hread).symm⟩
    | some list =>
      rw [hfound] at hread
      obtain ⟨items, rfl, hall⟩ := Aggregation.asListOf_eq_ok_iff.mp hread
      exact Or.inr ⟨items, rfl, hall⟩
  · have hread := aggregations_isPart.readOr_of_ofEntries record_isPlain
      (Json.nodup_names hnames) hentries
    rcases haggregations with ⟨hnone, hempty⟩ | ⟨entries, hsome, hresults⟩
    · rw [hnone] at hread
      exact Or.inl ⟨readOr_eq_none_iff.mp hread, hempty⟩
    · rw [hsome] at hread
      obtain ⟨document, hfound, -, hentries⟩ := readOr_eq_some_iff.mp hread
      exact Or.inr ⟨entries, Json.asEntries_eq_ok_iff.mp hentries ▸ hfound, hresults⟩

variable {requested : Aggregations} {response : Json} {members hits : Entries Json}
  {found : SearchResult}

theorem Gives.isAnswer (hsections : Sections response members hits)
    (hresponse : response.hasDistinctNames = true) (h : Gives requested members hits found) :
    IsAnswer requested members hits := by
  obtain ⟨hnames, hinner⟩ := hsections.hasDistinctNames hresponse
  refine ⟨?_, ?_, ?_⟩
  · obtain ⟨document, hdocument, htotal⟩ := h.total
    exact ⟨document, found.total, hdocument, htotal⟩
  · intro document hdocument
    rcases h.hits with ⟨hnone, -⟩ | ⟨items, hitems, hall⟩
    · cases hnone.symm.trans hdocument
    · obtain rfl := Option.some.inj (hitems.symm.trans hdocument)
      exact (exists_hitList_iff (Json.hasDistinctNames_of_get? hinner hitems)).mp
        ⟨found.hits, mapM_eq_ok_iff.mpr hall⟩
  · intro document hdocument
    rcases h.aggregations with ⟨hnull, -⟩ | ⟨raw, hraw, hresults⟩
    · exact Or.inl (by simpa [hdocument] using hnull)
    · obtain rfl := Option.some.inj (hraw.symm.trans hdocument)
      exact Or.inr ⟨raw, rfl, (requested.exists_results_iff
        (Json.hasDistinctNames_of_get? hnames hraw)).mp ⟨_, hresults⟩⟩

/-- Nothing else is asked of a response. -/
theorem IsAnswer.exists_result (hsections : Sections response members hits)
    (hresponse : response.hasDistinctNames = true) (h : IsAnswer requested members hits) :
    ∃ found, result requested response = .ok found := by
  obtain ⟨hnames, -⟩ := hsections.hasDistinctNames hresponse
  obtain ⟨document, hdocument, hhits⟩ := hsections.inner
  obtain ⟨total, n, htotal, hstates⟩ := h.total
  obtain ⟨raw, hraw⟩ := (exists_read_iff hresponse).mpr ⟨members, hsections.outer,
    ⟨document, hdocument, (exists_readHits_iff (Json.hasDistinctNames_of_get? hnames hdocument)).mpr
      ⟨hits, hhits, ⟨total, htotal, n, hstates⟩, h.hits⟩⟩,
    fun found hfound => (h.aggregations found hfound).imp_right fun ⟨entries, hentries, _⟩ =>
      ⟨entries, hentries⟩⟩
  obtain ⟨others, hothers, hentries⟩ := (Record.read_refused_eq_ok_iff record_isPlain).mp hraw
  obtain rfl := Option.some.inj (hothers.symm.trans hsections.outer)
  have hread := aggregations_isPart.readOr_of_ofEntries record_isPlain
    (Json.nodup_names hnames) hentries
  cases hsome : raw.aggregations with
  | none =>
    exact ⟨⟨raw.hits.hits, raw.hits.total, []⟩,
      result_eq_ok_iff.mpr ⟨raw, hraw, rfl, rfl, Or.inl ⟨hsome, rfl⟩⟩⟩
  | some entries =>
    rw [hsome] at hread
    obtain ⟨document, hobject, -, hentries⟩ := readOr_eq_some_iff.mp hread
    rw [Json.asEntries_eq_ok_iff.mp hentries] at hobject
    have hfits : ∀ entry ∈ requested, ∃ value, entries.get? entry.1 = some value ∧
        Aggregation.Fits entry.2 value := by
      rcases h.aggregations _ hobject with hnull | ⟨raw, hraw, hfits⟩
      · cases hnull
      · exact Json.object.inj hraw ▸ hfits
    obtain ⟨all, hall⟩ :=
      (requested.exists_results_iff (Json.hasDistinctNames_of_get? hnames hobject)).mpr hfits
    exact ⟨⟨raw.hits.hits, raw.hits.total, all⟩,
      result_eq_ok_iff.mpr ⟨raw, hraw, rfl, rfl, Or.inr ⟨entries, hsome, hall⟩⟩⟩

/-- Nothing is missing from a response: it is an object whose hits are an object with a total and
a list of objects, and its aggregations are missing, null or an object with each requested name. -/
def IsComplete (requested : Aggregations) (response : Json) : Prop :=
  ∃ members hits : Entries Json, response = .object members ∧
    members.get? "hits" = some (.object hits) ∧
    (∃ document n, hits.get? "total" = some document ∧ StatesTotal document n) ∧
    (∃ items, hits.get? "hits" = some (.array items) ∧
      ∀ item ∈ items, ∃ entries, item = .object entries) ∧
    ∀ document, members.get? "aggregations" = some document → document ≠ .null →
      ∃ raw : Entries Json, document = .object raw ∧ ∀ entry ∈ requested, entry.1 ∈ raw.names

/-- A response that names its hits and the list of them. -/
def ListsHits (response : Json) : Prop :=
  ∃ members hits : Entries Json, response = .object members ∧
    members.get? "hits" = some (.object hits) ∧ "hits" ∈ hits.names

theorem Gives.isComplete_iff (hsections : Sections response members hits)
    (hresponse : response.hasDistinctNames = true) (h : Gives requested members hits found) :
    IsComplete requested response ↔ ListsHits response := by
  constructor
  · rintro ⟨members, hits, hobject, hhits, -, ⟨items, hitems, -⟩, -⟩
    exact ⟨members, hits, hobject, hhits, Entries.exists_get?_iff.mp ⟨_, hitems⟩⟩
  · rintro ⟨others, inner, rfl, hobject, hlisted⟩
    obtain rfl := Option.some.inj hsections.outer
    obtain ⟨document, hdocument, hhits⟩ := hsections.inner
    obtain rfl := Option.some.inj (hobject.symm.trans hdocument)
    obtain rfl := Option.some.inj hhits
    obtain ⟨total, htotal, hstates⟩ := h.total
    refine ⟨others, inner, rfl, hobject, ⟨total, found.total, htotal, hstates⟩, ?_, ?_⟩
    · rcases h.hits with ⟨hnone, -⟩ | ⟨items, hitems, hall⟩
      · exact absurd hlisted (Entries.get?_eq_none_iff.mp hnone)
      · have hobjects : List.Forall₂ (fun item _ => (∃ entries, item = .object entries) ∧ True)
            items found.hits :=
          hall.imp fun _ _ hread => ⟨Hit.exists_object_of_read hread, trivial⟩
        exact ⟨items, hitems, ((List.forall₂_and_left _ _).mp hobjects).1⟩
    · intro document hdocument hnull
      rcases h.aggregations with ⟨hnone | hsome, -⟩ | ⟨raw, hraw, hresults⟩
      · cases hnone.symm.trans hdocument
      · exact absurd (Option.some.inj (hdocument.symm.trans hsome)) hnull
      · obtain rfl := Option.some.inj (hraw.symm.trans hdocument)
        refine ⟨raw, rfl, fun entry hentry => ?_⟩
        obtain ⟨value, hvalue, -⟩ := (requested.exists_results_iff
          (Json.hasDistinctNames_of_get? hresponse hraw)).mp ⟨_, hresults⟩ entry hentry
        exact Entries.exists_get?_iff.mp ⟨value, hvalue⟩

/-- A response is decoded exactly if its sections answer the request, into what they give. Of the
responses that are decoded, those from which nothing is missing are the ones that name a list of
hits: without that list there are no hits, and an array is read by position. -/
theorem decoded_iff_isAnswer (requested : Aggregations) (response : Json)
    (hresponse : response.hasDistinctNames = true) :
    ((∃ found, result requested response = .ok found) ↔
        ∃ members hits, Sections response members hits ∧ IsAnswer requested members hits) ∧
      ∀ found, result requested response = .ok found →
        (∃ members hits, Sections response members hits ∧ Gives requested members hits found) ∧
          (IsComplete requested response ↔ ListsHits response) := by
  refine ⟨⟨?_, ?_⟩, fun found hfound => ?_⟩
  · rintro ⟨found, hfound⟩
    obtain ⟨members, hits, hsections, hgives⟩ := gives_of_result hresponse hfound
    exact ⟨members, hits, hsections, hgives.isAnswer hsections hresponse⟩
  · rintro ⟨members, hits, hsections, hanswer⟩
    exact hanswer.exists_result hsections hresponse
  · obtain ⟨members, hits, hsections, hgives⟩ := gives_of_result hresponse hfound
    exact ⟨⟨members, hits, hsections, hgives⟩, hgives.isComplete_iff hsections hresponse⟩

def listedHitsExample : Entries Json :=
  [("hits", .array [.object [("_id", .null), ("_score", .natural 1), ("sort", .array [])]]),
    ("total", .single "value" (.natural 3))]

def listedExample : Entries Json :=
  [("took", .natural 2), ("hits", .object listedHitsExample),
    ("aggregations", .object Aggregations.unorderedExample)]

theorem isAnswer_listedExample :
    IsAnswer Aggregations.requestExample listedExample listedHitsExample where
  total := ⟨_, 3, rfl, Or.inr rfl⟩
  hits := by
    rintro document ⟨⟩
    refine ⟨_, rfl, fun item hitem => ?_⟩
    rw [List.mem_singleton.mp hitem]
    refine ⟨_, rfl, ?_, ?_⟩
    · simp [Entries.get?]
    · rintro value ⟨⟩
      exact Or.inr ⟨_, rfl⟩
  aggregations := by
    rintro document ⟨⟩
    exact Or.inr ⟨_, rfl, Aggregations.fits_unorderedExample⟩

/-- Other members do not matter, nor does the null id of the hit. -/
theorem decoded_listedExample :
    (Json.object listedExample).hasDistinctNames = true ∧
      ∃ found, result Aggregations.requestExample (.object listedExample) = .ok found ∧
        IsComplete Aggregations.requestExample (.object listedExample) := by
  have hboth := decoded_iff_isAnswer Aggregations.requestExample (.object listedExample) (by decide)
  obtain ⟨found, hfound⟩ := hboth.1.mpr
    ⟨listedExample, listedHitsExample, ⟨rfl, _, rfl, rfl⟩, isAnswer_listedExample⟩
  exact ⟨by decide, found, hfound, (hboth.2 found hfound).2.mpr
    ⟨listedExample, listedHitsExample, rfl, rfl, by decide⟩⟩

def unlistedExample : Json := .single "hits" (.single "total" (.natural 1))

def positionalExample : Json := .array [.array [.natural 1]]

/-- One document matches, but none is listed and that is no error. The same comes of an array that
has no names at all. -/
theorem result_unlistedExample :
    result [] unlistedExample = .ok ⟨[], 1, []⟩ ∧ ¬IsComplete [] unlistedExample ∧
      result [] positionalExample = .ok ⟨[], 1, []⟩ ∧ ¬IsComplete [] positionalExample := by
  refine ⟨rfl, ?_, rfl, ?_⟩
  · rintro ⟨members, hits, hobject, hhits, -, ⟨items, hitems, -⟩, -⟩
    obtain rfl := Json.object.inj hobject
    obtain rfl := Json.object.inj (Option.some.inj hhits)
    cases hitems
  · rintro ⟨members, hits, hobject, -⟩
    cases hobject

end Response

end DocumentSearch
