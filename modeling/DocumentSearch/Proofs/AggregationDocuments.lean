import DocumentSearch.Proofs.AggregationAnswers
import DocumentSearch.Query.Document

/-!
The document of an aggregation determines it. A nested aggregation and a filtered one both ask
below a nested path, but only the filter bucket of the second has a `filter` where every
definition among the children of the first begins with another name.
-/

namespace DocumentSearch

theorem Json.single_inj {name other : String} {value value' : Json} :
    Json.single name value = .single other value' ↔ name = other ∧ value = value' := by
  simp [Json.single]

theorem MetricKind.name_injective : Function.Injective MetricKind.name := by
  intro kind other h
  cases kind <;> cases other <;> simp [name] at h ⊢

namespace Aggregation

theorem termsDocument_inj {field other : String} {size otherSize : UInt64} :
    termsDocument field size = termsDocument other otherSize ↔
      field = other ∧ size = otherSize := by
  simp [termsDocument, Json.single, Json.natural]

theorem nestedDocument_inj {path other : String} {aggregations others : Json} :
    nestedDocument path aggregations = nestedDocument other others ↔
      path = other ∧ aggregations = others := by
  simp [nestedDocument, Json.single]

/-- The path is in front of the name on both sides, so only the name is left to differ. -/
theorem filterDocument_injective (path : String) : Function.Injective (filterDocument path) := by
  rintro ⟨field, values⟩ ⟨other, otherValues⟩ h
  simpa [filterDocument, Json.single] using h

theorem filteredDocument_inj {path resultKey bucketKey otherResult otherBucket : String}
    {filters others : List (String × List Json)} {size otherSize : UInt64} :
    filteredDocument path resultKey bucketKey filters size =
        filteredDocument path otherResult otherBucket others otherSize ↔
      resultKey = otherResult ∧ bucketKey = otherBucket ∧ filters = others ∧
        size = otherSize := by
  rw [filteredDocument, filteredDocument, Json.single_inj]
  constructor
  · rintro ⟨rfl, hbody⟩
    obtain ⟨hfilter, haggs⟩ : filters.map (filterDocument path) =
        others.map (filterDocument path) ∧
        termsDocument (path ++ "." ++ bucketKey) size =
          termsDocument (path ++ "." ++ otherBucket) otherSize := by
      simpa [Json.single] using hbody
    obtain ⟨hbucket, rfl⟩ := termsDocument_inj.mp haggs
    exact ⟨rfl, by simpa using hbucket,
      List.map_injective_iff.mpr (filterDocument_injective path) hfilter, rfl⟩
  · rintro ⟨rfl, rfl, rfl, rfl⟩
    exact ⟨rfl, rfl⟩

theorem document_ne_filter (aggregation : Aggregation) (filter aggregations : Json) :
    aggregation.document ≠ .object [("filter", filter), ("aggs", aggregations)] := by
  cases aggregation <;> simp [document, termsDocument, nestedDocument, Json.single]

/-- The children of a nested aggregation never look like a filter bucket. -/
theorem documents_ne_filtered (children : List (String × Aggregation))
    (path resultKey bucketKey : String) (filters : List (String × List Json)) (size : UInt64) :
    Json.object (documents children) ≠
      filteredDocument path resultKey bucketKey filters size := by
  intro h
  rw [filteredDocument, Json.single, Json.object.injEq] at h
  rcases children with _ | ⟨⟨name, aggregation⟩, rest⟩
  · simp [documents] at h
  · rw [documents, List.cons.injEq, Prod.mk.injEq] at h
    exact document_ne_filter aggregation _ _ h.1.2

theorem documents_injective_of {aggregations others : List (String × Aggregation)}
    (hinjective : ∀ entry ∈ aggregations, ∀ other : Aggregation,
      entry.2.document = other.document → entry.2 = other)
    (h : documents aggregations = documents others) : aggregations = others := by
  induction aggregations generalizing others with
  | nil => cases others <;> simp [documents] at h ⊢
  | cons entry rest ih =>
    obtain ⟨name, aggregation⟩ := entry
    rcases others with _ | ⟨⟨otherName, other⟩, others⟩
    · simp [documents] at h
    · rw [documents, documents, List.cons.injEq, Prod.mk.injEq] at h
      obtain ⟨⟨rfl, hdocument⟩, hrest⟩ := h
      obtain rfl := hinjective _ List.mem_cons_self other hdocument
      rw [ih (fun entry hentry => hinjective entry (List.mem_cons_of_mem _ hentry)) hrest]

theorem document_injective : Function.Injective document := by
  intro aggregation other h
  induction aggregation using Aggregation.induction generalizing other with
  | terms field size =>
    cases other
    case terms otherField otherSize =>
      obtain ⟨rfl, rfl⟩ := termsDocument_inj.mp h
      rfl
    all_goals simp [document, termsDocument, nestedDocument, Json.single] at h
  | metric kind field =>
    cases other
    case metric otherKind otherField =>
      obtain ⟨hname, hbody⟩ := Json.single_inj.mp h
      obtain rfl := MetricKind.name_injective hname
      obtain rfl : field = otherField := Json.string.inj (Json.single_inj.mp hbody).2
      rfl
    all_goals simp [document, termsDocument, nestedDocument, Json.single] at h
  | nested path aggregations ih =>
    cases other
    case nested otherPath others =>
      obtain ⟨rfl, hdocuments⟩ := nestedDocument_inj.mp h
      have hchildren : ∀ entry ∈ aggregations, ∀ other : Aggregation,
          entry.2.document = other.document → entry.2 = other :=
        fun entry hentry _ hdocument => ih entry hentry hdocument
      rw [documents_injective_of hchildren (Json.object.inj hdocuments)]
    case nestedFiltered otherPath resultKey bucketKey filters size =>
      exact absurd (nestedDocument_inj.mp h).2 (documents_ne_filtered _ _ _ _ _ _)
    all_goals simp [document, termsDocument, nestedDocument, Json.single] at h
  | nestedFiltered path resultKey bucketKey filters size =>
    cases other
    case nestedFiltered otherPath otherResult otherBucket others otherSize =>
      obtain ⟨rfl, hfiltered⟩ := nestedDocument_inj.mp h
      obtain ⟨rfl, rfl, rfl, rfl⟩ := filteredDocument_inj.mp hfiltered
      rfl
    case nested otherPath others =>
      exact absurd (nestedDocument_inj.mp h).2.symm (documents_ne_filtered _ _ _ _ _ _)
    all_goals simp [document, termsDocument, nestedDocument, Json.single] at h

end Aggregation

end DocumentSearch
