import DocumentSearch.Command
import DocumentSearch.Proofs.RequestDocuments

/-!
Conditions on fields that may have one of several values. The request states the values under the
name of the field, beside the boost, so different lists of values make different requests. A field
of the name `boost` is the exception: its values give way to the boost, and the condition is lost.
-/

namespace DocumentSearch

/-- The place of an entry that is put does not depend on its value. -/
theorem Entries.exists_put_eq_append {α : Type} (entries : Entries α) (name : String) :
    ∃ before after, ∀ value, entries.put name value = before ++ (name, value) :: after := by
  induction entries with
  | nil => exact ⟨[], [], fun _ => rfl⟩
  | cons first rest ih =>
    obtain ⟨key, old⟩ := first
    by_cases hkey : key = name
    · refine ⟨[], rest, fun value => ?_⟩
      rw [put, if_pos hkey, hkey, List.nil_append]
    · obtain ⟨before, after, hrest⟩ := ih
      refine ⟨(key, old) :: before, after, fun value => ?_⟩
      rw [put, if_neg hkey, hrest, List.cons_append]

namespace Clause

variable {field : String} {values others : List Json} {boost : Option Binary64}

/-- The document states all the values under the field, and the boost. -/
def StatesValues (document : Json) (field : String) (values : List Json)
    (boost : Option Binary64) : Prop :=
  ∃ body, document.get? "terms" = some body ∧ body.get? field = some (.array values) ∧
    body.get? "boost" = some (boostDocument boost)

theorem boostDocument_ne_array (boost : Option Binary64) (items : List Json) :
    boostDocument boost ≠ .array items := by
  unfold boostDocument Json.float
  split <;> simp

theorem termsDocument_boost (values : List Json) (boost : Option Binary64) :
    termsDocument "boost" values boost =
      .single "terms" (.single "boost" (boostDocument boost)) := rfl

theorem termsDocument_of_ne (h : field ≠ "boost") :
    termsDocument field values boost =
      .single "terms" (.object [(field, .array values), ("boost", boostDocument boost)]) := by
  rw [termsDocument, Entries.put, if_neg h, Entries.put]

theorem statesValues_iff :
    StatesValues (document (.terms field values boost)) field values boost ↔
      field ≠ "boost" := by
  constructor
  · rintro ⟨body, hbody, hvalues, hboost⟩ rfl
    rw [hboost] at hvalues
    exact boostDocument_ne_array boost values (Option.some.inj hvalues)
  · intro h
    rw [document, termsDocument_of_ne h]
    refine ⟨_, rfl, ?_, ?_⟩
    · exact if_pos rfl
    · exact (if_neg h).trans (if_pos rfl)

theorem termsDocument_eq_iff :
    termsDocument field values boost = termsDocument field others boost ↔
      field = "boost" ∨ values = others := by
  by_cases hfield : field = "boost"
  · subst hfield
    exact iff_of_true (termsDocument_boost values boost) (Or.inl rfl)
  · rw [termsDocument_inj hfield hfield]
    simp [hfield]

end Clause

/-- The document states the documents of all filters. -/
theorem Query.document_eq_iff_of_filters (query : Query) (filters others : List Clause) :
    ({ query with conditions := { query.conditions with filter := filters } } : Query).document =
        ({ query with conditions := { query.conditions with filter := others } } : Query).document ↔
      Clause.documents filters = Clause.documents others := by
  simp [document, BoolQuery.document, BoolQuery.toClause, Clause.document, Clause.boolDocument,
    Json.single_inj]

namespace Draft

variable (draft : Draft) (field : String)

theorem query_whereIn (values : List Json) :
    (draft.apply (.whereIn field values)).query =
      { draft.query with conditions := { draft.query.conditions with
          filter := draft.filter ++ draft.equalityClauses ++
            (draft.memberships.put field values).map fun entry => .anyOf entry.1 entry.2 } } := rfl

theorem documents_whereIn_eq_iff (values others : List Json) :
    (draft.apply (.whereIn field values)).query.document =
        (draft.apply (.whereIn field others)).query.document ↔
      field = "boost" ∨ values = others := by
  obtain ⟨before, after, hput⟩ := draft.memberships.exists_put_eq_append field
  rw [query_whereIn, query_whereIn, Query.document_eq_iff_of_filters, hput, hput,
    ← Clause.termsDocument_eq_iff]
  -- The clauses before and after the one on the field are the same on both sides.
  simp only [Clause.documents_eq_map, List.map_append, List.map_cons, List.append_cancel_left_eq,
    List.cons.injEq, and_true]
  rfl

/-- A condition on several values is in the request with all of them, and other values make another
request, unless its field has the name `boost`. -/
theorem whereIn_keeps_values_iff {values others : List Json} (boost : Option Binary64)
    (h : values ≠ others) :
    ((Command.drafted (draft.apply (.whereIn field values))).query.document ≠
        (Command.drafted (draft.apply (.whereIn field others))).query.document ↔
        field ≠ "boost") ∧
      (Clause.StatesValues (Clause.document (.terms field values boost)) field values boost ↔
        field ≠ "boost") := by
  refine ⟨?_, Clause.statesValues_iff⟩
  have heq := documents_whereIn_eq_iff draft field values others
  rw [or_iff_left h] at heq
  exact not_congr heq

def taggedPosts : Draft :=
  ofSteps [.forIndex "posts", .whereIn "tags" [], .whereIn "boost" [],
    .whereEq "draft" (.bool false)]

/-- A condition that was set before is replaced where it stands. -/
theorem whereIn_keeps_tags :
    [Json.string "t1", .string "t2"] ≠ [.string "t1"] ∧
      (Command.drafted (taggedPosts.apply (.whereIn "tags"
          [.string "t1", .string "t2"]))).query.document ≠
        (Command.drafted (taggedPosts.apply (.whereIn "tags" [.string "t1"]))).query.document ∧
      Clause.StatesValues (Clause.document (.terms "tags" [.string "t1", .string "t2"] none)) "tags"
        [.string "t1", .string "t2"] none := by
  have hvalues : [Json.string "t1", .string "t2"] ≠ [.string "t1"] := by simp
  have hfield : "tags" ≠ "boost" := by decide
  obtain ⟨hrequests, hstated⟩ := whereIn_keeps_values_iff taggedPosts "tags" none hvalues
  exact ⟨hvalues, hrequests.mpr hfield, hstated.mpr hfield⟩

/-- The boost takes the place of the values of a field of its name. The command is accepted, and the
filter that is sent names no value. -/
theorem whereIn_boost_loses_values :
    [Json.string "a"] ≠ [.string "b"] ∧
      (∀ value ∈ ["a", "b"],
        (Command.drafted (ofSteps [.forIndex "posts", .whereIn "boost" [.string value]])).request =
          .ok ⟨"posts", .single "query" (.single "bool" (.object [("must", .array []),
            ("should", .array []), ("filter", .array [.single "terms" (.single "boost"
              (.number (.float Clause.defaultBoost)))])]))⟩) ∧
      ¬ Clause.StatesValues (Clause.document (.terms "boost" [.string "a"] none)) "boost"
        [.string "a"] none := by
  refine ⟨by simp, ?_, ?_⟩
  · intro value hvalue
    simp only [List.mem_cons, List.not_mem_nil, or_false] at hvalue
    rcases hvalue with rfl | rfl <;> rfl
  · rintro ⟨body, hbody, hvalues, hboost⟩
    rw [hboost] at hvalues
    exact Clause.boostDocument_ne_array none _ (Option.some.inj hvalues)

end Draft

end DocumentSearch
