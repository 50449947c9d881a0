import DocumentSearch.Index.Settings
import DocumentSearch.Proofs.Documents

/-!
What is found in normalized settings. Only two names are looked up differently than before:
`analysis` leads to the analysis settings at the top or, if there are none, to those under `index`,
and `index` leads to what it did, without its analysis settings.
-/

namespace DocumentSearch

/-- The document without its member `analysis`, if it is an object. -/
def Json.withoutAnalysis : Json → Json
  | .object entries => .object (Entries.swapRemove entries "analysis")
  | other => other

namespace Settings

def indexAnalysis (settings : Entries Json) : Option Json :=
  (settings.get? "index").bind (·.get? "analysis")

theorem withoutIndexAnalysis_snd (settings : Entries Json) :
    (withoutIndexAnalysis settings).2 = indexAnalysis settings := by
  unfold withoutIndexAnalysis indexAnalysis
  cases settings.get? "index" with
  | none => rfl
  | some value => cases value <;> rfl

theorem get?_withoutIndexAnalysis_index (settings : Entries Json) :
    (withoutIndexAnalysis settings).1.get? "index" =
      (settings.get? "index").map Json.withoutAnalysis := by
  unfold withoutIndexAnalysis
  cases hindex : settings.get? "index" with
  | none => exact hindex
  | some value =>
    cases value with
    | object index => exact Entries.get?_put_self _ _ _
    | _ => exact hindex

theorem get?_withoutIndexAnalysis_of_ne (settings : Entries Json) {name : String}
    (h : name ≠ "index") :
    (withoutIndexAnalysis settings).1.get? name = settings.get? name := by
  unfold withoutIndexAnalysis
  cases settings.get? "index" with
  | none => rfl
  | some value =>
    cases value with
    | object index => exact Entries.get?_put_of_ne settings _ h
    | _ => rfl

theorem get?_normalize_analysis (settings : Entries Json) :
    (normalize settings).get? "analysis" =
      (settings.get? "analysis").or (indexAnalysis settings) := by
  have htop := get?_withoutIndexAnalysis_of_ne settings (show "analysis" ≠ "index" by decide)
  rw [← htop, ← withoutIndexAnalysis_snd, normalize]
  rcases withoutIndexAnalysis settings with ⟨stripped, _ | analysis⟩
  · exact Option.or_none.symm
  · exact Entries.get?_putNew_self stripped "analysis" analysis

theorem get?_normalize_of_ne_analysis (settings : Entries Json) {name : String}
    (h : name ≠ "analysis") :
    (normalize settings).get? name = (withoutIndexAnalysis settings).1.get? name := by
  rw [normalize]
  rcases withoutIndexAnalysis settings with ⟨stripped, _ | analysis⟩
  · rfl
  · exact Entries.get?_putNew_of_ne stripped analysis h

theorem get?_normalize_index (settings : Entries Json) :
    (normalize settings).get? "index" = (settings.get? "index").map Json.withoutAnalysis := by
  rw [get?_normalize_of_ne_analysis settings (by decide), get?_withoutIndexAnalysis_index]

theorem get?_normalize_of_ne (settings : Entries Json) {name : String}
    (hanalysis : name ≠ "analysis") (hindex : name ≠ "index") :
    (normalize settings).get? name = settings.get? name := by
  rw [get?_normalize_of_ne_analysis settings hanalysis,
    get?_withoutIndexAnalysis_of_ne settings hindex]

theorem lookup_cons (settings : Entries Json) (name : String) (rest : List String) :
    lookup settings (name :: rest) = (settings.get? name).bind (follow rest) := rfl

theorem follow_singleton (name : String) (document : Json) :
    follow [name] document = document.get? name := by
  rw [follow]
  cases document.get? name <;> rfl

theorem lookup_singleton (settings : Entries Json) (name : String) :
    lookup settings [name] = settings.get? name :=
  follow_singleton name (.object settings)

theorem lookup_normalize_analysis (settings : Entries Json) (rest : List String) :
    lookup (normalize settings) ("analysis" :: rest) =
      ((settings.get? "analysis").or (indexAnalysis settings)).bind (follow rest) := by
  rw [lookup_cons, get?_normalize_analysis]

theorem lookup_normalize_of_ne (settings : Entries Json) {name : String} (rest : List String)
    (hanalysis : name ≠ "analysis") (hindex : name ≠ "index") :
    lookup (normalize settings) (name :: rest) = lookup settings (name :: rest) := by
  rw [lookup_cons, get?_normalize_of_ne settings hanalysis hindex, lookup_cons]

/-- Below `index` a path leads to what it did, but never into the analysis settings. -/
theorem lookup_normalize_index {settings : Entries Json} (key : String) (rest : List String)
    (hindex : ∀ index, settings.get? "index" = some (.object index) →
      (Entries.names index).Nodup) :
    lookup (normalize settings) ("index" :: key :: rest) =
      if key = "analysis" then none else lookup settings ("index" :: key :: rest) := by
  rw [lookup_cons, get?_normalize_index, lookup_cons]
  cases hvalue : settings.get? "index" with
  | none => simp
  | some value =>
    have hmember : value.withoutAnalysis.get? key =
        if key = "analysis" then none else value.get? key := by
      cases value with
      | object index => exact Entries.get?_swapRemove (hindex index hvalue) "analysis" key
      | _ => simp [Json.withoutAnalysis, Json.get?, Json.entries?]
    rw [Option.map_some, Option.bind_some, Option.bind_some, follow, follow, hmember]
    split <;> rfl

/-- Settings without analysis settings under `index` are normalized already. -/
theorem normalize_of_indexAnalysis_eq_none {settings : Entries Json}
    (h : indexAnalysis settings = none) : normalize settings = settings := by
  unfold normalize withoutIndexAnalysis
  cases hindex : settings.get? "index" with
  | none => rfl
  | some value =>
    cases value with
    | object index =>
      have hanalysis : Entries.get? index "analysis" = none := by
        rw [indexAnalysis, hindex] at h
        exact h
      simp only [hanalysis, Entries.swapRemove_of_get?_eq_none hanalysis]
      exact Entries.put_of_get? hindex
    | _ => rfl

theorem normalize_normalize {settings : Entries Json}
    (hsettings : (Json.object settings).hasDistinctNames = true) :
    normalize (normalize settings) = normalize settings := by
  refine normalize_of_indexAnalysis_eq_none ?_
  rw [indexAnalysis, get?_normalize_index]
  cases hindex : settings.get? "index" with
  | none => rfl
  | some value =>
    cases value with
    | object index =>
      exact Entries.get?_swapRemove_self (Json.nodup_names_of_get? hsettings hindex) "analysis"
    | _ => rfl

end Settings

end DocumentSearch
