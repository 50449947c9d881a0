import DocumentSearch.Index.Comparison
import DocumentSearch.Proofs.NormalizedSettings
import DocumentSearch.Proofs.Separators
import DocumentSearch.Proofs.Settings

/-!
Names joined by dots. Splitting at the dots gives back the names, provided that none of them has a
dot itself, so different lists of such names are joined to different paths. The one exception is
the empty list, which reads like a single empty name. Normalizing settings brings in no dots.
-/

namespace DocumentSearch

namespace Text

theorem split_joinPath {names : List String} (hne : names ≠ [])
    (h : ∀ name ∈ names, '.' ∉ name.toList) : split '.' (joinPath names) = names :=
  IsSplit.split_eq ⟨hne, h, rfl⟩

end Text

/-- Among names without dots, only the same names make the same path. -/
theorem joinPath_inj {names others : List String} (hne : names ≠ []) (hne' : others ≠ [])
    (h : ∀ name ∈ names, '.' ∉ name.toList) (h' : ∀ name ∈ others, '.' ∉ name.toList) :
    joinPath names = joinPath others ↔ names = others := by
  constructor
  · intro heq
    rw [← Text.split_joinPath hne h, ← Text.split_joinPath hne' h', heq]
  · rintro rfl
    rfl

theorem joinPath_cons {name : String} {rest : List String} (hne : rest ≠ []) :
    joinPath (name :: rest) = name ++ "." ++ joinPath rest :=
  String.intercalate_cons_of_ne_nil hne

/-- Names that were joined before count as one. -/
theorem joinPath_joinPath_cons {names : List String} (hne : names ≠ []) (rest : List String) :
    joinPath (joinPath names :: rest) = joinPath (names ++ rest) := by
  cases rest with
  | nil => simp [joinPath]
  | cons next rest =>
    rw [joinPath_cons (by simp)]
    exact (String.intercalate_append_of_ne_nil hne (by simp)).symm

namespace Json

def ownNamesDotless : Json → Bool
  | .object entries => (Entries.names entries).all fun name => !name.toList.contains '.'
  | _ => true

/-- Whether no name in the document has a dot in it. -/
def hasDotlessNames (document : Json) : Bool := document.everywhere ownNamesDotless

theorem hasDotlessNames_object_iff {entries : Entries Json} :
    (Json.object entries).hasDotlessNames = true ↔
      (∀ name ∈ entries.names, '.' ∉ name.toList) ∧
        ∀ entry ∈ entries, entry.2.hasDotlessNames = true := by
  rw [hasDotlessNames, everywhere_object_iff, ownNamesDotless, List.all_eq_true]
  simp [hasDotlessNames]

theorem hasDotlessNames_of_get? {entries : Entries Json} {name : String} {value : Json}
    (hentries : (Json.object entries).hasDotlessNames = true)
    (h : entries.get? name = some value) :
    '.' ∉ name.toList ∧ value.hasDotlessNames = true := by
  obtain ⟨hnames, hvalues⟩ := hasDotlessNames_object_iff.mp hentries
  exact ⟨hnames name (Entries.exists_get?_iff.mp ⟨value, h⟩), hvalues _ (Entries.mem_of_get? h)⟩

theorem hasDotlessNames_withoutAnalysis {document : Json}
    (hnames : document.hasDistinctNames = true) (h : document.hasDotlessNames = true) :
    document.withoutAnalysis.hasDotlessNames = true := by
  cases document with
  | object entries =>
    have hperm := Entries.swapRemove_perm_erase (nodup_names hnames) "analysis"
    rw [hasDotlessNames_object_iff] at h
    rw [withoutAnalysis, hasDotlessNames_object_iff]
    have hkept : ∀ entry ∈ Entries.swapRemove entries "analysis", entry ∈ entries :=
      fun entry hentry => List.mem_of_mem_filter (hperm.subset hentry)
    refine ⟨fun name hname => ?_, fun entry hentry => h.2 entry (hkept entry hentry)⟩
    obtain ⟨value, hmem⟩ := Entries.mem_names.mp hname
    exact h.1 name (Entries.mem_names.mpr ⟨value, hkept _ hmem⟩)
  | _ => exact h

end Json

namespace Settings

theorem hasDotlessNames_normalize {settings : Entries Json}
    (hnames : (Json.object settings).hasDistinctNames = true)
    (h : (Json.object settings).hasDotlessNames = true) :
    (Json.object (normalize settings)).hasDotlessNames = true := by
  have hfound : ∀ name value, (normalize settings).get? name = some value →
      '.' ∉ name.toList ∧ value.hasDotlessNames = true := by
    intro name value hvalue
    by_cases hanalysis : name = "analysis"
    · subst hanalysis
      refine ⟨by decide, ?_⟩
      rw [get?_normalize_analysis, Option.or_eq_some_iff] at hvalue
      rcases hvalue with htop | ⟨-, hindex⟩
      · exact (Json.hasDotlessNames_of_get? h htop).2
      · obtain ⟨index, hindex, hmember⟩ := Option.bind_eq_some_iff.mp hindex
        obtain ⟨entries, rfl, hget⟩ := Json.get?_eq_some_iff.mp hmember
        exact (Json.hasDotlessNames_of_get? (Json.hasDotlessNames_of_get? h hindex).2 hget).2
    · by_cases hindex : name = "index"
      · subst hindex
        rw [get?_normalize_index, Option.map_eq_some_iff] at hvalue
        obtain ⟨index, hindex, rfl⟩ := hvalue
        exact ⟨by decide, Json.hasDotlessNames_withoutAnalysis
          (Json.hasDistinctNames_of_get? hnames hindex) (Json.hasDotlessNames_of_get? h hindex).2⟩
      · rw [get?_normalize_of_ne settings hanalysis hindex] at hvalue
        exact Json.hasDotlessNames_of_get? h hvalue
  have hdistinct := Json.nodup_names (hasDistinctNames_normalize hnames)
  refine Json.hasDotlessNames_object_iff.mpr ⟨fun name hname => ?_, fun entry hentry => ?_⟩
  · obtain ⟨value, hvalue⟩ := Entries.exists_get?_iff.mpr hname
    exact (hfound name value hvalue).1
  · exact (hfound _ _ (Entries.get?_of_mem hdistinct hentry)).2

theorem dotless_of_follow {keys : List String} {document value : Json}
    (hdocument : document.hasDotlessNames = true) (h : follow keys document = some value) :
    ∀ key ∈ keys, '.' ∉ key.toList := by
  induction keys generalizing document with
  | nil => simp
  | cons key rest ih =>
    obtain ⟨inner, hmember, hrest⟩ := Option.bind_eq_some_iff.mp h
    obtain ⟨entries, rfl, hget⟩ := Json.get?_eq_some_iff.mp hmember
    obtain ⟨hkey, hinner⟩ := Json.hasDotlessNames_of_get? hdocument hget
    exact List.forall_mem_cons.mpr ⟨hkey, ih hinner hrest⟩

end Settings

end DocumentSearch
