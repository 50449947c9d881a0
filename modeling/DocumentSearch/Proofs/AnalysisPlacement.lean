import DocumentSearch.Proofs.ReportInvariance
import DocumentSearch.Proofs.ReportedSettings
import DocumentSearch.Proofs.UnmanagedSettings

/-!
Where the analysis settings stand. Normalizing moves them from `index` to the top, unless some are
at the top already, and keeps everything else; only the order of the members of `index` may change.
So a report does not depend on where the analysis settings were put, except that a comparator that
manages `index` as a whole may find the differences below it in another order.
-/

namespace DocumentSearch

open Json (Same)

/-- A value that is put where none is found is found there. -/
theorem Entries.get?_insert_self {α : Type} {front back : Entries α} {name : String} (value : α)
    (h : get? (front ++ back) name = none) :
    get? (front ++ (name, value) :: back) name = some value := by
  rw [get?_append, Option.or_eq_none_iff] at h
  rw [get?_append, h.1, get?_cons, if_pos rfl]
  rfl

/-- A value that is taken out again leaves what was there before. -/
theorem Entries.get?_swapRemove_insert {α : Type} {front back : Entries α} {name : String}
    {value : α} (hnames : (names (front ++ (name, value) :: back)).Nodup) (key : String) :
    get? (swapRemove (front ++ (name, value) :: back) name) key = get? (front ++ back) key := by
  rw [get?_swapRemove hnames]
  split
  case isTrue hkey =>
    rw [names, List.map_append, List.map_cons, List.nodup_middle, List.nodup_cons,
      ← List.map_append] at hnames
    rw [hkey, get?_eq_none_iff.mpr hnames.1]
  case isFalse hkey => exact get?_insert_of_ne front back value (Ne.symm hkey)

namespace Settings

/-- What normalizing makes of settings: the analysis settings stand at the top, those that stood
there before those of `index`, and all other members are kept. -/
structure Hoists (settings normalized : Entries Json) : Prop where
  distinct : (Json.object normalized).hasDistinctNames = true
  analysis : normalized.get? "analysis" = (settings.get? "analysis").or (indexAnalysis settings)
  cleared : ∀ index, normalized.get? "index" = some (.object index) →
    Entries.get? index "analysis" = none
  members : ∀ index, settings.get? "index" = some (.object index) →
    ∃ rest, normalized.get? "index" = some (.object rest) ∧
      rest.Perm (Entries.erase index "analysis")
  scalar : (∀ index, settings.get? "index" ≠ some (.object index)) →
    normalized.get? "index" = settings.get? "index"
  elsewhere : ∀ name, name ≠ "analysis" → name ≠ "index" →
    normalized.get? name = settings.get? name

/-- Settings with analysis settings neither at the top nor under `index`. -/
structure LacksAnalysis (settings : Entries Json) : Prop where
  top : settings.get? "analysis" = none
  index : indexAnalysis settings = none

/-- The analysis settings are put into the common settings, at the top or into the object under
`index`, in front of any of the members or behind them. -/
inductive Places (analysis : Json) : Entries Json → Entries Json → Prop
  | atTop (front back : Entries Json) :
      Places analysis (front ++ back) (front ++ ("analysis", analysis) :: back)
  | underIndex (before front back after : Entries Json) :
      Places analysis (before ++ ("index", .object (front ++ back)) :: after)
        (before ++ ("index", .object (front ++ ("analysis", analysis) :: back)) :: after)

section Normalizing

variable {settings : Entries Json}

theorem withoutAnalysis_of_not_object {value : Json} (h : ∀ index, value ≠ .object index) :
    value.withoutAnalysis = value := by
  cases value with
  | object index => exact absurd rfl (h index)
  | _ => rfl

theorem hoists_normalize (hsettings : (Json.object settings).hasDistinctNames = true) :
    Hoists settings (normalize settings) where
  distinct := hasDistinctNames_normalize hsettings
  analysis := get?_normalize_analysis settings
  cleared index hindex := by
    rw [get?_normalize_index, Option.map_eq_some_iff] at hindex
    obtain ⟨value, hvalue, hwithout⟩ := hindex
    cases value with
    | object members =>
      rw [← Json.object.inj hwithout]
      exact Entries.get?_swapRemove_self (Json.nodup_names_of_get? hsettings hvalue) "analysis"
    | _ => cases hwithout
  members index hindex := by
    refine ⟨Entries.swapRemove index "analysis", ?_, ?_⟩
    · rw [get?_normalize_index, hindex]
      rfl
    · exact Entries.swapRemove_perm_erase (Json.nodup_names_of_get? hsettings hindex) "analysis"
  scalar hscalar := by
    rw [get?_normalize_index]
    cases hvalue : settings.get? "index" with
    | none => rfl
    | some value =>
      have hobject : ∀ index, value ≠ .object index := fun index heq =>
        hscalar index (heq ▸ hvalue)
      rw [Option.map_some, withoutAnalysis_of_not_object hobject]
  elsewhere _ hanalysis hindex := get?_normalize_of_ne settings hanalysis hindex

/-- Without analysis settings nothing is taken out of `index`. -/
theorem LacksAnalysis.map_withoutAnalysis (h : LacksAnalysis settings) :
    (settings.get? "index").map Json.withoutAnalysis = settings.get? "index" := by
  have hindex := h.index
  unfold indexAnalysis at hindex
  cases hvalue : settings.get? "index" with
  | none => rfl
  | some value =>
    cases value with
    | object index =>
      rw [hvalue] at hindex
      rw [Option.map_some, Json.withoutAnalysis, Entries.swapRemove_of_get?_eq_none hindex]
    | _ => rfl

end Normalizing

namespace Places

variable {analysis : Json} {common settings others : Entries Json}

theorem get?_of_ne (h : Places analysis common settings) {name : String}
    (hanalysis : name ≠ "analysis") (hindex : name ≠ "index") :
    settings.get? name = common.get? name := by
  cases h with
  | atTop front back => exact Entries.get?_insert_of_ne front back _ (Ne.symm hanalysis)
  | underIndex before front back after =>
    rw [Entries.get?_insert_of_ne before after _ (Ne.symm hindex),
      Entries.get?_insert_of_ne before after _ (Ne.symm hindex)]

theorem nodup_names (h : Places analysis common settings)
    (hsettings : (Json.object settings).hasDistinctNames = true) : common.names.Nodup := by
  have hnames := Json.nodup_names hsettings
  cases h with
  | atTop front back =>
    have hrest : (front ++ back).Sublist (front ++ ("analysis", analysis) :: back) :=
      (List.Sublist.refl front).append (List.sublist_cons_self _ back)
    exact hnames.sublist (hrest.map Prod.fst)
  | underIndex before front back after => simpa [Entries.names] using hnames

/-- Under `index` stands what is common, or that and the analysis settings. -/
theorem index_cases (h : Places analysis common settings)
    (hsettings : (Json.object settings).hasDistinctNames = true) :
    settings.get? "index" = common.get? "index" ∨
      ∃ front back, common.get? "index" = some (.object (front ++ back)) ∧
        settings.get? "index" = some (.object (front ++ ("analysis", analysis) :: back)) := by
  have hcommon := h.nodup_names hsettings
  cases h with
  | atTop front back => exact Or.inl (Entries.get?_insert_of_ne front back _ (by decide))
  | underIndex before front back after =>
    exact Or.inr ⟨front, back, Entries.get?_of_mem hcommon List.mem_append_cons_self,
      Entries.get?_of_mem (Json.nodup_names hsettings) List.mem_append_cons_self⟩

/-- Wherever they were put, the analysis settings are found. -/
theorem analysis_eq (h : Places analysis common settings) (hcommon : LacksAnalysis common)
    (hsettings : (Json.object settings).hasDistinctNames = true) :
    (settings.get? "analysis").or (indexAnalysis settings) = some analysis := by
  have hnames := h.nodup_names hsettings
  cases h with
  | atTop front back =>
    rw [Entries.get?_insert_self analysis hcommon.top]
    rfl
  | underIndex before front back after =>
    have hne : "index" ≠ "analysis" := by decide
    have htop := hcommon.top
    rw [Entries.get?_insert_of_ne before after _ hne] at htop
    have hindex := hcommon.index
    rw [indexAnalysis, Entries.get?_of_mem hnames List.mem_append_cons_self] at hindex
    rw [Entries.get?_insert_of_ne before after _ hne, htop, indexAnalysis,
      Entries.get?_of_mem (Json.nodup_names hsettings) List.mem_append_cons_self]
    exact Entries.get?_insert_self analysis hindex

theorem get?_indexMembers (h : Places analysis common settings)
    (hsettings : (Json.object settings).hasDistinctNames = true) {key : String}
    (hkey : key ≠ "analysis") :
    (indexMembers settings).get? key = (indexMembers common).get? key := by
  rw [Settings.get?_indexMembers, Settings.get?_indexMembers]
  rcases h.index_cases hsettings with heq | ⟨front, back, hcommon, hplaced⟩
  · rw [heq]
  · rw [hcommon, hplaced]
    exact Entries.get?_insert_of_ne front back analysis (Ne.symm hkey)

/-- Wherever the analysis settings were put, the default comparator reads the same. -/
theorem readsAs (h : Places analysis common settings) (h' : Places analysis common others)
    (hcommon : LacksAnalysis common)
    (hsettings : (Json.object settings).hasDistinctNames = true)
    (hothers : (Json.object others).hasDistinctNames = true) : ReadsAs settings others where
  analysis := by rw [h.analysis_eq hcommon hsettings, h'.analysis_eq hcommon hothers]
  index _ _ hkey := by rw [h.get?_indexMembers hsettings hkey, h'.get?_indexMembers hothers hkey]
  elsewhere _ hanalysis hindex := by
    rw [h.get?_of_ne hanalysis hindex, h'.get?_of_ne hanalysis hindex]

theorem isNaNFree (h : Places analysis common settings)
    (hnumbers : (Json.object settings).isNaNFree = true) :
    (Json.object (common ++ [("analysis", analysis)])).isNaNFree = true := by
  cases h with
  | atTop front back =>
    simp only [Json.isNaNFree_object_iff, List.forall_mem_append, List.forall_mem_cons] at hnumbers ⊢
    exact ⟨⟨hnumbers.1, hnumbers.2.2⟩, hnumbers.2.1, nofun⟩
  | underIndex before front back after =>
    simp only [Json.isNaNFree_object_iff, List.forall_mem_append, List.forall_mem_cons] at hnumbers ⊢
    obtain ⟨hbefore, ⟨hfront, hanalysis, hback⟩, hafter⟩ := hnumbers
    exact ⟨⟨hbefore, ⟨hfront, hback⟩, hafter⟩, hanalysis, nofun⟩

/-- Normalized, the settings are the common ones and the analysis settings at the top. -/
theorem same_normalize (h : Places analysis common settings) (hcommon : LacksAnalysis common)
    (hsettings : (Json.object settings).hasDistinctNames = true)
    (hnumbers : (Json.object (common ++ [("analysis", analysis)])).isNaNFree = true) :
    Same (.object (normalize settings)) (.object (common ++ [("analysis", analysis)])) := by
  have hself := Json.same_object_iff.mp (Same.refl hnumbers)
  have hbefore : ∀ name, name ≠ "analysis" →
      Entries.get? (common ++ [("analysis", analysis)]) name = common.get? name := by
    intro name hname
    rw [Entries.get?_insert_of_ne common [] analysis (Ne.symm hname), List.append_nil]
  refine Json.same_object_iff.mpr fun name => ?_
  by_cases hanalysis : name = "analysis"
  · subst hanalysis
    have hlast : Entries.get? (common ++ [("analysis", analysis)]) "analysis" = some analysis :=
      Entries.get?_insert_self analysis (by rw [List.append_nil, hcommon.top])
    rw [get?_normalize_analysis, h.analysis_eq hcommon hsettings, ← hlast]
    exact hself "analysis"
  specialize hself name
  rw [hbefore name hanalysis] at hself ⊢
  by_cases hindex : name = "index"
  · subst hindex
    rw [get?_normalize_index]
    rcases h.index_cases hsettings with heq | ⟨front, back, hmembers, hplaced⟩
    · rw [heq, hcommon.map_withoutAnalysis]
      exact hself
    · have hinner := Json.nodup_names_of_get? hsettings hplaced
      rw [hmembers] at hself ⊢
      rw [hplaced]
      cases hself with
      | some hself =>
        refine .some (Json.same_object_iff.mpr fun key => ?_)
        rw [Entries.get?_swapRemove_insert hinner]
        exact Json.same_object_iff.mp hself key
  · rw [get?_normalize_of_ne settings hanalysis hindex, h.get?_of_ne hanalysis hindex]
    exact hself

end Places

end Settings

namespace IndexConfiguration

open Settings

/-- Two configurations that differ only in where the analysis settings were put. -/
structure DiffersInPlacement (index other : IndexConfiguration) : Prop where
  mapping : other.mapping = index.mapping
  settings : ∃ analysis common, LacksAnalysis common ∧
    Places analysis common index.settings ∧ Places analysis common other.settings

variable {index other : IndexConfiguration}

theorem rel_valueAt_self (hindex : index.WellFormed) (hnumbers : index.NaNFree) (root : Root) :
    Option.Rel Same (index.valueAt root) (index.valueAt root) := by
  have hself : index.Reordered index := ⟨.refl _, .refl _⟩
  exact (hself.equivalent hindex hnumbers).valueAt hindex hindex root

namespace DiffersInPlacement

theorem rel_valueAt (h : index.DiffersInPlacement other) (hindex : index.WellFormed)
    (hother : other.WellFormed) (hnumbers : index.NaNFree) (root : Root) :
    Option.Rel Same (index.valueAt root) (other.valueAt root) := by
  obtain ⟨analysis, common, hcommon, hplaced, hmoved⟩ := h.settings
  cases root with
  | mapping =>
    rw [valueAt, valueAt, h.mapping]
    exact .some (Same.refl hnumbers.mapping)
  | setting path =>
    have hhoisted := hplaced.isNaNFree hnumbers.settings
    have hhere := hplaced.same_normalize hcommon hindex.settings hhoisted
    have hthere := hmoved.same_normalize hcommon hother.settings hhoisted
    exact (hhere.trans hthere.symm).follow path

theorem lookup_normalize (h : index.DiffersInPlacement other) (hindex : index.WellFormed)
    (hother : other.WellFormed) {path : List String} (hpath : path ∈ Comparator.default.managed) :
    lookup (normalize other.settings) path = lookup (normalize index.settings) path := by
  obtain ⟨analysis, common, hcommon, hplaced, hmoved⟩ := h.settings
  have hreads := hmoved.readsAs hplaced hcommon hother.settings hindex.settings
  exact hreads.lookup_normalize hother.settings hindex.settings hpath

end DiffersInPlacement

end IndexConfiguration

namespace Comparator

open Settings IndexConfiguration

/-- Normalizing keeps all settings, moves those of the analysis to the top and is done after once.
Reports on configurations that differ only in where the analysis settings were put have the same
differences, and the default comparator finds them in the same order. -/
theorem normalize_hoists_and_placement_is_ignored :
    (∀ settings : Entries Json, (Json.object settings).hasDistinctNames = true →
        Hoists settings (normalize settings) ∧
          normalize (normalize settings) = normalize settings) ∧
      ∀ (comparator : Comparator) (index moved other : IndexConfiguration),
        index.WellFormed → moved.WellFormed → other.WellFormed →
        index.NaNFree → other.NaNFree → index.DiffersInPlacement moved →
          ((comparator.differences moved other).Perm (comparator.differences index other) ∧
              (comparator.differences other moved).Perm (comparator.differences other index)) ∧
            Comparator.default.differences moved other =
                Comparator.default.differences index other ∧
              Comparator.default.differences other moved =
                Comparator.default.differences other index := by
  constructor
  · intro settings hsettings
    exact ⟨hoists_normalize hsettings, normalize_normalize hsettings⟩
  · intro comparator index moved other hindex hmoved hother hnumbers hotherNumbers h
    have hplaced := h.rel_valueAt hindex hmoved hnumbers
    have hself := rel_valueAt_self hother hotherNumbers
    have hdefault : ∀ path ∈ Comparator.default.managed,
        lookup (normalize moved.settings) path = lookup (normalize index.settings) path :=
      fun _ hpath => h.lookup_normalize hindex hmoved hpath
    refine ⟨⟨?_, ?_⟩, ?_, ?_⟩
    · exact differences_perm_of_rel comparator hindex hmoved hother hother hplaced hself
    · exact differences_perm_of_rel comparator hother hother hindex hmoved hself hplaced
    · exact differences_congr h.mapping rfl fun path hpath => ⟨hdefault path hpath, rfl⟩
    · exact differences_congr rfl h.mapping fun path hpath => ⟨rfl, hdefault path hpath⟩

def stopWords : Json := .single "filter" (.single "stop" (.strings ["a", "b"]))

/-- The analysis settings are the first member of `index`, so another one takes their place. -/
def postsUnderIndex : IndexConfiguration where
  name := "posts"
  mapping := [("id", .single "type" (.string "keyword"))]
  settings := [("index", .object [("analysis", stopWords), ("max_ngram_diff", .string "2"),
    ("uuid", .string "u")])]

def postsAtTop : IndexConfiguration where
  name := "posts"
  mapping := [("id", .single "type" (.string "keyword"))]
  settings := [("index", .object [("max_ngram_diff", .string "2"), ("uuid", .string "u")]),
    ("analysis", stopWords)]

theorem postsUnderIndex_differsInPlacement : postsUnderIndex.DiffersInPlacement postsAtTop where
  mapping := rfl
  settings := by
    refine ⟨stopWords, [("index", .object [("max_ngram_diff", .string "2"), ("uuid", .string "u")])],
      ⟨rfl, rfl⟩, ?_, ?_⟩
    · exact .underIndex [] [] [("max_ngram_diff", .string "2"), ("uuid", .string "u")] []
    · exact .atTop [("index", .object [("max_ngram_diff", .string "2"), ("uuid", .string "u")])] []

/-- What a comparator that manages all of `index` reports of the posts with the analysis settings
under it. -/
def placementReport : List Difference := [
  ⟨.mapping, ["id", "fields"], .onlyRemote⟩,
  ⟨.mapping, ["slug"], .onlyRemote⟩,
  ⟨.setting ["index"], ["uuid"], .missingRemotely⟩,
  ⟨.setting ["index"], ["max_ngram_diff"], .changed⟩,
  ⟨.setting ["analysis"], ["filter", "stop"], .changed⟩]

/-- With the analysis settings at the top, the same differences are reported. -/
theorem placement_is_ignored_postsUnderIndex :
    postsUnderIndex.WellFormed ∧ postsAtTop.WellFormed ∧ reportedPosts.WellFormed ∧
      postsUnderIndex.NaNFree ∧ reportedPosts.NaNFree ∧
      postsUnderIndex.DiffersInPlacement postsAtTop ∧
      Hoists postsUnderIndex.settings [("index", .object [("uuid", .string "u"),
        ("max_ngram_diff", .string "2")]), ("analysis", stopWords)] ∧
      (Comparator.ofPaths ["index", "analysis"]).differences postsUnderIndex reportedPosts =
        placementReport ∧
      ((Comparator.ofPaths ["index", "analysis"]).differences postsAtTop reportedPosts).Perm
        placementReport ∧
      Comparator.default.differences postsAtTop reportedPosts =
        Comparator.default.differences postsUnderIndex reportedPosts := by
  obtain ⟨hnormal, hignored⟩ := normalize_hoists_and_placement_is_ignored
  have hunder : postsUnderIndex.WellFormed := ⟨by decide, by decide⟩
  have htop : postsAtTop.WellFormed := ⟨by decide, by decide⟩
  have hreported : reportedPosts.WellFormed := ⟨by decide, by decide⟩
  have hnumbers : postsUnderIndex.NaNFree := ⟨by decide, by decide⟩
  have hreportedNumbers : reportedPosts.NaNFree := ⟨by decide, by decide⟩
  have hmoved := postsUnderIndex_differsInPlacement
  have hreport : (Comparator.ofPaths ["index", "analysis"]).differences postsUnderIndex
      reportedPosts = placementReport := by decide
  obtain ⟨⟨hperm, -⟩, hdefault, -⟩ := hignored (.ofPaths ["index", "analysis"]) postsUnderIndex
    postsAtTop reportedPosts hunder htop hreported hnumbers hreportedNumbers hmoved
  exact ⟨hunder, htop, hreported, hnumbers, hreportedNumbers, hmoved,
    (hnormal postsUnderIndex.settings hunder.settings).1, hreport, hreport ▸ hperm, hdefault⟩

example : (Comparator.ofPaths ["index", "analysis"]).differences postsAtTop reportedPosts ≠
    placementReport := by decide

end Comparator

end DocumentSearch
