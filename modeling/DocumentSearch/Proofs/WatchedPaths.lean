import DocumentSearch.Proofs.DifferenceReport
import DocumentSearch.Proofs.ReportedSettings

/-!
Managed paths that notice every difference. Settings are compared after the analysis settings were
moved from `index` to the top. A managed path into them then leads nowhere, and `index` itself leads
only to what is left, so such a path notices what was moved only if a path to the new place, or to
one above it, is managed too. Every other path notices a difference by itself.
-/

namespace DocumentSearch

open Json (Same)

namespace Settings

/-- The place at the top that what a path leads to, or a part of it, has in normalized settings. -/
def moved? : List String → Option (List String)
  | ["index"] => some ["analysis"]
  | "index" :: "analysis" :: rest => some ("analysis" :: rest)
  | _ => none

theorem moved?_eq_some_iff {path moved : List String} :
    moved? path = some moved ↔
      path = ["index"] ∧ moved = ["analysis"] ∨
        ∃ rest, path = "index" :: "analysis" :: rest ∧ moved = "analysis" :: rest := by
  unfold moved?
  split <;> simp_all [eq_comm]

/-- A path on which nothing is moved leads in normalized settings to what it did before, unless it
leads into the analysis settings at the top. -/
theorem lookup_normalize_of_moved?_eq_none {settings : Entries Json} {path : List String}
    (hsettings : (Json.object settings).hasDistinctNames = true) (hpath : path ≠ [])
    (htop : path.head? ≠ some "analysis") (hmoved : moved? path = none) :
    lookup (normalize settings) path = lookup settings path := by
  match path with
  | name :: rest =>
    have hanalysis : name ≠ "analysis" := fun heq => htop (congrArg some heq)
    by_cases hindex : name = "index"
    · subst hindex
      match rest with
      | [] => simp [moved?] at hmoved
      | key :: rest =>
        have hkey : key ≠ "analysis" := by
          rintro rfl
          simp [moved?] at hmoved
        rw [lookup_normalize_index key rest fun _ => Json.nodup_names_of_get? hsettings,
          if_neg hkey]
    · exact lookup_normalize_of_ne settings rest hanalysis hindex

/-- Without analysis settings at the top, those under `index` are found there after normalizing. -/
theorem lookup_normalize_analysis_of_get?_eq_none {settings : Entries Json}
    (htop : settings.get? "analysis" = none) (rest : List String) :
    lookup (normalize settings) ("analysis" :: rest) =
      lookup settings ("index" :: "analysis" :: rest) := by
  rw [lookup_normalize_analysis, htop, Option.none_or, indexAnalysis, Option.bind_assoc]
  rfl

theorem lookup_append (settings : Entries Json) (front back : List String) :
    lookup settings (front ++ back) = (lookup settings front).bind (follow back) :=
  follow_append front back (.object settings)

end Settings

/-- What `withoutAnalysis` takes away and what it leaves say everything. -/
theorem Json.Same.of_withoutAnalysis {a b : Json} (ha : a.hasDistinctNames = true)
    (hb : b.hasDistinctNames = true) (hrest : Same a.withoutAnalysis b.withoutAnalysis)
    (hanalysis : Option.Rel Same (a.get? "analysis") (b.get? "analysis")) : Same a b := by
  cases a with
  | object entries =>
    cases b with
    | object others =>
      refine same_object_iff.mpr fun name => ?_
      by_cases hname : name = "analysis"
      · subst hname
        exact hanalysis
      · have hmember := same_object_iff.mp hrest name
        rwa [Entries.get?_swapRemove_of_ne (nodup_names ha) hname,
          Entries.get?_swapRemove_of_ne (nodup_names hb) hname] at hmember
    | _ => cases hrest
  | _ =>
    cases b with
    | object others => cases hrest
    | _ => exact hrest

namespace Settings

variable {desired actual : Entries Json}

/-- Settings say the same at a path if they do so when they are normalized, at the path itself and
at the place that something on it is moved to. -/
theorem rel_lookup_of_normalize (hdesired : (Json.object desired).hasDistinctNames = true)
    (hactual : (Json.object actual).hasDistinctNames = true)
    (hdesiredTop : desired.get? "analysis" = none) (hactualTop : actual.get? "analysis" = none)
    {path : List String} (hpath : path ≠ [])
    (h : Option.Rel Same (lookup (normalize desired) path) (lookup (normalize actual) path))
    (hmoved : ∀ moved ∈ moved? path,
      Option.Rel Same (lookup (normalize desired) moved) (lookup (normalize actual) moved)) :
    Option.Rel Same (lookup desired path) (lookup actual path) := by
  by_cases htop : path.head? = some "analysis"
  · obtain ⟨rest, rfl⟩ := List.head?_eq_some_iff.mp htop
    rw [lookup_cons, lookup_cons, hdesiredTop, hactualTop]
    exact .none
  cases hplace : moved? path with
  | none =>
    rwa [lookup_normalize_of_moved?_eq_none hdesired hpath htop hplace,
      lookup_normalize_of_moved?_eq_none hactual hpath htop hplace] at h
  | some moved =>
    have hthere := hmoved moved hplace
    rcases moved?_eq_some_iff.mp hplace with ⟨rfl, rfl⟩ | ⟨rest, rfl, rfl⟩
    · rw [lookup_normalize_analysis_of_get?_eq_none hdesiredTop,
        lookup_normalize_analysis_of_get?_eq_none hactualTop, lookup_cons, lookup_cons,
        Option.bind_congr fun value _ => follow_singleton "analysis" value,
        Option.bind_congr fun value _ => follow_singleton "analysis" value] at hthere
      rw [lookup_singleton, lookup_singleton, get?_normalize_index, get?_normalize_index] at h
      rw [lookup_singleton, lookup_singleton]
      cases hleft : desired.get? "index" with
      | none =>
        cases hright : actual.get? "index" with
        | none => exact .none
        | some right => simp [hleft, hright] at h
      | some left =>
        cases hright : actual.get? "index" with
        | none => simp [hleft, hright] at h
        | some right =>
          rw [hleft, hright] at h hthere
          obtain ⟨hrest⟩ := h
          exact .some (.of_withoutAnalysis (Json.hasDistinctNames_of_get? hdesired hleft)
            (Json.hasDistinctNames_of_get? hactual hright) hrest hthere)
    · rwa [lookup_normalize_analysis_of_get?_eq_none hdesiredTop,
        lookup_normalize_analysis_of_get?_eq_none hactualTop] at hthere

/-- The document that leads along a path to a value and to nothing else. -/
def leadingTo : List String → Json → Json
  | [], value => value
  | name :: rest, value => .single name (leadingTo rest value)

theorem follow_leadingTo (path : List String) (value : Json) :
    follow path (leadingTo path value) = some value := by
  induction path with
  | nil => rfl
  | cons name rest ih =>
    have hmember : (Json.single name (leadingTo rest value)).get? name =
        some (leadingTo rest value) := if_pos rfl
    rw [leadingTo, follow, hmember]
    exact ih

/-- A path that does not end on the way leads nowhere, as the value has no members. -/
theorem follow_leadingTo_of_not_isPrefix {path other : List String} {value : Json}
    (hvalue : value.entries? = none) (h : ¬ other <+: path) :
    follow other (leadingTo path value) = none := by
  induction other generalizing path with
  | nil => exact absurd List.nil_prefix h
  | cons name rest ih =>
    cases path with
    | nil =>
      rw [leadingTo, follow, Json.get?, hvalue]
      rfl
    | cons key path =>
      have hmember : (Json.single key (leadingTo path value)).get? name =
          if key = name then some (leadingTo path value) else none := rfl
      rw [leadingTo, follow, hmember]
      by_cases hkey : key = name
      · rw [if_pos hkey]
        exact ih fun hrest => h (List.cons_prefix_cons.mpr ⟨hkey.symm, hrest⟩)
      · rw [if_neg hkey]
        rfl

theorem hasDistinctNames_leadingTo (path : List String) {value : Json}
    (hvalue : value.hasDistinctNames = true) : (leadingTo path value).hasDistinctNames = true := by
  induction path with
  | nil => exact hvalue
  | cons name rest ih =>
    refine Json.hasDistinctNames_object_iff.mpr ⟨List.nodup_singleton name, ?_⟩
    simpa using ih

end Settings

theorem Comparator.rel_of_settingAgrees {left right : Option Json}
    (h : SettingAgrees left right)
    (hleft : ∀ value, left = some value → value.hasDistinctNames = true)
    (hright : ∀ value, right = some value → value.hasDistinctNames = true) :
    Option.Rel Same left right := by
  rcases h with ⟨rfl, rfl⟩ | ⟨value, other, rfl, rfl, hequivalent⟩
  · exact .none
  · exact .some ((Json.equivalent_iff_same (hleft value rfl) (hright other rfl)).mp hequivalent)

namespace Comparator

/-- Whether a path to, or above, the place that something on this path is moved to is managed, if
there is such a place. -/
def Watches (comparator : Comparator) (path : List String) : Prop :=
  ∀ moved ∈ Settings.moved? path, ∃ managed ∈ comparator.managed, managed <+: moved

instance (comparator : Comparator) (path : List String) : Decidable (comparator.Watches path) :=
  decidable_of_iff
    (((Settings.moved? path).all fun moved =>
      decide (∃ managed ∈ comparator.managed, managed <+: moved)) = true)
    (by simp [Watches, Option.all_eq_true])

theorem hasChanges_eq_false_iff {comparator : Comparator} {desired actual : IndexConfiguration}
    (hdesired : desired.WellFormed) (hactual : actual.WellFormed) :
    comparator.hasChanges desired actual = false ↔ comparator.Agrees desired actual := by
  rw [← differences_eq_nil_iff hdesired hactual, hasChanges, Bool.not_eq_false',
    List.isEmpty_iff]

/-- Without changes the settings say the same at each managed path that is watched. -/
theorem Agrees.rel_lookup {comparator : Comparator} {desired actual : IndexConfiguration}
    (h : comparator.Agrees desired actual) (hdesired : desired.WellFormed)
    (hactual : actual.WellFormed) (hdesiredTop : desired.settings.get? "analysis" = none)
    (hactualTop : actual.settings.get? "analysis" = none) {path : List String} (hpath : path ≠ [])
    (hmanaged : path ∈ comparator.managed) (hwatches : comparator.Watches path) :
    Option.Rel Same (Settings.lookup desired.settings path)
      (Settings.lookup actual.settings path) := by
  have hrel : ∀ managed ∈ comparator.managed,
      Option.Rel Same (Settings.lookup (Settings.normalize desired.settings) managed)
        (Settings.lookup (Settings.normalize actual.settings) managed) :=
    fun managed hmem => rel_of_settingAgrees (h.settings managed hmem)
      (fun _ => Settings.hasDistinctNames_of_lookup_normalize hdesired.settings)
      (fun _ => Settings.hasDistinctNames_of_lookup_normalize hactual.settings)
  refine Settings.rel_lookup_of_normalize hdesired.settings hactual.settings hdesiredTop hactualTop
    hpath (hrel path hmanaged) fun moved hmoved => ?_
  obtain ⟨managed, hmem, below, rfl⟩ := hwatches moved hmoved
  rw [Settings.lookup_append, Settings.lookup_append]
  exact rel_bind (hrel managed hmem) fun _ _ hsame => hsame.follow below

/-- A configuration with a single analysis setting, under `index`. -/
def onlyAnalysis (rest : List String) (value : Json) : IndexConfiguration where
  name := "posts"
  settings := [("index", .single "analysis" (Settings.leadingTo rest value))]

theorem wellFormed_onlyAnalysis (rest : List String) {value : Json}
    (hvalue : value.hasDistinctNames = true) : (onlyAnalysis rest value).WellFormed where
  mapping := rfl
  settings := Settings.hasDistinctNames_leadingTo ("index" :: "analysis" :: rest) hvalue

theorem normalize_onlyAnalysis (rest : List String) (value : Json) :
    Settings.normalize (onlyAnalysis rest value).settings =
      [("index", .object []), ("analysis", Settings.leadingTo rest value)] := rfl

/-- Nothing of a single analysis setting is left but an empty `index`, except on the way to the
place that it is moved to. -/
theorem lookup_normalize_onlyAnalysis {rest path : List String} {value : Json}
    (hvalue : value.entries? = none) (hpath : path ≠ []) (h : ¬ path <+: "analysis" :: rest) :
    Settings.lookup (Settings.normalize (onlyAnalysis rest value).settings) path =
      if path = ["index"] then some (.object []) else none := by
  rw [normalize_onlyAnalysis]
  match path with
  | name :: below =>
    by_cases hanalysis : name = "analysis"
    · subst hanalysis
      have hbelow : ¬ below <+: rest := fun hprefix =>
        h (List.cons_prefix_cons.mpr ⟨rfl, hprefix⟩)
      exact Settings.follow_leadingTo_of_not_isPrefix hvalue hbelow
    · by_cases hindex : name = "index"
      · subst hindex
        cases below <;> rfl
      · have hnone : Entries.get? [("index", .object []),
            ("analysis", Settings.leadingTo rest value)] name = none := by
          simp [Entries.get?, Ne.symm hanalysis, Ne.symm hindex]
        rw [Settings.lookup_cons, hnone, if_neg (by simp [hindex])]
        rfl

/-- If nothing on the way to the new place of an analysis setting is managed, its value makes no
difference. -/
theorem hasChanges_onlyAnalysis {comparator : Comparator} {rest : List String} {value other : Json}
    (hmanaged : ∀ path ∈ comparator.managed, path ≠ [] ∧ ¬ path <+: "analysis" :: rest)
    (hvalue : value.entries? = none) (hother : other.entries? = none)
    (hvalueNames : value.hasDistinctNames = true) (hotherNames : other.hasDistinctNames = true) :
    comparator.hasChanges (onlyAnalysis rest value) (onlyAnalysis rest other) = false := by
  refine (hasChanges_eq_false_iff (wellFormed_onlyAnalysis rest hvalueNames)
    (wellFormed_onlyAnalysis rest hotherNames)).mpr ⟨rfl, fun path hpath => ?_⟩
  obtain ⟨hne, hprefix⟩ := hmanaged path hpath
  rw [lookup_normalize_onlyAnalysis hvalue hne hprefix,
    lookup_normalize_onlyAnalysis hother hne hprefix]
  split
  · exact Or.inr ⟨_, _, rfl, rfl, rfl⟩
  · exact Or.inl ⟨rfl, rfl⟩

theorem lookup_onlyAnalysis (rest : List String) (value : Json) :
    Settings.lookup (onlyAnalysis rest value).settings ("index" :: "analysis" :: rest) =
      some value :=
  Settings.follow_leadingTo ("index" :: "analysis" :: rest) value

/-- Two values of an analysis setting differ as they are declared, at the setting itself and at
`index`. -/
theorem not_settingAgrees_onlyAnalysis {path rest : List String}
    (hmoved : Settings.moved? path = some ("analysis" :: rest)) :
    ¬ SettingAgrees (Settings.lookup (onlyAnalysis rest (.bool true)).settings path)
      (Settings.lookup (onlyAnalysis rest (.bool false)).settings path) := by
  rcases Settings.moved?_eq_some_iff.mp hmoved with ⟨rfl, hsame⟩ | ⟨below, rfl, hsame⟩
  · obtain rfl : rest = [] := (List.cons.inj hsame).2
    rintro (⟨habsent, -⟩ | ⟨_, _, ⟨⟩, ⟨⟩, hequivalent⟩)
    · cases habsent
    · exact absurd hequivalent (by decide)
  · obtain rfl : rest = below := (List.cons.inj hsame).2
    rw [lookup_onlyAnalysis, lookup_onlyAnalysis]
    rintro (⟨habsent, -⟩ | ⟨_, _, ⟨⟩, ⟨⟩, hequivalent⟩)
    · cases habsent
    · exact absurd hequivalent (by decide)

/-- A managed path notices every difference between the settings of two configurations with equal
mappings and no analysis settings at the top, exactly if it is watched. -/
theorem watches_iff_differences_noticed (paths : List String) (path : String)
    (hpath : path ∈ paths) :
    (ofPaths paths).Watches (Text.split '.' path) ↔
      ∀ desired actual : IndexConfiguration, desired.WellFormed → actual.WellFormed →
        desired.mapping = actual.mapping → desired.settings.get? "analysis" = none →
        actual.settings.get? "analysis" = none →
        ¬ SettingAgrees (Settings.lookup desired.settings (Text.split '.' path))
          (Settings.lookup actual.settings (Text.split '.' path)) →
        (ofPaths paths).hasChanges desired actual = true := by
  have hmanaged : Text.split '.' path ∈ (ofPaths paths).managed := List.mem_map_of_mem hpath
  constructor
  · intro hwatches desired actual hdesired hactual _ hdesiredTop hactualTop hdiffers
    by_contra hchanges
    have hagrees := (hasChanges_eq_false_iff hdesired hactual).mp (Bool.eq_false_iff.mpr hchanges)
    have hrel := hagrees.rel_lookup hdesired hactual hdesiredTop hactualTop
      (ne_nil_of_mem_managed hmanaged) hmanaged hwatches
    exact hdiffers (settingAgrees_of_rel hrel
      (fun _ => Settings.hasDistinctNames_of_follow hdesired.settings)
      (fun _ => Settings.hasDistinctNames_of_follow hactual.settings))
  · intro hnoticed moved hmoved
    obtain ⟨rest, rfl⟩ : ∃ rest, moved = "analysis" :: rest := by
      rcases Settings.moved?_eq_some_iff.mp hmoved with ⟨-, rfl⟩ | ⟨rest, -, rfl⟩
      · exact ⟨[], rfl⟩
      · exact ⟨rest, rfl⟩
    by_contra hunmanaged
    have hnone : ∀ managed ∈ (ofPaths paths).managed,
        managed ≠ [] ∧ ¬ managed <+: "analysis" :: rest :=
      fun managed hmem => ⟨ne_nil_of_mem_managed hmem, fun hprefix =>
        hunmanaged ⟨managed, hmem, hprefix⟩⟩
    have hchanges := hnoticed (onlyAnalysis rest (.bool true)) (onlyAnalysis rest (.bool false))
      (wellFormed_onlyAnalysis rest rfl) (wellFormed_onlyAnalysis rest rfl) rfl rfl rfl
      (not_settingAgrees_onlyAnalysis hmoved)
    rw [hasChanges_onlyAnalysis hnone rfl rfl rfl rfl] at hchanges
    cases hchanges

def withStopWords (words : List String) : IndexConfiguration where
  name := "posts"
  mapping := [("id", .single "type" (.string "keyword"))]
  settings := [("index", .object [("analysis", .single "filter" (.strings words)),
    ("max_ngram_diff", .string "2")])]

theorem wellFormed_withStopWords :
    (withStopWords ["a"]).WellFormed ∧ (withStopWords ["b"]).WellFormed :=
  ⟨⟨by decide, by decide⟩, ⟨by decide, by decide⟩⟩

theorem not_settingAgrees_withStopWords :
    ∀ path ∈ [["index"], ["index", "analysis"], ["index", "analysis", "filter"]],
      ¬ SettingAgrees (Settings.lookup (withStopWords ["a"]).settings path)
        (Settings.lookup (withStopWords ["b"]).settings path) := by
  intro path hpath hagrees
  simp only [List.mem_cons, List.not_mem_nil, or_false] at hpath
  rcases hpath with rfl | rfl | rfl
  all_goals
    rcases hagrees with ⟨habsent, -⟩ | ⟨_, _, ⟨⟩, ⟨⟩, hequivalent⟩
    · cases habsent
    · exact absurd hequivalent (by decide)

/-- Together with `analysis`, a path to the stop words under `index` notices other stop words. -/
theorem differences_noticed_withStopWords :
    (ofPaths ["index.analysis.filter", "analysis"]).Watches
        (Text.split '.' "index.analysis.filter") ∧
      ¬ SettingAgrees
        (Settings.lookup (withStopWords ["a"]).settings ["index", "analysis", "filter"])
        (Settings.lookup (withStopWords ["b"]).settings ["index", "analysis", "filter"]) ∧
      (ofPaths ["index.analysis.filter", "analysis"]).hasChanges (withStopWords ["a"])
        (withStopWords ["b"]) = true := by
  have hwatches : (ofPaths ["index.analysis.filter", "analysis"]).Watches
      (Text.split '.' "index.analysis.filter") := by decide
  have hdiffers := not_settingAgrees_withStopWords ["index", "analysis", "filter"] (by decide)
  refine ⟨hwatches, hdiffers, ?_⟩
  exact (watches_iff_differences_noticed ["index.analysis.filter", "analysis"]
    "index.analysis.filter" (by decide)).mp hwatches _ _ wellFormed_withStopWords.1
    wellFormed_withStopWords.2 rfl rfl rfl hdiffers

/-- By itself no managed path at or above the stop words under `index` notices other stop words. -/
theorem hasChanges_overlooks_stopWords :
    (withStopWords ["a"]).WellFormed ∧ (withStopWords ["b"]).WellFormed ∧
      (withStopWords ["a"]).mapping = (withStopWords ["b"]).mapping ∧
      (withStopWords ["a"]).settings.get? "analysis" = none ∧
      (withStopWords ["b"]).settings.get? "analysis" = none ∧
      ∀ path ∈ ["index", "index.analysis", "index.analysis.filter"],
        ¬ SettingAgrees (Settings.lookup (withStopWords ["a"]).settings (Text.split '.' path))
            (Settings.lookup (withStopWords ["b"]).settings (Text.split '.' path)) ∧
          (ofPaths [path]).hasChanges (withStopWords ["a"]) (withStopWords ["b"]) = false := by
  refine ⟨wellFormed_withStopWords.1, wellFormed_withStopWords.2, rfl, rfl, rfl, ?_⟩
  intro path hpath
  simp only [List.mem_cons, List.not_mem_nil, or_false] at hpath
  rcases hpath with rfl | rfl | rfl
  · exact ⟨not_settingAgrees_withStopWords ["index"] (by decide), by decide⟩
  · exact ⟨not_settingAgrees_withStopWords ["index", "analysis"] (by decide), by decide⟩
  · exact ⟨not_settingAgrees_withStopWords ["index", "analysis", "filter"] (by decide), by decide⟩

/-- The default paths notice everything. -/
example : ∀ path ∈ Comparator.default.managed, Comparator.default.Watches path := by decide

end Comparator

end DocumentSearch
