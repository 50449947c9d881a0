import DocumentSearch.Proofs.DifferenceReport

/-!
Settings that are not managed have no influence on the report. An edit at some path changes only
what related paths lead to. Normalizing makes a managed path into the analysis settings lead to
what stands under `index`, so an edit there counts as well; no other edit reaches a managed
setting, although it may reorder the members of `index`.
-/

namespace DocumentSearch

/-- One path continues the other. -/
def Related (path other : List String) : Prop := path <+: other ∨ other <+: path

instance (path other : List String) : Decidable (Related path other) :=
  inferInstanceAs (Decidable (_ ∨ _))

theorem nil_related (other : List String) : Related [] other := Or.inl List.nil_prefix

theorem related_nil (path : List String) : Related path [] := Or.inr List.nil_prefix

theorem related_cons_iff {name other : String} {rest others : List String} :
    Related (name :: rest) (other :: others) ↔ name = other ∧ Related rest others := by
  unfold Related
  rw [List.cons_prefix_cons, List.cons_prefix_cons, eq_comm (a := other), ← and_or_left]

namespace Settings

/-- A change of one member. A value that is set replaces the old one or is added at the end; a
member that is removed leaves no gap, or one that the last member fills. -/
inductive Edit where
  | set (value : Json)
  | erase
  | swapRemove

def Edit.apply (entries : Entries Json) (name : String) : Edit → Entries Json
  | .set value => entries.put name value
  | .erase => entries.erase name
  | .swapRemove => entries.swapRemove name

/-- Settings as a whole can only be replaced, and only by an object. -/
def Edit.applyToAll (settings : Entries Json) : Edit → Entries Json
  | .set (.object others) => others
  | _ => settings

/-- The settings after an edit at the end of a path. If an object is missing on the way there, the
settings stay as they are. -/
def edited (edit : Edit) : List String → Entries Json → Entries Json
  | [], settings => edit.applyToAll settings
  | [name], settings => edit.apply settings name
  | name :: next :: rest, settings =>
      match settings.get? name with
      | some (.object inner) => settings.put name (.object (edited edit (next :: rest) inner))
      | _ => settings

variable {settings : Entries Json} {path other : List String} (edit : Edit)

theorem Edit.get?_apply_of_ne {entries : Entries Json} {name key : String}
    (hnames : entries.names.Nodup) (h : key ≠ name) :
    (edit.apply entries name).get? key = entries.get? key := by
  cases edit with
  | set value => exact Entries.get?_put_of_ne entries value h
  | erase => exact Entries.get?_erase_of_ne entries h
  | swapRemove => exact Entries.get?_swapRemove_of_ne hnames h

theorem Edit.nodup_names_apply {entries : Entries Json} (hnames : entries.names.Nodup)
    (name : String) : (edit.apply entries name).names.Nodup := by
  cases edit with
  | set value => exact Entries.nodup_names_put hnames name value
  | erase => exact Entries.nodup_names_erase hnames name
  | swapRemove =>
    have hperm := Entries.swapRemove_perm_erase hnames name
    exact (Entries.names_perm hperm).symm.nodup (Entries.nodup_names_erase hnames name)

/-- An edit of settings that are not replaced as a whole leaves no name twice. -/
theorem nodup_names_edited (hpath : path ≠ []) (hnames : settings.names.Nodup) :
    (edited edit path settings).names.Nodup := by
  match path with
  | [name] => exact Edit.nodup_names_apply edit hnames name
  | name :: next :: rest =>
    rw [edited]
    split
    · exact Entries.nodup_names_put hnames name _
    · exact hnames

/-- On the way to an unrelated path an edit is not noticed, or it is an edit of the next object at
a path that is unrelated to the rest of the way. -/
theorem get?_edited {name : String} {rest : List String} (hnames : settings.names.Nodup)
    (h : ¬ Related path (name :: rest)) :
    (edited edit path settings).get? name = settings.get? name ∨
      ∃ below inner, ¬ Related below rest ∧ settings.get? name = some (.object inner) ∧
        (edited edit path settings).get? name = some (.object (edited edit below inner)) := by
  match path with
  | [] => exact absurd (nil_related (name :: rest)) h
  | [key] =>
    have hkey : name ≠ key := fun heq => h (related_cons_iff.mpr ⟨heq.symm, nil_related rest⟩)
    exact Or.inl (Edit.get?_apply_of_ne edit hnames hkey)
  | key :: next :: below =>
    rw [edited]
    split
    case h_1 inner hinner =>
      by_cases hkey : name = key
      · subst hkey
        have hbelow : ¬ Related (next :: below) rest := fun hrest =>
          h (related_cons_iff.mpr ⟨rfl, hrest⟩)
        exact Or.inr ⟨next :: below, inner, hbelow, hinner, Entries.get?_put_self settings name _⟩
      · exact Or.inl (Entries.get?_put_of_ne settings _ hkey)
    case h_2 => exact Or.inl rfl

/-- An edit does not change what unrelated paths lead to. -/
theorem lookup_edited (hsettings : (Json.object settings).hasDistinctNames = true)
    (h : ¬ Related path other) :
    lookup (edited edit path settings) other = lookup settings other := by
  induction other generalizing path settings with
  | nil => exact absurd (related_nil path) h
  | cons name rest ih =>
    have hnames := Json.nodup_names hsettings
    rw [lookup_cons, lookup_cons]
    rcases get?_edited edit hnames h with hsame | ⟨below, inner, hbelow, hold, hnew⟩
    · rw [hsame]
    · rw [hold, hnew]
      exact ih (Json.hasDistinctNames_of_get? hsettings hold) hbelow

/-- Whether a name is there depends on edits at that name only. -/
theorem isSome_get?_edited {name : String} {rest : List String} (hnames : settings.names.Nodup)
    (h : ¬ Related path (name :: rest)) :
    ((edited edit path settings).get? name).isSome = (settings.get? name).isSome := by
  rcases get?_edited edit hnames h with hsame | ⟨below, inner, -, hold, hnew⟩
  · rw [hsame]
  · rw [hold, hnew]
    rfl

/-- The members of an object keep distinct names if the edit does not replace the object. -/
theorem nodup_names_of_get?_edited {name : String} {rest : List String} {entries : Entries Json}
    (hsettings : (Json.object settings).hasDistinctNames = true)
    (h : ¬ Related path (name :: rest))
    (hentries : (edited edit path settings).get? name = some (.object entries)) :
    entries.names.Nodup := by
  have hnames := Json.nodup_names hsettings
  rcases get?_edited edit hnames h with hsame | ⟨below, inner, hbelow, hold, hnew⟩
  · rw [hsame] at hentries
    exact Json.nodup_names_of_get? hsettings hentries
  · obtain rfl : edited edit below inner = entries :=
      Json.object.inj (Option.some.inj (hnew.symm.trans hentries))
    have hpath : below ≠ [] := fun heq => hbelow (heq ▸ nil_related rest)
    exact nodup_names_edited edit hpath (Json.nodup_names_of_get? hsettings hold)

/-- Where else the settings may have what a path leads to when they are normalized: analysis
settings may stand under `index`. -/
def origin? (path : List String) : Option (List String) :=
  if path.head? = some "analysis" then some ("index" :: path) else none

theorem lookup_normalize_edited_analysis {rest : List String}
    (hsettings : (Json.object settings).hasDistinctNames = true)
    (h : ¬ Related path ("analysis" :: rest))
    (horigin : ¬ Related path ("index" :: "analysis" :: rest)) :
    lookup (normalize (edited edit path settings)) ("analysis" :: rest) =
      lookup (normalize settings) ("analysis" :: rest) := by
  have htop := lookup_edited edit hsettings h
  have hindex := lookup_edited edit hsettings horigin
  have hthere := isSome_get?_edited edit (Json.nodup_names hsettings) h
  -- The same of the two places decides before and after the edit.
  rw [lookup_normalize_analysis, lookup_normalize_analysis]
  cases hold : settings.get? "analysis" with
  | some analysis =>
    rw [hold, Option.isSome_some, Option.isSome_iff_exists] at hthere
    obtain ⟨new, hnew⟩ := hthere
    rw [lookup_cons, lookup_cons, hold, hnew] at htop
    rw [hnew, Option.some_or, Option.some_or, htop]
  | none =>
    rw [hold, Option.isSome_none, Option.isSome_eq_false_iff, Option.isNone_iff_eq_none] at hthere
    rw [hthere, Option.none_or, Option.none_or, indexAnalysis, indexAnalysis, Option.bind_assoc,
      Option.bind_assoc]
    exact hindex

/-- An edit away from a path and from its origin does not change what the path leads to after
normalizing. -/
theorem lookup_normalize_edited (hsettings : (Json.object settings).hasDistinctNames = true)
    (h : ¬ Related path other) (horigin : ∀ origin ∈ origin? other, ¬ Related path origin) :
    lookup (normalize (edited edit path settings)) other = lookup (normalize settings) other := by
  cases other with
  | nil => exact absurd (related_nil path) h
  | cons name rest =>
    by_cases hanalysis : name = "analysis"
    · subst hanalysis
      exact lookup_normalize_edited_analysis edit hsettings h (horigin _ (by simp [origin?]))
    by_cases hindex : name = "index"
    · subst hindex
      cases rest with
      | nil =>
        have hsame := lookup_edited edit hsettings h
        rw [lookup_singleton, lookup_singleton] at hsame
        rw [lookup_singleton, lookup_singleton, get?_normalize_index, get?_normalize_index, hsame]
      | cons key rest =>
        rw [lookup_normalize_index key rest fun _ => nodup_names_of_get?_edited edit hsettings h,
          lookup_normalize_index key rest fun _ => Json.nodup_names_of_get? hsettings,
          lookup_edited edit hsettings h]
    · rw [lookup_normalize_of_ne _ rest hanalysis hindex, lookup_edited edit hsettings h,
        lookup_normalize_of_ne _ rest hanalysis hindex]

end Settings

def IndexConfiguration.edited (index : IndexConfiguration) (edit : Settings.Edit)
    (path : List String) : IndexConfiguration :=
  { index with settings := Settings.edited edit path index.settings }

namespace Comparator

/-- The paths of the settings that may have a managed setting: the managed ones, and their
origins. -/
def origins (comparator : Comparator) : List (List String) :=
  comparator.managed ++ comparator.managed.filterMap Settings.origin?

/-- Whether a path leads to, above or below something that may be a managed setting. -/
def Concerns (comparator : Comparator) (path : List String) : Prop :=
  ∃ managed ∈ comparator.origins, Related path managed

instance (comparator : Comparator) (path : List String) : Decidable (comparator.Concerns path) :=
  inferInstanceAs (Decidable (∃ managed ∈ comparator.origins, Related path managed))

variable {comparator : Comparator} {path : List String}

theorem lookup_normalize_edited_of_unconcerned {settings : Entries Json} (edit : Settings.Edit)
    (hsettings : (Json.object settings).hasDistinctNames = true)
    (hpath : ¬ comparator.Concerns path) :
    ∀ managed ∈ comparator.managed,
      Settings.lookup (Settings.normalize (Settings.edited edit path settings)) managed =
        Settings.lookup (Settings.normalize settings) managed := by
  intro managed hmanaged
  have hown : ¬ Related path managed := fun hrelated =>
    hpath ⟨managed, List.mem_append_left _ hmanaged, hrelated⟩
  have horigin : ∀ origin ∈ Settings.origin? managed, ¬ Related path origin :=
    fun origin hmem hrelated => hpath ⟨origin,
      List.mem_append_right _ (List.mem_filterMap.mpr ⟨managed, hmanaged, hmem⟩), hrelated⟩
  exact Settings.lookup_normalize_edited edit hsettings hown horigin

/-- The report reads nothing of the settings but what the managed paths lead to. -/
theorem differences_congr {desired actual desired' actual' : IndexConfiguration}
    (hdesired : desired'.mapping = desired.mapping) (hactual : actual'.mapping = actual.mapping)
    (hsettings : ∀ managed ∈ comparator.managed,
      Settings.lookup (Settings.normalize desired'.settings) managed =
          Settings.lookup (Settings.normalize desired.settings) managed ∧
        Settings.lookup (Settings.normalize actual'.settings) managed =
          Settings.lookup (Settings.normalize actual.settings) managed) :
    comparator.differences desired' actual' = comparator.differences desired actual := by
  have hbelow : ∀ managed ∈ comparator.managed,
      settingDifferences (Settings.normalize desired'.settings)
          (Settings.normalize actual'.settings) managed =
        settingDifferences (Settings.normalize desired.settings)
          (Settings.normalize actual.settings) managed := by
    intro managed hmanaged
    obtain ⟨hleft, hright⟩ := hsettings managed hmanaged
    rw [settingDifferences, settingDifferences, hleft, hright]
  rw [differences, differences, hdesired, hactual, List.flatMap_congr hbelow]

/-- An edit of either side that does not concern the comparator leaves the report as it was,
difference by difference and in the same order. -/
theorem differences_edited_of_unconcerned (comparator : Comparator)
    (desired actual : IndexConfiguration) (path : List String) (edit : Settings.Edit)
    (hdesired : desired.WellFormed) (hactual : actual.WellFormed)
    (hpath : ¬ comparator.Concerns path) :
    comparator.differences (desired.edited edit path) actual =
        comparator.differences desired actual ∧
      comparator.differences desired (actual.edited edit path) =
        comparator.differences desired actual := by
  constructor
  · exact differences_congr rfl rfl fun managed hmanaged =>
      ⟨lookup_normalize_edited_of_unconcerned edit hdesired.settings hpath managed hmanaged, rfl⟩
  · exact differences_congr rfl rfl fun managed hmanaged =>
      ⟨rfl, lookup_normalize_edited_of_unconcerned edit hactual.settings hpath managed hmanaged⟩

/-- A setting of the backend's own, added on either side. On the one it follows the analysis
settings, whose place it takes when they are normalized. -/
theorem differences_edited_postsReport :
    declaredPosts.WellFormed ∧ reportedPosts.WellFormed ∧
      ¬ Comparator.default.Concerns ["index", "uuid"] ∧
      (declaredPosts.edited (.set (.string "u")) ["index", "uuid"]).settings =
        [("index", .object [("max_ngram_diff", .string "2"),
          ("analysis", .single "filter" (.single "stop" (.strings ["a", "b"]))),
          ("uuid", .string "u")])] ∧
      Comparator.default.differences
        (declaredPosts.edited (.set (.string "u")) ["index", "uuid"]) reportedPosts = postsReport ∧
      Comparator.default.differences declaredPosts
        (reportedPosts.edited (.set (.string "u")) ["index", "uuid"]) = postsReport := by
  have hdesired : declaredPosts.WellFormed := ⟨by decide, by decide⟩
  have hactual : reportedPosts.WellFormed := ⟨by decide, by decide⟩
  have hpath : ¬ Comparator.default.Concerns ["index", "uuid"] := by decide
  have hreport : Comparator.default.differences declaredPosts reportedPosts = postsReport := by
    decide
  obtain ⟨hleft, hright⟩ := differences_edited_of_unconcerned .default declaredPosts reportedPosts
    ["index", "uuid"] (.set (.string "u")) hdesired hactual hpath
  exact ⟨hdesired, hactual, hpath, rfl, hleft.trans hreport, hright.trans hreport⟩

/-- No managed path leads into `index.analysis`, but its value is managed as `analysis`. -/
example : Comparator.default.Concerns ["index", "analysis"] ∧
    Comparator.default.differences (declaredPosts.edited .erase ["index", "analysis"])
      reportedPosts ≠ postsReport := by
  decide

end Comparator

end DocumentSearch
