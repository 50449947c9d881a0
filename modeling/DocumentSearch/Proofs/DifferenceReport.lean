import DocumentSearch.Proofs.Deviations
import DocumentSearch.Proofs.DottedPaths
import DocumentSearch.Proofs.NormalizedSettings
import DocumentSearch.Proofs.UpToDate

/-!
The report on two configurations is exact. It goes through the roots in order, the mapping first
and then the managed paths, and below each root it has the deviating places, each once. Where no
name has a dot in it and no managed path continues another, different places have different paths.
-/

namespace DocumentSearch

/-- What a configuration has at a root. -/
def IndexConfiguration.valueAt (index : IndexConfiguration) : Root → Option Json
  | .mapping => some (.object index.mapping)
  | .setting path => Settings.lookup (Settings.normalize index.settings) path

namespace IndexConfiguration.WellFormed

theorem valueAt {index : IndexConfiguration} (h : index.WellFormed) (root : Root) :
    NamesDistinct (index.valueAt root) := by
  intro value hvalue
  cases root with
  | mapping =>
    obtain rfl : Json.object index.mapping = value := Option.some.inj hvalue
    exact h.mapping
  | setting path => exact Settings.hasDistinctNames_of_lookup_normalize h.settings hvalue

end IndexConfiguration.WellFormed

namespace Comparator

def roots (comparator : Comparator) : List Root := .mapping :: comparator.managed.map .setting

/-- The part of the report that is about one root. -/
def reportBelow (desired actual : IndexConfiguration) (root : Root) : List Difference :=
  (lookupDeviations (desired.valueAt root) (actual.valueAt root)).map (Deviation.below root)

theorem differences_eq_flatMap (comparator : Comparator) (desired actual : IndexConfiguration) :
    comparator.differences desired actual =
      comparator.roots.flatMap (reportBelow desired actual) := by
  rw [roots, List.flatMap_cons, List.flatMap_map]
  rfl

section Report

variable {comparator : Comparator} {desired actual : IndexConfiguration} {root : Root}
  {difference : Difference}

theorem mem_reportBelow_iff (hdesired : desired.WellFormed) (hactual : actual.WellFormed) :
    difference ∈ reportBelow desired actual root ↔ difference.root = root ∧
      Deviates (desired.valueAt root) (actual.valueAt root) difference.keys difference.kind := by
  rw [← mem_lookupDeviations_iff (hdesired.valueAt root) (hactual.valueAt root), reportBelow,
    List.mem_map]
  constructor
  · rintro ⟨deviation, hmem, rfl⟩
    exact ⟨rfl, hmem⟩
  · rintro ⟨rfl, hmem⟩
    exact ⟨_, hmem, rfl⟩

theorem nodup_keys_reportBelow (hdesired : desired.WellFormed) (hactual : actual.WellFormed) :
    ((reportBelow desired actual root).map Difference.keys).Nodup := by
  rw [reportBelow, List.map_map]
  exact nodup_keys_lookupDeviations (hdesired.valueAt root) (hactual.valueAt root)

theorem mem_differences_iff (hdesired : desired.WellFormed) (hactual : actual.WellFormed) :
    difference ∈ comparator.differences desired actual ↔ difference.root ∈ comparator.roots ∧
      Deviates (desired.valueAt difference.root) (actual.valueAt difference.root)
        difference.keys difference.kind := by
  rw [differences_eq_flatMap, List.mem_flatMap]
  constructor
  · rintro ⟨root, hroot, hmem⟩
    obtain ⟨rfl, hdeviates⟩ := (mem_reportBelow_iff hdesired hactual).mp hmem
    exact ⟨hroot, hdeviates⟩
  · rintro ⟨hroot, hdeviates⟩
    exact ⟨_, hroot, (mem_reportBelow_iff hdesired hactual).mpr ⟨rfl, hdeviates⟩⟩

end Report

end Comparator

/-- No name in the mapping or in the settings has a dot in it. -/
structure IndexConfiguration.HasDotlessNames (index : IndexConfiguration) : Prop where
  mapping : (Json.object index.mapping).hasDotlessNames = true
  settings : (Json.object index.settings).hasDotlessNames = true

/-- The names whose path labels the root. -/
def Root.names : Root → List String
  | .mapping => ["mapping"]
  | .setting path => "settings" :: path

/-- Neither root continues the other. -/
def Root.Apart (root other : Root) : Prop :=
  ¬ root.names <+: other.names ∧ ¬ other.names <+: root.names

def Difference.names (difference : Difference) : List String :=
  difference.root.names ++ difference.keys

theorem Difference.names_ne_nil (difference : Difference) : difference.names ≠ [] := by
  obtain ⟨root, keys, kind⟩ := difference
  cases root <;> simp [names, Root.names]

theorem IndexConfiguration.WellFormed.dotless_names {index : IndexConfiguration}
    (hindex : index.WellFormed) (hdotless : index.HasDotlessNames)
    {root : Root} {keys : List String} {value : Json}
    (h : (index.valueAt root).bind (Settings.follow keys) = some value) :
    ∀ name ∈ root.names ++ keys, '.' ∉ name.toList := by
  cases root with
  | mapping =>
    exact List.forall_mem_cons.mpr ⟨by decide, Settings.dotless_of_follow hdotless.mapping h⟩
  | setting path =>
    rw [IndexConfiguration.valueAt, Settings.lookup, ← Settings.follow_append] at h
    exact List.forall_mem_cons.mpr ⟨by decide, Settings.dotless_of_follow
      (Settings.hasDotlessNames_normalize hindex.settings hdotless.settings) h⟩

theorem Deviates.exists_value {desired actual : Option Json} {keys : List String}
    {kind : DifferenceKind} (h : Deviates desired actual keys kind) :
    ∃ value, desired.bind (Settings.follow keys) = some value ∨
      actual.bind (Settings.follow keys) = some value := by
  have hdiffer := h.differ
  generalize desired.bind (Settings.follow keys) = left at hdiffer ⊢
  generalize actual.bind (Settings.follow keys) = right at hdiffer ⊢
  cases hdiffer with
  | missingRemotely value => exact ⟨value, Or.inl rfl⟩
  | onlyRemote value => exact ⟨value, Or.inr rfl⟩
  | changed => exact ⟨_, Or.inl rfl⟩

namespace Comparator

section Paths

variable {comparator : Comparator} {desired actual : IndexConfiguration}

theorem ne_nil_of_mem_managed {paths path : List String}
    (h : path ∈ (Comparator.ofPaths paths).managed) : path ≠ [] := by
  obtain ⟨text, -, rfl⟩ := List.mem_map.mp h
  exact Text.split_ne_nil text

/-- The path of a difference joins the names from its root on. -/
theorem path_eq_joinPath {paths : List String} {difference : Difference}
    (h : difference.root ∈ (Comparator.ofPaths paths).roots) :
    difference.path = joinPath difference.names := by
  obtain ⟨root, keys, kind⟩ := difference
  cases root with
  | mapping => rfl
  | setting path =>
    have hmem : path ∈ (Comparator.ofPaths paths).managed := by simpa [roots] using h
    have hpath : path ≠ [] := ne_nil_of_mem_managed hmem
    have hdot : "settings." = "settings" ++ "." := by decide
    have hlabel : (Root.setting path).label = joinPath ("settings" :: path) := by
      rw [Root.label, joinPath_cons hpath, hdot]
    rw [Difference.path, hlabel, joinPath_joinPath_cons (by simp)]
    rfl

theorem roots_pairwise_apart
    (h : comparator.managed.Pairwise fun path other => ¬ path <+: other ∧ ¬ other <+: path) :
    comparator.roots.Pairwise Root.Apart := by
  refine List.pairwise_cons.mpr ⟨?_, ?_⟩
  · rintro root hroot
    obtain ⟨path, -, rfl⟩ := List.mem_map.mp hroot
    simp [Root.Apart, Root.names]
  · refine List.pairwise_map.mpr (h.imp ?_)
    rintro path other ⟨hleft, hright⟩
    simpa [Root.Apart, Root.names] using And.intro hleft hright

/-- Different places have different names, as no root continues another. -/
theorem nodup_names_differences (hdesired : desired.WellFormed) (hactual : actual.WellFormed)
    (happart : comparator.roots.Pairwise Root.Apart) :
    ((comparator.differences desired actual).map Difference.names).Nodup := by
  have hbelow : ∀ root, (reportBelow desired actual root).map Difference.names =
      ((reportBelow desired actual root).map Difference.keys).map (root.names ++ ·) := by
    intro root
    simp only [reportBelow, List.map_map]
    rfl
  simp only [differences_eq_flatMap, List.map_flatMap, hbelow]
  rw [List.nodup_flatMap]
  constructor
  · intro root _
    exact (nodup_keys_reportBelow hdesired hactual).map (List.append_right_injective root.names)
  · refine happart.imp fun {root other} hroots => ?_
    intro names hleft hright
    obtain ⟨keys, -, rfl⟩ := List.mem_map.mp hleft
    obtain ⟨otherKeys, -, heq⟩ := List.mem_map.mp hright
    -- Both roots start the same list of names, so one of them would continue the other.
    have hprefix : other.names <+: root.names ++ keys := ⟨otherKeys, heq⟩
    rcases List.prefix_or_prefix_of_prefix (List.prefix_append root.names keys) hprefix with h | h
    · exact hroots.1 h
    · exact hroots.2 h

theorem nodup_paths_differences {paths : List String}
    (hdesired : desired.WellFormed) (hactual : actual.WellFormed)
    (happart : (Comparator.ofPaths paths).roots.Pairwise Root.Apart)
    (hdesiredNames : desired.HasDotlessNames) (hactualNames : actual.HasDotlessNames) :
    (((Comparator.ofPaths paths).differences desired actual).map Difference.path).Nodup := by
  have hnames : ∀ difference ∈ (Comparator.ofPaths paths).differences desired actual,
      difference.path = joinPath difference.names ∧
        ∀ name ∈ difference.names, '.' ∉ name.toList := by
    intro difference hmem
    obtain ⟨hroot, hdeviates⟩ := (mem_differences_iff hdesired hactual).mp hmem
    refine ⟨path_eq_joinPath hroot, ?_⟩
    obtain ⟨value, hleft | hright⟩ := hdeviates.exists_value
    · exact hdesired.dotless_names hdesiredNames hleft
    · exact hactual.dotless_names hactualNames hright
  have hpaths : ((Comparator.ofPaths paths).differences desired actual).map Difference.path =
      (((Comparator.ofPaths paths).differences desired actual).map Difference.names).map
        joinPath := by
    rw [List.map_map]
    exact List.map_congr_left fun difference hmem => (hnames difference hmem).1
  rw [hpaths]
  refine (nodup_names_differences hdesired hactual happart).map_on ?_
  intro names hmem others hmem' heq
  obtain ⟨difference, hdifference, rfl⟩ := List.mem_map.mp hmem
  obtain ⟨other, hother, rfl⟩ := List.mem_map.mp hmem'
  exact (joinPath_inj difference.names_ne_nil other.names_ne_nil (hnames _ hdifference).2
    (hnames _ hother).2).mp heq

/-- The report lists the deviating places of every root and nothing else. It goes root by root in
order and has each place of a root once. A path is the label of the root joined with the names
below it; the paths differ if no name has a dot in it and no managed path continues another. -/
theorem differences_exact (comparator : Comparator) (desired actual : IndexConfiguration)
    (hdesired : desired.WellFormed) (hactual : actual.WellFormed) :
    (∀ difference : Difference, difference ∈ comparator.differences desired actual ↔
        difference.root ∈ comparator.roots ∧
          Deviates (desired.valueAt difference.root) (actual.valueAt difference.root)
            difference.keys difference.kind) ∧
      comparator.differences desired actual =
        comparator.roots.flatMap (reportBelow desired actual) ∧
      (∀ root, (∀ difference ∈ reportBelow desired actual root, difference.root = root) ∧
        ((reportBelow desired actual root).map Difference.keys).Nodup) ∧
      (∀ keys kind, (Difference.mk .mapping keys kind).path = joinPath ("mapping" :: keys)) ∧
      (∀ path keys kind, (Difference.mk (.setting path) keys kind).path =
        joinPath (("settings." ++ joinPath path) :: keys)) ∧
      ∀ paths, comparator = .ofPaths paths →
        comparator.managed.Pairwise (fun path other => ¬ path <+: other ∧ ¬ other <+: path) →
        desired.HasDotlessNames → actual.HasDotlessNames →
        ((comparator.differences desired actual).map Difference.path).Nodup := by
  refine ⟨fun _ => mem_differences_iff hdesired hactual,
    differences_eq_flatMap comparator desired actual, fun root => ⟨?_, ?_⟩,
    fun _ _ => rfl, fun _ _ _ => rfl, ?_⟩
  · exact fun difference hmem => ((mem_reportBelow_iff hdesired hactual).mp hmem).1
  · exact nodup_keys_reportBelow hdesired hactual
  · rintro paths rfl hmanaged hdesiredNames hactualNames
    exact nodup_paths_differences hdesired hactual (roots_pairwise_apart hmanaged)
      hdesiredNames hactualNames

end Paths

def declaredPosts : IndexConfiguration where
  name := "posts"
  mapping := [("id", .object [("type", .string "integer"), ("fields", .object [])]),
    ("name", .single "type" (.string "keyword"))]
  settings := [("index", .object [("max_ngram_diff", .string "2"),
    ("analysis", .single "filter" (.single "stop" (.strings ["a", "b"])))])]

def reportedPosts : IndexConfiguration where
  name := "posts"
  mapping := [("slug", .single "type" (.string "keyword")),
    ("id", .object [("type", .string "keyword"), ("fields", .array [])])]
  settings := [("analysis", .single "filter" (.single "stop" (.strings ["b", "c"]))),
    ("index", .single "max_ngram_diff" (.natural 2)), ("tokenizer", .object [])]

def postsReport : List Difference := [
  ⟨.mapping, ["id", "type"], .changed⟩,
  ⟨.mapping, ["id", "fields"], .changed⟩,
  ⟨.mapping, ["name"], .missingRemotely⟩,
  ⟨.mapping, ["slug"], .onlyRemote⟩,
  ⟨.setting ["analysis"], ["filter", "stop"], .changed⟩,
  ⟨.setting ["tokenizer"], [], .onlyRemote⟩,
  ⟨.setting ["index", "max_ngram_diff"], [], .changed⟩]

/-- Differences of each kind at several depths of both roots, a change of shape among them. -/
theorem differences_exact_postsReport :
    declaredPosts.WellFormed ∧ reportedPosts.WellFormed ∧
      Comparator.default.differences declaredPosts reportedPosts = postsReport ∧
      (∀ difference : Difference, difference ∈ postsReport ↔
        difference.root ∈ Comparator.default.roots ∧
          Deviates (declaredPosts.valueAt difference.root) (reportedPosts.valueAt difference.root)
            difference.keys difference.kind) ∧
      (postsReport.map Difference.path).Nodup := by
  have hdesired : declaredPosts.WellFormed := ⟨by decide, by decide⟩
  have hactual : reportedPosts.WellFormed := ⟨by decide, by decide⟩
  have hreport : Comparator.default.differences declaredPosts reportedPosts = postsReport := by
    decide
  obtain ⟨hmem, -, -, -, -, hpaths⟩ :=
    differences_exact .default declaredPosts reportedPosts hdesired hactual
  rw [hreport] at hmem hpaths
  exact ⟨hdesired, hactual, hreport, hmem,
    hpaths defaultPaths rfl (by decide) ⟨by decide, by decide⟩ ⟨by decide, by decide⟩⟩

end Comparator

end DocumentSearch
