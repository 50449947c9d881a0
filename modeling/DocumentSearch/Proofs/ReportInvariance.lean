import DocumentSearch.Proofs.DifferenceReport
import DocumentSearch.Proofs.SameSettings

/-!
What the report does not depend on. Configurations that are equal up to order have the same
report up to order, and exchanging the two sides exchanges what is missing on one of them. Both
follow from what deviates where: two lists without repetitions that have the same members are
permutations of each other.
-/

namespace DocumentSearch

open Json (Same)
open Settings (follow)

theorem Json.BothObjects.of_same {a a' b b' : Json} (h : Same a a') (h' : Same b b')
    (hobjects : a'.BothObjects b') : a.BothObjects b := by
  obtain ⟨entries, others, rfl, rfl⟩ := hobjects
  cases h with
  | object => cases h' with
    | object => exact ⟨_, _, rfl, rfl⟩

theorem NamesDistinct.bind_follow {value : Option Json} (h : NamesDistinct value)
    (keys : List String) : NamesDistinct (value.bind (follow keys)) := by
  intro found hfound
  obtain ⟨top, htop, hfollow⟩ := Option.bind_eq_some_iff.mp hfound
  exact Settings.hasDistinctNames_of_follow (h top htop) hfollow

section Same

variable {desired desired' actual actual' : Option Json} {keys : List String}
  {kind : DifferenceKind}

theorem DifferenceKind.Describes.of_same (h : kind.Describes desired actual)
    (hdesired : Option.Rel Same desired desired') (hactual : Option.Rel Same actual actual')
    (hnames : NamesDistinct desired) (hnames' : NamesDistinct desired')
    (hothers : NamesDistinct actual) (hothers' : NamesDistinct actual') :
    kind.Describes desired' actual' := by
  cases h with
  | missingRemotely value =>
    cases hdesired
    cases hactual
    exact .missingRemotely _
  | onlyRemote value =>
    cases hdesired
    cases hactual
    exact .onlyRemote _
  | @changed value other hobjects h =>
    rcases hdesired with @⟨_, value', hvalue⟩
    rcases hactual with @⟨_, other', hother⟩
    refine .changed (fun hboth => hobjects (hboth.of_same hvalue hother)) ?_
    rw [← Bool.not_eq_true, Json.equivalent_iff_same (hnames _ rfl) (hothers _ rfl)] at h
    rw [← Bool.not_eq_true, Json.equivalent_iff_same (hnames' _ rfl) (hothers' _ rfl)]
    exact fun hsame => h ((hvalue.trans hsame).trans hother.symm)

theorem exists_object_of_same {entries : Entries Json} {other : Option Json}
    (h : Option.Rel Same (some (.object entries)) other) :
    ∃ others : Entries Json, other = some (.object others) := by
  rcases h with @⟨_, value, _ | _ | _ | _ | _ | _⟩
  exact ⟨_, rfl⟩

theorem rel_bind_follow (h : Option.Rel Same desired desired') (keys : List String) :
    Option.Rel Same (desired.bind (follow keys)) (desired'.bind (follow keys)) :=
  rel_bind h fun _ _ hsame => hsame.follow keys

theorem Deviates.of_same (h : Deviates desired actual keys kind)
    (hdesired : Option.Rel Same desired desired') (hactual : Option.Rel Same actual actual')
    (hnames : NamesDistinct desired) (hnames' : NamesDistinct desired')
    (hothers : NamesDistinct actual) (hothers' : NamesDistinct actual') :
    Deviates desired' actual' keys kind where
  above front hfront hne := by
    obtain ⟨entries, others, hleft, hright⟩ := h.above front hfront hne
    have hleft' := rel_bind_follow hdesired front
    have hright' := rel_bind_follow hactual front
    rw [hleft] at hleft'
    rw [hright] at hright'
    obtain ⟨entries', hentries⟩ := exists_object_of_same hleft'
    obtain ⟨others', hothers⟩ := exists_object_of_same hright'
    exact ⟨entries', others', hentries, hothers⟩
  differ := h.differ.of_same (rel_bind_follow hdesired keys) (rel_bind_follow hactual keys)
    (hnames.bind_follow keys) (hnames'.bind_follow keys)
    (hothers.bind_follow keys) (hothers'.bind_follow keys)

theorem deviates_iff_of_same (hdesired : Option.Rel Same desired desired')
    (hactual : Option.Rel Same actual actual')
    (hnames : NamesDistinct desired) (hnames' : NamesDistinct desired')
    (hothers : NamesDistinct actual) (hothers' : NamesDistinct actual') :
    Deviates desired actual keys kind ↔ Deviates desired' actual' keys kind :=
  ⟨fun h => h.of_same hdesired hactual hnames hnames' hothers hothers',
    fun h => h.of_same (Same.rel_symm hdesired) (Same.rel_symm hactual)
      hnames' hnames hothers' hothers⟩

end Same

section Exchange

variable {desired actual : Option Json} {keys : List String} {kind : DifferenceKind}

/-- The kind as seen from the other side. -/
def DifferenceKind.mirrored : DifferenceKind → DifferenceKind
  | .missingRemotely => .onlyRemote
  | .onlyRemote => .missingRemotely
  | .changed => .changed

theorem DifferenceKind.mirrored_mirrored (kind : DifferenceKind) :
    kind.mirrored.mirrored = kind := by
  cases kind <;> rfl

theorem DifferenceKind.Describes.mirrored (h : kind.Describes desired actual)
    (hnames : NamesDistinct desired) (hothers : NamesDistinct actual) :
    kind.mirrored.Describes actual desired := by
  cases h with
  | missingRemotely value => exact .onlyRemote value
  | onlyRemote value => exact .missingRemotely value
  | @changed value other hobjects h =>
    refine .changed (fun ⟨entries, others, hleft, hright⟩ =>
      hobjects ⟨others, entries, hright, hleft⟩) ?_
    rw [← Bool.not_eq_true, Json.equivalent_iff_same (hnames _ rfl) (hothers _ rfl)] at h
    rw [← Bool.not_eq_true, Json.equivalent_iff_same (hothers _ rfl) (hnames _ rfl)]
    exact fun hsame => h hsame.symm

theorem Deviates.mirrored (h : Deviates desired actual keys kind)
    (hnames : NamesDistinct desired) (hothers : NamesDistinct actual) :
    Deviates actual desired keys kind.mirrored where
  above front hfront hne := by
    obtain ⟨entries, others, hleft, hright⟩ := h.above front hfront hne
    exact ⟨others, entries, hright, hleft⟩
  differ := h.differ.mirrored (hnames.bind_follow keys) (hothers.bind_follow keys)

def Difference.mirrored (difference : Difference) : Difference :=
  { difference with kind := difference.kind.mirrored }

theorem Difference.mirrored_mirrored (difference : Difference) :
    difference.mirrored.mirrored = difference := by
  simp [mirrored, DifferenceKind.mirrored_mirrored]

end Exchange

namespace IndexConfiguration

/-- The mappings are equal up to order, and so are the settings. -/
structure Equivalent (index other : IndexConfiguration) : Prop where
  mapping : (Json.object index.mapping).equivalent (.object other.mapping) = true
  settings : (Json.object index.settings).equivalent (.object other.settings) = true

/-- The mapping and the settings of the other are reorderings of those of the first. -/
structure Reordered (index other : IndexConfiguration) : Prop where
  mapping : Json.Reordered (.object index.mapping) (.object other.mapping)
  settings : Json.Reordered (.object index.settings) (.object other.settings)

/-- No number in the configuration is NaN, as in every document that was read or built. -/
structure NaNFree (index : IndexConfiguration) : Prop where
  mapping : (Json.object index.mapping).isNaNFree = true
  settings : (Json.object index.settings).isNaNFree = true

variable {index other : IndexConfiguration}

theorem Equivalent.valueAt (h : index.Equivalent other) (hindex : index.WellFormed)
    (hother : other.WellFormed) (root : Root) :
    Option.Rel Same (index.valueAt root) (other.valueAt root) := by
  cases root with
  | mapping => exact .some ((Json.equivalent_iff_same hindex.mapping hother.mapping).mp h.mapping)
  | setting path =>
    have hsettings := (Json.equivalent_iff_same hindex.settings hother.settings).mp h.settings
    exact (Settings.same_normalize hsettings hindex.settings hother.settings).follow path

theorem Reordered.wellFormed (h : index.Reordered other) (hindex : index.WellFormed)
    (hnumbers : index.NaNFree) : other.WellFormed where
  mapping := (h.mapping.wellFormed ⟨hindex.mapping, hnumbers.mapping⟩).distinctNames
  settings := (h.settings.wellFormed ⟨hindex.settings, hnumbers.settings⟩).distinctNames

theorem Reordered.equivalent (h : index.Reordered other) (hindex : index.WellFormed)
    (hnumbers : index.NaNFree) : index.Equivalent other where
  mapping := (Json.equivalent_iff_same hindex.mapping (h.wellFormed hindex hnumbers).mapping).mpr
    (h.mapping.same ⟨hindex.mapping, hnumbers.mapping⟩)
  settings := (Json.equivalent_iff_same hindex.settings
    (h.wellFormed hindex hnumbers).settings).mpr
    (h.settings.same ⟨hindex.settings, hnumbers.settings⟩)

end IndexConfiguration

namespace Comparator

section Report

variable {desired desired' actual actual' : IndexConfiguration}

theorem nodup_reportBelow (hdesired : desired.WellFormed) (hactual : actual.WellFormed)
    (root : Root) : (reportBelow desired actual root).Nodup :=
  (nodup_keys_reportBelow hdesired hactual).of_map _

theorem reportBelow_perm_of_rel (hdesired : desired.WellFormed) (hdesired' : desired'.WellFormed)
    (hactual : actual.WellFormed) (hactual' : actual'.WellFormed) {root : Root}
    (h : Option.Rel Same (desired.valueAt root) (desired'.valueAt root))
    (h' : Option.Rel Same (actual.valueAt root) (actual'.valueAt root)) :
    (reportBelow desired' actual' root).Perm (reportBelow desired actual root) := by
  rw [List.perm_ext_iff_of_nodup (nodup_reportBelow hdesired' hactual' root)
    (nodup_reportBelow hdesired hactual root)]
  intro difference
  rw [mem_reportBelow_iff hdesired' hactual', mem_reportBelow_iff hdesired hactual]
  exact and_congr_right fun _ => (deviates_iff_of_same h h' (hdesired.valueAt root)
    (hdesired'.valueAt root) (hactual.valueAt root) (hactual'.valueAt root)).symm

theorem mem_map_mirrored_iff {differences : List Difference} {difference : Difference} :
    difference ∈ differences.map Difference.mirrored ↔ difference.mirrored ∈ differences := by
  constructor
  · intro h
    obtain ⟨other, hother, rfl⟩ := List.mem_map.mp h
    rwa [Difference.mirrored_mirrored]
  · intro h
    exact List.mem_map.mpr ⟨_, h, difference.mirrored_mirrored⟩

theorem mirrored_mem_reportBelow (hdesired : desired.WellFormed) (hactual : actual.WellFormed)
    {root : Root} {difference : Difference} (h : difference ∈ reportBelow desired actual root) :
    difference.mirrored ∈ reportBelow actual desired root := by
  obtain ⟨hroot, hdeviates⟩ := (mem_reportBelow_iff hdesired hactual).mp h
  exact (mem_reportBelow_iff hactual hdesired).mpr
    ⟨hroot, hdeviates.mirrored (hdesired.valueAt root) (hactual.valueAt root)⟩

theorem reportBelow_perm_mirrored (hdesired : desired.WellFormed) (hactual : actual.WellFormed)
    (root : Root) : (reportBelow actual desired root).Perm
      ((reportBelow desired actual root).map Difference.mirrored) := by
  have hinjective : Function.Injective Difference.mirrored := fun left right heq => by
    rw [← left.mirrored_mirrored, heq, right.mirrored_mirrored]
  rw [List.perm_ext_iff_of_nodup (nodup_reportBelow hactual hdesired root)
    ((nodup_reportBelow hdesired hactual root).map hinjective)]
  intro difference
  rw [mem_map_mirrored_iff]
  constructor
  · exact mirrored_mem_reportBelow hactual hdesired
  · intro h
    have hback := mirrored_mem_reportBelow hdesired hactual h
    rwa [Difference.mirrored_mirrored] at hback

end Report

section Invariance

variable (comparator : Comparator) {desired actual : IndexConfiguration}

/-- Whatever is done to the two sides, the report is the same up to order if the roots still lead to
the same up to order. -/
theorem differences_perm_of_rel {desired' actual' : IndexConfiguration}
    (hdesired : desired.WellFormed) (hdesired' : desired'.WellFormed)
    (hactual : actual.WellFormed) (hactual' : actual'.WellFormed)
    (h : ∀ root, Option.Rel Same (desired.valueAt root) (desired'.valueAt root))
    (h' : ∀ root, Option.Rel Same (actual.valueAt root) (actual'.valueAt root)) :
    (comparator.differences desired' actual').Perm (comparator.differences desired actual) := by
  rw [differences_eq_flatMap, differences_eq_flatMap]
  exact List.Perm.flatMap_left _ fun root _ =>
    reportBelow_perm_of_rel hdesired hdesired' hactual hactual' (h root) (h' root)

theorem differences_perm (desired' actual' : IndexConfiguration)
    (hdesired : desired.WellFormed) (hdesired' : desired'.WellFormed)
    (hactual : actual.WellFormed) (hactual' : actual'.WellFormed)
    (h : desired.Equivalent desired') (h' : actual.Equivalent actual') :
    (comparator.differences desired' actual').Perm (comparator.differences desired actual) :=
  differences_perm_of_rel comparator hdesired hdesired' hactual hactual'
    (h.valueAt hdesired hdesired') (h'.valueAt hactual hactual')

/-- Configurations that are equal up to order, and so all reorderings of their documents, have
the same differences, each as often as before. -/
theorem differences_perm_of_equivalent (hdesired : desired.WellFormed)
    (hactual : actual.WellFormed) :
    (∀ desired' actual' : IndexConfiguration, desired'.WellFormed → actual'.WellFormed →
        desired.Equivalent desired' → actual.Equivalent actual' →
        (comparator.differences desired' actual').Perm (comparator.differences desired actual)) ∧
      ∀ desired' actual' : IndexConfiguration, desired.NaNFree → actual.NaNFree →
        desired.Reordered desired' → actual.Reordered actual' →
        (comparator.differences desired' actual').Perm
          (comparator.differences desired actual) := by
  constructor
  · intro desired' actual' hdesired' hactual' h h'
    exact differences_perm comparator desired' actual' hdesired hdesired' hactual hactual' h h'
  · intro desired' actual' hnumbers hotherNumbers h h'
    exact differences_perm comparator desired' actual' hdesired (h.wellFormed hdesired hnumbers)
      hactual (h'.wellFormed hactual hotherNumbers) (h.equivalent hdesired hnumbers)
      (h'.equivalent hactual hotherNumbers)

/-- The declared posts with the members of three objects and the items of an array in another
order. -/
def reorderedPosts : IndexConfiguration where
  name := "posts"
  mapping := [("name", .single "type" (.string "keyword")),
    ("id", .object [("fields", .object []), ("type", .string "integer")])]
  settings := [("index", .object [("analysis", .single "filter" (.single "stop"
    (.strings ["b", "a"]))), ("max_ngram_diff", .string "2")])]

theorem reordered_reorderedPosts : declaredPosts.Reordered reorderedPosts where
  mapping :=
    .trans (.object (List.Perm.swap _ _ [])) (.value [_] [] "id" (.object (List.Perm.swap _ _ [])))
  settings := .value [] [] "index" (.trans (.object (List.Perm.swap _ _ []))
    (.value [] [_] "analysis" (.value [] [] "filter" (.value [] [] "stop"
      (.array (List.Perm.swap _ _ []))))))

/-- The reordered posts have the same differences to what is reported, found in another order. -/
theorem differences_perm_reorderedPosts :
    declaredPosts.WellFormed ∧ reportedPosts.WellFormed ∧ reorderedPosts.WellFormed ∧
      declaredPosts.Equivalent reorderedPosts ∧ reportedPosts.Equivalent reportedPosts ∧
      declaredPosts.NaNFree ∧ reportedPosts.NaNFree ∧ declaredPosts.Reordered reorderedPosts ∧
      reportedPosts.Reordered reportedPosts ∧
      (Comparator.default.differences reorderedPosts reportedPosts).Perm
        (Comparator.default.differences declaredPosts reportedPosts) := by
  have hdeclared : declaredPosts.WellFormed := ⟨by decide, by decide⟩
  have hreported : reportedPosts.WellFormed := ⟨by decide, by decide⟩
  have hreordered : reorderedPosts.WellFormed := ⟨by decide, by decide⟩
  have hequivalent : declaredPosts.Equivalent reorderedPosts := ⟨by decide, by decide⟩
  have hself : reportedPosts.Equivalent reportedPosts := ⟨by decide, by decide⟩
  obtain ⟨hperm, -⟩ := differences_perm_of_equivalent .default hdeclared hreported
  exact ⟨hdeclared, hreported, hreordered, hequivalent, hself, ⟨by decide, by decide⟩,
    ⟨by decide, by decide⟩, reordered_reorderedPosts, ⟨.refl _, .refl _⟩,
    hperm reorderedPosts reportedPosts hreordered hreported hequivalent hself⟩

example : Comparator.default.differences reorderedPosts reportedPosts ≠ postsReport := by decide

/-- Exchanging the sides exchanges what is missing remotely and what is there only, at the same
paths and as often as before. Whether there are changes does not depend on the side. -/
theorem differences_mirrored (hdesired : desired.WellFormed) (hactual : actual.WellFormed) :
    (comparator.differences actual desired).Perm
        ((comparator.differences desired actual).map Difference.mirrored) ∧
      comparator.hasChanges actual desired = comparator.hasChanges desired actual := by
  have hperm : (comparator.differences actual desired).Perm
      ((comparator.differences desired actual).map Difference.mirrored) := by
    rw [differences_eq_flatMap, differences_eq_flatMap, List.map_flatMap]
    exact List.Perm.flatMap_left _ fun root _ => reportBelow_perm_mirrored hdesired hactual root
  refine ⟨hperm, ?_⟩
  rw [hasChanges, hasChanges, hperm.isEmpty_eq, List.isEmpty_map]

/-- What was missing remotely is now there only, in the order of the other side. -/
theorem differences_mirrored_postsReport :
    declaredPosts.WellFormed ∧ reportedPosts.WellFormed ∧
      (Comparator.default.differences reportedPosts declaredPosts).Perm
        (postsReport.map Difference.mirrored) ∧
      Comparator.default.hasChanges reportedPosts declaredPosts = true := by
  have hdeclared : declaredPosts.WellFormed := ⟨by decide, by decide⟩
  have hreported : reportedPosts.WellFormed := ⟨by decide, by decide⟩
  have hreport : Comparator.default.differences declaredPosts reportedPosts = postsReport := by
    decide
  obtain ⟨hperm, hchanges⟩ := differences_mirrored .default hdeclared hreported
  refine ⟨hdeclared, hreported, hreport ▸ hperm, ?_⟩
  rw [hchanges, hasChanges, hreport]
  rfl

end Invariance

end Comparator

end DocumentSearch
