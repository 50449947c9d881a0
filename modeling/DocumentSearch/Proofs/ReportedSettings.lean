import DocumentSearch.Index.Remote
import DocumentSearch.Proofs.SameSettings
import DocumentSearch.Proofs.UpToDate

/-!
An index that was made as declared is reported up to date. What the backend reports may be
ordered differently, may have the analysis settings in the other place and may have settings of the
backend's own under `index`. Each of these leaves the managed settings as they are once both sides
are normalized, and so does normalizing the report a second time.
-/

namespace DocumentSearch

namespace Settings

/-- The members of `index`. There are none if it is missing or no object. -/
def indexMembers (settings : Entries Json) : Entries Json :=
  ((settings.get? "index").bind Json.entries?).getD []

def withIndexMembers (settings members : Entries Json) : Entries Json :=
  settings.put "index" (.object members)

/-- The names under `index` that mean something to the default comparator. -/
def indexNames : List String := ["analysis", "max_ngram_diff", "max_shingle_diff"]

/-- Settings that a backend may report for an index that was made from the declared ones. -/
inductive ReportedFor (declared : Entries Json) : Entries Json → Prop
  | equivalent {settings : Entries Json} (hnames : (Json.object settings).hasDistinctNames = true)
      (h : (Json.object settings).equivalent (.object declared) = true) :
      ReportedFor declared settings
  | reordered {settings others : Entries Json} (hsettings : ReportedFor declared settings)
      (hnames : (Json.object others).hasDistinctNames = true)
      (h : (Json.object others).equivalent (.object settings) = true) :
      ReportedFor declared others
  | underIndex {settings : Entries Json} {analysis : Json}
      (hsettings : ReportedFor declared settings)
      (htop : settings.get? "analysis" = some analysis)
      (hindex : indexAnalysis settings = none) :
      ReportedFor declared (withIndexMembers (settings.erase "analysis")
        ((indexMembers settings).put "analysis" analysis))
  | atTop {settings : Entries Json} {analysis : Json}
      (hsettings : ReportedFor declared settings)
      (htop : settings.get? "analysis" = none)
      (hindex : indexAnalysis settings = some analysis) :
      ReportedFor declared ((withIndexMembers settings
        ((indexMembers settings).erase "analysis")).put "analysis" analysis)
  | ofBackend {settings : Entries Json} (hsettings : ReportedFor declared settings)
      (name : String) (value : Json) (hname : name ∉ indexNames)
      (hvalue : value.hasDistinctNames = true) :
      ReportedFor declared (withIndexMembers settings ((indexMembers settings).put name value))

variable {settings others members declared : Entries Json}

theorem get?_indexMembers (settings : Entries Json) (name : String) :
    (indexMembers settings).get? name = (settings.get? "index").bind (·.get? name) := by
  unfold indexMembers
  cases settings.get? "index" with
  | none => rfl
  | some value => cases value <;> rfl

theorem indexAnalysis_eq_get? (settings : Entries Json) :
    indexAnalysis settings = (indexMembers settings).get? "analysis" :=
  (get?_indexMembers settings "analysis").symm

theorem hasDistinctNames_indexMembers
    (hsettings : (Json.object settings).hasDistinctNames = true) :
    (Json.object (indexMembers settings)).hasDistinctNames = true := by
  unfold indexMembers
  cases hindex : settings.get? "index" with
  | none => rfl
  | some value =>
    cases value with
    | object index => exact Json.hasDistinctNames_of_get? hsettings hindex
    | _ => rfl

theorem get?_withIndexMembers_of_ne {name : String} (h : name ≠ "index") :
    (withIndexMembers settings members).get? name = settings.get? name :=
  Entries.get?_put_of_ne settings _ h

theorem indexMembers_withIndexMembers :
    indexMembers (withIndexMembers settings members) = members := by
  rw [indexMembers, withIndexMembers, Entries.get?_put_self]
  rfl

theorem hasDistinctNames_withIndexMembers
    (hsettings : (Json.object settings).hasDistinctNames = true)
    (hmembers : (Json.object members).hasDistinctNames = true) :
    (Json.object (withIndexMembers settings members)).hasDistinctNames = true :=
  hasDistinctNames_put "index" hsettings hmembers

theorem ReportedFor.hasDistinctNames (h : ReportedFor declared settings) :
    (Json.object settings).hasDistinctNames = true := by
  induction h with
  | equivalent hnames _ => exact hnames
  | reordered _ hnames _ _ => exact hnames
  | underIndex _ htop _ ih =>
    exact hasDistinctNames_withIndexMembers (hasDistinctNames_erase "analysis" ih)
      (hasDistinctNames_put "analysis" (hasDistinctNames_indexMembers ih)
        (Json.hasDistinctNames_of_get? ih htop))
  | atTop _ _ hindex ih =>
    have hmembers := hasDistinctNames_indexMembers ih
    rw [indexAnalysis_eq_get?] at hindex
    exact hasDistinctNames_put "analysis"
      (hasDistinctNames_withIndexMembers ih (hasDistinctNames_erase "analysis" hmembers))
      (Json.hasDistinctNames_of_get? hmembers hindex)
  | ofBackend _ _ _ _ hvalue ih =>
    exact hasDistinctNames_withIndexMembers ih
      (hasDistinctNames_put _ (hasDistinctNames_indexMembers ih) hvalue)

/-- The same analysis settings, at the top or under `index`, the same managed members of `index`,
and the same at the top otherwise. -/
structure ReadsAs (settings others : Entries Json) : Prop where
  analysis : (settings.get? "analysis").or (indexAnalysis settings) =
    (others.get? "analysis").or (indexAnalysis others)
  index : ∀ key ∈ indexNames, key ≠ "analysis" →
    (indexMembers settings).get? key = (indexMembers others).get? key
  elsewhere : ∀ name, name ≠ "analysis" → name ≠ "index" →
    settings.get? name = others.get? name

theorem readsAs_underIndex {analysis : Json} (htop : settings.get? "analysis" = some analysis) :
    ReadsAs (withIndexMembers (settings.erase "analysis")
      ((indexMembers settings).put "analysis" analysis)) settings where
  analysis := by
    rw [get?_withIndexMembers_of_ne (by decide), Entries.get?_erase_self, indexAnalysis_eq_get?,
      indexMembers_withIndexMembers, Entries.get?_put_self, htop]
    rfl
  index key _ hkey := by
    rw [indexMembers_withIndexMembers, Entries.get?_put_of_ne _ _ hkey]
  elsewhere name hanalysis hindex := by
    rw [get?_withIndexMembers_of_ne hindex, Entries.get?_erase_of_ne settings hanalysis]

theorem readsAs_atTop {analysis : Json} (htop : settings.get? "analysis" = none)
    (hindex : indexAnalysis settings = some analysis) :
    ReadsAs ((withIndexMembers settings
      ((indexMembers settings).erase "analysis")).put "analysis" analysis) settings where
  analysis := by
    rw [Entries.get?_put_self, htop, hindex]
    rfl
  index key _ hkey := by
    have hmembers : ∀ name, (indexMembers ((withIndexMembers settings
        ((indexMembers settings).erase "analysis")).put "analysis" analysis)).get? name =
        ((indexMembers settings).erase "analysis").get? name := by
      intro name
      rw [get?_indexMembers, Entries.get?_put_of_ne _ _ (by decide), ← get?_indexMembers,
        indexMembers_withIndexMembers]
    rw [hmembers, Entries.get?_erase_of_ne _ hkey]
  elsewhere name hanalysis hindex := by
    rw [Entries.get?_put_of_ne _ _ hanalysis, get?_withIndexMembers_of_ne hindex]

theorem readsAs_ofBackend {name : String} (value : Json) (hname : name ∉ indexNames) :
    ReadsAs (withIndexMembers settings ((indexMembers settings).put name value)) settings where
  analysis := by
    have hne : "analysis" ≠ name := fun heq => hname (heq ▸ List.mem_cons_self)
    rw [get?_withIndexMembers_of_ne (by decide), indexAnalysis_eq_get?,
      indexMembers_withIndexMembers, Entries.get?_put_of_ne _ _ hne, ← indexAnalysis_eq_get?]
  index key hkey _ := by
    have hne : key ≠ name := fun heq => hname (heq ▸ hkey)
    rw [indexMembers_withIndexMembers, Entries.get?_put_of_ne _ _ hne]
  elsewhere other _ hindex := get?_withIndexMembers_of_ne hindex

/-- A managed path of the default comparator is a name at the top or a name under `index`. -/
theorem managed_default {path : List String} (h : path ∈ Comparator.default.managed) :
    (∃ name, name ≠ "index" ∧ path = [name]) ∨
      ∃ key ∈ indexNames, key ≠ "analysis" ∧ path = ["index", key] := by
  have hall : ∀ path ∈ Comparator.default.managed, path.length = 1 ∧ path ≠ ["index"] ∨
      ∃ key ∈ indexNames, key ≠ "analysis" ∧ path = ["index", key] := by decide
  rcases hall path h with ⟨hlength, hne⟩ | hindex
  · obtain ⟨name, rfl⟩ := List.length_eq_one_iff.mp hlength
    exact Or.inl ⟨name, fun heq => hne (heq ▸ rfl), rfl⟩
  · exact Or.inr hindex

theorem lookup_normalize_index_key (hsettings : (Json.object settings).hasDistinctNames = true)
    {key : String} (hkey : key ≠ "analysis") :
    lookup (normalize settings) ["index", key] = (indexMembers settings).get? key := by
  rw [lookup_normalize_index key [] fun _ => Json.nodup_names_of_get? hsettings, if_neg hkey,
    lookup_cons, get?_indexMembers]
  exact Option.bind_congr fun value _ => follow_singleton key value

theorem ReadsAs.lookup_normalize (h : ReadsAs settings others)
    (hsettings : (Json.object settings).hasDistinctNames = true)
    (hothers : (Json.object others).hasDistinctNames = true) {path : List String}
    (hpath : path ∈ Comparator.default.managed) :
    lookup (normalize settings) path = lookup (normalize others) path := by
  rcases managed_default hpath with ⟨name, hindex, rfl⟩ | ⟨key, hkey, hanalysis, rfl⟩
  · rw [lookup_singleton, lookup_singleton]
    by_cases hanalysis : name = "analysis"
    · rw [hanalysis, get?_normalize_analysis, get?_normalize_analysis, h.analysis]
    · rw [get?_normalize_of_ne _ hanalysis hindex, get?_normalize_of_ne _ hanalysis hindex,
        h.elsewhere name hanalysis hindex]
  · rw [lookup_normalize_index_key hsettings hanalysis,
      lookup_normalize_index_key hothers hanalysis, h.index key hkey hanalysis]

/-- The managed settings of a report are those that were declared, up to order. -/
theorem ReportedFor.lookup_normalize (h : ReportedFor declared settings)
    (hdeclared : (Json.object declared).hasDistinctNames = true) {path : List String}
    (hpath : path ∈ Comparator.default.managed) :
    Option.Rel Json.Same (lookup (normalize declared) path) (lookup (normalize settings) path) := by
  induction h with
  | equivalent hnames h =>
    have hsame := ((Json.equivalent_iff_same hnames hdeclared).mp h).symm
    exact (same_normalize hsame hdeclared hnames).follow path
  | reordered hsettings hnames h ih =>
    have hsame := ((Json.equivalent_iff_same hnames hsettings.hasDistinctNames).mp h).symm
    have hnormalized := same_normalize hsame hsettings.hasDistinctNames hnames
    exact Json.Same.rel_trans ih (hnormalized.follow path)
  | underIndex hsettings htop hindex ih =>
    rw [(readsAs_underIndex htop).lookup_normalize
      (hsettings.underIndex htop hindex).hasDistinctNames hsettings.hasDistinctNames hpath]
    exact ih
  | atTop hsettings htop hindex ih =>
    rw [(readsAs_atTop htop hindex).lookup_normalize
      (hsettings.atTop htop hindex).hasDistinctNames hsettings.hasDistinctNames hpath]
    exact ih
  | ofBackend hsettings name value hname hvalue ih =>
    have hadded := (hsettings.ofBackend name value hname hvalue).hasDistinctNames
    rw [(readsAs_ofBackend value hname).lookup_normalize hadded hsettings.hasDistinctNames hpath]
    exact ih

end Settings

theorem Comparator.settingAgrees_of_rel {left right : Option Json}
    (h : Option.Rel Json.Same left right)
    (hleft : ∀ value, left = some value → value.hasDistinctNames = true)
    (hright : ∀ value, right = some value → value.hasDistinctNames = true) :
    SettingAgrees left right := by
  cases h with
  | none => exact Or.inl ⟨rfl, rfl⟩
  | some hsame =>
    exact Or.inr ⟨_, _, rfl, rfl,
      (Json.equivalent_iff_same (hleft _ rfl) (hright _ rfl)).mpr hsame⟩

namespace IndexConfiguration

variable {desired : IndexConfiguration} {entry : Json} {mapping settings : Entries Json}

/-- The configuration read from a report has the name that was asked for, whatever name the report
carries. -/
theorem ofReport_single (name concrete : String)
    (hproperties : (entry.get? "mappings").bind (·.get? "properties") = some (.object mapping))
    (hsettings : entry.get? "settings" = some (.object settings)) :
    ofReport name (.single concrete entry) = .ok ⟨name, mapping, Settings.normalize settings⟩ := by
  change ofReportedIndex name entry = _
  unfold ofReportedIndex
  rw [hproperties, hsettings]
  rfl

theorem wellFormed_of_report (name : String) (hentry : entry.hasDistinctNames = true)
    (hproperties : (entry.get? "mappings").bind (·.get? "properties") = some (.object mapping))
    (hsettings : entry.get? "settings" = some (.object settings)) :
    (IndexConfiguration.mk name mapping (Settings.normalize settings)).WellFormed where
  mapping := by
    obtain ⟨mappings, hmappings, hmember⟩ := Option.bind_eq_some_iff.mp hproperties
    exact Json.hasDistinctNames_of_member (Json.hasDistinctNames_of_member hentry hmappings) hmember
  settings := Settings.hasDistinctNames_normalize (Json.hasDistinctNames_of_member hentry hsettings)

theorem agrees_of_reportedFor (name : String) (hdesired : desired.WellFormed)
    (hmappingNames : (Json.object mapping).hasDistinctNames = true)
    (hmapping : (Json.object mapping).equivalent (.object desired.mapping) = true)
    (hreported : Settings.ReportedFor desired.settings settings) :
    Comparator.default.Agrees desired ⟨name, mapping, Settings.normalize settings⟩ where
  mapping := (Json.equivalent_iff_same hdesired.mapping hmappingNames).mpr
    ((Json.equivalent_iff_same hmappingNames hdesired.mapping).mp hmapping).symm
  settings path hpath := by
    have hnames := hreported.hasDistinctNames
    have hsame := hreported.lookup_normalize hdesired.settings hpath
    -- The report is normalized when it is read and once more when it is compared.
    rw [Settings.normalize_normalize hnames]
    exact Comparator.settingAgrees_of_rel hsame
      (fun _ => Settings.hasDistinctNames_of_lookup_normalize hdesired.settings)
      (fun _ => Settings.hasDistinctNames_of_lookup_normalize hnames)

end IndexConfiguration

namespace IndexStatus

theorem ofDifferences_nil : ofDifferences [] = .upToDate := rfl

/-- The report of an index that was made as declared is read as a configuration of the declared
name, and the index is found up to date. -/
theorem upToDate_of_reportedFor (desired : IndexConfiguration) (concrete : String)
    {entry properties : Json} {settings : Entries Json} (hdesired : desired.WellFormed)
    (hentry : entry.hasDistinctNames = true)
    (hproperties : (entry.get? "mappings").bind (·.get? "properties") = some properties)
    (hmapping : properties.equivalent (.object desired.mapping) = true)
    (hsettings : entry.get? "settings" = some (.object settings))
    (hreported : Settings.ReportedFor desired.settings settings) :
    ∃ actual, IndexConfiguration.ofReport desired.name (.single concrete entry) = .ok actual ∧
      actual.name = desired.name ∧
      ∀ {σ : Type} (answer : σ → IndexConfiguration →
          Except BackendError (Option IndexConfiguration) × σ) (state : σ),
        (answer state desired).1 = .ok (some actual) →
        ((check .default desired).exchange answer state).value = .ok .upToDate := by
  obtain ⟨mapping, rfl⟩ : ∃ mapping, properties = .object mapping := by
    cases properties
    case object mapping => exact ⟨mapping, rfl⟩
    all_goals simp [Json.equivalent] at hmapping
  have hactual := IndexConfiguration.wellFormed_of_report desired.name hentry hproperties hsettings
  have hagrees := IndexConfiguration.agrees_of_reportedFor desired.name hdesired hactual.mapping
    hmapping hreported
  refine ⟨_, IndexConfiguration.ofReport_single desired.name concrete hproperties hsettings, rfl,
    fun answer state hanswer => ?_⟩
  rw [check_exchange, hanswer, ofAnswer, if_pos rfl,
    (Comparator.differences_eq_nil_iff hdesired hactual).mpr hagrees, ofDifferences_nil]

def reportedProperties : Json := .object [("tags", .strings ["b", "a"]),
  ("id", .single "type" (.string "keyword"))]

/-- The settings declared under `index`, with the analysis settings moved to the top and two
settings of the backend's own. -/
def reportedSettings : Entries Json := [
  ("index", .object [("max_ngram_diff", .natural 2), ("uuid", .string "u"),
    ("creation_date", .string "1")]),
  ("analysis", .single "filter" (.strings ["y", "x"]))]

def reportedEntry : Json := .object [("aliases", .single "posts" (.object [])),
  ("mappings", .single "properties" reportedProperties), ("settings", .object reportedSettings)]

theorem reportedFor_reportedSettings :
    Settings.ReportedFor declaredUnderIndex.settings reportedSettings :=
  have hequivalent : Settings.ReportedFor declaredUnderIndex.settings
      [("index", .object [("analysis", .single "filter" (.strings ["y", "x"])),
        ("max_ngram_diff", .natural 2)])] := .equivalent (by decide) (by decide)
  have hmoved : Settings.ReportedFor declaredUnderIndex.settings
      [("index", .object [("max_ngram_diff", .natural 2)]),
        ("analysis", .single "filter" (.strings ["y", "x"]))] := hequivalent.atTop rfl rfl
  have hidentified : Settings.ReportedFor declaredUnderIndex.settings
      [("index", .object [("max_ngram_diff", .natural 2), ("uuid", .string "u")]),
        ("analysis", .single "filter" (.strings ["y", "x"]))] :=
    hmoved.ofBackend "uuid" (.string "u") (by decide) (by decide)
  hidentified.ofBackend "creation_date" (.string "1") (by decide) (by decide)

/-- An alias: the report carries a name of its own. -/
theorem upToDate_reportedEntry :
    declaredUnderIndex.WellFormed ∧ reportedEntry.hasDistinctNames = true ∧
      (reportedEntry.get? "mappings").bind (·.get? "properties") = some reportedProperties ∧
      reportedProperties.equivalent (.object declaredUnderIndex.mapping) = true ∧
      reportedEntry.get? "settings" = some (.object reportedSettings) ∧
      Settings.ReportedFor declaredUnderIndex.settings reportedSettings ∧
      ∃ actual, IndexConfiguration.ofReport "posts" (.single "posts_1700000000" reportedEntry) =
          .ok actual ∧ actual.name = "posts" ∧
        ((check .default declaredUnderIndex).exchange
          (fun (asked : ℕ) _ => (.ok (some actual), asked + 1)) 0).value = .ok .upToDate := by
  have hdesired : declaredUnderIndex.WellFormed := ⟨by decide, by decide⟩
  have hentry : reportedEntry.hasDistinctNames = true := by decide
  have hmapping : reportedProperties.equivalent (.object declaredUnderIndex.mapping) = true := by
    decide
  obtain ⟨actual, hactual, hname, hstatus⟩ := upToDate_of_reportedFor declaredUnderIndex
    "posts_1700000000" hdesired hentry rfl hmapping rfl reportedFor_reportedSettings
  exact ⟨hdesired, hentry, rfl, hmapping, rfl, reportedFor_reportedSettings, actual, hactual, hname,
    hstatus _ 0 rfl⟩

end IndexStatus

end DocumentSearch
