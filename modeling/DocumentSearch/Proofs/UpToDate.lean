import DocumentSearch.Index.Status
import DocumentSearch.Proofs.DocumentEquality
import DocumentSearch.Proofs.Settings

/-!
When an index is up to date. The walk that reports deviations place by place finds none exactly
when the documents are equal up to order, so an index counts as unchanged exactly when its mapping
and its managed settings are. The walk looks both ways and the comparison one way only; distinct
names make up for that.
-/

namespace DocumentSearch

namespace Json

theorem surplus_eq_nil_iff {desired actual : Entries Json} :
    surplus desired actual = [] ↔ actual.names ⊆ desired.names := by
  rw [surplus, List.map_eq_nil_iff, List.filter_eq_nil_iff]
  constructor
  · intro h name hname
    obtain ⟨value, hmem⟩ := Entries.mem_names.mp hname
    have hcontains := h _ hmem
    rw [Bool.not_eq_true, Bool.not_eq_false'] at hcontains
    exact Entries.contains_iff.mp hcontains
  · intro h entry hentry
    have hname : entry.1 ∈ desired.names := h (Entries.mem_names.mpr ⟨entry.2, hentry⟩)
    rw [Entries.contains_iff.mpr hname]
    simp

theorem entryDeviations_eq_nil_iff {entries : List (String × Json)} {actual : Entries Json} :
    entryDeviations entries actual = [] ↔
      ∀ entry ∈ entries, ∃ other, actual.get? entry.1 = some other ∧
        entry.2.deviations other = [] := by
  induction entries with
  | nil => simp [entryDeviations]
  | cons entry rest ih =>
    obtain ⟨name, value⟩ := entry
    rw [entryDeviations, List.append_eq_nil_iff, ih, List.forall_mem_cons]
    cases hother : actual.get? name with
    | none => simp
    | some other => simp

/-- The walk finds nothing exactly when the comparison finds the documents equal. -/
theorem deviations_eq_nil_iff {a b : Json} (ha : a.hasDistinctNames = true)
    (hb : b.hasDistinctNames = true) : a.deviations b = [] ↔ a.equivalent b = true := by
  induction a using Json.induction generalizing b with
  | object entries ih =>
    cases b
    case object others =>
      obtain ⟨hnames, hvalues⟩ := hasDistinctNames_object_iff.mp ha
      obtain ⟨hotherNames, -⟩ := hasDistinctNames_object_iff.mp hb
      have hfound : (∀ entry ∈ entries, ∃ other, Entries.get? others entry.1 = some other ∧
            entry.2.deviations other = []) ↔
          ∀ entry ∈ entries, ∃ other, Entries.get? others entry.1 = some other ∧
            entry.2.equivalent other = true := by
        refine forall₂_congr fun entry hentry => exists_congr fun other => ?_
        exact and_congr_right fun hother =>
          ih entry hentry (hvalues entry hentry) (hasDistinctNames_of_get? hb hother)
      rw [deviations, List.append_eq_nil_iff, entryDeviations_eq_nil_iff, surplus_eq_nil_iff,
        equivalent, Bool.and_eq_true, beq_iff_eq, equivalentEntries_iff, hfound, and_comm]
      -- The names found on the other side are all that it has exactly when there are as many.
      refine and_congr_left fun hvalues => ?_
      have hsub : Entries.names entries ⊆ Entries.names others :=
        Entries.names_subset_of_forall_get? fun entry hentry =>
          (hvalues entry hentry).imp fun _ hother => hother.1
      exact (Entries.length_eq_iff_names_subset hnames hotherNames hsub).symm
    all_goals simp [deviations, equivalent]
  | null => cases b <;> simp [deviations]
  | bool value => cases b <;> simp [deviations]
  | number value => cases b <;> simp [deviations]
  | string value => cases b <;> simp [deviations]
  | array items => cases b <;> simp [deviations]

end Json

/-- A configuration whose mapping and settings name each member once, as those of objects that
were read or built. -/
structure IndexConfiguration.WellFormed (index : IndexConfiguration) : Prop where
  mapping : (Json.object index.mapping).hasDistinctNames = true
  settings : (Json.object index.settings).hasDistinctNames = true

namespace Comparator

/-- Both sides lack a setting, or both have it and equal values for it. -/
def SettingAgrees (desired actual : Option Json) : Prop :=
  desired = none ∧ actual = none ∨
    ∃ value other, desired = some value ∧ actual = some other ∧ value.equivalent other = true

/-- The mappings are equal as a whole, and so is each managed setting. -/
structure Agrees (comparator : Comparator) (desired actual : IndexConfiguration) : Prop where
  mapping : (Json.object desired.mapping).equivalent (.object actual.mapping) = true
  settings : ∀ path ∈ comparator.managed,
    SettingAgrees (Settings.lookup (Settings.normalize desired.settings) path)
      (Settings.lookup (Settings.normalize actual.settings) path)

theorem lookupDeviations_eq_nil_iff {desired actual : Option Json}
    (hdesired : ∀ value, desired = some value → value.hasDistinctNames = true)
    (hactual : ∀ value, actual = some value → value.hasDistinctNames = true) :
    lookupDeviations desired actual = [] ↔ SettingAgrees desired actual := by
  cases desired with
  | none => cases actual <;> simp [lookupDeviations, SettingAgrees]
  | some value =>
    cases actual with
    | none => simp [lookupDeviations, SettingAgrees]
    | some other =>
      have hwalk := Json.deviations_eq_nil_iff (hdesired value rfl) (hactual other rfl)
      simpa [lookupDeviations, SettingAgrees] using hwalk

theorem differences_eq_nil_iff {comparator : Comparator} {desired actual : IndexConfiguration}
    (hdesired : desired.WellFormed) (hactual : actual.WellFormed) :
    comparator.differences desired actual = [] ↔ comparator.Agrees desired actual := by
  have hsetting : ∀ path,
      settingDifferences (Settings.normalize desired.settings)
          (Settings.normalize actual.settings) path = [] ↔
        SettingAgrees (Settings.lookup (Settings.normalize desired.settings) path)
          (Settings.lookup (Settings.normalize actual.settings) path) := by
    intro path
    rw [settingDifferences, List.map_eq_nil_iff]
    exact lookupDeviations_eq_nil_iff
      (fun _ => Settings.hasDistinctNames_of_lookup_normalize hdesired.settings)
      (fun _ => Settings.hasDistinctNames_of_lookup_normalize hactual.settings)
  rw [differences, List.append_eq_nil_iff, List.map_eq_nil_iff, List.flatMap_eq_nil_iff,
    Json.deviations_eq_nil_iff hdesired.mapping hactual.mapping]
  constructor
  · rintro ⟨hmapping, hsettings⟩
    exact ⟨hmapping, fun path hpath => (hsetting path).mp (hsettings path hpath)⟩
  · rintro ⟨hmapping, hsettings⟩
    exact ⟨hmapping, fun path hpath => (hsetting path).mpr (hsettings path hpath)⟩

end Comparator

namespace IndexStatus

theorem hasChanges_ofDifferences (differences : List Difference) :
    (ofDifferences differences).hasChanges = !differences.isEmpty := by
  unfold ofDifferences
  cases differences <;> rfl

section Answers

variable {comparator : Comparator} {desired : IndexConfiguration}
  {answer : Except BackendError (Option IndexConfiguration)}

theorem ofAnswer_same_name {actual : IndexConfiguration} (hname : actual.name = desired.name) :
    (ofAnswer comparator desired (.ok (some actual))).map hasChanges =
      .ok (!(comparator.differences desired actual).isEmpty) := by
  rw [ofAnswer, if_pos hname, Except.map, hasChanges_ofDifferences]

theorem ofAnswer_other_name {actual : IndexConfiguration} (hname : actual.name ≠ desired.name) :
    (ofAnswer comparator desired (.ok (some actual))).map hasChanges =
      .error (otherIndex actual.name desired.name) := by
  rw [ofAnswer, if_neg hname, Except.map]

/-- What an answer of the backend comes to: whether there are changes, or an error. -/
theorem hasChanges_ofAnswer_eq_ok_iff (changed : Bool) (hdesired : desired.WellFormed)
    (hanswer : ∀ actual, answer = .ok (some actual) → actual.WellFormed) :
    (ofAnswer comparator desired answer).map hasChanges = .ok changed ↔
      answer = .ok none ∧ changed = true ∨
        ∃ actual, answer = .ok (some actual) ∧ actual.name = desired.name ∧
          (changed = false ↔ comparator.Agrees desired actual) := by
  rcases answer with error | _ | actual
  · simp [ofAnswer, Except.map]
  · simp [ofAnswer, Except.map, hasChanges, eq_comm]
  · have hagrees : comparator.differences desired actual = [] ↔
        comparator.Agrees desired actual :=
      Comparator.differences_eq_nil_iff hdesired (hanswer actual rfl)
    by_cases hname : actual.name = desired.name
    · have hchanged : (!(comparator.differences desired actual).isEmpty) = changed ↔
          (changed = false ↔ comparator.Agrees desired actual) := by
        rw [← hagrees]
        cases comparator.differences desired actual <;> cases changed <;> simp
      rw [ofAnswer_same_name hname, Except.ok.injEq, hchanged]
      constructor
      · intro h
        exact Or.inr ⟨actual, rfl, hname, h⟩
      · rintro (⟨h, -⟩ | ⟨other, hother, -, h⟩)
        · simp at h
        · rcases hother with ⟨⟩
          exact h
    · rw [ofAnswer_other_name hname]
      simp [hname]

theorem hasChanges_ofAnswer_eq_error_iff {error : Error} :
    (ofAnswer comparator desired answer).map hasChanges = .error error ↔
      (∃ cause, answer = .error cause ∧ error = .backend cause) ∨
        ∃ actual, answer = .ok (some actual) ∧ actual.name ≠ desired.name ∧
          error = otherIndex actual.name desired.name := by
  rcases answer with cause | _ | actual
  · simp [ofAnswer, Except.map, eq_comm]
  · simp [ofAnswer, Except.map]
  · by_cases hname : actual.name = desired.name
    · rw [ofAnswer_same_name hname]
      simp [hname]
    · rw [ofAnswer_other_name hname]
      constructor
      · rintro ⟨⟩
        exact Or.inr ⟨actual, rfl, hname, rfl⟩
      · rintro (⟨cause, h, -⟩ | ⟨other, h, -, rfl⟩)
        · simp at h
        · rcases h with ⟨⟩
          rfl

end Answers

section Asking

variable {σ : Type} (comparator : Comparator) (desired : IndexConfiguration)
  (answer : σ → IndexConfiguration → Except BackendError (Option IndexConfiguration) × σ)
  (state : σ)

theorem check_exchange :
    (check comparator desired).exchange answer state =
      ⟨[desired], ofAnswer comparator desired (answer state desired).1,
        (answer state desired).2⟩ := rfl

theorem checkChanged_exchange :
    (checkChanged comparator desired).exchange answer state =
      ⟨[desired], (ofAnswer comparator desired (answer state desired).1).map hasChanges,
        (answer state desired).2⟩ := rfl

/-- Each check asks once, and both come to the same. An index is found unchanged exactly when the
answer has its name, an equal mapping and equal managed settings; the walk that reports
differences agrees with the comparison of whole documents. -/
theorem unchanged_iff_agrees (hdesired : desired.WellFormed)
    (hanswer : ∀ actual, (answer state desired).1 = .ok (some actual) → actual.WellFormed) :
    ((check comparator desired).exchange answer state).questions = [desired] ∧
      ((checkChanged comparator desired).exchange answer state).questions = [desired] ∧
      ((checkChanged comparator desired).exchange answer state).value =
        ((check comparator desired).exchange answer state).value.map hasChanges ∧
      (((checkChanged comparator desired).exchange answer state).value = .ok false ↔
        ∃ actual, (answer state desired).1 = .ok (some actual) ∧ actual.name = desired.name ∧
          comparator.Agrees desired actual) ∧
      (((checkChanged comparator desired).exchange answer state).value = .ok true ↔
        (answer state desired).1 = .ok none ∨
          ∃ actual, (answer state desired).1 = .ok (some actual) ∧ actual.name = desired.name ∧
            ¬ comparator.Agrees desired actual) ∧
      (∀ error, ((checkChanged comparator desired).exchange answer state).value = .error error ↔
        (∃ cause, (answer state desired).1 = .error cause ∧ error = .backend cause) ∨
          ∃ actual, (answer state desired).1 = .ok (some actual) ∧ actual.name ≠ desired.name ∧
            error = otherIndex actual.name desired.name) ∧
      ∀ a b : Json, a.hasDistinctNames = true → b.hasDistinctNames = true →
        (a.deviations b = [] ↔ a.equivalent b = true) := by
  rw [check_exchange, checkChanged_exchange]
  refine ⟨rfl, rfl, rfl, ?_, ?_, fun _ => hasChanges_ofAnswer_eq_error_iff,
    fun a b ha hb => Json.deviations_eq_nil_iff ha hb⟩
  · simpa using hasChanges_ofAnswer_eq_ok_iff false hdesired hanswer
  · simpa using hasChanges_ofAnswer_eq_ok_iff true hdesired hanswer

end Asking

def declaredUnderIndex : IndexConfiguration where
  name := "posts"
  mapping := [("id", .single "type" (.string "keyword")), ("tags", .strings ["a", "b"])]
  settings := [("index", .object [("analysis", .single "filter" (.strings ["x", "y"])),
    ("max_ngram_diff", .natural 2)])]

def reportedAtTop : IndexConfiguration where
  name := "posts"
  mapping := [("tags", .strings ["b", "a"]), ("id", .single "type" (.string "keyword"))]
  settings := [("analysis", .single "filter" (.strings ["y", "x"])),
    ("index", .object [("uuid", .string "u"), ("max_ngram_diff", .natural 2)])]

/-- Analysis settings in another place, everything in another order, and a setting of the backend's
own: nothing has changed. -/
theorem unchanged_reportedAtTop :
    declaredUnderIndex.WellFormed ∧ reportedAtTop.WellFormed ∧
      ((checkChanged .default declaredUnderIndex).exchange
        (fun (asked : ℕ) _ => (.ok (some reportedAtTop), asked + 1)) 0).value = .ok false := by
  have hdesired : declaredUnderIndex.WellFormed := ⟨by decide, by decide⟩
  have hactual : reportedAtTop.WellFormed := ⟨by decide, by decide⟩
  have hagrees : Comparator.default.Agrees declaredUnderIndex reportedAtTop :=
    (Comparator.differences_eq_nil_iff hdesired hactual).mp (by decide)
  refine ⟨hdesired, hactual, ?_⟩
  refine (unchanged_iff_agrees .default declaredUnderIndex _ 0 hdesired ?_).2.2.2.1.mpr
    ⟨reportedAtTop, rfl, rfl, hagrees⟩
  rintro actual ⟨⟩
  exact hactual

end IndexStatus

end DocumentSearch
