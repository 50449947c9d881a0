import DocumentSearch.Proofs.DocumentEquality
import DocumentSearch.Proofs.NormalizedSettings
import DocumentSearch.Proofs.Settings

/-!
Equality up to order is kept by everything that is done with settings: equal objects have equal
members, paths lead to equal values or to none on both sides, and settings that are equal stay
equal when they are normalized, although the entries that are moved may end in another order.
-/

namespace DocumentSearch

section Values

variable {r : Json → Json → Prop} {left right : Option Json}

theorem exists_iff_of_rel (h : Option.Rel r left right) :
    (∃ value, left = some value) ↔ ∃ other, right = some other := by
  cases h <;> simp

theorem rel_or {left' right' : Option Json} (h : Option.Rel r left right)
    (h' : Option.Rel r left' right') : Option.Rel r (left.or left') (right.or right') := by
  cases h with
  | none => exact h'
  | some hvalue => exact .some hvalue

theorem rel_bind {f g : Json → Option Json} (h : Option.Rel r left right)
    (hf : ∀ x y, r x y → Option.Rel r (f x) (g y)) :
    Option.Rel r (left.bind f) (right.bind g) := by
  cases h with
  | none => exact .none
  | some hvalue => exact hf _ _ hvalue

theorem rel_map {f g : Json → Json} (h : Option.Rel r left right)
    (hf : ∀ x ∈ left, ∀ y ∈ right, r x y → r (f x) (g y)) :
    Option.Rel r (left.map f) (right.map g) := by
  cases h with
  | none => exact .none
  | some hvalue => exact .some (hf _ rfl _ rfl hvalue)

end Values

namespace Json

theorem same_object_iff {entries others : Entries Json} :
    Same (.object entries) (.object others) ↔
      ∀ name, Option.Rel Same (entries.get? name) (others.get? name) := by
  constructor
  · rintro (_ | _ | _ | _ | _ | ⟨hnames, hvalues⟩) name
    cases hleft : entries.get? name with
    | none =>
      have hother : name ∉ others.names := fun h =>
        Entries.get?_eq_none_iff.mp hleft ((hnames name).mpr h)
      rw [Entries.get?_eq_none_iff.mpr hother]
      exact .none
    | some value =>
      have hname := (hnames name).mp (Entries.exists_get?_iff.mp ⟨value, hleft⟩)
      obtain ⟨other, hright⟩ := Entries.exists_get?_iff.mpr hname
      rw [hright]
      exact .some (hvalues name value other hleft hright)
  · intro h
    refine .object (fun name => ?_) (fun name value other hleft hright => ?_)
    · rw [← Entries.exists_get?_iff, ← Entries.exists_get?_iff]
      exact exists_iff_of_rel (h name)
    · have hsame := h name
      rw [hleft, hright] at hsame
      cases hsame with
      | some hsame => exact hsame

namespace Same

variable {a b : Json}

theorem get? (h : Same a b) (name : String) : Option.Rel Same (a.get? name) (b.get? name) := by
  cases h with
  | object names values => exact same_object_iff.mp (.object names values) name
  | _ => exact .none

theorem rel_symm {left right : Option Json} (h : Option.Rel Same left right) :
    Option.Rel Same right left := by
  cases h with
  | none => exact .none
  | some hsame => exact .some hsame.symm

theorem rel_trans {left middle right : Option Json} (h : Option.Rel Same left middle)
    (h' : Option.Rel Same middle right) : Option.Rel Same left right := by
  cases h with
  | none => exact h'
  | some hsame =>
    cases h' with
    | some hsame' => exact .some (hsame.trans hsame')

/-- A path leads to the same on both sides. -/
theorem follow (h : Same a b) (path : List String) :
    Option.Rel Same (Settings.follow path a) (Settings.follow path b) := by
  induction path generalizing a b with
  | nil => exact .some h
  | cons name rest ih => exact rel_bind (h.get? name) fun x y hxy => ih hxy

theorem withoutAnalysis (h : Same a b) (ha : a.hasDistinctNames = true)
    (hb : b.hasDistinctNames = true) : Same a.withoutAnalysis b.withoutAnalysis := by
  cases h with
  | object names values =>
    have hentries := nodup_names ha
    have hothers := nodup_names hb
    refine same_object_iff.mpr fun name => ?_
    by_cases hname : name = "analysis"
    · subst hname
      rw [Entries.get?_swapRemove_self hentries, Entries.get?_swapRemove_self hothers]
      exact .none
    · rw [Entries.get?_swapRemove_of_ne hentries hname, Entries.get?_swapRemove_of_ne hothers hname]
      exact same_object_iff.mp (.object names values) name
  | null => exact .null
  | bool value => exact .bool value
  | number h => exact .number h
  | string value => exact .string value
  | array positions h => exact .array positions h

end Same

end Json

open Json (Same)

/-- Settings that say the same say the same when they are normalized. -/
theorem Settings.same_normalize {settings others : Entries Json}
    (h : Same (.object settings) (.object others))
    (hsettings : (Json.object settings).hasDistinctNames = true)
    (hothers : (Json.object others).hasDistinctNames = true) :
    Same (.object (normalize settings)) (.object (normalize others)) := by
  have hmember := Json.same_object_iff.mp h
  refine Json.same_object_iff.mpr fun name => ?_
  by_cases hanalysis : name = "analysis"
  · subst hanalysis
    have hindex : Option.Rel Same (indexAnalysis settings) (indexAnalysis others) :=
      rel_bind (hmember "index") fun x y hxy => hxy.get? "analysis"
    rw [get?_normalize_analysis, get?_normalize_analysis]
    exact rel_or (hmember "analysis") hindex
  · by_cases hindex : name = "index"
    · subst hindex
      rw [get?_normalize_index, get?_normalize_index]
      exact rel_map (hmember "index") fun x hx y hy hxy => hxy.withoutAnalysis
        (Json.hasDistinctNames_of_get? hsettings hx) (Json.hasDistinctNames_of_get? hothers hy)
    · rw [get?_normalize_of_ne settings hanalysis hindex,
        get?_normalize_of_ne others hanalysis hindex]
      exact hmember name

end DocumentSearch
