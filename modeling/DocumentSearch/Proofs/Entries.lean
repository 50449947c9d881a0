import Mathlib.Data.List.Basic
import Mathlib.Data.List.Nodup
import Mathlib.Data.List.Perm.Subperm
import DocumentSearch.Entries

/-!
Lookups in entries. A name has a value exactly when it is among the names, and when the names are
distinct that value is the only one that stands under it. Of two lists of distinct names, one
inside the other, both have the same names exactly when they are of the same length.
-/

namespace DocumentSearch.Entries

variable {α : Type}

theorem mem_names {entries : Entries α} {name : String} :
    name ∈ entries.names ↔ ∃ value, (name, value) ∈ entries := by
  simp [names]

theorem names_cons (entry : String × α) (entries : Entries α) :
    names (entry :: entries) = entry.1 :: entries.names := rfl

theorem length_names (entries : Entries α) : entries.names.length = entries.length := by
  simp [names]

theorem get?_cons (key : String) (old : α) (rest : Entries α) (name : String) :
    get? ((key, old) :: rest) name = if key = name then some old else get? rest name := rfl

theorem get?_append (entries others : Entries α) (name : String) :
    get? (entries ++ others) name = (entries.get? name).or (others.get? name) := by
  induction entries with
  | nil => rfl
  | cons first rest ih =>
    obtain ⟨key, value⟩ := first
    rw [List.cons_append, get?_cons, get?_cons, ih]
    split <;> rfl

theorem get?_insert_of_ne (front back : Entries α) {key name : String} (value : α)
    (h : key ≠ name) : get? (front ++ (key, value) :: back) name = get? (front ++ back) name := by
  rw [get?_append, get?_append, get?_cons, if_neg h]

theorem mem_of_get? {entries : Entries α} {name : String} {value : α}
    (h : entries.get? name = some value) : (name, value) ∈ entries := by
  induction entries with
  | nil => simp [get?] at h
  | cons entry rest ih =>
    obtain ⟨key, old⟩ := entry
    rw [get?_cons] at h
    by_cases hkey : key = name
    · subst key
      rw [if_pos rfl] at h
      simp [Option.some.inj h]
    · rw [if_neg hkey] at h
      exact List.mem_cons_of_mem _ (ih h)

theorem get?_eq_none_iff {entries : Entries α} {name : String} :
    entries.get? name = none ↔ name ∉ entries.names := by
  induction entries with
  | nil => simp [get?, names]
  | cons entry rest ih =>
    obtain ⟨key, value⟩ := entry
    rw [get?_cons, names_cons]
    by_cases hkey : key = name
    · simp [hkey]
    · have hname : name ≠ key := Ne.symm hkey
      simpa [hkey, hname] using ih

theorem exists_get?_iff {entries : Entries α} {name : String} :
    (∃ value, entries.get? name = some value) ↔ name ∈ entries.names := by
  rw [← not_iff_not, ← get?_eq_none_iff, Option.eq_none_iff_forall_ne_some, not_exists]

/-- A filter that keeps every entry of a name does not change what is found under it. -/
theorem get?_filter (entries : Entries α) {test : String × α → Bool} {name : String}
    (h : ∀ value, test (name, value) = true) :
    get? (entries.filter test) name = entries.get? name := by
  induction entries with
  | nil => rfl
  | cons entry rest ih =>
    obtain ⟨key, value⟩ := entry
    rw [get?_cons]
    by_cases hkey : key = name
    · subst hkey
      rw [List.filter_cons_of_pos (h value), get?_cons, if_pos rfl, if_pos rfl]
    · rw [if_neg hkey, ← ih, List.filter_cons]
      split
      · rw [get?_cons, if_neg hkey]
      · rfl

/-- A value that is there and has a property, if it is there at all. -/
theorem exists_get?_and_iff {entries : Entries α} {name : String} {p : α → Prop} :
    (∃ value, entries.get? name = some value ∧ p value) ↔
      name ∈ entries.names ∧ ∀ value, entries.get? name = some value → p value := by
  rw [← exists_get?_iff]
  constructor
  · rintro ⟨value, hvalue, hp⟩
    refine ⟨⟨value, hvalue⟩, fun other hother => ?_⟩
    rwa [Option.some.inj (hother.symm.trans hvalue)]
  · rintro ⟨⟨value, hvalue⟩, h⟩
    exact ⟨value, hvalue, h value hvalue⟩

theorem contains_iff {entries : Entries α} {name : String} :
    entries.contains name = true ↔ name ∈ entries.names := by
  rw [contains, Option.isSome_iff_exists, exists_get?_iff]

/-- With distinct names, every entry is found under its name. -/
theorem get?_of_mem {entries : Entries α} {name : String} {value : α}
    (hnames : entries.names.Nodup) (h : (name, value) ∈ entries) :
    entries.get? name = some value := by
  obtain ⟨found, hfound⟩ := exists_get?_iff.mpr (mem_names.mpr ⟨value, h⟩)
  have heq : (name, found) = (name, value) :=
    List.inj_on_of_nodup_map hnames (mem_of_get? hfound) h rfl
  rw [hfound, (Prod.mk.inj heq).2]

theorem names_subset_of_forall_get? {β : Type} {entries : Entries α} {others : Entries β}
    (h : ∀ entry ∈ entries, ∃ other, others.get? entry.1 = some other) :
    entries.names ⊆ others.names := by
  intro name hname
  obtain ⟨value, hmem⟩ := mem_names.mp hname
  exact exists_get?_iff.mp (h _ hmem)

/-- Among distinct names, as many names as the others that contain them are all of them. -/
theorem length_eq_iff_names_subset {β : Type} {inner : Entries α} {outer : Entries β}
    (hinner : inner.names.Nodup) (houter : outer.names.Nodup)
    (hsub : inner.names ⊆ outer.names) :
    inner.length = outer.length ↔ outer.names ⊆ inner.names := by
  rw [← length_names inner, ← length_names outer]
  constructor
  · intro hlength
    exact ((hinner.subperm hsub).perm_of_length_le (by omega)).symm.subset
  · intro hback
    exact Nat.le_antisymm (hinner.subperm hsub).length_le (houter.subperm hback).length_le

theorem names_perm {entries others : Entries α} (h : entries.Perm others) :
    entries.names.Perm others.names := h.map Prod.fst

theorem mem_put {entries : Entries α} {name : String} {value : α} {entry : String × α}
    (h : entry ∈ entries.put name value) : entry = (name, value) ∨ entry ∈ entries := by
  induction entries with
  | nil => simpa [put] using h
  | cons first rest ih =>
    obtain ⟨key, old⟩ := first
    rw [put] at h
    by_cases hkey : key = name
    · rw [if_pos hkey, List.mem_cons, hkey] at h
      exact h.imp_right (List.mem_cons_of_mem _)
    · rw [if_neg hkey, List.mem_cons] at h
      rcases h with hfirst | hrest
      · exact Or.inr (hfirst ▸ List.mem_cons_self)
      · exact (ih hrest).imp_right (List.mem_cons_of_mem _)

theorem names_put (entries : Entries α) (name : String) (value : α) :
    (entries.put name value).names =
      if name ∈ entries.names then entries.names else entries.names ++ [name] := by
  induction entries with
  | nil => simp [put, names]
  | cons first rest ih =>
    obtain ⟨key, old⟩ := first
    rw [put]
    by_cases hkey : key = name
    · simp [names_cons, hkey]
    · have hname : name ≠ key := Ne.symm hkey
      rw [if_neg hkey, names_cons, ih, names_cons]
      by_cases hrest : name ∈ names rest <;> simp [hrest, hname]

theorem nodup_names_put {entries : Entries α} (h : entries.names.Nodup) (name : String)
    (value : α) : (entries.put name value).names.Nodup := by
  rw [names_put]
  split
  · exact h
  · rename_i hname
    exact List.nodup_append.mpr ⟨h, List.nodup_singleton name, by
      rintro other hother _ hsingle heq
      rw [List.mem_singleton.mp hsingle] at heq
      exact hname (heq ▸ hother)⟩

theorem lastToFront_perm (entries : Entries α) : (lastToFront entries).Perm entries := by
  unfold lastToFront
  cases hlast : entries.getLast? with
  | none => rw [List.getLast?_eq_none_iff.mp hlast]
  | some last =>
    have hsplit : entries.dropLast ++ [last] = entries := List.dropLast_append_getLast? last hlast
    have hperm : (last :: entries.dropLast).Perm (entries.dropLast ++ [last]) :=
      (List.perm_append_singleton last entries.dropLast).symm
    exact hperm.trans (List.Perm.of_eq hsplit)

theorem erase_of_notMem {entries : Entries α} {name : String} (h : name ∉ entries.names) :
    entries.erase name = entries := by
  refine List.filter_eq_self.mpr fun entry hentry => ?_
  have hne : entry.1 ≠ name := fun heq => h (mem_names.mpr ⟨entry.2, heq ▸ hentry⟩)
  simp [hne]

/-- Filling the gap with the last entry reorders what is left and nothing else. -/
theorem swapRemove_perm_erase {entries : Entries α} (hnames : entries.names.Nodup)
    (name : String) : (entries.swapRemove name).Perm (entries.erase name) := by
  induction entries with
  | nil => exact List.Perm.refl _
  | cons first rest ih =>
    obtain ⟨key, value⟩ := first
    rw [names_cons, List.nodup_cons] at hnames
    by_cases hkey : key = name
    · subst key
      have herase : erase ((name, value) :: rest) name = rest := by
        rw [erase, List.filter_cons_of_neg (by simp)]
        exact erase_of_notMem hnames.1
      rw [swapRemove, if_pos rfl, herase]
      exact lastToFront_perm rest
    · have herase : erase ((key, value) :: rest) name = (key, value) :: erase rest name := by
        rw [erase, List.filter_cons_of_pos (by simpa using hkey)]
        rfl
      rw [swapRemove, if_neg hkey, herase]
      exact (ih hnames.2).cons _

theorem get?_put_self (entries : Entries α) (name : String) (value : α) :
    (entries.put name value).get? name = some value := by
  induction entries with
  | nil => rw [put, get?_cons, if_pos rfl]
  | cons first rest ih =>
    obtain ⟨key, old⟩ := first
    rw [put]
    by_cases hkey : key = name
    · rw [if_pos hkey, get?_cons, if_pos hkey]
    · rw [if_neg hkey, get?_cons, if_neg hkey, ih]

theorem get?_put_of_ne (entries : Entries α) {name key : String} (value : α)
    (h : key ≠ name) : (entries.put name value).get? key = entries.get? key := by
  induction entries with
  | nil => rw [put, get?_cons, if_neg (Ne.symm h)]
  | cons first rest ih =>
    obtain ⟨other, old⟩ := first
    rw [put]
    by_cases hother : other = name
    · have hkey : other ≠ key := fun heq => h (heq.symm.trans hother)
      rw [if_pos hother, get?_cons, get?_cons, if_neg hkey, if_neg hkey]
    · rw [if_neg hother, get?_cons, get?_cons, ih]

theorem get?_putNew_self (entries : Entries α) (name : String) (value : α) :
    (entries.putNew name value).get? name = (entries.get? name).or (some value) := by
  unfold putNew contains
  cases hname : entries.get? name with
  | none => simp [get?_put_self]
  | some old => simp [hname]

theorem get?_putNew_of_ne (entries : Entries α) {name key : String} (value : α)
    (h : key ≠ name) : (entries.putNew name value).get? key = entries.get? key := by
  unfold putNew
  split
  · rfl
  · exact get?_put_of_ne entries value h

/-- With distinct names, lookups do not depend on the order. -/
theorem get?_of_perm {entries others : Entries α} (hnames : entries.names.Nodup)
    (h : entries.Perm others) (name : String) : others.get? name = entries.get? name := by
  cases hname : entries.get? name with
  | none =>
    rw [get?_eq_none_iff] at hname ⊢
    exact fun hother => hname ((names_perm h).symm.subset hother)
  | some value =>
    exact get?_of_mem ((names_perm h).nodup hnames) (h.subset (mem_of_get? hname))

theorem get?_erase_self (entries : Entries α) (name : String) :
    (entries.erase name).get? name = none := by
  rw [get?_eq_none_iff, mem_names]
  rintro ⟨value, hmem⟩
  simpa using (List.mem_filter.mp hmem).2

theorem get?_erase_of_ne (entries : Entries α) {name key : String} (h : key ≠ name) :
    (entries.erase name).get? key = entries.get? key := by
  induction entries with
  | nil => rfl
  | cons first rest ih =>
    obtain ⟨other, value⟩ := first
    rw [erase] at ih ⊢
    by_cases hother : other = name
    · have hkey : other ≠ key := fun heq => h (heq.symm.trans hother)
      rw [List.filter_cons_of_neg (by simpa using hother), ih, get?_cons, if_neg hkey]
    · rw [List.filter_cons_of_pos (by simpa using hother), get?_cons, get?_cons, ih]

theorem nodup_names_erase {entries : Entries α} (h : entries.names.Nodup) (name : String) :
    (entries.erase name).names.Nodup :=
  h.sublist (List.filter_sublist.map Prod.fst)

theorem get?_swapRemove_self {entries : Entries α} (hnames : entries.names.Nodup)
    (name : String) : (entries.swapRemove name).get? name = none := by
  rw [get?_of_perm (nodup_names_erase hnames name) (swapRemove_perm_erase hnames name).symm,
    get?_erase_self]

theorem get?_swapRemove_of_ne {entries : Entries α} (hnames : entries.names.Nodup)
    {name key : String} (h : key ≠ name) :
    (entries.swapRemove name).get? key = entries.get? key := by
  rw [get?_of_perm (nodup_names_erase hnames name) (swapRemove_perm_erase hnames name).symm,
    get?_erase_of_ne entries h]

theorem get?_swapRemove {entries : Entries α} (hnames : entries.names.Nodup)
    (name key : String) :
    (entries.swapRemove name).get? key = if key = name then none else entries.get? key := by
  split
  case isTrue h => rw [h, get?_swapRemove_self hnames]
  case isFalse h => exact get?_swapRemove_of_ne hnames h

theorem put_of_get? {entries : Entries α} {name : String} {value : α}
    (h : entries.get? name = some value) : entries.put name value = entries := by
  induction entries with
  | nil => simp [get?] at h
  | cons first rest ih =>
    obtain ⟨key, old⟩ := first
    rw [get?_cons] at h
    rw [put]
    by_cases hkey : key = name
    · rw [if_pos hkey] at h ⊢
      rw [Option.some.inj h]
    · rw [if_neg hkey] at h ⊢
      rw [ih h]

theorem swapRemove_of_get?_eq_none {entries : Entries α} {name : String}
    (h : entries.get? name = none) : entries.swapRemove name = entries := by
  induction entries with
  | nil => rfl
  | cons first rest ih =>
    obtain ⟨key, value⟩ := first
    rw [get?_cons] at h
    by_cases hkey : key = name
    · rw [if_pos hkey] at h
      contradiction
    · rw [if_neg hkey] at h
      rw [swapRemove, if_neg hkey, ih h]

theorem put_of_notMem {entries : Entries α} {name : String} (h : name ∉ entries.names)
    (value : α) : entries.put name value = entries ++ [(name, value)] := by
  induction entries with
  | nil => rfl
  | cons first rest ih =>
    obtain ⟨key, old⟩ := first
    rw [names_cons, List.mem_cons, not_or] at h
    rw [put, if_neg (Ne.symm h.1), ih h.2, List.cons_append]

theorem names_concat (entries : Entries α) (key : String) (value : α) :
    names (entries ++ [(key, value)]) = entries.names ++ [key] := by
  simp [names]

end DocumentSearch.Entries
