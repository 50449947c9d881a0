import Mathlib.Data.Finset.Card
import Mathlib.Data.List.Induction
import DocumentSearch.Proofs.Entries

/-!
Values put under names one after another, whatever was put before. Each name is left once, where it
was put first, with the value that was put last.
-/

namespace DocumentSearch.Entries

variable {α : Type}

/-- The entry that is found under a name. -/
def lastEntry (entries : Entries α) (name : String) : Option (String × α) :=
  (entries.get? name).map fun value => (name, value)

/-- Each name once, in the order of first occurrences, with the value of its last occurrence. -/
def settled (pairs : List (String × α)) : Entries α :=
  (names pairs).eraseDups.filterMap (lastEntry pairs.reverse)

theorem ofPairs_concat (pairs : List (String × α)) (pair : String × α) :
    ofPairs (pairs ++ [pair]) = (ofPairs pairs).put pair.1 pair.2 := by
  rw [ofPairs, List.foldl_concat]
  rfl

theorem eraseDups_concat (names : List String) (name : String) :
    (names ++ [name]).eraseDups =
      if name ∈ names then names.eraseDups else names.eraseDups ++ [name] := by
  rw [List.eraseDups_append]
  by_cases h : name ∈ names <;> simp [List.removeAll, List.eraseDups_cons, h]

theorem names_ofPairs (pairs : List (String × α)) :
    (ofPairs pairs).names = (names pairs).eraseDups := by
  induction pairs using List.reverseRecOn with
  | nil => rfl
  | append_singleton pairs pair ih =>
    rw [ofPairs_concat, names_put, ih, names_concat, eraseDups_concat]
    simp only [List.mem_eraseDups]

theorem get?_ofPairs (pairs : List (String × α)) (name : String) :
    (ofPairs pairs).get? name = get? pairs.reverse name := by
  induction pairs using List.reverseRecOn with
  | nil => rfl
  | append_singleton pairs pair ih =>
    obtain ⟨key, value⟩ := pair
    rw [ofPairs_concat, List.reverse_concat, get?_cons]
    by_cases hkey : key = name
    · subst key
      rw [get?_put_self, if_pos rfl]
    · rw [get?_put_of_ne _ _ (Ne.symm hkey), ih, if_neg hkey]

theorem nodup_names_ofPairs (pairs : List (String × α)) : (ofPairs pairs).names.Nodup := by
  induction pairs using List.reverseRecOn with
  | nil => exact List.nodup_nil
  | append_singleton pairs pair ih =>
    rw [ofPairs_concat]
    exact nodup_names_put ih pair.1 pair.2

theorem lastEntry_cons_self (name : String) (value : α) (rest : Entries α) :
    lastEntry ((name, value) :: rest) name = some (name, value) := by
  rw [lastEntry, get?_cons, if_pos rfl]
  rfl

theorem lastEntry_cons_of_ne {key name : String} (value : α) (rest : Entries α) (h : key ≠ name) :
    lastEntry ((key, value) :: rest) name = lastEntry rest name := by
  rw [lastEntry, get?_cons, if_neg h]
  rfl

/-- Entries of distinct names are what their names and their lookups say. -/
theorem filterMap_names_lastEntry {entries : Entries α} (h : entries.names.Nodup) :
    entries.names.filterMap (lastEntry entries) = entries := by
  induction entries with
  | nil => rfl
  | cons first rest ih =>
    obtain ⟨key, value⟩ := first
    rw [names_cons, List.nodup_cons] at h
    have hrest : ∀ name ∈ names rest, lastEntry ((key, value) :: rest) name = lastEntry rest name :=
      fun name hname => lastEntry_cons_of_ne value rest fun heq => h.1 (heq ▸ hname)
    rw [names_cons, List.filterMap_cons_some (lastEntry_cons_self key value rest),
      List.filterMap_congr hrest, ih h.2]

/-- What is left when pairs have been put one after another. -/
theorem ofPairs_eq_settled (pairs : List (String × α)) : ofPairs pairs = settled pairs := by
  have hlookups : lastEntry (ofPairs pairs) = lastEntry pairs.reverse := by
    funext name
    rw [lastEntry, get?_ofPairs, lastEntry]
  rw [settled, ← names_ofPairs, ← hlookups, filterMap_names_lastEntry (nodup_names_ofPairs pairs)]

theorem mem_ofPairs {pairs : List (String × α)} {entry : String × α} (h : entry ∈ ofPairs pairs) :
    entry ∈ pairs := by
  induction pairs using List.reverseRecOn with
  | nil => exact h
  | append_singleton pairs pair ih =>
    rw [ofPairs_concat] at h
    rcases mem_put h with rfl | hold
    · exact List.mem_concat_self
    · exact List.mem_append_left _ (ih hold)

/-- Nothing is replaced if no name comes twice. -/
theorem ofPairs_of_nodup {pairs : List (String × α)} (h : (names pairs).Nodup) :
    ofPairs pairs = pairs := by
  induction pairs using List.reverseRecOn with
  | nil => rfl
  | append_singleton pairs pair ih =>
    obtain ⟨name, value⟩ := pair
    rw [names_concat, List.nodup_append] at h
    obtain ⟨hpairs, -, hnew⟩ := h
    have hname : name ∉ names pairs := fun hmem => hnew name hmem name List.mem_cons_self rfl
    rw [ofPairs_concat, ih hpairs, put_of_notMem hname]

/-- The first pair of a name is found. -/
theorem get?_eq_some_iff_append {entries : Entries α} {name : String} {value : α} :
    entries.get? name = some value ↔
      ∃ before after, entries = before ++ (name, value) :: after ∧ name ∉ names before := by
  constructor
  · intro h
    induction entries with
    | nil => simp [get?] at h
    | cons first rest ih =>
      obtain ⟨key, old⟩ := first
      rw [get?_cons] at h
      by_cases hkey : key = name
      · rw [if_pos hkey, Option.some.injEq] at h
        exact ⟨[], rest, by rw [hkey, h, List.nil_append], List.not_mem_nil⟩
      · rw [if_neg hkey] at h
        obtain ⟨before, after, rfl, hbefore⟩ := ih h
        refine ⟨(key, old) :: before, after, rfl, ?_⟩
        rw [names_cons, List.mem_cons, not_or]
        exact ⟨Ne.symm hkey, hbefore⟩
  · rintro ⟨before, after, rfl, hbefore⟩
    rw [get?_append, get?_eq_none_iff.mpr hbefore, get?_cons, if_pos rfl]
    rfl

/-- From the end, the last pair of a name is found. -/
theorem get?_reverse_eq_some_iff {pairs : List (String × α)} {name : String} {value : α} :
    get? pairs.reverse name = some value ↔
      ∃ before after, pairs = before ++ (name, value) :: after ∧ name ∉ names after := by
  have hnames : ∀ others : List (String × α), name ∉ names others.reverse ↔ name ∉ names others :=
    fun others => by simp [names]
  rw [get?_eq_some_iff_append]
  constructor
  · rintro ⟨before, after, hpairs, hbefore⟩
    refine ⟨after.reverse, before.reverse, ?_, (hnames before).mpr hbefore⟩
    rw [← List.reverse_reverse pairs, hpairs, List.reverse_append, List.reverse_cons,
      List.append_assoc, List.singleton_append]
  · rintro ⟨before, after, rfl, hafter⟩
    refine ⟨after.reverse, before.reverse, ?_, (hnames after).mpr hafter⟩
    rw [List.reverse_append, List.reverse_cons, List.append_assoc, List.singleton_append]

/-- Entries that have each name of the pairs once, in the order in which the names came first, with
the value that came last. -/
structure OrdersLast (pairs : List (String × α)) (entries : Entries α) : Prop where
  distinct : entries.names.Nodup
  order : entries.names = (names pairs).eraseDups
  found : ∀ name value, entries.get? name = some value ↔
    ∃ before after, pairs = before ++ (name, value) :: after ∧ name ∉ names after
  notFound : ∀ name, entries.get? name = none ↔ name ∉ names pairs
  length : entries.length = (names pairs).toFinset.card
  paired : ∀ entry ∈ entries, entries.get? entry.1 = some entry.2

theorem ordersLast_ofPairs (pairs : List (String × α)) : OrdersLast pairs (ofPairs pairs) where
  distinct := nodup_names_ofPairs pairs
  order := names_ofPairs pairs
  found name value := by rw [get?_ofPairs, get?_reverse_eq_some_iff]
  notFound name := by rw [get?_eq_none_iff, names_ofPairs, List.mem_eraseDups]
  length := by
    have hnames : (names pairs).toFinset = (ofPairs pairs).names.toFinset := by
      ext name
      rw [List.mem_toFinset, List.mem_toFinset, names_ofPairs, List.mem_eraseDups]
    rw [hnames, List.toFinset_card_of_nodup (nodup_names_ofPairs pairs), length_names]
  paired _ hentry := get?_of_mem (nodup_names_ofPairs pairs) hentry

end DocumentSearch.Entries
