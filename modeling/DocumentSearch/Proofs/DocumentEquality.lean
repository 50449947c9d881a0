import DocumentSearch.Index.Equality
import DocumentSearch.Proofs.Documents
import DocumentSearch.Proofs.NumericEquality
import DocumentSearch.Proofs.Pairing

/-!
Equality of documents up to order is an equivalence that ignores the order of members and items at
any depth. The comparison takes partners for the items of an array greedily; it is right to do so
only because the relation on the items is symmetric and transitive, which is shown first.
-/

namespace DocumentSearch.Json

/-- Documents that say the same: equal scalars, objects with the same names and the same under
each name, and arrays with a bijection between their positions. -/
inductive Same : Json → Json → Prop
  | null : Same .null .null
  | bool (value : Bool) : Same (.bool value) (.bool value)
  | number {m n : Number} (h : Number.Same m n) : Same (.number m) (.number n)
  | string (value : String) : Same (.string value) (.string value)
  | array {items others : List Json} (positions : Fin items.length ≃ Fin others.length)
      (h : ∀ i, Same (items.get i) (others.get (positions i))) : Same (.array items) (.array others)
  | object {entries others : Entries Json}
      (names : ∀ name, name ∈ entries.names ↔ name ∈ others.names)
      (values : ∀ name value other, entries.get? name = some value →
        others.get? name = some other → Same value other) : Same (.object entries) (.object others)

namespace Same

theorem symm {a b : Json} (h : Same a b) : Same b a := by
  induction h with
  | null => exact null
  | bool value => exact bool value
  | number h => exact number h.symm
  | string value => exact string value
  | array positions h ih =>
    refine array positions.symm fun i => ?_
    have hpair := ih (positions.symm i)
    rwa [Equiv.apply_symm_apply] at hpair
  | object names values ih =>
    exact object (fun name => (names name).symm)
      fun name value other hvalue hother => ih name other value hother hvalue

theorem trans {a b c : Json} (h : Same a b) (h' : Same b c) : Same a c := by
  induction h generalizing c with
  | null => exact h'
  | bool value => exact h'
  | number h =>
    cases h' with
    | number h' => exact number (h.trans h')
  | string value => exact h'
  | array positions h ih =>
    cases h' with
    | array positions' h' =>
      exact array (positions.trans positions') fun i => ih i (h' (positions i))
  | object names values ih =>
    cases h' with
    | object names' values' =>
      refine object (fun name => (names name).trans (names' name)) ?_
      intro name value other hvalue hother
      have hname := (names name).mp (Entries.exists_get?_iff.mp ⟨value, hvalue⟩)
      obtain ⟨middle, hmiddle⟩ := Entries.exists_get?_iff.mpr hname
      exact ih name value middle hvalue hmiddle (values' name middle other hmiddle hother)

theorem refl {a : Json} (h : a.isNaNFree = true) : Same a a := by
  induction a using Json.induction with
  | null => exact null
  | bool value => exact bool value
  | number value =>
    cases value with
    | natural n => exact number (.natural n)
    | negative below => exact number (.negative below)
    | float x =>
      have hx : x.isNaN = false := by simpa [isNaNFree, everywhere, ownNumberDefined] using h
      exact number (.float hx hx rfl)
  | string value => exact string value
  | array items ih =>
    exact array (Equiv.refl _) fun i =>
      ih _ (List.get_mem items i) (isNaNFree_array_iff.mp h _ (List.get_mem items i))
  | object entries ih =>
    refine object (fun name => Iff.rfl) ?_
    intro name value other hvalue hother
    have heq : value = other := Option.some.inj (hvalue.symm.trans hother)
    subst other
    have hmem := Entries.mem_of_get? hvalue
    exact ih _ hmem (isNaNFree_object_iff.mp h _ hmem)

end Same

theorem equivalentEntries_iff {entries : List (String × Json)} {others : Entries Json} :
    equivalentEntries entries others = true ↔
      ∀ entry ∈ entries, ∃ other, others.get? entry.1 = some other ∧
        entry.2.equivalent other = true := by
  induction entries with
  | nil => simp [equivalentEntries]
  | cons entry rest ih =>
    obtain ⟨name, value⟩ := entry
    rw [equivalentEntries, Bool.and_eq_true, ih, List.forall_mem_cons]
    cases hother : others.get? name with
    | none => simp
    | some other => simp

/-- The greedy choice of partners is complete, as the items are compared by an equivalence. -/
theorem equivalentItems_iff {items others : List Json}
    (hitems : ∀ item ∈ items, ∀ other : Json, other.hasDistinctNames = true →
      (item.equivalent other = true ↔ Same item other))
    (hothers : ∀ other ∈ others, other.hasDistinctNames = true) :
    equivalentItems items others = true ↔ PairsUp Same items others := by
  induction items generalizing others with
  | nil => rw [equivalentItems, PairsUp.nil_iff, List.isEmpty_iff]
  | cons item items ih =>
    have hitem := hitems item List.mem_cons_self
    rw [equivalentItems]
    cases htaken : takeFirst (equivalent item) others with
    | none =>
      have hnone := takeFirst_eq_none_iff.mp htaken
      constructor
      · intro h
        simp at h
      · intro h
        obtain ⟨partner, hpartner, hsame⟩ := h.exists_partner
        have hfits := (hitem partner (hothers partner hpartner)).mpr hsame
        rw [hnone partner hpartner] at hfits
        exact hfits
    | some rest =>
      obtain ⟨partner, hpartner, hperm⟩ := perm_of_takeFirst htaken
      have hmem : ∀ other ∈ partner :: rest, other.hasDistinctNames = true :=
        fun other hother => hothers other (hperm.symm.subset hother)
      have hsame := (hitem partner (hmem partner List.mem_cons_self)).mp hpartner
      have hrest := ih (fun item h => hitems item (List.mem_cons_of_mem _ h))
        (fun other h => hmem other (List.mem_cons_of_mem _ h))
      constructor
      · intro h
        exact PairsUp.cons hsame (hrest.mp h) hperm
      · intro h
        exact hrest.mpr (h.tail_of_partner (fun _ _ hab => hab.symm)
          (fun _ _ _ hab hbc => hab.trans hbc) hsame hperm)

/-- Looking up the members of one side only is enough: there are as many on the other. -/
theorem equivalent_object_iff {entries others : Entries Json}
    (hentries : (Json.object entries).hasDistinctNames = true)
    (hothers : (Json.object others).hasDistinctNames = true) :
    (Json.object entries).equivalent (.object others) = true ↔
      (∀ name, name ∈ entries.names ↔ name ∈ others.names) ∧
        ∀ name value other, entries.get? name = some value → others.get? name = some other →
          value.equivalent other = true := by
  have hnames := nodup_names hentries
  have hotherNames := nodup_names hothers
  rw [equivalent, Bool.and_eq_true, beq_iff_eq, equivalentEntries_iff]
  constructor
  · rintro ⟨hlength, hvalues⟩
    have hsub : Entries.names entries ⊆ others.names :=
      Entries.names_subset_of_forall_get? fun entry hentry =>
        (hvalues entry hentry).imp fun _ hother => hother.1
    have hback := (Entries.length_eq_iff_names_subset hnames hotherNames hsub).mp hlength
    refine ⟨fun name => ⟨fun h => hsub h, fun h => hback h⟩, ?_⟩
    intro name value other hvalue hother
    obtain ⟨found, hfound, hequivalent⟩ := hvalues _ (Entries.mem_of_get? hvalue)
    rw [Option.some.inj (hother.symm.trans hfound)]
    exact hequivalent
  · rintro ⟨hsame, hvalues⟩
    refine ⟨(Entries.length_eq_iff_names_subset hnames hotherNames
      fun name h => (hsame name).mp h).mpr fun name h => (hsame name).mpr h, ?_⟩
    intro entry hentry
    have hname := (hsame entry.1).mp (Entries.mem_names.mpr ⟨entry.2, hentry⟩)
    obtain ⟨other, hother⟩ := Entries.exists_get?_iff.mpr hname
    exact ⟨other, hother, hvalues entry.1 entry.2 other (Entries.get?_of_mem hnames hentry) hother⟩

theorem equivalent_iff_same {a b : Json} (ha : a.hasDistinctNames = true)
    (hb : b.hasDistinctNames = true) : a.equivalent b = true ↔ Same a b := by
  induction a using Json.induction generalizing b with
  | null =>
    cases b
    case null => exact iff_of_true rfl .null
    all_goals exact iff_of_false (by simp [equivalent]) nofun
  | bool value =>
    cases b
    case bool other =>
      rw [equivalent, beq_iff_eq]
      exact ⟨fun h => h ▸ .bool value, fun | .bool _ => rfl⟩
    all_goals exact iff_of_false (by simp [equivalent]) nofun
  | number value =>
    cases b
    case number other =>
      rw [equivalent, Number.equals_iff_same]
      exact ⟨fun h => .number h, fun | .number h => h⟩
    all_goals exact iff_of_false (by simp [equivalent]) nofun
  | string value =>
    cases b
    case string other =>
      rw [equivalent, beq_iff_eq]
      exact ⟨fun h => h ▸ .string value, fun | .string _ => rfl⟩
    all_goals exact iff_of_false (by simp [equivalent]) nofun
  | array items ih =>
    cases b
    case array others =>
      have hitems := hasDistinctNames_array_iff.mp ha
      rw [equivalent, equivalentItems_iff (fun item hmem _ => ih item hmem (hitems item hmem))
        (hasDistinctNames_array_iff.mp hb), PairsUp.iff_bijection]
      exact ⟨fun ⟨positions, h⟩ => .array positions h, fun | .array positions h => ⟨positions, h⟩⟩
    all_goals exact iff_of_false (by simp [equivalent]) nofun
  | object entries ih =>
    cases b
    case object others =>
      have hvalues : ∀ name value other, Entries.get? entries name = some value →
          Entries.get? others name = some other →
          (value.equivalent other = true ↔ Same value other) :=
        fun name value other hvalue hother => ih _ (Entries.mem_of_get? hvalue)
          (hasDistinctNames_of_get? ha hvalue) (hasDistinctNames_of_get? hb hother)
      rw [equivalent_object_iff ha hb]
      constructor
      · rintro ⟨hnames, h⟩
        exact .object hnames fun name value other hvalue hother =>
          (hvalues name value other hvalue hother).mp (h name value other hvalue hother)
      · rintro (_ | _ | _ | _ | _ | ⟨hnames, h⟩)
        exact ⟨hnames, fun name value other hvalue hother =>
          (hvalues name value other hvalue hother).mpr (h name value other hvalue hother)⟩
    all_goals exact iff_of_false (by simp [equivalent]) nofun

/-- Documents as they are read or built. -/
structure WellFormed (document : Json) : Prop where
  distinctNames : document.hasDistinctNames = true
  noNaN : document.isNaNFree = true

/-- Any number of reorderings of arrays and of the members of objects, at any depth. -/
inductive Reordered : Json → Json → Prop
  | refl (document : Json) : Reordered document document
  | trans {a b c : Json} (h : Reordered a b) (h' : Reordered b c) : Reordered a c
  | array {items others : List Json} (h : items.Perm others) :
      Reordered (.array items) (.array others)
  | object {entries others : Entries Json} (h : entries.Perm others) :
      Reordered (.object entries) (.object others)
  | item (front back : List Json) {item other : Json} (h : Reordered item other) :
      Reordered (.array (front ++ item :: back)) (.array (front ++ other :: back))
  | value (front back : Entries Json) (name : String) {value other : Json}
      (h : Reordered value other) :
      Reordered (.object (front ++ (name, value) :: back))
        (.object (front ++ (name, other) :: back))

namespace Reordered

/-- A test that sees no more of an object than its names, in any order, is kept. -/
theorem everywhere {test : Json → Bool}
    (harray : ∀ items others, test (.array items) = true → test (.array others) = true)
    (hobject : ∀ entries others : Entries Json, entries.names.Perm others.names →
      test (.object entries) = true → test (.object others) = true)
    {a b : Json} (h : Reordered a b) (ha : a.everywhere test = true) :
    b.everywhere test = true := by
  induction h with
  | refl document => exact ha
  | trans h h' ih ih' => exact ih' (ih ha)
  | array h =>
    rw [everywhere_array_iff] at ha ⊢
    exact ⟨harray _ _ ha.1, fun item hitem => ha.2 item (h.symm.subset hitem)⟩
  | object h =>
    rw [everywhere_object_iff] at ha ⊢
    exact ⟨hobject _ _ (Entries.names_perm h) ha.1,
      fun entry hentry => ha.2 entry (h.symm.subset hentry)⟩
  | item front back h ih =>
    rw [everywhere_array_iff, List.forall_mem_append, List.forall_mem_cons] at ha ⊢
    exact ⟨harray _ _ ha.1, ha.2.1, ih ha.2.2.1, ha.2.2.2⟩
  | value front back name h ih =>
    rw [everywhere_object_iff, List.forall_mem_append, List.forall_mem_cons] at ha ⊢
    refine ⟨hobject _ _ ?_ ha.1, ha.2.1, ih ha.2.2.1, ha.2.2.2⟩
    simp [Entries.names]

theorem hasDistinctNames {a b : Json} (h : Reordered a b) (ha : a.hasDistinctNames = true) :
    b.hasDistinctNames = true := by
  refine h.everywhere (fun _ _ _ => rfl) ?_ ha
  intro entries others hnames hentries
  exact decide_eq_true (hnames.nodup (of_decide_eq_true hentries))

theorem wellFormed {a b : Json} (h : Reordered a b) (ha : a.WellFormed) : b.WellFormed where
  distinctNames := h.hasDistinctNames ha.distinctNames
  noNaN := h.everywhere (fun _ _ _ => rfl) (fun _ _ _ _ => rfl) ha.noNaN

/-- Under distinct names the order of the members decides no lookup. -/
private theorem same_object {entries others : Entries Json} (hnames : entries.names.Nodup)
    (hperm : entries.Perm others) (hvalues : ∀ entry ∈ entries, Same entry.2 entry.2) :
    Same (.object entries) (.object others) := by
  have hall := Entries.names_perm hperm
  refine .object (fun name => hall.mem_iff) ?_
  intro name value other hvalue hother
  have hmem := hperm.symm.subset (Entries.mem_of_get? hother)
  have heq := Option.some.inj (hvalue.symm.trans (Entries.get?_of_mem hnames hmem))
  subst value
  exact hvalues _ hmem

/-- Replacing a value by one that says the same leaves an object saying the same. -/
private theorem same_value {front back : Entries Json} {name : String} {value other : Json}
    (hnames : (Entries.names (front ++ (name, value) :: back)).Nodup)
    (hvalues : ∀ entry ∈ front ++ (name, value) :: back, Same entry.2 entry.2)
    (h : Same value other) :
    Same (.object (front ++ (name, value) :: back))
      (.object (front ++ (name, other) :: back)) := by
  have hnames' : (Entries.names (front ++ (name, other) :: back)).Nodup := by
    simpa [Entries.names] using hnames
  refine .object (fun key => by simp [Entries.names]) ?_
  intro key x y hx hy
  by_cases hkey : key = name
  · subst key
    have hvalue := Entries.get?_of_mem hnames List.mem_append_cons_self
    have hother := Entries.get?_of_mem hnames' List.mem_append_cons_self
    rw [Option.some.inj (hx.symm.trans hvalue), Option.some.inj (hy.symm.trans hother)]
    exact h
  · have hmem := Entries.mem_of_get? hx
    have hmem' : (key, x) ∈ front ++ (name, other) :: back := by
      simpa [hkey] using hmem
    rw [Option.some.inj (hy.symm.trans (Entries.get?_of_mem hnames' hmem'))]
    exact hvalues _ hmem

theorem same {a b : Json} (h : Reordered a b) (ha : a.WellFormed) : Same a b := by
  induction h with
  | refl document => exact Same.refl ha.noNaN
  | trans h h' ih ih' => exact (ih ha).trans (ih' (h.wellFormed ha))
  | @array items others h =>
    have hitems : List.Forall₂ Same items items := List.forall₂_same.mpr fun item hitem =>
      Same.refl (isNaNFree_array_iff.mp ha.noNaN item hitem)
    obtain ⟨positions, hpositions⟩ := PairsUp.iff_bijection.mp ⟨items, hitems, h⟩
    exact .array positions hpositions
  | object h =>
    exact same_object (nodup_names ha.distinctNames) h
      fun entry hentry => Same.refl (isNaNFree_object_iff.mp ha.noNaN entry hentry)
  | @item front back item other h ih =>
    have hself := fun item hitem => Same.refl (isNaNFree_array_iff.mp ha.noNaN item hitem)
    have hitem : item ∈ front ++ item :: back := List.mem_append_cons_self
    have hchanged := ih
      ⟨hasDistinctNames_array_iff.mp ha.distinctNames item hitem,
        isNaNFree_array_iff.mp ha.noNaN item hitem⟩
    rw [List.forall_mem_append, List.forall_mem_cons] at hself
    have hitems : List.Forall₂ Same (front ++ item :: back) (front ++ other :: back) :=
      List.rel_append (List.forall₂_same.mpr hself.1)
        (.cons hchanged (List.forall₂_same.mpr hself.2.2))
    obtain ⟨positions, hpositions⟩ := PairsUp.iff_bijection.mp ⟨_, hitems, List.Perm.refl _⟩
    exact .array positions hpositions
  | @value front back name value other h ih =>
    have hself := fun entry hentry => Same.refl (isNaNFree_object_iff.mp ha.noNaN entry hentry)
    have hentry : (name, value) ∈ front ++ (name, value) :: back := List.mem_append_cons_self
    have hnames := hasDistinctNames_object_iff.mp ha.distinctNames
    exact same_value hnames.1 hself
      (ih ⟨hnames.2 _ hentry, isNaNFree_object_iff.mp ha.noNaN _ hentry⟩)

end Reordered

/-- The comparison decides equality up to order, which is an equivalence on well-formed documents
and relates a document to each of its reorderings. -/
theorem equivalent_is_equality_up_to_order (a b c : Json) (ha : a.WellFormed) (hb : b.WellFormed)
    (hc : c.WellFormed) :
    (a.equivalent b = true ↔ Same a b) ∧ a.equivalent a = true ∧
      (a.equivalent b = true → b.equivalent a = true) ∧
      (a.equivalent b = true → b.equivalent c = true → a.equivalent c = true) ∧
      ∀ reordered, Reordered a reordered → a.equivalent reordered = true := by
  have hab := equivalent_iff_same ha.distinctNames hb.distinctNames
  have hba := equivalent_iff_same hb.distinctNames ha.distinctNames
  have hbc := equivalent_iff_same hb.distinctNames hc.distinctNames
  have hac := equivalent_iff_same ha.distinctNames hc.distinctNames
  have haa := equivalent_iff_same ha.distinctNames ha.distinctNames
  refine ⟨hab, haa.mpr (Same.refl ha.noNaN), ?_, ?_, ?_⟩
  · intro h
    exact hba.mpr (hab.mp h).symm
  · intro h h'
    exact hac.mpr ((hab.mp h).trans (hbc.mp h'))
  · intro reordered h
    exact (equivalent_iff_same ha.distinctNames (h.wellFormed ha).distinctNames).mpr (h.same ha)

def nestedExample : Json :=
  .array [.natural 1,
    .object [("p", .array [.natural 2, .natural 1]), ("q", .number (.float (.ofMagnitude true 0)))]]

def nestedExampleReordered : Json :=
  .array [.object [("q", .number (.float .zero)), ("p", .array [.natural 1, .natural 2])],
    .natural 1]

/-- An array and an object inside it in another order, and the two zeros. -/
theorem equivalent_nestedExample :
    nestedExample.WellFormed ∧ nestedExampleReordered.WellFormed ∧
      (nestedExample.equivalent nestedExampleReordered = true ↔
        Same nestedExample nestedExampleReordered) ∧
      nestedExample.equivalent nestedExample = true ∧
      (nestedExample.equivalent nestedExampleReordered = true →
        nestedExampleReordered.equivalent nestedExample = true) ∧
      (nestedExample.equivalent nestedExampleReordered = true →
        nestedExampleReordered.equivalent nestedExample = true →
        nestedExample.equivalent nestedExample = true) ∧
      ∀ reordered, Reordered nestedExample reordered →
        nestedExample.equivalent reordered = true :=
  have hfirst : nestedExample.WellFormed := ⟨by decide, by decide⟩
  have hsecond : nestedExampleReordered.WellFormed := ⟨by decide, by decide⟩
  ⟨hfirst, hsecond, equivalent_is_equality_up_to_order nestedExample nestedExampleReordered
    nestedExample hfirst hsecond hfirst⟩

example : nestedExample.equivalent nestedExampleReordered = true := by decide

end DocumentSearch.Json
