import DocumentSearch.Json
import DocumentSearch.Proofs.Entries

/-!
Documents by induction, and properties of all documents inside a document. Documents that are read
or built have distinct names in each object and no number that is NaN; both can be evaluated.
-/

namespace DocumentSearch.Json

/-- Arrays have the property if their items do, and objects if the values of their members do. -/
@[elab_as_elim]
theorem induction {motive : Json → Prop} (null : motive .null)
    (bool : ∀ value, motive (.bool value)) (number : ∀ value, motive (.number value))
    (string : ∀ value, motive (.string value))
    (array : ∀ items, (∀ item ∈ items, motive item) → motive (.array items))
    (object : ∀ entries, (∀ entry ∈ entries, motive entry.2) → motive (.object entries))
    (document : Json) : motive document :=
  @Json.rec motive (fun items => ∀ item ∈ items, motive item)
    (fun entries => ∀ entry ∈ entries, motive entry.2) (fun entry => motive entry.2)
    null bool number string array object
    (by simp) (fun _ _ head tail => List.forall_mem_cons.mpr ⟨head, tail⟩)
    (by simp) (fun _ _ head tail => List.forall_mem_cons.mpr ⟨head, tail⟩)
    (fun _ _ value => value) document

mutual

/-- Whether the test holds of the document and of all documents inside it. -/
def everywhere (test : Json → Bool) : Json → Bool
  | .array items => test (.array items) && everyItem test items
  | .object entries => test (.object entries) && everyValue test entries
  | scalar => test scalar

def everyItem (test : Json → Bool) : List Json → Bool
  | [] => true
  | item :: rest => everywhere test item && everyItem test rest

def everyValue (test : Json → Bool) : List (String × Json) → Bool
  | [] => true
  | (_, value) :: rest => everywhere test value && everyValue test rest

end

theorem everyItem_iff {test : Json → Bool} {items : List Json} :
    everyItem test items = true ↔ ∀ item ∈ items, item.everywhere test = true := by
  induction items with
  | nil => simp [everyItem]
  | cons item rest ih => simp [everyItem, ih]

theorem everyValue_iff {test : Json → Bool} {entries : List (String × Json)} :
    everyValue test entries = true ↔ ∀ entry ∈ entries, entry.2.everywhere test = true := by
  induction entries with
  | nil => simp [everyValue]
  | cons entry rest ih => simp [everyValue, ih]

theorem everywhere_array_iff {test : Json → Bool} {items : List Json} :
    (Json.array items).everywhere test = true ↔
      test (.array items) = true ∧ ∀ item ∈ items, item.everywhere test = true := by
  rw [everywhere, Bool.and_eq_true, everyItem_iff]

theorem everywhere_object_iff {test : Json → Bool} {entries : List (String × Json)} :
    (Json.object entries).everywhere test = true ↔
      test (.object entries) = true ∧ ∀ entry ∈ entries, entry.2.everywhere test = true := by
  rw [everywhere, Bool.and_eq_true, everyValue_iff]

theorem everywhere_of_get? {test : Json → Bool} {entries : Entries Json} {name : String}
    {value : Json} (hentries : (Json.object entries).everywhere test = true)
    (h : entries.get? name = some value) : value.everywhere test = true :=
  (everywhere_object_iff.mp hentries).2 _ (Entries.mem_of_get? h)

def ownNamesDistinct : Json → Bool
  | .object entries => decide (Entries.names entries).Nodup
  | _ => true

def ownNumberDefined : Json → Bool
  | .number (.float x) => !x.isNaN
  | _ => true

def ownNumberFinite : Json → Bool
  | .number (.float x) => x.isFinite
  | _ => true

/-- Whether the names in each object of the document are distinct. -/
def hasDistinctNames (document : Json) : Bool := document.everywhere ownNamesDistinct

/-- Whether no number of the document is NaN. -/
def isNaNFree (document : Json) : Bool := document.everywhere ownNumberDefined

/-- Whether no number of the document is NaN or infinite. -/
def hasFiniteNumbers (document : Json) : Bool := document.everywhere ownNumberFinite

theorem hasDistinctNames_array_iff {items : List Json} :
    (Json.array items).hasDistinctNames = true ↔
      ∀ item ∈ items, item.hasDistinctNames = true := by
  rw [hasDistinctNames, everywhere_array_iff]
  exact ⟨And.right, fun h => ⟨rfl, h⟩⟩

theorem hasDistinctNames_object_iff {entries : Entries Json} :
    (Json.object entries).hasDistinctNames = true ↔
      entries.names.Nodup ∧ ∀ entry ∈ entries, entry.2.hasDistinctNames = true := by
  rw [hasDistinctNames, everywhere_object_iff, ownNamesDistinct, decide_eq_true_iff]
  rfl

theorem isNaNFree_array_iff {items : List Json} :
    (Json.array items).isNaNFree = true ↔ ∀ item ∈ items, item.isNaNFree = true := by
  rw [isNaNFree, everywhere_array_iff]
  exact ⟨And.right, fun h => ⟨rfl, h⟩⟩

theorem isNaNFree_object_iff {entries : Entries Json} :
    (Json.object entries).isNaNFree = true ↔
      ∀ entry ∈ entries, entry.2.isNaNFree = true := by
  rw [isNaNFree, everywhere_object_iff]
  exact ⟨And.right, fun h => ⟨rfl, h⟩⟩

theorem nodup_names {entries : Entries Json}
    (h : (Json.object entries).hasDistinctNames = true) : entries.names.Nodup :=
  (hasDistinctNames_object_iff.mp h).1

/-- What is found in an object of distinct names has distinct names itself. -/
theorem hasDistinctNames_of_get? {entries : Entries Json} {name : String} {value : Json}
    (hentries : (Json.object entries).hasDistinctNames = true)
    (h : entries.get? name = some value) : value.hasDistinctNames = true :=
  everywhere_of_get? hentries h

theorem nodup_names_of_get? {entries members : Entries Json} {name : String}
    (hentries : (Json.object entries).hasDistinctNames = true)
    (h : entries.get? name = some (.object members)) : members.names.Nodup :=
  nodup_names (hasDistinctNames_of_get? hentries h)

theorem get?_object (entries : Entries Json) (name : String) :
    (Json.object entries).get? name = entries.get? name := rfl

/-- Only objects have members. -/
theorem get?_eq_some_iff {document value : Json} {name : String} :
    document.get? name = some value ↔
      ∃ entries, document = .object entries ∧ Entries.get? entries name = some value := by
  cases document with
  | object entries =>
    constructor
    · intro h
      exact ⟨entries, rfl, h⟩
    · rintro ⟨others, hothers, h⟩
      rw [Json.object.inj hothers]
      exact h
  | _ => simp [get?, entries?]

theorem hasDistinctNames_of_member {document value : Json} {name : String}
    (hdocument : document.hasDistinctNames = true) (h : document.get? name = some value) :
    value.hasDistinctNames = true := by
  obtain ⟨entries, rfl, hget⟩ := get?_eq_some_iff.mp h
  exact hasDistinctNames_of_get? hdocument hget

end DocumentSearch.Json
