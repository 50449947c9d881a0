import DocumentSearch.Proofs.Insertions
import DocumentSearch.Query.Document

/-!
Aggregations that are named one after another. Whatever is inserted, under new names or under known
ones, each name is left once, where it came first, with its last definition. The request document
relies on it: it is put together member by member, where a name that came twice would leave only
one of its definitions. As the names are distinct at every depth, no definition is lost there.
-/

namespace DocumentSearch

namespace Aggregations

/-- A change of named definitions. `including` gives back what `insert` changes in place, and
`collect` starts over with its pairs. -/
inductive Change where
  | insert (name : String) (definition : Aggregation)
  | including (name : String) (definition : Aggregation)
  | collect (pairs : List (String × Aggregation))

def Change.pairs : Change → List (String × Aggregation)
  | .insert name definition | .including name definition => [(name, definition)]
  | .collect pairs => pairs

def apply (aggregations : Aggregations) : Change → Aggregations
  | .insert name definition | .including name definition => aggregations.put name definition
  | .collect pairs => Entries.ofPairs pairs

def ofChanges (changes : List Change) : Aggregations := changes.foldl apply []

/-- The pairs inserted so far when one more change is made; collecting forgets those before it. -/
def Change.insertedAfter (before : List (String × Aggregation)) :
    Change → List (String × Aggregation)
  | .insert name definition | .including name definition => before ++ [(name, definition)]
  | .collect pairs => pairs

/-- The pairs inserted since the last collecting began. -/
def inserted (changes : List Change) : List (String × Aggregation) :=
  changes.foldl Change.insertedAfter []

theorem apply_ofPairs (pairs : List (String × Aggregation)) (change : Change) :
    apply (Entries.ofPairs pairs) change = Entries.ofPairs (change.insertedAfter pairs) := by
  cases change with
  | insert name definition => exact (Entries.ofPairs_concat pairs (name, definition)).symm
  | including name definition => exact (Entries.ofPairs_concat pairs (name, definition)).symm
  | collect pairs => rfl

theorem ofChanges_eq_ofPairs (changes : List Change) :
    ofChanges changes = Entries.ofPairs (inserted changes) := by
  induction changes using List.reverseRecOn with
  | nil => rfl
  | append_singleton changes change ih =>
    rw [ofChanges, List.foldl_concat, inserted, List.foldl_concat, ← apply_ofPairs]
    exact congrArg (apply · change) ih

theorem mem_inserted {changes : List Change} {pair : String × Aggregation}
    (h : pair ∈ inserted changes) : ∃ change ∈ changes, pair ∈ change.pairs := by
  induction changes using List.reverseRecOn with
  | nil => exact absurd h List.not_mem_nil
  | append_singleton changes change ih =>
    rw [inserted, List.foldl_concat] at h
    have hsplit : pair ∈ inserted changes ∨ pair ∈ change.pairs := by
      cases change with
      | insert name definition => exact List.mem_append.mp h
      | including name definition => exact List.mem_append.mp h
      | collect pairs => exact Or.inr h
    rcases hsplit with hbefore | hchange
    · obtain ⟨earlier, hmem, hpair⟩ := ih hbefore
      exact ⟨earlier, List.mem_append_left _ hmem, hpair⟩
    · exact ⟨change, List.mem_concat_self, hchange⟩

theorem mem_ofChanges {changes : List Change} {entry : String × Aggregation}
    (h : entry ∈ ofChanges changes) : ∃ change ∈ changes, entry ∈ change.pairs := by
  rw [ofChanges_eq_ofPairs] at h
  exact mem_inserted (Entries.mem_ofPairs h)

theorem nodup_names_ofChanges (changes : List Change) : (ofChanges changes).names.Nodup := by
  rw [ofChanges_eq_ofPairs]
  exact Entries.nodup_names_ofPairs _

/-- Collecting makes what inserting the pairs one by one does, whatever was there before. -/
theorem ofChanges_collect (before after : List Change) (pairs : List (String × Aggregation)) :
    ofChanges (before ++ .collect pairs :: after) =
      ofChanges (pairs.map (fun pair => .insert pair.1 pair.2) ++ after) := by
  rw [ofChanges, ofChanges, List.foldl_append, List.foldl_append, List.foldl_cons, List.foldl_map]
  rfl

end Aggregations

namespace Aggregation

open Aggregations (Change ofChanges)

/-- Definitions whose children, if they have any, were named one after another in turn. -/
inductive Built : Aggregation → Prop
  | terms (field : String) (size : UInt64) : Built (.terms field size)
  | metric (kind : MetricKind) (field : String) : Built (.metric kind field)
  | nested (path : String) (changes : List Change)
      (children : ∀ change ∈ changes, ∀ pair ∈ change.pairs, Built pair.2) :
      Built (.nested path (ofChanges changes))
  | nestedFiltered (path resultKey bucketKey : String) (filters : List (String × List Json))
      (size : UInt64) : Built (.nestedFiltered path resultKey bucketKey filters size)

mutual

/-- The document when the definitions of an object are put into it one after another. -/
def assembled : Aggregation → Json
  | .terms field size => termsDocument field size
  | .metric kind field => .single kind.name (.single "field" (.string field))
  | .nested path aggregations =>
      nestedDocument path (.object (Entries.ofPairs (assembledAll aggregations)))
  | .nestedFiltered path resultKey bucketKey filters size =>
      nestedDocument path (filteredDocument path resultKey bucketKey filters size)

def assembledAll : List (String × Aggregation) → List (String × Json)
  | [] => []
  | (name, aggregation) :: rest => (name, aggregation.assembled) :: assembledAll rest

end

theorem assembledAll_eq_map (aggregations : List (String × Aggregation)) :
    assembledAll aggregations = aggregations.map fun entry => (entry.1, entry.2.assembled) := by
  induction aggregations with
  | nil => rfl
  | cons entry rest ih => rw [assembledAll, ih, List.map_cons]

theorem documents_eq_map (aggregations : List (String × Aggregation)) :
    documents aggregations = aggregations.map fun entry => (entry.1, entry.2.document) := by
  induction aggregations with
  | nil => rfl
  | cons entry rest ih => rw [documents, ih, List.map_cons]

/-- Side by side, definitions of distinct names are all kept. -/
theorem ofPairs_assembledAll {aggregations : List (String × Aggregation)}
    (hnames : (Entries.names aggregations).Nodup)
    (h : ∀ entry ∈ aggregations, entry.2.assembled = entry.2.document) :
    Entries.ofPairs (assembledAll aggregations) = documents aggregations := by
  have hdocuments : assembledAll aggregations = documents aggregations := by
    rw [assembledAll_eq_map, documents_eq_map]
    exact List.map_congr_left fun entry hentry => by rw [h entry hentry]
  have hkept : Entries.names (documents aggregations) = Entries.names aggregations := by
    rw [documents_eq_map, Entries.names, List.map_map]
    rfl
  rw [hdocuments]
  exact Entries.ofPairs_of_nodup (hkept ▸ hnames)

theorem Built.assembled_eq_document {aggregation : Aggregation} (h : aggregation.Built) :
    aggregation.assembled = aggregation.document := by
  induction h with
  | terms field size => rfl
  | metric kind field => rfl
  | nested path changes children ih =>
    have hchildren : ∀ entry ∈ ofChanges changes, entry.2.assembled = entry.2.document := by
      intro entry hentry
      obtain ⟨change, hchange, hpair⟩ := Aggregations.mem_ofChanges hentry
      exact ih change hchange entry hpair
    rw [assembled, document, ofPairs_assembledAll (Aggregations.nodup_names_ofChanges changes)
      hchildren]
  | nestedFiltered path resultKey bucketKey filters size => rfl

end Aggregation

namespace Aggregations

open Aggregation (Built)

/-- The request document of aggregations, put together member by member. -/
def assembled (aggregations : Aggregations) : Json :=
  .object (Entries.ofPairs (Aggregation.assembledAll aggregations))

/-- A name that is collected twice, then redefined with children of which one is renewed in turn. -/
def repeatedChanges : List Change := [
  .insert "price" (.metric .avg "price"),
  .collect [("tags", .terms "tag" 10), ("items", .terms "item" 10), ("tags", .metric .max "day")],
  .including "items" (.nested "items" (ofChanges [.insert "color" (.terms "color" 10),
    .insert "size" (.terms "size" 5), .insert "color" (.metric .cardinality "color")])),
  .insert "hits" (.nestedFiltered "items" "shades" "shade" [] 3)]

theorem built_repeatedChanges :
    ∀ change ∈ repeatedChanges, ∀ pair ∈ change.pairs, pair.2.Built := by
  have hitems : Built (.nested "items" (ofChanges [.insert "color" (.terms "color" 10),
      .insert "size" (.terms "size" 5), .insert "color" (.metric .cardinality "color")])) := by
    refine .nested "items" _ ?_
    simp only [Change.pairs, List.forall_mem_cons, List.not_mem_nil, IsEmpty.forall_iff,
      implies_true, and_true]
    exact ⟨.terms _ _, .terms _ _, .metric _ _⟩
  simp only [repeatedChanges, Change.pairs, List.forall_mem_cons, List.not_mem_nil,
    IsEmpty.forall_iff, implies_true, and_true]
  exact ⟨.metric _ _, ⟨.terms _ _, .terms _ _, .metric _ _⟩, hitems, .nestedFiltered _ _ _ _ _⟩

end Aggregations

end DocumentSearch
