import DocumentSearch.Response.Hit
import DocumentSearch.Proofs.Records

/-!
Hits read from the members of an object. Each of the four known members may be missing, the texts
and the score may also be null, and the source may be anything. The other members are kept in their
order, so a hit holds all of what it is read from but the kind of number that its score has.
-/

namespace DocumentSearch

namespace Json

theorem asString_eq_ok_iff {document : Json} {text : String} :
    document.asString = .ok text ↔ document = .string text := by
  cases document <;> simp [asString]

theorem asFloat_eq_ok_iff {document : Json} {x : Binary64} :
    document.asFloat = .ok x ↔ ∃ n : Number, document = .number n ∧ n.toBinary64 = x := by
  cases document <;> simp [asFloat]

theorem asEntries_eq_ok_iff {document : Json} {entries : Entries Json} :
    document.asEntries = .ok entries ↔ document = .object entries := by
  cases document <;> simp [asEntries]

/-- An object whose index and id are texts and whose score is a number, as far as they are there
and not null. -/
def IsHit (document : Json) : Prop :=
  ∃ members : Entries Json, document = .object members ∧
    (∀ name ∈ ["_index", "_id"], ∀ value, members.get? name = some value →
      value = .null ∨ ∃ text, value = .string text) ∧
    ∀ value, members.get? "_score" = some value → value = .null ∨ ∃ n, value = .number n

end Json

namespace Hit

def knownNames : List String := ["_index", "_id", "_score", "_source"]

def isExtra (member : String × Json) : Bool := !knownNames.contains member.1

/-- The hit has what the known members of an object say, and all its other members. -/
structure Holds (members : Entries Json) (hit : Hit) : Prop where
  index : readOr none (Json.asOption Json.asString) (members.get? "_index") = .ok hit.index
  id : readOr none (Json.asOption Json.asString) (members.get? "_id") = .ok hit.id
  score : readOr none (Json.asOption Json.asFloat) (members.get? "_score") = .ok hit.score
  source : readOr .null Except.ok (members.get? "_source") = .ok hit.source
  extra : hit.extra = members.filter isExtra

theorem record_isPlain : record.IsPlain where
  nodup := by decide
  synonyms := by simp [record]

theorem record_isUniform : record.IsUniform := by
  simp [Record.IsUniform, Record.Accepts, record, map_eq_ok_iff, pure_eq_ok_iff]

theorem index_isPart :
    record.IsPart keep "_index" (Json.asOption Json.asString) Hit.index where
  there := by decide
  own := by simp [record, map_eq_ok_iff]
  others := by simp [record, map_eq_ok_iff, pure_eq_ok_iff]
  kept _ _ := rfl

theorem id_isPart : record.IsPart keep "_id" (Json.asOption Json.asString) Hit.id where
  there := by decide
  own := by simp [record, map_eq_ok_iff]
  others := by simp [record, map_eq_ok_iff, pure_eq_ok_iff]
  kept _ _ := rfl

theorem score_isPart : record.IsPart keep "_score" (Json.asOption Json.asFloat) Hit.score where
  there := by decide
  own := by simp [record, map_eq_ok_iff]
  others := by simp [record, map_eq_ok_iff, pure_eq_ok_iff]
  kept _ _ := rfl

theorem source_isPart : record.IsPart keep "_source" Except.ok Hit.source where
  there := by decide
  own := by simp [record, pure_eq_ok_iff]
  others := by simp [record, map_eq_ok_iff]
  kept _ _ := rfl

theorem extra_keepsRest : record.KeepsRest keep Hit.extra where
  start := rfl
  kept _ _ := rfl
  stored := by simp [record, map_eq_ok_iff, pure_eq_ok_iff]

theorem isOther_eq_isExtra : record.isOther = isExtra := by
  funext member
  exact record_isPlain.isOther_eq member

theorem holds_of_read {members : Entries Json} (hnames : members.names.Nodup) {hit : Hit}
    (h : read (.object members) = .ok hit) : Holds members hit where
  index := index_isPart.readOr_of_ofEntries record_isPlain hnames h
  id := id_isPart.readOr_of_ofEntries record_isPlain hnames h
  score := score_isPart.readOr_of_ofEntries record_isPlain hnames h
  source := source_isPart.readOr_of_ofEntries record_isPlain hnames h
  extra := isOther_eq_isExtra ▸ extra_keepsRest.rest_of_ofEntries record_isPlain hnames h

theorem Holds.unique {members : Entries Json} {hit other : Hit} (h : Holds members hit)
    (h' : Holds members other) : hit = other := by
  have hindex := Except.ok.inj (h.index.symm.trans h'.index)
  have hid := Except.ok.inj (h.id.symm.trans h'.id)
  have hscore := Except.ok.inj (h.score.symm.trans h'.score)
  have hsource := Except.ok.inj (h.source.symm.trans h'.source)
  have hextra := h.extra.trans h'.extra.symm
  cases hit
  cases other
  simp_all

theorem exists_read_object_iff {members : Entries Json} (hnames : members.names.Nodup) :
    (∃ hit, read (.object members) = .ok hit) ↔ (Json.object members).IsHit := by
  have hread : (∃ hit, read (.object members) = .ok hit) ↔ _ :=
    Record.exists_ofEntries_iff record_isPlain record_isUniform hnames
  rw [hread]
  simp [record, Record.Supplies, Record.Accepts, map_eq_ok_iff, pure_eq_ok_iff,
    Json.exists_asOption_iff, Json.asString_eq_ok_iff, Json.asFloat_eq_ok_iff, Json.IsHit, and_assoc]

theorem Holds.isHit {members : Entries Json} {hit : Hit} (h : Holds members hit) :
    (Json.object members).IsHit := by
  have htext : ∀ {name : String} {found : Option String},
      readOr none (Json.asOption Json.asString) (members.get? name) = .ok found →
      ∀ value, members.get? name = some value → value = .null ∨ ∃ text, value = .string text := by
    intro name found hread value hvalue
    rw [hvalue] at hread
    exact (Json.exists_asOption_iff.mp ⟨_, hread⟩).imp_right fun ⟨text, htext⟩ =>
      ⟨text, Json.asString_eq_ok_iff.mp htext⟩
  refine ⟨members, rfl, ?_, fun value hvalue => ?_⟩
  · simp only [List.forall_mem_cons, List.not_mem_nil, false_implies, implies_true, and_true]
    exact ⟨htext h.index, htext h.id⟩
  · have hread := h.score
    rw [hvalue] at hread
    refine (Json.exists_asOption_iff.mp ⟨_, hread⟩).imp_right ?_
    rintro ⟨x, hx⟩
    obtain ⟨n, hn, -⟩ := Json.asFloat_eq_ok_iff.mp hx
    exact ⟨n, hn⟩

theorem read_object_eq_ok_iff {members : Entries Json} (hnames : members.names.Nodup) {hit : Hit} :
    read (.object members) = .ok hit ↔ Holds members hit := by
  constructor
  · exact holds_of_read hnames
  · intro h
    obtain ⟨other, hother⟩ := (exists_read_object_iff hnames).mpr h.isHit
    rw [hother, (holds_of_read hnames hother).unique h]

/-- A hit is read from an object only. -/
theorem exists_object_of_read {document : Json} {hit : Hit} (h : read document = .ok hit) :
    ∃ members, document = .object members := by
  cases document with
  | object members => exact ⟨members, rfl⟩
  | _ => cases h

theorem exists_read_iff {document : Json} (hdocument : document.hasDistinctNames = true) :
    (∃ hit, read document = .ok hit) ↔ document.IsHit := by
  constructor
  · rintro ⟨hit, h⟩
    obtain ⟨members, rfl⟩ := exists_object_of_read h
    exact (exists_read_object_iff (Json.nodup_names hdocument)).mp ⟨hit, h⟩
  · rintro ⟨members, rfl, hmembers⟩
    exact (exists_read_object_iff (Json.nodup_names hdocument)).mpr ⟨members, rfl, hmembers⟩

end Hit

end DocumentSearch
