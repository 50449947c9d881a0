import DocumentSearch.Response.Hit
import DocumentSearch.Proofs.Records

/-!
Buckets are read without loss. An object with a key and a natural count is read, in whatever order
its members stand, into a bucket with that key and that count, and its other members stay in their
order. Nothing else is read as a bucket, and a bucket that is written again has the members that it
was read from.
-/

namespace DocumentSearch

theorem Json.asNatural_eq_ok_iff {document : Json} {n : UInt64} :
    document.asNatural = .ok n ↔ document = .natural n := by
  constructor
  · intro h
    unfold asNatural at h
    split at h
    · rw [Except.ok.inj h]
      rfl
    · cases h
    · cases h
  · rintro rfl
    rfl

namespace Bucket

def isExtra (member : String × Json) : Bool := member.1 != "key" && member.1 != "doc_count"

/-- The bucket has the key and the count of an object, and all its other members. -/
structure Holds (members : Entries Json) (bucket : Bucket) : Prop where
  key : members.get? "key" = some bucket.key
  count : members.get? "doc_count" = some (.natural bucket.count)
  extra : bucket.extra = members.filter isExtra

theorem record_isPlain : record.IsPlain where
  nodup := by decide
  synonyms := by simp [record]

theorem record_isUniform : record.IsUniform := by
  simp [Record.IsUniform, Record.Accepts, record, map_eq_ok_iff, pure_eq_ok_iff]

theorem key_isPart : record.IsPart keep "key" Except.ok Bucket.key where
  there := by decide
  own := by simp [record, pure_eq_ok_iff]
  others := by simp [record, map_eq_ok_iff]
  kept _ _ := rfl

theorem count_isPart : record.IsPart keep "doc_count" Json.asNatural Bucket.count where
  there := by decide
  own := by simp [record, map_eq_ok_iff]
  others := by simp [record, pure_eq_ok_iff]
  kept _ _ := rfl

theorem extra_keepsRest : record.KeepsRest keep Bucket.extra where
  start := rfl
  kept _ _ := rfl
  stored := by simp [record, map_eq_ok_iff, pure_eq_ok_iff]

theorem isOther_eq_isExtra : record.isOther = isExtra := by
  funext member
  rw [record_isPlain.isOther_eq, Bool.eq_iff_iff]
  simp [record, isExtra]

theorem Holds.unique {members : Entries Json} {bucket other : Bucket} (h : Holds members bucket)
    (h' : Holds members other) : bucket = other := by
  have hkey := Option.some.inj (h.key.symm.trans h'.key)
  have hcount := Option.some.inj (h.count.symm.trans h'.count)
  have hextra := h.extra.trans h'.extra.symm
  cases bucket
  cases other
  simp_all [Json.natural]

theorem holds_of_read {members : Entries Json} (hnames : members.names.Nodup) {bucket : Bucket}
    (h : read (.object members) = .ok bucket) : Holds members bucket := by
  obtain ⟨key, hkey, hread⟩ :=
    key_isPart.read_of_ofEntries record_isPlain (by simp [record]) hnames h
  obtain ⟨count, hcount, hnatural⟩ :=
    count_isPart.read_of_ofEntries record_isPlain (by simp [record]) hnames h
  refine ⟨Except.ok.inj hread ▸ hkey, Json.asNatural_eq_ok_iff.mp hnatural ▸ hcount, ?_⟩
  rw [extra_keepsRest.rest_of_ofEntries record_isPlain hnames h, isOther_eq_isExtra]

/-- An object with a key and a natural count is read into the bucket that holds all of it. -/
theorem exists_read {members : Entries Json} (hnames : members.names.Nodup)
    (hkey : "key" ∈ members.names) {n : UInt64}
    (hcount : members.get? "doc_count" = some (.natural n)) :
    ∃ bucket, read (.object members) = .ok bucket ∧ Holds members bucket := by
  have hnamed := Entries.exists_get?_iff.mp ⟨_, hcount⟩
  have hsupplied : ∀ field ∈ record.fields, record.Supplies members field := by
    simp [record, Record.Supplies, Record.Accepts, map_eq_ok_iff, pure_eq_ok_iff, hkey, hnamed,
      hcount, Json.asNatural_eq_ok_iff]
  obtain ⟨bucket, hbucket⟩ :=
    (Record.exists_ofEntries_iff record_isPlain record_isUniform hnames).mpr hsupplied
  exact ⟨bucket, hbucket, holds_of_read hnames hbucket⟩

theorem read_object_eq_ok_iff {members : Entries Json} (hnames : members.names.Nodup)
    {bucket : Bucket} : read (.object members) = .ok bucket ↔ Holds members bucket := by
  constructor
  · exact holds_of_read hnames
  · intro h
    obtain ⟨other, hother, hholds⟩ := exists_read hnames
      (Entries.exists_get?_iff.mp ⟨_, h.key⟩) h.count
    rw [hother, hholds.unique h]

theorem read_eq_ok_iff {document : Json} {bucket : Bucket}
    (hdocument : document.hasDistinctNames = true) :
    read document = .ok bucket ↔ ∃ members, document = .object members ∧ Holds members bucket := by
  constructor
  · intro h
    cases document with
    | object members => exact ⟨members, rfl, holds_of_read (Json.nodup_names hdocument) h⟩
    | _ => cases h
  · rintro ⟨members, rfl, h⟩
    exact (read_object_eq_ok_iff (Json.nodup_names hdocument)).mpr h

/-- A bucket written again has the members of the object that it was read from. -/
theorem Holds.document_perm {members : Entries Json} {bucket : Bucket} (h : Holds members bucket)
    (hnames : members.names.Nodup) :
    ∃ others, bucket.document = .object others ∧ others.Perm members := by
  refine ⟨_, rfl, (List.perm_ext_iff_of_nodup ?_ (List.Nodup.of_map Prod.fst hnames)).mpr ?_⟩
  · rw [h.extra, List.nodup_cons, List.nodup_cons]
    refine ⟨by simp [isExtra], by simp [isExtra], ?_⟩
    exact (List.Nodup.of_map Prod.fst hnames).filter _
  · rintro ⟨name, value⟩
    have hmem : ∀ {found : Json}, Entries.get? members name = some found →
        ((name, value) ∈ members ↔ value = found) := by
      intro found hfound
      constructor
      · intro hvalue
        exact Option.some.inj ((Entries.get?_of_mem hnames hvalue).symm.trans hfound)
      · rintro rfl
        exact Entries.mem_of_get? hfound
    rw [List.mem_cons, List.mem_cons, h.extra, List.mem_filter]
    by_cases hkey : name = "key"
    · subst hkey
      rw [hmem h.key]
      simp [isExtra]
    by_cases hcount : name = "doc_count"
    · subst hcount
      rw [hmem h.count]
      simp [isExtra]
    · simp [isExtra, hkey, hcount]

/-- The same bucket is read from what is written. -/
theorem Holds.read_document {members : Entries Json} {bucket : Bucket} (h : Holds members bucket)
    (hnames : members.names.Nodup) : read bucket.document = .ok bucket := by
  obtain ⟨others, hothers, hperm⟩ := h.document_perm hnames
  have hothersNames : (Entries.names others).Nodup := (Entries.names_perm hperm).nodup_iff.mpr hnames
  have hget := Entries.get?_of_perm hothersNames hperm
  rw [hothers, read_object_eq_ok_iff hothersNames]
  refine ⟨(hget "key").symm.trans h.key, (hget "doc_count").symm.trans h.count, ?_⟩
  have hkey : isExtra ("key", bucket.key) = false := rfl
  have hcount : isExtra ("doc_count", .natural bucket.count) = false := rfl
  rw [← Json.object.inj hothers, h.extra]
  simp [hkey, hcount, List.filter_filter]

end Bucket

end DocumentSearch
