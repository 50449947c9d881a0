import DocumentSearch.Proofs.Rounding
import DocumentSearch.Proofs.SearchResponses

/-!
Hits and buckets written again. A hit is written with its known members in front, and only those
that are there and not null; its score is a floating point number now. All other members stay as
they are and in their order. What is written is read as the same hit, and a bucket keeps all of its
members.
-/

namespace DocumentSearch

/-- A value that is there and not null. -/
def present : Option Json → Option Json
  | some .null => none
  | value => value

theorem memberIfPresent_eq (name : String) (value : Option Json) :
    memberIfPresent name value = (present value).toList.map (Prod.mk name) := by
  cases value with
  | none => rfl
  | some value => cases value <;> rfl

theorem get?_memberIfPresent (name key : String) (value : Option Json) :
    (memberIfPresent name value).get? key = if name = key then present value else none := by
  rw [memberIfPresent_eq]
  cases present value with
  | none => simp [Entries.get?]
  | some value => simp [Entries.get?]

theorem names_memberIfPresent_sublist (name : String) (value : Option Json) :
    (memberIfPresent name value).names.Sublist [name] := by
  rw [memberIfPresent_eq]
  cases present value <;> simp [Entries.names]

namespace Hit

/-- What becomes of a member of an object when the hit that is read from it is written. -/
inductive Kept (name : String) : Option Json → Option Json → Prop
  | absent : Kept name none none
  | dropped (hname : name ∈ knownNames) : Kept name (some .null) none
  | rounded {n : Number} {x : Binary64} (hname : name = "_score") (hx : n.NearestIs x) :
      Kept name (some (.number n)) (some (.number (.float x)))
  | same {value : Json} (hname : name ≠ "_score")
      (hnull : name ∈ knownNames → value ≠ .null) : Kept name (some value) (some value)

/-- The members of an object as a hit that is read from it has them. -/
structure WrittenAgain (members again : Entries Json) : Prop where
  nodup : again.names.Nodup
  kept : ∀ name, Kept name (members.get? name) (again.get? name)
  order : again.filter isExtra = members.filter isExtra

/-- What reading leaves behind: a score that can be written and other members without a name of
the known ones. -/
structure WellFormed (hit : Hit) : Prop where
  finite : ∀ x, hit.score = some x → x.isFinite = true
  extra : ∀ member ∈ hit.extra, isExtra member = true
  nodup : hit.extra.names.Nodup

def known (hit : Hit) : Entries Json :=
  memberIfPresent "_index" (hit.index.map .string) ++
    memberIfPresent "_id" (hit.id.map .string) ++
    memberIfPresent "_score" (hit.score.map .float) ++
    memberIfPresent "_source" (some hit.source)

theorem document_eq (hit : Hit) : hit.document = .object (hit.known ++ hit.extra) := rfl

theorem names_known_sublist (hit : Hit) : hit.known.names.Sublist knownNames := by
  have hsub : ∀ {first second : Entries Json} {names others : List String},
      first.names.Sublist names → second.names.Sublist others →
        (Entries.names (first ++ second)).Sublist (names ++ others) := by
    intro first second names others hfirst hsecond
    rw [Entries.names, List.map_append]
    exact hfirst.append hsecond
  exact hsub (hsub (hsub (names_memberIfPresent_sublist _ _) (names_memberIfPresent_sublist _ _))
    (names_memberIfPresent_sublist _ _)) (names_memberIfPresent_sublist _ _)

theorem get?_known_index (hit : Hit) :
    hit.known.get? "_index" = present (hit.index.map .string) := by
  simp [known, Entries.get?_append, get?_memberIfPresent]

theorem get?_known_id (hit : Hit) : hit.known.get? "_id" = present (hit.id.map .string) := by
  simp [known, Entries.get?_append, get?_memberIfPresent]

theorem get?_known_score (hit : Hit) :
    hit.known.get? "_score" = present (hit.score.map .float) := by
  simp [known, Entries.get?_append, get?_memberIfPresent]

theorem get?_known_source (hit : Hit) : hit.known.get? "_source" = present (some hit.source) := by
  simp [known, Entries.get?_append, get?_memberIfPresent]

theorem isExtra_iff {member : String × Json} : isExtra member = true ↔ member.1 ∉ knownNames := by
  simp [isExtra]

namespace WellFormed

variable {hit : Hit}

theorem get?_extra (h : hit.WellFormed) {name : String} (hname : name ∈ knownNames) :
    hit.extra.get? name = none := by
  rw [Entries.get?_eq_none_iff, Entries.mem_names]
  rintro ⟨value, hmem⟩
  exact isExtra_iff.mp (h.extra _ hmem) hname

theorem get?_written (h : hit.WellFormed) {name : String} (hname : name ∈ knownNames) :
    (hit.known ++ hit.extra).get? name = hit.known.get? name := by
  rw [Entries.get?_append, h.get?_extra hname, Option.or_none]

theorem get?_written_of_extra (hit : Hit) {name : String} (hname : name ∉ knownNames) :
    (hit.known ++ hit.extra).get? name = hit.extra.get? name := by
  have hnone : hit.known.get? name = none :=
    Entries.get?_eq_none_iff.mpr fun hmem => hname (hit.names_known_sublist.subset hmem)
  rw [Entries.get?_append, hnone, Option.none_or]

theorem nodup_written (h : hit.WellFormed) : (Entries.names (hit.known ++ hit.extra)).Nodup := by
  have hknown : hit.known.names.Nodup := hit.names_known_sublist.nodup (by decide)
  rw [Entries.names, List.map_append]
  refine List.nodup_append.mpr ⟨hknown, h.nodup, ?_⟩
  rintro name hname other hother rfl
  obtain ⟨value, hmem⟩ := Entries.mem_names.mp hother
  exact isExtra_iff.mp (h.extra _ hmem) (hit.names_known_sublist.subset hname)

theorem filter_written (h : hit.WellFormed) :
    (hit.known ++ hit.extra).filter isExtra = hit.extra := by
  have hknown : hit.known.filter isExtra = [] := by
    rw [List.filter_eq_nil_iff]
    intro member hmember hextra
    exact isExtra_iff.mp hextra
      (hit.names_known_sublist.subset (Entries.mem_names.mpr ⟨member.2, hmember⟩))
  rw [List.filter_append, hknown, List.nil_append]
  exact List.filter_eq_self.mpr h.extra

theorem present_float (h : hit.WellFormed) {x : Binary64} (hx : hit.score = some x) :
    present (hit.score.map .float) = some (.number (.float x)) := by
  rw [hx, Option.map_some, Json.float, if_pos (h.finite x hx)]
  rfl

/-- What is written holds the hit. -/
theorem holds_written (h : hit.WellFormed) : Holds (hit.known ++ hit.extra) hit where
  index := by
    rw [h.get?_written (by decide), get?_known_index]
    cases hit.index <;> rfl
  id := by
    rw [h.get?_written (by decide), get?_known_id]
    cases hit.id <;> rfl
  score := by
    rw [h.get?_written (by decide), get?_known_score]
    cases hscore : hit.score with
    | none => rfl
    | some x =>
      rw [← hscore, h.present_float hscore, hscore]
      rfl
  source := by
    rw [h.get?_written (by decide), get?_known_source]
    cases hit.source <;> rfl
  extra := h.filter_written.symm

/-- The same hit is read from what is written. -/
theorem read_document (h : hit.WellFormed) : read hit.document = .ok hit := by
  rw [document_eq, read_object_eq_ok_iff h.nodup_written]
  exact h.holds_written

end WellFormed

section Written

variable {members : Entries Json} {hit : Hit}

/-- Numbers of a document are finite, and so are the floating point numbers nearest to them. -/
theorem Holds.isFinite_score (h : Holds members hit)
    (hfinite : (Json.object members).hasFiniteNumbers = true) {x : Binary64}
    (hx : hit.score = some x) :
    ∃ n : Number, members.get? "_score" = some (.number n) ∧ n.NearestIs x ∧ x.isFinite = true := by
  have hscore := h.score
  rw [hx, readOr_eq_some_iff] at hscore
  obtain ⟨document, hdocument, -, hread⟩ := hscore
  obtain ⟨n, rfl, rfl⟩ := Json.asFloat_eq_ok_iff.mp hread
  refine ⟨n, hdocument, n.nearestIs_toBinary64, ?_⟩
  have hown := Json.everywhere_of_get? hfinite hdocument
  cases n with
  | natural n => exact (Binary64.isNearest_ofNat n.toNat_lt).finite
  | negative n => exact (Binary64.isNearest_ofInt_negSucc n.isLt).finite
  | float x => exact hown

theorem Holds.wellFormed (h : Holds members hit) (hnames : members.names.Nodup)
    (hfinite : (Json.object members).hasFiniteNumbers = true) : hit.WellFormed where
  finite _ hx := (h.isFinite_score hfinite hx).choose_spec.2.2
  extra := by
    rw [h.extra]
    exact fun member hmember => (List.mem_filter.mp hmember).2
  nodup := by
    rw [h.extra]
    exact (List.filter_sublist.map Prod.fst).nodup hnames

/-- A text is written as it was, and nothing is written for null. -/
theorem kept_text {name : String} {found : Option Json} {text : Option String}
    (hname : name ∈ knownNames) (hscore : name ≠ "_score")
    (h : readOr none (Json.asOption Json.asString) found = .ok text) :
    Kept name found (present (text.map .string)) := by
  cases text with
  | none =>
    rcases readOr_eq_none_iff.mp h with rfl | rfl
    · exact .absent
    · exact .dropped hname
  | some text =>
    obtain ⟨document, rfl, hnull, hread⟩ := readOr_eq_some_iff.mp h
    rw [Json.asString_eq_ok_iff.mp hread]
    exact .same hscore fun _ => by simp

theorem kept_source {found : Option Json} {source : Json}
    (h : readOr .null Except.ok found = .ok source) :
    Kept "_source" found (present (some source)) := by
  cases found with
  | none =>
    rw [← Except.ok.inj h]
    exact .absent
  | some document =>
    rw [← Except.ok.inj h]
    cases hdocument : document with
    | null => exact .dropped (by decide)
    | _ => exact .same (by decide) fun _ => by simp

theorem Holds.kept_score (h : Holds members hit) (hwell : hit.WellFormed)
    (hfinite : (Json.object members).hasFiniteNumbers = true) :
    Kept "_score" (members.get? "_score") (present (hit.score.map .float)) := by
  cases hscore : hit.score with
  | none =>
    have hread := h.score
    rw [hscore, readOr_eq_none_iff] at hread
    rcases hread with hnone | hnull
    · exact hnone ▸ .absent
    · exact hnull ▸ .dropped (by decide)
  | some x =>
    obtain ⟨n, hn, hnearest, -⟩ := h.isFinite_score hfinite hscore
    rw [hn, ← hscore, hwell.present_float hscore]
    exact .rounded rfl hnearest

/-- A hit that is written has the members of what it was read from. -/
theorem Holds.writtenAgain (h : Holds members hit) (hnames : members.names.Nodup)
    (hfinite : (Json.object members).hasFiniteNumbers = true) :
    WrittenAgain members (hit.known ++ hit.extra) := by
  have hwell := h.wellFormed hnames hfinite
  refine ⟨hwell.nodup_written, fun name => ?_, hwell.filter_written.trans h.extra⟩
  by_cases hname : name ∈ knownNames
  · rw [hwell.get?_written hname]
    have hcases := hname
    simp only [knownNames, List.mem_cons, List.not_mem_nil, or_false] at hcases
    rcases hcases with rfl | rfl | rfl | rfl
    · rw [get?_known_index]
      exact kept_text hname (by decide) h.index
    · rw [get?_known_id]
      exact kept_text hname (by decide) h.id
    · rw [get?_known_score]
      exact h.kept_score hwell hfinite
    · rw [get?_known_source]
      exact kept_source h.source
  · have hsame : Entries.get? (members.filter isExtra) name = members.get? name :=
      Entries.get?_filter members fun _ => isExtra_iff.mpr hname
    rw [WellFormed.get?_written_of_extra hit hname, h.extra, hsame]
    cases members.get? name with
    | none => exact .absent
    | some value =>
      exact .same (fun hscore => hname (hscore ▸ by decide)) fun hknown => absurd hknown hname

/-- The hit is written as an object with the members of the item. -/
def Restates (hit : Hit) (item : Json) : Prop :=
  ∃ members again, item = .object members ∧ hit.document = .object again ∧
    WrittenAgain members again

theorem restates_of_read {item : Json} (hitem : item.hasDistinctNames = true)
    (hfinite : item.hasFiniteNumbers = true) (h : read item = .ok hit) : hit.Restates item := by
  obtain ⟨members, rfl⟩ := exists_object_of_read h
  have hnames := Json.nodup_names hitem
  exact ⟨members, _, rfl, hit.document_eq, (holds_of_read hnames h).writtenAgain hnames hfinite⟩

end Written

end Hit

namespace Bucket

theorem exists_read_iff {item : Json} (hitem : item.hasDistinctNames = true) :
    (∃ bucket, read item = .ok bucket) ↔ item.IsBucket := by
  constructor
  · rintro ⟨bucket, h⟩
    obtain ⟨members, rfl, hholds⟩ := (read_eq_ok_iff hitem).mp h
    exact ⟨⟨_, hholds.key⟩, _, hholds.count⟩
  · rintro ⟨⟨key, hkey⟩, n, hcount⟩
    obtain ⟨members, rfl, hkey⟩ := Json.get?_eq_some_iff.mp hkey
    obtain ⟨bucket, hbucket, -⟩ := exists_read (Json.nodup_names hitem)
      (Entries.exists_get?_iff.mp ⟨key, hkey⟩) hcount
    exact ⟨bucket, hbucket⟩

/-- The bucket is written as an object with the members of the item. -/
def Restates (bucket : Bucket) (item : Json) : Prop :=
  ∃ members again, item = .object members ∧ bucket.document = .object again ∧
    again.Perm members

end Bucket

namespace Response

/-- The hits of an object are written again as the items of its list, one after another. -/
theorem hits_restate {requested : Aggregations} {members hits : Entries Json}
    {found : SearchResult} (hnames : (Json.object members).hasDistinctNames = true)
    (hfinite : (Json.object members).hasFiniteNumbers = true)
    (hhits : members.get? "hits" = some (.object hits))
    (h : result requested (.object members) = .ok found) :
    (hits.get? "hits" = none ∧ found.hits = []) ∨
      ∃ items, hits.get? "hits" = some (.array items) ∧
        List.Forall₂ (fun item hit => hit.Restates item) items found.hits := by
  obtain ⟨others, inner, hsections, hgives⟩ := gives_of_result hnames h
  obtain rfl := Option.some.inj hsections.outer
  obtain ⟨document, hdocument, hinner⟩ := hsections.inner
  obtain rfl := Option.some.inj (hhits.symm.trans hdocument)
  obtain rfl := Option.some.inj hinner
  refine hgives.hits.imp_right ?_
  rintro ⟨items, hitems, hall⟩
  have hlistNames := Json.hasDistinctNames_array_iff.mp
    (Json.hasDistinctNames_of_get? (Json.hasDistinctNames_of_get? hnames hhits) hitems)
  have hlistFinite := (Json.everywhere_array_iff.mp
    (Json.everywhere_of_get? (Json.everywhere_of_get? hfinite hhits) hitems)).2
  refine ⟨items, hitems, List.forall₂_iff_get.mpr ⟨hall.length_eq, fun i hi hi' => ?_⟩⟩
  have hitem := List.get_mem items ⟨i, hi⟩
  exact Hit.restates_of_read (hlistNames _ hitem) (hlistFinite _ hitem)
    ((List.forall₂_iff_get.mp hall).2 i hi hi')

/-- Nothing is lost between a response and its hits and buckets. The hits of an object are written
again as the items of its list but for nulls and the kind of the score, a bucket as it was read,
and both are read again as they are. -/
theorem hits_and_buckets_kept :
    (∀ (requested : Aggregations) (members hits : Entries Json) (found : SearchResult),
        (Json.object members).hasDistinctNames = true →
        (Json.object members).hasFiniteNumbers = true →
        members.get? "hits" = some (.object hits) →
        result requested (.object members) = .ok found →
        (hits.get? "hits" = none ∧ found.hits = []) ∨
          ∃ items, hits.get? "hits" = some (.array items) ∧
            List.Forall₂ (fun item hit => hit.Restates item) items found.hits) ∧
      (∀ item : Json, item.hasDistinctNames = true → item.hasFiniteNumbers = true →
        ((∃ hit, Hit.read item = .ok hit) ↔ item.IsHit) ∧
          ∀ hit, Hit.read item = .ok hit →
            hit.Restates item ∧ Hit.read hit.document = .ok hit) ∧
      ∀ item : Json, item.hasDistinctNames = true →
        ((∃ bucket, Bucket.read item = .ok bucket) ↔ item.IsBucket) ∧
          ∀ bucket, Bucket.read item = .ok bucket →
            bucket.Restates item ∧ Bucket.read bucket.document = .ok bucket := by
  refine ⟨fun requested members hits found => hits_restate, ?_, ?_⟩
  · intro item hitem hfinite
    refine ⟨Hit.exists_read_iff hitem, fun hit h => ?_⟩
    refine ⟨Hit.restates_of_read hitem hfinite h, ?_⟩
    obtain ⟨members, rfl⟩ := Hit.exists_object_of_read h
    have hnames := Json.nodup_names hitem
    exact ((Hit.holds_of_read hnames h).wellFormed hnames hfinite).read_document
  · intro item hitem
    refine ⟨Bucket.exists_read_iff hitem, fun bucket h => ?_⟩
    obtain ⟨members, rfl, hholds⟩ := (Bucket.read_eq_ok_iff hitem).mp h
    have hnames := Json.nodup_names hitem
    obtain ⟨again, hagain, hperm⟩ := hholds.document_perm hnames
    exact ⟨⟨members, again, rfl, hagain, hperm⟩, hholds.read_document hnames⟩

def unevenHitExample : Json :=
  .object [("sort", .array []), ("_score", .natural 9007199254740993), ("_id", .null),
    ("fields", .null)]

def unevenExample : Entries Json :=
  [("hits", .object [("total", .natural 2), ("hits", .array [unevenHitExample, .object []])])]

def roundedHitExample : Hit :=
  { score := some (Number.natural 9007199254740993).toBinary64
    extra := [("sort", .array []), ("fields", .null)] }

def shuffledBucketExample : Json :=
  .object [("sub", .null), ("doc_count", .natural 3), ("key", .string "a")]

/-- The score lies halfway between two floating point numbers, the null id is dropped and the null
that is not known is kept; a hit without members is one too. -/
theorem hits_and_buckets_kept_unevenExample :
    (∃ found, result [] (.object unevenExample) = .ok found ∧
        List.Forall₂ (fun item hit => hit.Restates item) [unevenHitExample, .object []]
          found.hits) ∧
      Hit.read roundedHitExample.document = .ok roundedHitExample ∧
      Bucket.Restates ⟨.string "a", 3, [("sub", .null)]⟩ shuffledBucketExample := by
  obtain ⟨hhits, hhit, hbucket⟩ := hits_and_buckets_kept
  have hresult : result [] (.object unevenExample) = .ok ⟨[roundedHitExample, {}], 2, []⟩ := rfl
  refine ⟨⟨_, hresult, ?_⟩, ?_, ?_⟩
  · rcases hhits [] unevenExample _ _ (by decide) (by decide) rfl hresult with
      ⟨hnone, -⟩ | ⟨items, hitems, hall⟩
    · cases hnone
    · obtain rfl := Json.array.inj (Option.some.inj hitems)
      exact hall
  · exact ((hhit unevenHitExample (by decide) (by decide)).2 roundedHitExample rfl).2
  · exact ((hbucket shuffledBucketExample (by decide)).2 _ rfl).1

/-- The fraction of the score that is taken is even. -/
example : (Number.natural 9007199254740993).toBinary64 = ⟨0x4340000000000000⟩ := by
  decide +kernel

end Response

end DocumentSearch
