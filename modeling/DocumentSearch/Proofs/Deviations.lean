import DocumentSearch.Index.Comparison
import DocumentSearch.Proofs.DocumentEquality
import DocumentSearch.Proofs.Settings

/-!
Where two documents deviate, and how. A place is a list of names to be followed on both sides. It
deviates if there are objects on both sides everywhere above it, and what it leads to is on one
side only, or on both sides without being two objects or equal. The walk through the documents
visits each name of either side once, and so it reports exactly the deviating places, each once.
-/

namespace DocumentSearch

open Settings (follow)

namespace Json

def BothObjects (desired actual : Json) : Prop :=
  ∃ entries others, desired = .object entries ∧ actual = .object others

/-- The names of both sides, each once. -/
def eitherNames (desired actual : Entries Json) : List String :=
  desired.names ++ actual.names.filter fun name => !desired.contains name

theorem mem_surplusNames {desired actual : Entries Json} {name : String} :
    name ∈ actual.names.filter (fun name => !desired.contains name) ↔
      name ∈ actual.names ∧ name ∉ desired.names := by
  rw [List.mem_filter, Bool.not_eq_true', ← Bool.not_eq_true, Entries.contains_iff]

theorem mem_eitherNames {desired actual : Entries Json} {name : String} :
    name ∈ eitherNames desired actual ↔ name ∈ desired.names ∨ name ∈ actual.names := by
  rw [eitherNames, List.mem_append, mem_surplusNames]
  tauto

theorem nodup_eitherNames {desired actual : Entries Json} (hdesired : desired.names.Nodup)
    (hactual : actual.names.Nodup) : (eitherNames desired actual).Nodup := by
  refine List.nodup_append'.mpr ⟨hdesired, hactual.filter _, ?_⟩
  intro name hname hother
  exact (mem_surplusNames.mp hother).2 hname

end Json

/-- What the kind of a difference says about the values that the two sides have or lack. -/
inductive DifferenceKind.Describes : DifferenceKind → Option Json → Option Json → Prop
  | missingRemotely (value : Json) : Describes .missingRemotely (some value) none
  | onlyRemote (value : Json) : Describes .onlyRemote none (some value)
  | changed {value other : Json} (hobjects : ¬ value.BothObjects other)
      (h : value.equivalent other = false) : Describes .changed (some value) (some other)

/-- If there is a value, its names are distinct. -/
def NamesDistinct (value : Option Json) : Prop :=
  ∀ found ∈ value, found.hasDistinctNames = true

theorem namesDistinct_get? {entries : Entries Json} (key : String)
    (h : NamesDistinct (some (.object entries))) : NamesDistinct (entries.get? key) :=
  fun _ hvalue => Json.hasDistinctNames_of_get? (h _ rfl) hvalue

/-- Below two values, either of which may be lacking, the place at the end of `keys` differs as
`kind` says, and the places on the way to it are objects on both sides. -/
structure Deviates (desired actual : Option Json) (keys : List String) (kind : DifferenceKind) :
    Prop where
  above : ∀ front, front <+: keys → front ≠ keys →
    ∃ entries others, desired.bind (follow front) = some (.object entries) ∧
      actual.bind (follow front) = some (.object others)
  differ : kind.Describes (desired.bind (follow keys)) (actual.bind (follow keys))

theorem bind_follow_nil (value : Option Json) : value.bind (follow []) = value := by
  cases value <;> rfl

theorem deviates_nil_iff {desired actual : Option Json} {kind : DifferenceKind} :
    Deviates desired actual [] kind ↔ kind.Describes desired actual := by
  constructor
  · intro h
    have hdiffer := h.differ
    rwa [bind_follow_nil, bind_follow_nil] at hdiffer
  · intro h
    refine ⟨?_, by rwa [bind_follow_nil, bind_follow_nil]⟩
    intro front hfront hne
    exact absurd (List.prefix_nil.mp hfront) hne

/-- A place below a name deviates if there are two objects and it deviates below their members
of that name. -/
theorem deviates_cons_iff {desired actual : Option Json} {key : String} {rest : List String}
    {kind : DifferenceKind} :
    Deviates desired actual (key :: rest) kind ↔
      ∃ entries others : Entries Json, desired = some (.object entries) ∧
        actual = some (.object others) ∧
        Deviates (entries.get? key) (others.get? key) rest kind := by
  constructor
  · intro h
    obtain ⟨entries, others, hdesired, hactual⟩ := h.above [] List.nil_prefix (by simp)
    rw [bind_follow_nil] at hdesired hactual
    subst hdesired hactual
    refine ⟨entries, others, rfl, rfl, ?_, h.differ⟩
    intro front hfront hne
    exact h.above (key :: front) (List.prefix_cons_inj key |>.mpr hfront) (by simpa using hne)
  · rintro ⟨entries, others, rfl, rfl, h⟩
    refine ⟨?_, h.differ⟩
    intro front hfront hne
    cases front with
    | nil => exact ⟨entries, others, rfl, rfl⟩
    | cons first front =>
      obtain ⟨rfl, hrest⟩ := List.cons_prefix_cons.mp hfront
      exact h.above front hrest (by simpa using hne)

namespace Json

open Comparator (lookupDeviations)

theorem deviations_of_not_bothObjects {desired actual : Json}
    (h : ¬ desired.BothObjects actual) :
    desired.deviations actual = if desired.equivalent actual then [] else [([], .changed)] := by
  cases desired
  case object entries =>
    cases actual
    case object others => exact absurd ⟨entries, others, rfl, rfl⟩ h
    all_goals simp [deviations]
  all_goals simp [deviations]

theorem entryDeviations_eq_flatMap (entries : List (String × Json)) (actual : Entries Json) :
    entryDeviations entries actual = entries.flatMap fun entry =>
      (lookupDeviations (some entry.2) (actual.get? entry.1)).map (Deviation.under entry.1) := by
  induction entries with
  | nil => rfl
  | cons entry rest ih =>
    obtain ⟨key, value⟩ := entry
    rw [entryDeviations, ih, List.flatMap_cons]
    cases actual.get? key <;> rfl

/-- The walk visits each name of either side once. -/
theorem deviations_object {desired actual : Entries Json} (hdesired : desired.names.Nodup)
    (hactual : actual.names.Nodup) :
    (Json.object desired).deviations (.object actual) =
      (eitherNames desired actual).flatMap fun name =>
        (lookupDeviations (desired.get? name) (actual.get? name)).map (Deviation.under name) := by
  have hown : entryDeviations desired actual = desired.names.flatMap fun name =>
      (lookupDeviations (desired.get? name) (actual.get? name)).map (Deviation.under name) := by
    rw [entryDeviations_eq_flatMap, Entries.names, List.flatMap_map]
    refine List.flatMap_congr fun entry hentry => ?_
    rw [Entries.get?_of_mem hdesired hentry]
  have hsurplus : surplus desired actual =
      (actual.names.filter fun name => !desired.contains name).flatMap fun name =>
        (lookupDeviations (desired.get? name) (actual.get? name)).map (Deviation.under name) := by
    rw [surplus, List.map_eq_flatMap, Entries.names, List.filter_map, List.flatMap_map]
    refine List.flatMap_congr fun entry hentry => ?_
    obtain ⟨hmem, hlacking⟩ := List.mem_filter.mp hentry
    have hnone : desired.get? entry.1 = none := by
      simpa [Entries.contains] using hlacking
    rw [hnone, Entries.get?_of_mem hactual hmem]
    rfl
  rw [deviations, hown, hsurplus, eitherNames, List.flatMap_append]

theorem mem_deviations_object_iff {desired actual : Entries Json} {keys : List String}
    {kind : DifferenceKind} (hdesired : desired.names.Nodup) (hactual : actual.names.Nodup) :
    (keys, kind) ∈ (Json.object desired).deviations (.object actual) ↔
      ∃ key rest, keys = key :: rest ∧
        (rest, kind) ∈ lookupDeviations (desired.get? key) (actual.get? key) := by
  rw [deviations_object hdesired hactual, List.mem_flatMap]
  constructor
  · rintro ⟨name, -, hmem⟩
    obtain ⟨⟨rest, found⟩, hfound, heq⟩ := List.mem_map.mp hmem
    obtain ⟨rfl, rfl⟩ := Prod.mk.inj heq
    exact ⟨name, rest, rfl, hfound⟩
  · rintro ⟨key, rest, rfl, hmem⟩
    refine ⟨key, ?_, List.mem_map.mpr ⟨(rest, kind), hmem, rfl⟩⟩
    -- A name that neither side has leads to no deviation.
    rw [mem_eitherNames, ← Entries.exists_get?_iff, ← Entries.exists_get?_iff]
    cases hleft : desired.get? key with
    | some value => exact Or.inl ⟨value, rfl⟩
    | none =>
      cases hright : actual.get? key with
      | some other => exact Or.inr ⟨other, rfl⟩
      | none => simp [hleft, hright, lookupDeviations] at hmem

end Json

namespace Comparator

variable {desired actual : Option Json}

/-- At its top, a value is reported if it is on one side only, or changed. -/
theorem nil_mem_lookupDeviations_iff {kind : DifferenceKind}
    (hdesired : NamesDistinct desired) (hactual : NamesDistinct actual) :
    ([], kind) ∈ lookupDeviations desired actual ↔ kind.Describes desired actual := by
  constructor
  · intro h
    rcases desired with _ | value <;> rcases actual with _ | other
    · simp [lookupDeviations] at h
    · obtain rfl : kind = .onlyRemote := by simpa [lookupDeviations] using h
      exact .onlyRemote other
    · obtain rfl : kind = .missingRemotely := by simpa [lookupDeviations] using h
      exact .missingRemotely value
    · have hobjects : ¬ value.BothObjects other := by
        rintro ⟨entries, others, rfl, rfl⟩
        obtain ⟨key, rest, hkeys, -⟩ := (Json.mem_deviations_object_iff
          (Json.nodup_names (hdesired _ rfl))
          (Json.nodup_names (hactual _ rfl))).mp h
        exact List.cons_ne_nil key rest hkeys.symm
      rw [lookupDeviations, Json.deviations_of_not_bothObjects hobjects] at h
      obtain ⟨hequivalent, rfl⟩ : value.equivalent other = false ∧ kind = .changed := by
        simpa using h
      exact .changed hobjects hequivalent
  · intro h
    cases h with
    | missingRemotely value => simp [lookupDeviations]
    | onlyRemote value => simp [lookupDeviations]
    | changed hobjects h =>
      rw [lookupDeviations, Json.deviations_of_not_bothObjects hobjects, h]
      simp

/-- Below a name there is a deviation only if both sides have objects. -/
theorem cons_mem_lookupDeviations_iff {key : String} {rest : List String} {kind : DifferenceKind}
    (hdesired : NamesDistinct desired) (hactual : NamesDistinct actual) :
    (key :: rest, kind) ∈ lookupDeviations desired actual ↔
      ∃ entries others : Entries Json, desired = some (.object entries) ∧
        actual = some (.object others) ∧
        (rest, kind) ∈ lookupDeviations (entries.get? key) (others.get? key) := by
  have hstep : ∀ entries others : Entries Json, desired = some (.object entries) →
      actual = some (.object others) →
      ((key :: rest, kind) ∈ lookupDeviations desired actual ↔
        (rest, kind) ∈ lookupDeviations (entries.get? key) (others.get? key)) := by
    rintro entries others rfl rfl
    rw [lookupDeviations, Json.mem_deviations_object_iff
      (Json.nodup_names (hdesired _ rfl))
      (Json.nodup_names (hactual _ rfl))]
    simp
  constructor
  · intro h
    obtain ⟨value, other, rfl, rfl⟩ : ∃ value other,
        desired = some value ∧ actual = some other := by
      rcases desired with _ | value <;> rcases actual with _ | other <;>
        simp [lookupDeviations] at h ⊢
    by_cases hobjects : value.BothObjects other
    · obtain ⟨entries, others, rfl, rfl⟩ := hobjects
      exact ⟨entries, others, rfl, rfl, (hstep entries others rfl rfl).mp h⟩
    · rw [lookupDeviations, Json.deviations_of_not_bothObjects hobjects] at h
      split at h <;> simp at h
  · rintro ⟨entries, others, hleft, hright, h⟩
    exact (hstep entries others hleft hright).mpr h

/-- The walk reports the deviating places and no others. -/
theorem mem_lookupDeviations_iff {keys : List String} {kind : DifferenceKind}
    (hdesired : NamesDistinct desired) (hactual : NamesDistinct actual) :
    (keys, kind) ∈ lookupDeviations desired actual ↔ Deviates desired actual keys kind := by
  induction keys generalizing desired actual with
  | nil => rw [deviates_nil_iff, nil_mem_lookupDeviations_iff hdesired hactual]
  | cons key rest ih =>
    rw [deviates_cons_iff, cons_mem_lookupDeviations_iff hdesired hactual]
    refine exists₂_congr fun entries others => and_congr_right fun hleft =>
      and_congr_right fun hright => ?_
    exact ih (namesDistinct_get? key (hleft ▸ hdesired))
      (namesDistinct_get? key (hright ▸ hactual))

theorem nodup_keys_lookupDeviations_of
    (h : ∀ value ∈ desired, ∀ other ∈ actual, ((value.deviations other).map Prod.fst).Nodup) :
    ((lookupDeviations desired actual).map Prod.fst).Nodup := by
  cases desired with
  | none => cases actual <;> simp [lookupDeviations]
  | some value =>
    cases actual with
    | none => simp [lookupDeviations]
    | some other => exact h value rfl other rfl

end Comparator

open Comparator (lookupDeviations)

theorem Deviation.keys_map_under (name : String) (deviations : List Deviation) :
    (deviations.map (under name)).map Prod.fst =
      (deviations.map Prod.fst).map (List.cons name) := by
  rw [List.map_map, List.map_map]
  rfl

namespace Json

theorem nodup_keys_deviations_of_not_bothObjects {a b : Json} (h : ¬ a.BothObjects b) :
    ((a.deviations b).map Prod.fst).Nodup := by
  rw [deviations_of_not_bothObjects h]
  split <;> simp

/-- No place is reported twice: places below different names differ in their first name. -/
theorem nodup_keys_deviations {a b : Json} (ha : a.hasDistinctNames = true)
    (hb : b.hasDistinctNames = true) : ((a.deviations b).map Prod.fst).Nodup := by
  induction a using Json.induction generalizing b with
  | object entries ih =>
    cases b
    case object others =>
      obtain ⟨hnames, hvalues⟩ := hasDistinctNames_object_iff.mp ha
      obtain ⟨hotherNames, -⟩ := hasDistinctNames_object_iff.mp hb
      simp only [deviations_object hnames hotherNames, List.map_flatMap,
        Deviation.keys_map_under]
      rw [List.nodup_flatMap]
      constructor
      · intro name _
        have hkeys : ((lookupDeviations (Entries.get? entries name)
            (Entries.get? others name)).map Prod.fst).Nodup := by
          refine Comparator.nodup_keys_lookupDeviations_of fun value hvalue other hother => ?_
          have hentry := Entries.mem_of_get? hvalue
          exact ih _ hentry (hvalues _ hentry) (hasDistinctNames_of_get? hb hother)
        exact hkeys.map List.cons_injective
      · refine (nodup_eitherNames hnames hotherNames).imp fun {name other} hne => ?_
        intro keys hleft hright
        obtain ⟨_, -, rfl⟩ := List.mem_map.mp hleft
        obtain ⟨_, -, heq⟩ := List.mem_map.mp hright
        exact hne (List.cons.inj heq).1.symm
    all_goals exact nodup_keys_deviations_of_not_bothObjects (by simp [BothObjects])
  | _ => exact nodup_keys_deviations_of_not_bothObjects (by simp [BothObjects])

end Json

theorem Comparator.nodup_keys_lookupDeviations {desired actual : Option Json}
    (hdesired : NamesDistinct desired) (hactual : NamesDistinct actual) :
    ((lookupDeviations desired actual).map Prod.fst).Nodup :=
  nodup_keys_lookupDeviations_of fun value hvalue other hother =>
    Json.nodup_keys_deviations (hdesired value hvalue) (hactual other hother)

end DocumentSearch
