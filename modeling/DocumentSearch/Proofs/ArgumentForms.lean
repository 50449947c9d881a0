import DocumentSearch.CommandLine.QueryArguments
import DocumentSearch.Proofs.Separators
import DocumentSearch.Proofs.Sequencing

/-!
The forms of the arguments that describe a search. For each form there is what an argument states
that follows it, and the error of an argument that does not. An argument is cut at the first
separator, and what stands behind it may contain the separator again.
-/

namespace DocumentSearch

namespace SortOrder

def lowered (name : String) : String := String.ofList (name.toList.map Char.toLower)

/-- The names of an order. The case of ASCII letters does not matter. -/
def IsNamed : SortOrder → String → Prop
  | ascending, name => lowered name = "asc" ∨ lowered name = "ascending"
  | descending, name => lowered name = "desc" ∨ lowered name = "descending"

theorem ofName_eq (name : String) :
    ofName name =
      if lowered name = "asc" || lowered name = "ascending" then .ok ascending
      else if lowered name = "desc" || lowered name = "descending" then .ok descending
      else .error (.sortOrder (lowered name)) := rfl

theorem ofName_eq_ok_iff {name : String} {order : SortOrder} :
    ofName name = .ok order ↔ order.IsNamed name := by
  rw [ofName_eq]
  cases order <;> grind [IsNamed]

theorem ofName_eq_error_iff {name : String} {error : UnknownName} :
    ofName name = .error error ↔
      (∀ order, ¬ IsNamed order name) ∧ error = .sortOrder (lowered name) := by
  have hnone : (∀ order, ¬ IsNamed order name) ↔
      ¬ IsNamed ascending name ∧ ¬ IsNamed descending name :=
    ⟨fun h => ⟨h _, h _⟩, fun h order => by cases order <;> tauto⟩
  rw [hnone, ofName_eq]
  grind [IsNamed]

end SortOrder

namespace MetricKind

theorem mem_all (kind : MetricKind) : kind ∈ all := by
  cases kind <;> decide

theorem ofName_name (kind : MetricKind) : ofName kind.name = .ok kind := by
  cases kind <;> decide

theorem ofName_eq_ok_iff {name : String} {kind : MetricKind} :
    ofName name = .ok kind ↔ kind.name = name := by
  constructor
  · intro h
    unfold ofName at h
    split at h
    · rename_i found hfound
      rw [← Except.ok.inj h]
      simpa using List.find?_some hfound
    · cases h
  · rintro rfl
    exact ofName_name kind

theorem ofName_eq_error_iff {name : String} {error : UnknownName} :
    ofName name = .error error ↔
      (∀ kind : MetricKind, kind.name ≠ name) ∧ error = .metricKind name := by
  have hnone : (∀ kind : MetricKind, kind.name ≠ name) ↔
      all.find? (fun kind => kind.name == name) = none := by
    rw [List.find?_eq_none]
    simp [mem_all]
  rw [hnone, ofName]
  cases all.find? fun kind => kind.name == name <;> simp [eq_comm]

end MetricKind

namespace QueryArguments

/-- What stands before and after the first separator, if anything stands before it. -/
def IsPair (separator : Char) (argument key rest : String) : Prop :=
  Text.IsCut separator argument key rest ∧ key ≠ ""

theorem pair_eq_ok_iff {separator : Char} {argument key rest : String} :
    pair separator argument = .ok (key, rest) ↔ IsPair separator argument key rest := by
  rw [IsPair, ← Text.splitOnce_eq_some_iff]
  unfold pair
  cases Text.splitOnce separator argument with
  | none => simp
  | some found =>
    obtain ⟨before, after⟩ := found
    change (if before.isEmpty then Except.error _ else Except.ok (before, after)) = _ ↔ _
    by_cases hbefore : before = ""
    · rw [if_pos (by simp [hbefore])]
      refine iff_of_false (by simp) ?_
      rintro ⟨h, hkey⟩
      exact hkey ((Prod.mk.inj (Option.some.inj h)).1 ▸ hbefore)
    · rw [if_neg (by simpa using hbefore)]
      constructor
      · intro h
        obtain ⟨rfl, rfl⟩ := Prod.mk.inj (Except.ok.inj h)
        exact ⟨rfl, hbefore⟩
      · rintro ⟨h, -⟩
        rw [Option.some.inj h]

theorem pair_eq_error_iff {separator : Char} {argument : String} {error : ArgumentError} :
    pair separator argument = .error error ↔
      (¬ ∃ key rest, IsPair separator argument key rest) ∧
        error = .notAPair separator argument := by
  have herror : ∀ other, pair separator argument = .error other →
      other = .notAPair separator argument := by
    intro other h
    unfold pair at h
    split at h
    · exact (Except.error.inj h).symm
    · split at h
      · exact (Except.error.inj h).symm
      · cases h
  simp only [← pair_eq_ok_iff]
  cases hpair : pair separator argument with
  | ok parts => exact iff_of_false (by simp) fun h => h.1 ⟨parts.1, parts.2, rfl⟩
  | error other =>
    rw [herror other hpair]
    simp [eq_comm]

/-- What a text stands for: a number or a boolean if it reads as one, and itself otherwise. -/
inductive IsTyped (raw : String) : Json → Prop
  | number {n : Number} (h : Json.read raw = some (.number n)) : IsTyped raw (.number n)
  | bool {b : Bool} (h : Json.read raw = some (.bool b)) : IsTyped raw (.bool b)
  | text (hnumber : ∀ n, Json.read raw ≠ some (.number n))
      (hbool : ∀ b, Json.read raw ≠ some (.bool b)) : IsTyped raw (.string raw)

theorem isTyped_value (raw : String) : IsTyped raw (value raw) := by
  unfold value
  split
  · rename_i h
    exact .number h
  · rename_i h
    exact .bool h
  · rename_i hnumber hbool
    exact .text hnumber hbool

theorem value_eq_iff {raw : String} {document : Json} :
    value raw = document ↔ IsTyped raw document := by
  constructor
  · rintro rfl
    exact isTyped_value raw
  · intro h
    unfold value
    cases h with
    | number h => rw [h]
    | bool h => rw [h]
    | text hnumber hbool =>
      split
      · rename_i h
        exact absurd h (hnumber _)
      · rename_i h
        exact absurd h (hbool _)
      · rfl

/-- A field and the text of its value. -/
def StatesEquality (argument : String) (condition : String × Json) : Prop :=
  ∃ raw, IsPair '=' argument condition.1 raw ∧ IsTyped raw condition.2

/-- A field and the texts of its values between commas, with or without blanks around them. -/
def StatesMembership (argument : String) (condition : String × List Json) : Prop :=
  ∃ raw pieces, IsPair '=' argument condition.1 raw ∧ Text.IsSplit ',' raw pieces ∧
    List.Forall₂ (fun piece value => ∃ middle, Text.IsTrimmed piece middle ∧ IsTyped middle value)
      pieces condition.2

/-- A field alone, or a field and the name of an order. -/
inductive StatesSort : String → SortKey → Prop
  | plain {field : String} (h : ':' ∉ field.toList) : StatesSort field ⟨field, .ascending⟩
  | ordered {argument field name : String} {order : SortOrder}
      (h : Text.IsCut ':' argument field name) (horder : order.IsNamed name) :
      StatesSort argument ⟨field, order⟩

/-- A name and a field to count by. -/
def StatesTerms (argument : String) (entry : String × Aggregation) : Prop :=
  ∃ field, IsPair '=' argument entry.1 field ∧ entry.2 = .terms field 10

/-- A name, one of the kinds of metrics, and a field. -/
def StatesMetric (argument : String) (entry : String × Aggregation) : Prop :=
  ∃ definition kind field, IsPair '=' argument entry.1 definition ∧
    IsPair ':' definition (MetricKind.name kind) field ∧ entry.2 = .metric kind field

variable {argument : String} {step : Draft.Step}

theorem whereStep_eq_ok_iff :
    whereStep argument = .ok step ↔
      ∃ condition, StatesEquality argument condition ∧ .whereEq condition.1 condition.2 = step := by
  unfold whereStep
  simp only [bind_eq_ok_iff, pure_eq_ok_iff, Prod.exists, pair_eq_ok_iff]
  constructor
  · rintro ⟨field, raw, hpair, rfl⟩
    exact ⟨field, _, ⟨raw, hpair, isTyped_value raw⟩, rfl⟩
  · rintro ⟨field, document, ⟨raw, hpair, htyped⟩, rfl⟩
    exact ⟨field, raw, hpair, by rw [value_eq_iff.mpr htyped]⟩

theorem values_eq_iff {raw : String} {values : List Json} :
    ((Text.split ',' raw).map fun piece => value (Text.trim piece)) = values ↔
      ∃ pieces, Text.IsSplit ',' raw pieces ∧
        List.Forall₂ (fun piece value => ∃ middle, Text.IsTrimmed piece middle ∧
          IsTyped middle value) pieces values := by
  simp only [← Text.split_eq_iff, ← Text.trim_eq_iff, ← value_eq_iff, exists_eq_left']
  rw [← List.forall₂_eq_eq_eq, List.forall₂_map_left_iff]

theorem whereInStep_eq_ok_iff :
    whereInStep argument = .ok step ↔
      ∃ condition, StatesMembership argument condition ∧
        .whereIn condition.1 condition.2 = step := by
  unfold whereInStep
  simp only [bind_eq_ok_iff, pure_eq_ok_iff, Prod.exists, pair_eq_ok_iff]
  constructor
  · rintro ⟨field, raw, hpair, rfl⟩
    obtain ⟨pieces, hpieces, hall⟩ := values_eq_iff.mp rfl
    exact ⟨field, _, ⟨raw, pieces, hpair, hpieces, hall⟩, rfl⟩
  · rintro ⟨field, values, ⟨raw, pieces, hpair, hpieces, hall⟩, rfl⟩
    exact ⟨field, raw, hpair, by rw [values_eq_iff.mpr ⟨pieces, hpieces, hall⟩]⟩

theorem mapError_eq_ok_iff {α ε δ : Type} {result : Except ε α} {f : ε → δ} {value : α} :
    result.mapError f = .ok value ↔ result = .ok value := by
  cases result <;> simp [Except.mapError]

theorem mapError_eq_error_iff {α ε δ : Type} {result : Except ε α} {f : ε → δ} {error : δ} :
    result.mapError f = .error error ↔ ∃ other, result = .error other ∧ f other = error := by
  cases result <;> simp [Except.mapError]

theorem sortKey_eq_ok_iff {key : SortKey} :
    sortKey argument = .ok key ↔ StatesSort argument key := by
  unfold sortKey
  cases hcut : Text.splitOnce ':' argument with
  | none =>
    constructor
    · intro h
      rw [← Except.ok.inj h]
      exact .plain (Text.splitOnce_eq_none_iff.mp hcut)
    · intro h
      cases h with
      | plain => rfl
      | ordered h => cases hcut.symm.trans (Text.splitOnce_eq_some_iff.mpr h)
  | some parts =>
    obtain ⟨field, name⟩ := parts
    simp only [bind_eq_ok_iff, pure_eq_ok_iff, mapError_eq_ok_iff, SortOrder.ofName_eq_ok_iff]
    constructor
    · rintro ⟨order, horder, rfl⟩
      exact .ordered (Text.splitOnce_eq_some_iff.mp hcut) horder
    · intro h
      cases h with
      | plain h => cases hcut.symm.trans (Text.splitOnce_eq_none_iff.mpr h)
      | ordered h horder =>
        obtain ⟨rfl, rfl⟩ := Prod.mk.inj
          (Option.some.inj (hcut.symm.trans (Text.splitOnce_eq_some_iff.mpr h)))
        exact ⟨_, horder, rfl⟩

theorem termsStep_eq_ok_iff :
    termsStep argument = .ok step ↔
      ∃ entry, StatesTerms argument entry ∧ .aggregation entry.1 entry.2 = step := by
  unfold termsStep
  simp only [bind_eq_ok_iff, pure_eq_ok_iff, Prod.exists, pair_eq_ok_iff]
  constructor
  · rintro ⟨name, field, hpair, rfl⟩
    exact ⟨name, _, ⟨field, hpair, rfl⟩, rfl⟩
  · rintro ⟨name, definition, ⟨field, hpair, rfl⟩, rfl⟩
    exact ⟨name, field, hpair, rfl⟩

theorem metricStep_eq_ok_iff :
    metricStep argument = .ok step ↔
      ∃ entry, StatesMetric argument entry ∧ .aggregation entry.1 entry.2 = step := by
  unfold metricStep
  simp only [bind_eq_ok_iff, pure_eq_ok_iff, Prod.exists, pair_eq_ok_iff, mapError_eq_ok_iff,
    MetricKind.ofName_eq_ok_iff]
  constructor
  · rintro ⟨name, definition, hpair, _, field, hkind, kind, rfl, rfl⟩
    exact ⟨name, _, ⟨definition, kind, field, hpair, hkind, rfl⟩, rfl⟩
  · rintro ⟨name, aggregation, ⟨definition, kind, field, hpair, hkind, rfl⟩, rfl⟩
    exact ⟨name, definition, hpair, _, field, hkind, kind, rfl, rfl⟩

/-- The forms that arguments have. -/
inductive Form where
  | equality
  | membership
  | sort
  | terms
  | metric

/-- Whether an argument follows its form. -/
def Follows : Form → String → Prop
  | .equality, argument | .membership, argument | .terms, argument =>
      ∃ key rest, IsPair '=' argument key rest
  | .sort, argument =>
      ':' ∉ argument.toList ∨ ∃ field name order, Text.IsCut ':' argument field name ∧
        SortOrder.IsNamed order name
  | .metric, argument =>
      ∃ name definition kind field, IsPair '=' argument name definition ∧
        IsPair ':' definition (MetricKind.name kind) field

/-- The error of an argument that does not follow its form. -/
inductive Offends : Form → String → ArgumentError → Prop
  | noPair {form : Form} {argument : String} (hform : form ≠ .sort)
      (h : ¬ ∃ key rest, IsPair '=' argument key rest) :
      Offends form argument (.notAPair '=' argument)
  | unknownOrder {argument field name : String} (h : Text.IsCut ':' argument field name)
      (hname : ∀ order, ¬ SortOrder.IsNamed order name) :
      Offends .sort argument (.unknownName (.sortOrder (SortOrder.lowered name)))
  | noKind {argument name definition : String} (h : IsPair '=' argument name definition)
      (hkind : ¬ ∃ kind field, IsPair ':' definition kind field) :
      Offends .metric argument (.notAPair ':' definition)
  | unknownKind {argument name definition kind field : String}
      (h : IsPair '=' argument name definition) (hkind : IsPair ':' definition kind field)
      (hname : ∀ known : MetricKind, known.name ≠ kind) :
      Offends .metric argument (.unknownName (.metricKind kind))

/-- Reading an argument tells whether it follows the form, and if it does not, how it offends. -/
structure Reads {α : Type} (form : Form) (read : String → Except ArgumentError α) : Prop where
  ok : ∀ argument, (∃ value, read argument = .ok value) ↔ Follows form argument
  error : ∀ argument error, read argument = .error error ↔ Offends form argument error

theorem reads_pair {α : Type} {form : Form} (make : String → String → α)
    (hsort : form ≠ .sort) (hmetric : form ≠ .metric) :
    Reads form fun argument => do let (key, rest) ← pair '=' argument; return make key rest where
  ok argument := by
    simp only [bind_eq_ok_iff, pure_eq_ok_iff, Prod.exists, pair_eq_ok_iff]
    cases form <;> simp_all [Follows]
  error argument error := by
    rw [bind_eq_error_iff, pair_eq_error_iff]
    constructor
    · rintro (⟨hpair, rfl⟩ | ⟨parts, -, h⟩)
      · exact .noPair hsort hpair
      · cases h
    · intro h
      cases h with
      | noPair _ hpair => exact Or.inl ⟨hpair, rfl⟩
      | unknownOrder => exact absurd rfl hsort
      | noKind => exact absurd rfl hmetric
      | unknownKind => exact absurd rfl hmetric

theorem reads_whereStep : Reads .equality whereStep :=
  reads_pair (fun field raw => Draft.Step.whereEq field (value raw)) nofun nofun

theorem reads_whereInStep : Reads .membership whereInStep :=
  reads_pair (fun field raw => Draft.Step.whereIn field
    ((Text.split ',' raw).map fun piece => value (Text.trim piece))) nofun nofun

theorem reads_termsStep : Reads .terms termsStep :=
  reads_pair (fun name field => Draft.Step.aggregation name
    (.terms field Aggregation.defaultSize)) nofun nofun

theorem reads_sortKey : Reads .sort sortKey where
  ok argument := by
    simp only [sortKey_eq_ok_iff]
    constructor
    · rintro ⟨_, h | ⟨h, horder⟩⟩
      · exact Or.inl h
      · exact Or.inr ⟨_, _, _, h, horder⟩
    · rintro (h | ⟨field, name, order, h, horder⟩)
      · exact ⟨_, .plain h⟩
      · exact ⟨_, .ordered h horder⟩
  error argument error := by
    unfold sortKey
    cases hcut : Text.splitOnce ':' argument with
    | none =>
      refine iff_of_false (by simp) fun h => ?_
      cases h with
      | noPair hform => exact hform rfl
      | unknownOrder h => cases hcut.symm.trans (Text.splitOnce_eq_some_iff.mpr h)
    | some parts =>
      obtain ⟨field, name⟩ := parts
      simp only [bind_eq_error_iff, mapError_eq_error_iff, SortOrder.ofName_eq_error_iff]
      constructor
      · rintro (⟨_, ⟨hname, rfl⟩, rfl⟩ | ⟨order, -, h⟩)
        · exact .unknownOrder (Text.splitOnce_eq_some_iff.mp hcut) hname
        · cases h
      · intro h
        cases h with
        | noPair hform => exact absurd rfl hform
        | unknownOrder h hname =>
          obtain ⟨rfl, rfl⟩ := Prod.mk.inj
            (Option.some.inj (hcut.symm.trans (Text.splitOnce_eq_some_iff.mpr h)))
          exact Or.inl ⟨_, ⟨hname, rfl⟩, rfl⟩

theorem reads_metricStep : Reads .metric metricStep where
  ok argument := by
    simp only [metricStep_eq_ok_iff]
    constructor
    · rintro ⟨_, ⟨name, _⟩, ⟨definition, kind, field, hpair, hkind, -⟩, -⟩
      exact ⟨name, definition, kind, field, hpair, hkind⟩
    · rintro ⟨name, definition, kind, field, hpair, hkind⟩
      exact ⟨_, (name, _), ⟨definition, kind, field, hpair, hkind, rfl⟩, rfl⟩
  error argument error := by
    unfold metricStep
    simp only [bind_eq_error_iff, pair_eq_error_iff, mapError_eq_error_iff, Prod.exists,
      pair_eq_ok_iff, MetricKind.ofName_eq_error_iff]
    constructor
    · rintro (⟨hpair, rfl⟩ | ⟨name, definition, hpair, ⟨hkind, rfl⟩ |
        ⟨kind, field, hkind, ⟨_, ⟨hname, rfl⟩, rfl⟩ | ⟨known, -, h⟩⟩⟩)
      · exact .noPair nofun hpair
      · exact .noKind hpair hkind
      · exact .unknownKind hpair hkind hname
      · cases h
    · intro h
      cases h with
      | noPair _ hpair => exact Or.inl ⟨hpair, rfl⟩
      | noKind hpair hkind => exact Or.inr ⟨_, _, hpair, Or.inl ⟨hkind, rfl⟩⟩
      | unknownKind hpair hkind hname =>
        exact Or.inr ⟨_, _, hpair, Or.inr ⟨_, _, hkind, Or.inl ⟨_, ⟨hname, rfl⟩, rfl⟩⟩⟩

end QueryArguments

end DocumentSearch
