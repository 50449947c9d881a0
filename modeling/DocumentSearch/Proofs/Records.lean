import DocumentSearch.Json.Record
import DocumentSearch.Proofs.Documents
import DocumentSearch.Proofs.Sequencing

/-!
Records read from members of distinct names. No field is stored twice then, so reading is a run of
steps, one for each member. A part of the record is decided by the member under its name and by no
other, what is no field is kept in its order, and nothing but a missing or an unreadable member
stops the run. An array is read as the object that has its items under the names of the fields.
-/

namespace DocumentSearch

/-- What is read from a member that may be missing. -/
def readOr {α : Type} (default : α) (read : Json → Except RecordError α) :
    Option Json → Except RecordError α
  | none => .ok default
  | some document => read document

section AsOption

variable {α : Type} {read : Json → Except RecordError α}

theorem Json.asOption_cases (read : Json → Except RecordError α) (document : Json) :
    (document = .null ∧ document.asOption read = .ok none) ∨
      (document ≠ .null ∧ document.asOption read = some <$> read document) := by
  cases document with
  | null => exact Or.inl ⟨rfl, rfl⟩
  | _ => exact Or.inr ⟨by simp, rfl⟩

/-- Null is taken for a value that is not there. -/
theorem Json.exists_asOption_iff {document : Json} :
    (∃ found, document.asOption read = .ok found) ↔
      document = .null ∨ ∃ value, read document = .ok value := by
  rcases asOption_cases read document with ⟨hnull, heq⟩ | ⟨hnull, heq⟩
  · simp [hnull, asOption]
  · simp [heq, hnull, map_eq_ok_iff]

theorem readOr_eq_none_iff {found : Option Json} :
    readOr none (Json.asOption read) found = .ok none ↔ found = none ∨ found = some .null := by
  cases found with
  | none => simp [readOr]
  | some document =>
    rcases Json.asOption_cases read document with ⟨rfl, heq⟩ | ⟨hnull, heq⟩
    · simp [readOr, heq]
    · simp [readOr, heq, hnull, map_eq_ok_iff]

theorem readOr_eq_some_iff {found : Option Json} {value : α} :
    readOr none (Json.asOption read) found = .ok (some value) ↔
      ∃ document, found = some document ∧ document ≠ .null ∧ read document = .ok value := by
  cases found with
  | none => simp [readOr]
  | some document =>
    rcases Json.asOption_cases read document with ⟨rfl, heq⟩ | ⟨hnull, heq⟩
    · simp [readOr, heq]
    · simp [readOr, heq, hnull, map_eq_ok_iff]

end AsOption

namespace Record

variable {σ α : Type} {record : Record σ} {keep : σ → String × Json → σ}

/-- The fields have distinct names and answer to no others. -/
structure IsPlain (record : Record σ) : Prop where
  nodup : (record.fields.map Field.name).Nodup
  synonyms : ∀ field ∈ record.fields, field.synonyms = []

theorem IsPlain.fieldFor_eq_some_iff (hplain : record.IsPlain) {name : String}
    {field : Field σ} :
    record.fieldFor name = some field ↔ field ∈ record.fields ∧ field.name = name := by
  have hanswers : ∀ other ∈ record.fields, other.answersTo name = true ↔ other.name = name := by
    intro other hother
    simp [Field.answersTo, hplain.synonyms other hother]
  constructor
  · intro h
    have hmem := List.mem_of_find?_eq_some h
    have hanswer : field.answersTo name = true := by simpa using List.find?_some h
    exact ⟨hmem, (hanswers field hmem).mp hanswer⟩
  · rintro ⟨hmem, hname⟩
    cases hfound : record.fieldFor name with
    | none =>
      have hnone := List.find?_eq_none.mp hfound field hmem
      exact absurd ((hanswers field hmem).mpr hname) hnone
    | some other =>
      have hother := List.mem_of_find?_eq_some hfound
      have hanswer : other.answersTo name = true := by simpa using List.find?_some hfound
      have heq := ((hanswers other hother).mp hanswer).trans hname.symm
      rw [List.inj_on_of_nodup_map hplain.nodup hother hmem heq]

/-- What one member makes of a value if its field has stored nothing before. -/
def step (record : Record σ) (keep : σ → String × Json → σ) (value : σ)
    (member : String × Json) : Except RecordError σ :=
  match record.fieldFor member.1 with
  | none => .ok (keep value member)
  | some field => field.store value member.2

theorem IsPlain.step_of_mem (hplain : record.IsPlain) {field : Field σ}
    (hfield : field ∈ record.fields) (value : σ) (document : Json) :
    record.step keep value (field.name, document) = field.store value document := by
  rw [step, hplain.fieldFor_eq_some_iff.mpr ⟨hfield, rfl⟩]

theorem readEntry_eq_ok_iff (hplain : record.IsPlain) {partly next : Partly σ}
    {member : String × Json} (hfresh : member.1 ∉ partly.stored) :
    record.readEntry keep partly member = .ok next ↔
      record.step keep partly.value member = .ok next.value ∧
        next.stored = (if (record.fieldFor member.1).isSome then [member.1] else []) ++
          partly.stored := by
  obtain ⟨value, stored⟩ := next
  rw [readEntry, step]
  cases hfield : record.fieldFor member.1 with
  | none => simp [eq_comm]
  | some field =>
    have hname := (hplain.fieldFor_eq_some_iff.mp hfield).2
    simp only [hname, List.contains_eq_mem, decide_eq_true_eq, hfresh, if_false, bind_eq_ok_iff,
      pure_eq_ok_iff, Partly.mk.injEq, Option.isSome_some, if_true, List.singleton_append]
    constructor
    · rintro ⟨_, hstore, rfl, rfl⟩
      exact ⟨hstore, rfl⟩
    · rintro ⟨hstore, rfl⟩
      exact ⟨_, hstore, rfl, rfl⟩

/-- Fields that are stored are those of the members; the names are distinct, so none is there
already. -/
theorem foldlM_readEntry_eq_ok_iff (hplain : record.IsPlain) {members : Entries Json}
    (hnames : members.names.Nodup) {partly final : Partly σ}
    (hfresh : ∀ name ∈ members.names, name ∉ partly.stored) :
    members.foldlM (record.readEntry keep) partly = .ok final ↔
      members.foldlM (record.step keep) partly.value = .ok final.value ∧
        final.stored = (members.names.filter fun name => (record.fieldFor name).isSome).reverse ++
          partly.stored := by
  induction members generalizing partly with
  | nil =>
    obtain ⟨value, stored⟩ := final
    obtain ⟨first, before⟩ := partly
    simp only [List.foldlM_nil, pure_eq_ok_iff, Partly.mk.injEq]
    exact and_congr_right fun _ => eq_comm
  | cons member rest ih =>
    rw [Entries.names_cons, List.nodup_cons] at hnames
    rw [Entries.names_cons, List.forall_mem_cons] at hfresh
    simp only [List.foldlM_cons, bind_eq_ok_iff, readEntry_eq_ok_iff hplain hfresh.1]
    have hrest : ∀ {next : Partly σ},
        next.stored = (if (record.fieldFor member.1).isSome then [member.1] else []) ++
          partly.stored →
        (rest.foldlM (record.readEntry keep) next = .ok final ↔
          rest.foldlM (record.step keep) next.value = .ok final.value ∧
            final.stored = ((Entries.names (member :: rest)).filter fun name =>
              (record.fieldFor name).isSome).reverse ++ partly.stored) := by
      intro next hstored
      rw [ih hnames.2, hstored, Entries.names_cons, List.filter_cons]
      · split <;> simp
      · intro name hname hmem
        rw [hstored, List.mem_append] at hmem
        rcases hmem with hown | hbefore
        · have heq : name = member.1 := by
            split at hown <;> simp_all
          exact hnames.1 (heq ▸ hname)
        · exact hfresh.2 name hname hbefore
    constructor
    · rintro ⟨next, ⟨hstep, hstored⟩, hfold⟩
      obtain ⟨hfinal, hall⟩ := (hrest hstored).mp hfold
      exact ⟨⟨next.value, hstep, hfinal⟩, hall⟩
    · rintro ⟨⟨value, hstep, hfinal⟩, hall⟩
      exact ⟨⟨value, _⟩, ⟨hstep, rfl⟩, (hrest rfl).mpr ⟨hfinal, hall⟩⟩

theorem complete_eq_ok_iff {partly : Partly σ} {value : σ} :
    record.complete partly = .ok value ↔
      (∀ field ∈ record.fields, field.required = true → field.name ∈ partly.stored) ∧
        partly.value = value := by
  have hnone : (record.fields.find? fun field =>
        field.required && !partly.stored.contains field.name) = none ↔
      ∀ field ∈ record.fields, field.required = true → field.name ∈ partly.stored := by
    simp [List.find?_eq_none]
  rw [← hnone, complete]
  cases record.fields.find? fun field => field.required && !partly.stored.contains field.name with
  | none => simp
  | some field => simp

/-- A record is read by the steps of its members, if none that is required is missing. -/
theorem ofEntries_eq_ok_iff (hplain : record.IsPlain) {members : Entries Json}
    (hnames : members.names.Nodup) {value : σ} :
    record.ofEntries keep members = .ok value ↔
      members.foldlM (record.step keep) record.defaults = .ok value ∧
        ∀ field ∈ record.fields, field.required = true → field.name ∈ members.names := by
  have hstored : ∀ field ∈ record.fields,
      (field.name ∈ (members.names.filter fun name =>
        (record.fieldFor name).isSome).reverse ++ [] ↔ field.name ∈ members.names) := by
    intro field hfield
    have hsome : (record.fieldFor field.name).isSome = true := by
      rw [hplain.fieldFor_eq_some_iff.mpr ⟨hfield, rfl⟩]
      rfl
    simp [hsome]
  have hfold : ∀ {final : Partly σ},
      members.foldlM (record.readEntry keep) ⟨record.defaults, []⟩ = .ok final ↔ _ :=
    foldlM_readEntry_eq_ok_iff hplain hnames (by simp)
  simp only [ofEntries, bind_eq_ok_iff, complete_eq_ok_iff, hfold]
  constructor
  · rintro ⟨final, ⟨hsteps, hall⟩, hrequired, rfl⟩
    refine ⟨hsteps, fun field hfield hneeded => (hstored field hfield).mp ?_⟩
    exact hall ▸ hrequired field hfield hneeded
  · rintro ⟨hsteps, hrequired⟩
    exact ⟨⟨value, _⟩, ⟨hsteps, rfl⟩, fun field hfield hneeded =>
      (hstored field hfield).mpr (hrequired field hfield hneeded), rfl⟩

/-- A part of the record that only the field of the given name stores. -/
structure IsPart (record : Record σ) (keep : σ → String × Json → σ) (name : String)
    (read : Json → Except RecordError α) (part : σ → α) : Prop where
  there : name ∈ record.fields.map Field.name
  own : ∀ field ∈ record.fields, field.name = name → ∀ value document next,
    field.store value document = .ok next → read document = .ok (part next)
  others : ∀ field ∈ record.fields, field.name ≠ name → ∀ value document next,
    field.store value document = .ok next → part next = part value
  kept : ∀ value member, part (keep value member) = part value

variable {name : String} {read : Json → Except RecordError α} {part : σ → α}

theorem IsPart.read_of_step (hpart : record.IsPart keep name read part) (hplain : record.IsPlain)
    {value next : σ} {document : Json}
    (h : record.step keep value (name, document) = .ok next) : read document = .ok (part next) := by
  obtain ⟨field, hfield, rfl⟩ := List.mem_map.mp hpart.there
  rw [hplain.step_of_mem hfield] at h
  exact hpart.own field hfield rfl value document next h

theorem IsPart.eq_of_step (hpart : record.IsPart keep name read part) (hplain : record.IsPlain)
    {value next : σ} {member : String × Json} (hname : member.1 ≠ name)
    (h : record.step keep value member = .ok next) : part next = part value := by
  rw [step] at h
  cases hfound : record.fieldFor member.1 with
  | none =>
    simp only [hfound] at h
    rw [← Except.ok.inj h]
    exact hpart.kept value member
  | some field =>
    simp only [hfound] at h
    obtain ⟨hfield, hown⟩ := hplain.fieldFor_eq_some_iff.mp hfound
    exact hpart.others field hfield (hown ▸ hname) value member.2 next h

/-- The part is what the member under its name says, wherever it stands. -/
theorem IsPart.read_of_foldlM (hpart : record.IsPart keep name read part)
    (hplain : record.IsPlain) {members : Entries Json} (hnames : members.names.Nodup)
    {start final : σ} (h : members.foldlM (record.step keep) start = .ok final) :
    readOr (part start) read (members.get? name) = .ok (part final) := by
  induction members generalizing start with
  | nil =>
    rw [Except.ok.inj h]
    rfl
  | cons member rest ih =>
    obtain ⟨key, document⟩ := member
    rw [Entries.names_cons, List.nodup_cons] at hnames
    rw [List.foldlM_cons, bind_eq_ok_iff] at h
    obtain ⟨next, hstep, hrest⟩ := h
    have hlater := ih hnames.2 hrest
    rw [Entries.get?_cons]
    by_cases hkey : key = name
    · subst hkey
      rw [Entries.get?_eq_none_iff.mpr hnames.1] at hlater
      rw [if_pos rfl, readOr, hpart.read_of_step hplain hstep]
      exact hlater
    · rw [if_neg hkey, ← hpart.eq_of_step hplain hkey hstep]
      exact hlater

/-- A part of the record that holds what is no field. -/
structure KeepsRest (record : Record σ) (keep : σ → String × Json → σ)
    (rest : σ → Entries Json) : Prop where
  start : rest record.defaults = []
  kept : ∀ value member, rest (keep value member) = (rest value).put member.1 member.2
  stored : ∀ field ∈ record.fields, ∀ value document next,
    field.store value document = .ok next → rest next = rest value

def isOther (record : Record σ) (member : String × Json) : Bool :=
  (record.fieldFor member.1).isNone

theorem IsPlain.isOther_eq (hplain : record.IsPlain) (member : String × Json) :
    record.isOther member = !(record.fields.map Field.name).contains member.1 := by
  have hsome : (record.fieldFor member.1).isSome = true ↔
      member.1 ∈ record.fields.map Field.name := by
    simp [Option.isSome_iff_exists, hplain.fieldFor_eq_some_iff]
  rw [isOther, ← Option.not_isSome, Bool.not_inj_iff, Bool.eq_iff_iff, hsome]
  simp

/-- What is no field is kept in its order. -/
theorem KeepsRest.rest_of_foldlM {rest : σ → Entries Json} (hrest : record.KeepsRest keep rest)
    (hplain : record.IsPlain) {members : Entries Json} {start final : σ}
    (hnames : (Entries.names (rest start ++ members)).Nodup)
    (h : members.foldlM (record.step keep) start = .ok final) :
    rest final = rest start ++ members.filter record.isOther := by
  induction members generalizing start with
  | nil =>
    rw [Except.ok.inj h]
    simp
  | cons member members ih =>
    rw [List.foldlM_cons, bind_eq_ok_iff] at h
    obtain ⟨next, hstep, hfold⟩ := h
    rw [step] at hstep
    cases hfound : record.fieldFor member.1 with
    | none =>
      simp only [hfound, Except.ok.injEq] at hstep
      have hfresh : member.1 ∉ (rest start).names := by
        intro hmem
        rw [Entries.names, List.map_append, List.nodup_append] at hnames
        exact hnames.2.2 _ hmem _ (by simp) rfl
      have hnext : rest next = rest start ++ [member] := by
        rw [← hstep, hrest.kept, Entries.put_of_notMem hfresh]
      have hother : record.isOther member = true := by simp [isOther, hfound]
      rw [ih (by simpa [hnext] using hnames) hfold, hnext]
      simp [hother]
    | some field =>
      simp only [hfound] at hstep
      have hfield := (hplain.fieldFor_eq_some_iff.mp hfound).1
      have hnext := hrest.stored field hfield _ _ _ hstep
      have hother : record.isOther member = false := by simp [isOther, hfound]
      have hsub : (rest start ++ members).Sublist (rest start ++ member :: members) :=
        List.Sublist.append_left (List.sublist_cons_self member members) _
      rw [ih (hnext ▸ (hsub.map Prod.fst).nodup hnames) hfold, hnext]
      simp [hother]

section Read

variable {members : Entries Json} {value : σ}

theorem IsPart.readOr_of_ofEntries (hpart : record.IsPart keep name read part)
    (hplain : record.IsPlain) (hnames : members.names.Nodup)
    (h : record.ofEntries keep members = .ok value) :
    readOr (part record.defaults) read (members.get? name) = .ok (part value) :=
  hpart.read_of_foldlM hplain hnames ((ofEntries_eq_ok_iff hplain hnames).mp h).1

theorem IsPart.read_of_ofEntries (hpart : record.IsPart keep name read part)
    (hplain : record.IsPlain)
    (hrequired : ∃ field ∈ record.fields, field.name = name ∧ field.required = true)
    (hnames : members.names.Nodup) (h : record.ofEntries keep members = .ok value) :
    ∃ document, members.get? name = some document ∧ read document = .ok (part value) := by
  have hread := hpart.readOr_of_ofEntries hplain hnames h
  obtain ⟨field, hfield, rfl, hneeded⟩ := hrequired
  have hmem := ((ofEntries_eq_ok_iff hplain hnames).mp h).2 field hfield hneeded
  obtain ⟨document, hdocument⟩ := Entries.exists_get?_iff.mpr hmem
  rw [hdocument] at hread
  exact ⟨document, hdocument, hread⟩

theorem KeepsRest.rest_of_ofEntries {rest : σ → Entries Json}
    (hrest : record.KeepsRest keep rest) (hplain : record.IsPlain) (hnames : members.names.Nodup)
    (h : record.ofEntries keep members = .ok value) :
    rest value = members.filter record.isOther := by
  have hall := hrest.rest_of_foldlM hplain (by rwa [hrest.start, List.nil_append])
    ((ofEntries_eq_ok_iff hplain hnames).mp h).1
  rwa [hrest.start, List.nil_append] at hall

end Read

def Accepts (record : Record σ) (field : Field σ) (document : Json) : Prop :=
  ∃ next, field.store record.defaults document = .ok next

/-- Whether a field accepts a document does not depend on what has been read before. -/
def IsUniform (record : Record σ) : Prop :=
  ∀ field ∈ record.fields, ∀ value document,
    (∃ next, field.store value document = .ok next) ↔ record.Accepts field document

theorem exists_foldlM_step_iff (hplain : record.IsPlain) (huniform : record.IsUniform)
    {members : Entries Json} (start : σ) :
    (∃ final, members.foldlM (record.step keep) start = .ok final) ↔
      ∀ field ∈ record.fields, ∀ document, (field.name, document) ∈ members →
        record.Accepts field document := by
  induction members generalizing start with
  | nil => simp [pure_eq_ok_iff]
  | cons member rest ih =>
    have hfirst : (∃ next, record.step keep start member = .ok next) ↔
        ∀ field ∈ record.fields, field.name = member.1 → record.Accepts field member.2 := by
      rw [step]
      cases hfound : record.fieldFor member.1 with
      | none =>
        refine iff_of_true ⟨_, rfl⟩ fun field hfield hname => ?_
        rw [hplain.fieldFor_eq_some_iff.mpr ⟨hfield, hname⟩] at hfound
        cases hfound
      | some field =>
        obtain ⟨hfield, hname⟩ := hplain.fieldFor_eq_some_iff.mp hfound
        constructor
        · rintro ⟨next, hnext⟩ other hother hsame
          rw [hplain.fieldFor_eq_some_iff.mpr ⟨hother, hsame⟩] at hfound
          obtain rfl := Option.some.inj hfound
          exact (huniform other hother start member.2).mp ⟨next, hnext⟩
        · intro h
          exact (huniform field hfield start member.2).mpr (h field hfield hname)
    simp only [List.foldlM_cons, bind_eq_ok_iff]
    constructor
    · rintro ⟨final, next, hstep, hfold⟩ field hfield document hmem
      rcases List.mem_cons.mp hmem with heq | hmem
      · subst heq
        exact hfirst.mp ⟨next, hstep⟩ field hfield rfl
      · exact (ih next).mp ⟨final, hfold⟩ field hfield document hmem
    · intro h
      obtain ⟨next, hstep⟩ := hfirst.mpr fun field hfield hname =>
        h field hfield member.2 (by simp [hname])
      obtain ⟨final, hfold⟩ := (ih next).mpr fun field hfield document hmem =>
        h field hfield document (List.mem_cons_of_mem _ hmem)
      exact ⟨final, next, hstep, hfold⟩

/-- A member that a field asks for: it may be missing only if the field is not required. -/
def Supplies (record : Record σ) (members : Entries Json) (field : Field σ) : Prop :=
  (field.required = true → field.name ∈ members.names) ∧
    ∀ document, members.get? field.name = some document → record.Accepts field document

/-- A record is read exactly if each field finds what it asks for. -/
theorem exists_ofEntries_iff (hplain : record.IsPlain) (huniform : record.IsUniform)
    {members : Entries Json} (hnames : members.names.Nodup) :
    (∃ value, record.ofEntries keep members = .ok value) ↔
      ∀ field ∈ record.fields, record.Supplies members field := by
  simp only [ofEntries_eq_ok_iff hplain hnames, exists_and_right,
    exists_foldlM_step_iff hplain huniform]
  have hmember : ∀ {name : String} {document : Json},
      (name, document) ∈ members ↔ members.get? name = some document :=
    ⟨Entries.get?_of_mem hnames, Entries.mem_of_get?⟩
  simp only [hmember]
  constructor
  · rintro ⟨haccepts, hrequired⟩ field hfield
    exact ⟨hrequired field hfield, haccepts field hfield⟩
  · intro h
    exact ⟨fun field hfield => (h field hfield).2, fun field hfield => (h field hfield).1⟩

/-- The members that a document has for a record: an object its own, and an array its items under
the names of the fields. -/
def members? (record : Record σ) : Json → Option (Entries Json)
  | .object entries => some entries
  | .array items =>
      if items.length ≤ record.fields.length then some ((record.fields.map Field.name).zip items)
      else none
  | _ => none

/-- Fields read by position are steps of their own; the fields that are left get no item. -/
theorem ofItemsFrom_eq_ok_iff {length : Nat} {fields : List (Field σ)} {items : List Json}
    {value final : σ} :
    record.ofItemsFrom .refused length value fields items = .ok final ↔
      items.length ≤ fields.length ∧
        (fields.zip items).foldlM (fun value pair => pair.1.store value pair.2) value =
          .ok final ∧
        ∀ field ∈ fields.drop items.length, field.required = false := by
  induction fields generalizing items value with
  | nil =>
    cases items with
    | nil => simp [ofItemsFrom, pure_eq_ok_iff]
    | cons item items => simp [ofItemsFrom]
  | cons field fields ih =>
    cases items with
    | nil =>
      have hrest : record.ofItemsFrom .refused length value fields [] = .ok final ↔ _ := ih
      cases hrequired : field.required <;> simp_all [ofItemsFrom]
    | cons item items =>
      simp only [ofItemsFrom, bind_eq_ok_iff, ih, List.zip_cons_cons, List.foldlM_cons,
        List.length_cons, List.drop_succ_cons, Nat.add_le_add_iff_right]
      constructor
      · rintro ⟨next, hnext, hlength, hfold, hrest⟩
        exact ⟨hlength, ⟨next, hnext, hfold⟩, hrest⟩
      · rintro ⟨hlength, ⟨next, hnext, hfold⟩, hrest⟩
        exact ⟨next, hnext, hlength, hfold, hrest⟩

theorem IsPlain.foldlM_step_zip (hplain : record.IsPlain) {fields : List (Field σ)}
    (hfields : ∀ field ∈ fields, field ∈ record.fields) (items : List Json) (value : σ) :
    ((fields.map Field.name).zip items).foldlM (record.step keep) value =
      (fields.zip items).foldlM (fun value pair => pair.1.store value pair.2) value := by
  induction fields generalizing items value with
  | nil => rfl
  | cons field fields ih =>
    rw [List.forall_mem_cons] at hfields
    cases items with
    | nil => rfl
    | cons item items =>
      rw [List.map_cons, List.zip_cons_cons, List.zip_cons_cons, List.foldlM_cons,
        List.foldlM_cons, hplain.step_of_mem hfields.1]
      exact bind_congr fun next => ih hfields.2 items next

theorem names_zip {names : List String} {items : List Json} (h : items.length ≤ names.length) :
    Entries.names (names.zip items) = names.take items.length := by
  rw [Entries.names, List.zip_eq_zip_take_min, Nat.min_eq_right h, List.take_length,
    List.map_fst_zip (List.length_take_le _ _)]

theorem IsPlain.required_iff (hplain : record.IsPlain) (count : Nat) :
    (∀ field ∈ record.fields, field.required = true →
        field.name ∈ (record.fields.map Field.name).take count) ↔
      ∀ field ∈ record.fields.drop count, field.required = false := by
  have hnodup := hplain.nodup
  rw [← List.take_append_drop count (record.fields.map Field.name), List.nodup_append] at hnodup
  constructor
  · intro h field hfield
    have hname : field.name ∈ (record.fields.map Field.name).drop count := by
      rw [← List.map_drop]
      exact List.mem_map_of_mem hfield
    refine Bool.eq_false_iff.mpr fun hrequired => ?_
    exact hnodup.2.2 _ (h field (List.mem_of_mem_drop hfield) hrequired) _ hname rfl
  · intro h field hfield hrequired
    rw [← List.take_append_drop count record.fields, List.mem_append] at hfield
    rcases hfield with htake | hdrop
    · rw [← List.map_take]
      exact List.mem_map_of_mem htake
    · rw [h field hdrop] at hrequired
      cases hrequired

/-- An array is read as the object that has its items under the names of the fields. -/
theorem read_refused_eq_ok_iff (hplain : record.IsPlain) {document : Json} {value : σ} :
    record.read .refused document = .ok value ↔
      ∃ members, record.members? document = some members ∧
        record.ofEntries (fun value _ => value) members = .ok value := by
  cases document with
  | object entries => simp [read, members?]
  | array items =>
    have hzip : ((record.fields.map Field.name).zip items).foldlM
        (record.step fun value _ => value) record.defaults = _ :=
      hplain.foldlM_step_zip (fun _ h => h) items record.defaults
    rw [read, ofItems, ofItemsFrom_eq_ok_iff, members?]
    by_cases hlength : items.length ≤ record.fields.length
    · have hnames : Entries.names ((record.fields.map Field.name).zip items) = _ :=
        names_zip (by simpa using hlength)
      have hnodup := hnames ▸ hplain.nodup.sublist (List.take_sublist _ _)
      simp only [hlength, true_and, if_true, Option.some.injEq, exists_eq_left',
        ofEntries_eq_ok_iff hplain hnodup, hzip, hnames, hplain.required_iff]
    · simp [hlength]
  | _ => simp [read, members?]

theorem IsPlain.hasDistinctNames_members (hplain : record.IsPlain) {document : Json}
    (hdocument : document.hasDistinctNames = true) {members : Entries Json}
    (h : record.members? document = some members) :
    (Json.object members).hasDistinctNames = true := by
  cases document with
  | object entries => exact Option.some.inj h ▸ hdocument
  | array items =>
    rw [members?] at h
    split at h
    · rename_i hlength
      obtain rfl := Option.some.inj h
      rw [Json.hasDistinctNames_array_iff] at hdocument
      rw [Json.hasDistinctNames_object_iff, names_zip (by simpa using hlength)]
      refine ⟨hplain.nodup.sublist (List.take_sublist _ _), fun member hmember => ?_⟩
      exact hdocument member.2 (List.of_mem_zip hmember).2
    · cases h
  | _ => cases h

end Record

end DocumentSearch
