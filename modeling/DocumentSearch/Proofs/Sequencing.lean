import Mathlib.Data.List.Forall2

/-!
Steps that may fail, one after another. A sequence of steps comes to a value exactly if each of
them does.
-/

namespace DocumentSearch

variable {α β ε : Type}

theorem bind_eq_ok_iff {first : Except ε α} {next : α → Except ε β} {value : β} :
    first >>= next = .ok value ↔ ∃ inner, first = .ok inner ∧ next inner = .ok value := by
  cases first with
  | error error =>
    constructor
    · intro h
      cases h
    · rintro ⟨inner, h, -⟩
      cases h
  | ok inner =>
    constructor
    · intro h
      exact ⟨inner, rfl, h⟩
    · rintro ⟨other, h, hnext⟩
      rw [Except.ok.inj h]
      exact hnext

theorem bind_eq_error_iff {first : Except ε α} {next : α → Except ε β} {error : ε} :
    first >>= next = .error error ↔
      first = .error error ∨ ∃ inner, first = .ok inner ∧ next inner = .error error := by
  cases first with
  | error other =>
    constructor
    · intro h
      exact Or.inl (congrArg Except.error (Except.error.inj h))
    · rintro (h | ⟨inner, h, -⟩)
      · exact congrArg Except.error (Except.error.inj h)
      · cases h
  | ok inner =>
    constructor
    · intro h
      exact Or.inr ⟨inner, rfl, h⟩
    · rintro (h | ⟨other, h, hnext⟩)
      · cases h
      · rw [Except.ok.inj h]
        exact hnext

theorem pure_eq_ok_iff {value other : α} :
    (pure value : Except ε α) = .ok other ↔ value = other :=
  ⟨Except.ok.inj, congrArg Except.ok⟩

theorem map_eq_ok_iff {first : Except ε α} {make : α → β} {value : β} :
    make <$> first = .ok value ↔ ∃ inner, first = .ok inner ∧ make inner = value := by
  rw [map_eq_pure_bind, bind_eq_ok_iff]
  simp only [pure_eq_ok_iff]

/-- A list is read exactly if each of its items is. -/
theorem mapM_eq_ok_iff {read : α → Except ε β} {items : List α} {values : List β} :
    items.mapM read = .ok values ↔
      List.Forall₂ (fun item value => read item = .ok value) items values := by
  induction items generalizing values with
  | nil =>
    rw [List.mapM_nil, pure_eq_ok_iff, List.forall₂_nil_left_iff, eq_comm]
  | cons item items ih =>
    simp only [List.mapM_cons, bind_eq_ok_iff, pure_eq_ok_iff, List.forall₂_cons_left_iff, ih]
    constructor
    · rintro ⟨value, hvalue, rest, hrest, rfl⟩
      exact ⟨value, rest, hvalue, hrest, rfl⟩
    · rintro ⟨value, rest, hvalue, hrest, rfl⟩
      exact ⟨value, hvalue, rest, hrest, rfl⟩

/-- If each item is read to what it stands for, then so is the list. -/
theorem exists_mapM_of_forall {read : α → Except ε β} {r : α → β → Prop} {items : List α}
    (h : ∀ item ∈ items, ∃ value, read item = .ok value ∧ r item value) :
    ∃ values, items.mapM read = .ok values ∧ List.Forall₂ r items values := by
  simp only [mapM_eq_ok_iff]
  induction items with
  | nil => exact ⟨[], .nil, .nil⟩
  | cons item items ih =>
    rw [List.forall_mem_cons] at h
    obtain ⟨value, hvalue, hr⟩ := h.1
    obtain ⟨values, hvalues, hrest⟩ := ih h.2
    exact ⟨value :: values, .cons hvalue hvalues, .cons hr hrest⟩

theorem exists_mapM_iff {read : α → Except ε β} {items : List α} :
    (∃ values, items.mapM read = .ok values) ↔ ∀ item ∈ items, ∃ value, read item = .ok value := by
  constructor
  · rintro ⟨values, h⟩
    have hread : List.Forall₂ (fun item _ => (∃ value, read item = .ok value) ∧ True) items
        values := (mapM_eq_ok_iff.mp h).imp fun _ value hvalue => ⟨⟨value, hvalue⟩, trivial⟩
    exact ((List.forall₂_and_left _ _).mp hread).1
  · intro h
    obtain ⟨values, hvalues, -⟩ := exists_mapM_of_forall (r := fun _ _ => True) fun item hitem =>
      (h item hitem).imp fun _ hvalue => ⟨hvalue, trivial⟩
    exact ⟨values, hvalues⟩

/-- If an item is read to what is made of something it states, then the list is read to what is
made of a list that it states. -/
theorem mapM_eq_ok_iff_of_states {γ : Type} {read : α → Except ε β} {states : α → γ → Prop}
    {make : γ → β} (h : ∀ item value, read item = .ok value ↔
      ∃ stated, states item stated ∧ make stated = value)
    {items : List α} {values : List β} :
    items.mapM read = .ok values ↔
      ∃ stated, List.Forall₂ states items stated ∧ stated.map make = values := by
  simp only [mapM_eq_ok_iff, h]
  induction items generalizing values with
  | nil => simp [eq_comm]
  | cons item items ih =>
    simp only [List.forall₂_cons_left_iff, ih]
    constructor
    · rintro ⟨_, _, ⟨stated, hstated, rfl⟩, ⟨rest, hrest, rfl⟩, rfl⟩
      exact ⟨stated :: rest, ⟨stated, rest, hstated, hrest, rfl⟩, rfl⟩
    · rintro ⟨_, ⟨stated, rest, hstated, hrest, rfl⟩, rfl⟩
      exact ⟨_, _, ⟨stated, hstated, rfl⟩, ⟨rest, hrest, rfl⟩, rfl⟩

end DocumentSearch
