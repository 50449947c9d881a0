import Mathlib.Data.List.DropRight
import DocumentSearch.Text.Blank
import DocumentSearch.Text.Split
import DocumentSearch.Proofs.Sequencing

/-!
Text cut at a separator, and text without the blanks at its ends. The pieces between separators
have none of their own and make up the text again, and no other pieces do. The same holds of the
two parts around the first separator, which are there if the separator is.
-/

namespace DocumentSearch

namespace Text

variable {separator : Char}

theorem splitChars_cons_self (rest : List Char) :
    splitChars separator (separator :: rest) = [] :: splitChars separator rest := by
  rw [splitChars, if_pos rfl]

theorem splitChars_cons_of_ne {c : Char} {rest piece : List Char} {pieces : List (List Char)}
    (hc : c ≠ separator) (h : splitChars separator rest = piece :: pieces) :
    splitChars separator (c :: rest) = (c :: piece) :: pieces := by
  rw [splitChars, if_neg hc, h]

theorem splitChars_ne_nil (chars : List Char) : splitChars separator chars ≠ [] := by
  induction chars with
  | nil => simp [splitChars]
  | cons c rest ih =>
    obtain ⟨piece, pieces, hrest⟩ := List.exists_cons_of_ne_nil ih
    by_cases hc : c = separator
    · subst c
      simp [splitChars_cons_self]
    · simp [splitChars_cons_of_ne hc hrest]

/-- No piece has the separator in it. -/
theorem notMem_of_mem_splitChars {chars piece : List Char}
    (h : piece ∈ splitChars separator chars) : separator ∉ piece := by
  induction chars generalizing piece with
  | nil => simp_all [splitChars]
  | cons c rest ih =>
    obtain ⟨first, pieces, hrest⟩ := List.exists_cons_of_ne_nil (splitChars_ne_nil rest)
    by_cases hc : c = separator
    · subst c
      rw [splitChars_cons_self, List.mem_cons] at h
      rcases h with rfl | h
      · simp
      · exact ih h
    · rw [splitChars_cons_of_ne hc hrest, List.mem_cons] at h
      rcases h with rfl | h
      · have hfirst : separator ∉ first := ih (hrest ▸ List.mem_cons_self)
        simpa [Ne.symm hc] using hfirst
      · exact ih (hrest ▸ List.mem_cons_of_mem _ h)

/-- What is put in front, up to the first separator, belongs to the first piece. -/
theorem splitChars_append_of_notMem {front rest piece : List Char} {pieces : List (List Char)}
    (hfront : separator ∉ front) (h : splitChars separator rest = piece :: pieces) :
    splitChars separator (front ++ rest) = (front ++ piece) :: pieces := by
  induction front with
  | nil => exact h
  | cons c front ih =>
    rw [List.mem_cons, not_or] at hfront
    exact splitChars_cons_of_ne (Ne.symm hfront.1) (ih hfront.2)

theorem splitChars_of_notMem {piece : List Char} (h : separator ∉ piece) :
    splitChars separator piece = [piece] := by
  have hpiece := splitChars_append_of_notMem h (rfl : splitChars separator [] = [[]])
  rwa [List.append_nil] at hpiece

theorem splitChars_append_separator {piece : List Char} (h : separator ∉ piece)
    (rest : List Char) :
    splitChars separator (piece ++ separator :: rest) = piece :: splitChars separator rest := by
  rw [splitChars_append_of_notMem h (splitChars_cons_self rest), List.append_nil]

theorem splitChars_intercalate {pieces : List (List Char)} (hne : pieces ≠ [])
    (h : ∀ piece ∈ pieces, separator ∉ piece) :
    splitChars separator ([separator].intercalate pieces) = pieces := by
  induction pieces with
  | nil => exact absurd rfl hne
  | cons piece rest ih =>
    have hpiece := h piece List.mem_cons_self
    cases rest with
    | nil => rw [List.intercalate_singleton, splitChars_of_notMem hpiece]
    | cons next rest =>
      have hrest := ih (by simp) fun other hother => h other (List.mem_cons_of_mem _ hother)
      rw [List.intercalate_cons_cons, List.append_assoc, List.singleton_append,
        splitChars_append_separator hpiece, hrest]

theorem split_ne_nil (text : String) : split separator text ≠ [] := by
  rw [split, ne_eq, List.map_eq_nil_iff]
  exact splitChars_ne_nil _

theorem notMem_of_mem_split {text piece : String} (h : piece ∈ split separator text) :
    separator ∉ piece.toList := by
  obtain ⟨chars, hchars, rfl⟩ := List.mem_map.mp h
  rw [String.toList_ofList]
  exact notMem_of_mem_splitChars hchars

theorem intercalate_splitChars (chars : List Char) :
    [separator].intercalate (splitChars separator chars) = chars := by
  induction chars with
  | nil => rfl
  | cons c rest ih =>
    obtain ⟨piece, pieces, hrest⟩ := List.exists_cons_of_ne_nil (splitChars_ne_nil rest)
    rw [hrest] at ih
    by_cases hc : c = separator
    · subst c
      rw [splitChars_cons_self, hrest, List.intercalate_cons_cons, ih]
      rfl
    · rw [splitChars_cons_of_ne hc hrest]
      cases pieces with
      | nil =>
        rw [List.intercalate_singleton] at ih ⊢
        rw [ih]
      | cons next pieces =>
        rw [List.intercalate_cons_cons] at ih ⊢
        rw [← ih]
        rfl

/-- The pieces have no separator in them, and with a separator between each two they make up the
text. -/
structure IsSplit (separator : Char) (text : String) (pieces : List String) : Prop where
  ne_nil : pieces ≠ []
  notMem : ∀ piece ∈ pieces, separator ∉ piece.toList
  text_eq : text = (String.singleton separator).intercalate pieces

theorem IsSplit.split_eq {text : String} {pieces : List String}
    (h : IsSplit separator text pieces) : split separator text = pieces := by
  have hpieces : splitChars separator text.toList = pieces.map String.toList := by
    rw [h.text_eq, String.toList_intercalate, String.toList_singleton]
    exact splitChars_intercalate (by simpa using h.ne_nil) (by simpa using h.notMem)
  rw [split, hpieces, List.map_map]
  simp [Function.comp_def]

theorem isSplit_split (text : String) : IsSplit separator text (split separator text) where
  ne_nil := split_ne_nil text
  notMem _ h := notMem_of_mem_split h
  text_eq := by
    apply String.toList_inj.mp
    rw [String.toList_intercalate, String.toList_singleton, split, List.map_map]
    simp [Function.comp_def, intercalate_splitChars]

theorem split_eq_iff {text : String} {pieces : List String} :
    split separator text = pieces ↔ IsSplit separator text pieces :=
  ⟨fun h => h ▸ isSplit_split text, IsSplit.split_eq⟩

theorem splitOnceChars_eq_none_iff {chars : List Char} :
    splitOnceChars separator chars = none ↔ separator ∉ chars := by
  induction chars with
  | nil => simp [splitOnceChars]
  | cons c rest ih =>
    by_cases hc : c = separator
    · simp [splitOnceChars, hc]
    · simp [splitOnceChars, hc, Ne.symm hc, ih]

theorem splitOnceChars_eq_some_iff {chars before after : List Char} :
    splitOnceChars separator chars = some (before, after) ↔
      separator ∉ before ∧ chars = before ++ separator :: after := by
  induction chars generalizing before with
  | nil => simp [splitOnceChars]
  | cons c rest ih =>
    rw [splitOnceChars]
    by_cases hc : c = separator
    · rw [if_pos hc]
      cases before with
      | nil => simp [hc]
      | cons first before =>
        refine iff_of_false (by simp) ?_
        rintro ⟨hnot, heq⟩
        rw [List.cons_append, List.cons.injEq] at heq
        exact hnot (List.mem_cons.mpr (Or.inl (hc.symm.trans heq.1)))
    · rw [if_neg hc]
      cases before with
      | nil => simp [hc]
      | cons first before =>
        have hpair : ∀ pair : List Char × List Char,
            (c :: pair.1, pair.2) = (first :: before, after) ↔ c = first ∧ pair = (before, after) :=
          fun pair => by simp [Prod.ext_iff, and_assoc]
        simp only [Option.map_eq_some_iff, hpair, List.cons_append, List.cons.injEq,
          List.mem_cons, not_or]
        constructor
        · rintro ⟨pair, hfound, rfl, rfl⟩
          obtain ⟨hnot, hrest⟩ := ih.mp hfound
          exact ⟨⟨Ne.symm hc, hnot⟩, rfl, hrest⟩
        · rintro ⟨⟨-, hnot⟩, rfl, hrest⟩
          exact ⟨_, ih.mpr ⟨hnot, hrest⟩, rfl, rfl⟩

/-- The parts before and after the first separator. -/
def IsCut (separator : Char) (text before after : String) : Prop :=
  separator ∉ before.toList ∧ text = before ++ String.singleton separator ++ after

theorem splitOnce_eq_some_iff {text before after : String} :
    splitOnce separator text = some (before, after) ↔ IsCut separator text before after := by
  have htext : text = before ++ String.singleton separator ++ after ↔
      text.toList = before.toList ++ separator :: after.toList := by
    rw [← String.toList_inj]
    simp
  rw [IsCut, htext, ← splitOnceChars_eq_some_iff, splitOnce, Option.map_eq_some_iff]
  constructor
  · rintro ⟨⟨_, _⟩, h, heq⟩
    obtain ⟨rfl, rfl⟩ := Prod.mk.inj heq
    rwa [String.toList_ofList, String.toList_ofList]
  · intro h
    exact ⟨_, h, by simp⟩

theorem splitOnce_eq_none_iff {text : String} :
    splitOnce separator text = none ↔ separator ∉ text.toList := by
  rw [splitOnce, Option.map_eq_none_iff, splitOnceChars_eq_none_iff]

theorem dropWhile_eq_self_of_head? {p : Char → Bool} {chars : List Char}
    (h : ∀ c ∈ chars.head?, p c = false) : chars.dropWhile p = chars := by
  cases chars with
  | nil => rfl
  | cons c rest => rw [List.dropWhile_cons_of_neg (by simpa using h c rfl)]

/-- What is dropped from the ends leaves the part that does not end in it. -/
theorem trimChars_append {p : Char → Bool} {before middle after : List Char}
    (hbefore : ∀ c ∈ before, p c = true) (hafter : ∀ c ∈ after, p c = true)
    (hhead : ∀ c ∈ middle.head?, p c = false) (hlast : ∀ c ∈ middle.getLast?, p c = false) :
    trimChars p (before ++ middle ++ after) = middle := by
  rw [trimChars, List.append_assoc, List.dropWhile_append_of_pos hbefore]
  cases middle with
  | nil => rw [List.nil_append, List.dropWhile_eq_nil_iff.mpr hafter]; rfl
  | cons c rest =>
    have hfront : ∀ first ∈ (c :: rest ++ after).head?, p first = false := hhead
    rw [dropWhile_eq_self_of_head? hfront, List.reverse_append,
      List.dropWhile_append_of_pos (by simpa using hafter),
      dropWhile_eq_self_of_head? (by rwa [List.head?_reverse]), List.reverse_reverse]

/-- The middle of the text, with blanks around it and none at its ends. -/
structure IsTrimmed (text middle : String) : Prop where
  exists_blanks : ∃ before after, text = before ++ middle ++ after ∧
    (∀ c ∈ before.toList, isBlank c = true) ∧ ∀ c ∈ after.toList, isBlank c = true
  head : ∀ c ∈ middle.toList.head?, isBlank c = false
  last : ∀ c ∈ middle.toList.getLast?, isBlank c = false

theorem IsTrimmed.trim_eq {text middle : String} (h : IsTrimmed text middle) :
    trim text = middle := by
  obtain ⟨before, after, rfl, hbefore, hafter⟩ := h.exists_blanks
  rw [trim, String.toList_append, String.toList_append,
    trimChars_append hbefore hafter h.head h.last, String.ofList_toList]

theorem isTrimmed_trim (text : String) : IsTrimmed text (trim text) := by
  -- Blanks are dropped in front, and behind what is left of the text.
  have htrim : (trim text).toList = (text.toList.dropWhile isBlank).rdropWhile isBlank :=
    String.toList_ofList
  have hfront := text.toList.takeWhile_append_dropWhile (p := isBlank)
  have hback := List.rdropWhile_append_rtakeWhile (p := isBlank) (l := text.toList.dropWhile isBlank)
  rw [← htrim] at hback
  refine ⟨⟨String.ofList (text.toList.takeWhile isBlank),
    String.ofList ((text.toList.dropWhile isBlank).rtakeWhile isBlank), ?_, ?_, ?_⟩, ?_, ?_⟩
  · rw [← String.toList_inj]
    simp only [String.toList_append, String.toList_ofList, List.append_assoc, hback, hfront]
  · intro c hc
    exact List.mem_takeWhile_imp (String.toList_ofList ▸ hc)
  · intro c hc
    exact List.mem_rtakeWhile_imp (String.toList_ofList ▸ hc)
  · intro c hc
    have hhead := List.head?_dropWhile_not isBlank text.toList
    rw [← hback, List.head?_append, Option.mem_def.mp hc] at hhead
    exact hhead
  · intro c hc
    rw [htrim] at hc
    have hne := List.ne_nil_of_mem (List.mem_of_getLast? hc)
    rw [List.getLast?_eq_some_getLast hne] at hc
    rw [← Option.some.inj hc]
    simpa using List.rdropWhile_last_not isBlank _ hne

theorem trim_eq_iff {text middle : String} : trim text = middle ↔ IsTrimmed text middle :=
  ⟨fun h => h ▸ isTrimmed_trim text, IsTrimmed.trim_eq⟩

end Text

end DocumentSearch
