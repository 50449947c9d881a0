import Mathlib.Data.List.FinRange
import Mathlib.Data.List.Forall2
import Mathlib.Data.List.Perm.Basic
import Mathlib.Logic.Equiv.Defs
import DocumentSearch.Index.Equality

/-!
Lists whose items pair up, each item of one with an item of its own of the other. Taking partners
greedily, always the first that fits, finds a pairing whenever there is one, provided that the
relation is symmetric and transitive: a partner that was taken too early can be exchanged.
-/

namespace DocumentSearch

variable {α β : Type}

theorem perm_of_takeFirst {p : α → Bool} {items rest : List α}
    (h : takeFirst p items = some rest) :
    ∃ item, p item = true ∧ items.Perm (item :: rest) := by
  induction items generalizing rest with
  | nil => simp [takeFirst] at h
  | cons item others ih =>
    by_cases hitem : p item = true
    · have hrest : others = rest := by simpa [takeFirst, hitem] using h
      subst rest
      exact ⟨item, hitem, List.Perm.refl _⟩
    · obtain ⟨left, hleft, hrest⟩ :
          ∃ left, takeFirst p others = some left ∧ item :: left = rest := by
        simpa [takeFirst, hitem] using h
      obtain ⟨taken, htaken, hperm⟩ := ih hleft
      subst rest
      exact ⟨taken, htaken, (hperm.cons item).trans (List.Perm.swap taken item left)⟩

theorem takeFirst_eq_none_iff {p : α → Bool} {items : List α} :
    takeFirst p items = none ↔ ∀ item ∈ items, p item = false := by
  induction items with
  | nil => simp [takeFirst]
  | cons item rest ih =>
    by_cases hitem : p item = true
    · simp [takeFirst, hitem]
    · simp [takeFirst, hitem, ih]

/-- Each item has a partner of its own in the other list, and no item there is left over. -/
def PairsUp (r : α → β → Prop) (items : List α) (others : List β) : Prop :=
  ∃ partners, List.Forall₂ r items partners ∧ partners.Perm others

namespace PairsUp

variable {r : α → β → Prop}

theorem nil_iff {others : List β} : PairsUp r [] others ↔ others = [] := by
  constructor
  · rintro ⟨partners, hpartners, hperm⟩
    rw [List.forall₂_nil_left_iff] at hpartners
    subst partners
    exact hperm.nil_eq.symm
  · rintro rfl
    exact ⟨[], List.Forall₂.nil, List.Perm.refl _⟩

theorem cons {item : α} {partner : β} {items : List α} {others rest : List β}
    (hpair : r item partner) (hrest : PairsUp r items rest)
    (hperm : others.Perm (partner :: rest)) : PairsUp r (item :: items) others := by
  obtain ⟨partners, hpartners, hpartnersPerm⟩ := hrest
  exact ⟨partner :: partners, List.Forall₂.cons hpair hpartners,
    (hpartnersPerm.cons partner).trans hperm.symm⟩

theorem exists_partner {item : α} {items : List α} {others : List β}
    (h : PairsUp r (item :: items) others) : ∃ partner ∈ others, r item partner := by
  obtain ⟨partners, hpartners, hperm⟩ := h
  obtain ⟨partner, rest, hpair, -, rfl⟩ := List.forall₂_cons_left_iff.mp hpartners
  exact ⟨partner, hperm.subset List.mem_cons_self, hpair⟩

/-- One partner can be replaced by another that suits whoever had the first. -/
private theorem forall₂_replace {items : List α} {front back : List β} {old new : β}
    (h : List.Forall₂ r items (front ++ old :: back))
    (hnew : ∀ item, r item old → r item new) :
    List.Forall₂ r items (front ++ new :: back) := by
  induction front generalizing items with
  | nil =>
    obtain ⟨item, rest, hpair, hrest, rfl⟩ := List.forall₂_cons_right_iff.mp h
    exact List.Forall₂.cons (hnew item hpair) hrest
  | cons partner front ih =>
    obtain ⟨item, rest, hpair, hrest, rfl⟩ := List.forall₂_cons_right_iff.mp h
    exact List.Forall₂.cons hpair (ih hrest)

/-- A partner that fits the first item may be given to it: whoever had that partner takes the one
that the first item had. -/
theorem tail_of_partner {r : α → α → Prop} (hsymm : ∀ a b, r a b → r b a)
    (htrans : ∀ a b c, r a b → r b c → r a c) {item partner : α} {items others rest : List α}
    (h : PairsUp r (item :: items) others) (hpair : r item partner)
    (hperm : others.Perm (partner :: rest)) : PairsUp r items rest := by
  obtain ⟨partners, hpartners, hpartnersPerm⟩ := h
  obtain ⟨former, left, hformer, hleft, rfl⟩ := List.forall₂_cons_left_iff.mp hpartners
  have hboth : (former :: left).Perm (partner :: rest) := hpartnersPerm.trans hperm
  by_cases hsame : partner = former
  · subst former
    exact ⟨left, hleft, hboth.cons_inv⟩
  · have hmem : partner ∈ left :=
      (List.mem_cons.mp (hboth.symm.subset List.mem_cons_self)).resolve_left hsame
    obtain ⟨front, back, rfl⟩ := List.append_of_mem hmem
    have hexchange : ∀ a, r a partner → r a former := fun a ha =>
      htrans a partner former ha (htrans partner item former (hsymm item partner hpair) hformer)
    refine ⟨front ++ former :: back, forall₂_replace hleft hexchange, ?_⟩
    have hformer : (front ++ former :: back).Perm (former :: (front ++ back)) := List.perm_middle
    have hpartner : (front ++ partner :: back).Perm (partner :: (front ++ back)) :=
      List.perm_middle
    have hswap : (partner :: (front ++ former :: back)).Perm
        (former :: (front ++ partner :: back)) :=
      (hformer.cons partner).trans
        ((List.Perm.swap former partner _).trans (hpartner.cons former).symm)
    exact (hswap.trans hboth).cons_inv

/-- Pairing up is having a bijection between the positions that relates what stands there. -/
theorem iff_bijection {items : List α} {others : List β} :
    PairsUp r items others ↔
      ∃ positions : Fin items.length ≃ Fin others.length,
        ∀ i, r (items.get i) (others.get (positions i)) := by
  classical
  constructor
  · rintro ⟨partners, hpartners, hperm⟩
    have hlength := hpartners.length_eq
    refine ⟨(finCongr hlength).trans ⟨hperm.idxBij, hperm.symm.idxBij,
      hperm.idxBij_rightInverse_idxBij_symm, hperm.idxBij_leftInverse_idxBij_symm⟩, ?_⟩
    intro i
    have hpair := hpartners.get i.isLt (hlength ▸ i.isLt)
    have hmoved := hperm.getElem_idxBij_eq_getElem (Fin.cast hlength i)
    change r _ (others[(hperm.idxBij (Fin.cast hlength i) : ℕ)])
    rw [hmoved]
    exact hpair
  · rintro ⟨positions, hpositions⟩
    refine ⟨(List.finRange items.length).map (others.get ∘ positions), ?_, ?_⟩
    · rw [← List.ofFn_eq_map, List.forall₂_iff_get]
      refine ⟨by simp, fun i hi _ => ?_⟩
      simpa using hpositions ⟨i, hi⟩
    · have hall : ((List.finRange items.length).map positions).Perm
          (List.finRange others.length) := by
        rw [List.perm_ext_iff_of_nodup
          ((List.nodup_finRange _).map positions.injective) (List.nodup_finRange _)]
        intro i
        simpa using positions.surjective i
      have hmap := hall.map others.get
      rwa [List.map_map, List.map_get_finRange] at hmap

end PairsUp

end DocumentSearch
