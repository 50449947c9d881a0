import DocumentSearch.Dialogue

/-!
What a dialogue asks and comes to, from the dialogues that it is put together from.
-/

namespace DocumentSearch.Dialogue

variable {Q R α β σ : Type} {answer : σ → Q → R × σ}

/-- A dialogue that goes on from another asks its questions after those of the other, in the state
that the other leaves. -/
theorem exchange_bind (dialogue : Dialogue Q R α) (f : α → Dialogue Q R β) (state : σ) :
    (dialogue.bind f).exchange answer state =
      let first := dialogue.exchange answer state
      let second := (f first.value).exchange answer first.state
      { second with questions := first.questions ++ second.questions } := by
  induction dialogue generalizing state with
  | done value => rfl
  | ask question next ih => simp only [Dialogue.bind, exchange, ih, List.cons_append]

/-- Going on without a question leaves the questions as they are. -/
theorem questions_bind_of_done {dialogue : Dialogue Q R α} {f : α → Dialogue Q R β}
    (hf : ∀ value, ∃ result, f value = .done result) (state : σ) :
    ((dialogue.bind f).exchange answer state).questions =
      (dialogue.exchange answer state).questions := by
  obtain ⟨result, hresult⟩ := hf (dialogue.exchange answer state).value
  simp only [exchange_bind, hresult, exchange, List.append_nil]

end DocumentSearch.Dialogue
