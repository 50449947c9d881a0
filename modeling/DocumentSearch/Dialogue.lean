/-!
Computations that ask questions and go on with the answers. A dialogue is data, so what it asks and
what it does with each answer can be stated without saying who answers: `exchange` answers from a
state and keeps the questions asked, `run` answers in any monad, and `relay` answers each question
by another dialogue.
-/

namespace DocumentSearch

inductive Dialogue (Q R α : Type) where
  | done (value : α)
  | ask (question : Q) (next : R → Dialogue Q R α)

namespace Dialogue

variable {Q R α β σ : Type}

protected def bind : Dialogue Q R α → (α → Dialogue Q R β) → Dialogue Q R β
  | .done value, f => f value
  | .ask question next, f => .ask question fun answer => (next answer).bind f

instance : Monad (Dialogue Q R) where
  pure := .done
  bind := Dialogue.bind

def relay {Q' R' : Type} (answer : Q → Dialogue Q' R' R) : Dialogue Q R α → Dialogue Q' R' α
  | .done value => .done value
  | .ask question next => (answer question).bind fun reply => (next reply).relay answer

/-- What a dialogue asked, in order, what it came to, and the state that is left. -/
structure Exchange (Q σ α : Type) where
  questions : List Q
  value : α
  state : σ

def exchange (answer : σ → Q → R × σ) : Dialogue Q R α → σ → Exchange Q σ α
  | .done value, state => ⟨[], value, state⟩
  | .ask question next, state =>
      let (reply, state) := answer state question
      let rest := (next reply).exchange answer state
      { rest with questions := question :: rest.questions }

def run {m : Type → Type} [Monad m] (answer : Q → m R) : Dialogue Q R α → m α
  | .done value => pure value
  | .ask question next => do (next (← answer question)).run answer

end Dialogue

end DocumentSearch
