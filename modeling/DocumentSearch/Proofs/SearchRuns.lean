import DocumentSearch.CommandLine.Run
import DocumentSearch.Proofs.SearchAddress

/-!
Searches one after another. Each search asks for exactly what its command compiles to, if it does
compile, and comes to what the reply to that one request says. What goes on before reaches it only
through the state of whoever answers, and what goes on later does not reach it at all.
-/

namespace DocumentSearch

namespace Command

variable {command : Command} {error : Error}

theorem requiredIndex_eq_error_iff :
    command.requiredIndex = .error error ↔
      error = missingIndex ∧ ∀ index, command.index = some index → index = "" := by
  unfold requiredIndex
  cases command.index with
  | none => simpa using eq_comm
  | some name =>
    by_cases hempty : name = ""
    · simpa [hempty] using eq_comm
    · simp [hempty]

/-- Without an index, or with an empty one, there is no request. -/
theorem request_eq_error_iff :
    command.request = .error error ↔
      error = missingIndex ∧ ∀ index, command.index = some index → index = "" := by
  rw [Command.request, bind_eq_error_iff, requiredIndex_eq_error_iff]
  constructor
  · rintro (herror | ⟨index, -, hpure⟩)
    · exact herror
    · cases hpure
  · exact Or.inl

end Command

namespace Finder

/-- Searches in turn, whatever becomes of each. -/
def findAll : List Command → Searching (List (Except Error SearchResult))
  | [] => .done []
  | command :: rest =>
      (find command).bind fun result => (findAll rest).bind fun results => .done (result :: results)

/-- What a search that asked for its request comes to. -/
def answered (command : Command) : Except BackendError Json → Except Error SearchResult
  | .error error => .error (.backend error)
  | .ok response =>
      match Response.result command.query.aggregations response with
      | .error error => .error (.decode error.message)
      | .ok result => .ok result

theorem answered_ne_invalidArgument (command : Command) (reply : Except BackendError Json)
    (reason : String) : answered command reply ≠ .error (.invalidArgument reason) := by
  cases reply with
  | error error => simp [answered]
  | ok response =>
    rw [answered]
    cases Response.result command.query.aggregations response <;> simp

section Answering

variable {σ : Type} (answer : σ → SearchRequest → Except BackendError Json × σ)

theorem exchange_find_of_error {command : Command} {error : Error}
    (h : command.request = .error error) (state : σ) :
    (find command).exchange answer state = ⟨[], .error error, state⟩ := by
  rw [find_eq, h]
  rfl

theorem exchange_find_of_ok {command : Command} {request : SearchRequest}
    (h : command.request = .ok request) (state : σ) :
    (find command).exchange answer state =
      ⟨[request], answered command (answer state request).1, (answer state request).2⟩ := by
  rw [find_eq, h]
  simp only [Dialogue.exchange]
  cases (answer state request).1 with
  | error error => rfl
  | ok response =>
    dsimp only [answered, decoded]
    cases Response.result command.query.aggregations response <;> rfl

theorem exchange_findAll_cons (command : Command) (rest : List Command) (state : σ) :
    (findAll (command :: rest)).exchange answer state =
      let first := (find command).exchange answer state
      let others := (findAll rest).exchange answer first.state
      ⟨first.questions ++ others.questions, first.value :: others.value, others.state⟩ := by
  simp only [findAll, Dialogue.exchange_bind, Dialogue.exchange, List.append_nil]

/-- Searches that follow others start in the state that those leave. -/
theorem exchange_findAll_append (before after : List Command) (state : σ) :
    (findAll (before ++ after)).exchange answer state =
      let first := (findAll before).exchange answer state
      let others := (findAll after).exchange answer first.state
      ⟨first.questions ++ others.questions, first.value ++ others.value, others.state⟩ := by
  induction before generalizing state with
  | nil => rfl
  | cons command rest ih =>
    simp only [List.cons_append, exchange_findAll_cons, ih, List.append_assoc]

theorem length_value_findAll (commands : List Command) (state : σ) :
    ((findAll commands).exchange answer state).value.length = commands.length := by
  induction commands generalizing state with
  | nil => rfl
  | cons command rest ih => simp only [exchange_findAll_cons, List.length_cons, ih]

theorem questions_find (command : Command) (state : σ) :
    ((find command).exchange answer state).questions = command.request.toOption.toList := by
  cases hrequest : command.request with
  | error error =>
    rw [exchange_find_of_error answer hrequest]
    rfl
  | ok request =>
    rw [exchange_find_of_ok answer hrequest]
    rfl

/-- One question for each command that compiles, in order. -/
theorem questions_findAll (commands : List Command) (state : σ) :
    ((findAll commands).exchange answer state).questions =
      commands.filterMap fun command => command.request.toOption := by
  induction commands generalizing state with
  | nil => rfl
  | cons command rest ih =>
    simp only [exchange_findAll_cons, questions_find, ih, List.filterMap_cons]
    cases command.request <;> rfl

theorem value_find (command : Command) (state : σ) :
    ((find command).exchange answer state).value =
      match command.request with
      | .error error => .error error
      | .ok request => answered command (answer state request).1 := by
  cases hrequest : command.request with
  | error error => rw [exchange_find_of_error answer hrequest]
  | ok request => rw [exchange_find_of_ok answer hrequest]

theorem getElem?_value_findAll (before after : List Command) (command : Command) (state : σ) :
    ((findAll (before ++ command :: after)).exchange answer state).value[before.length]? =
      some ((find command).exchange answer
        ((findAll before).exchange answer state).state).value := by
  simp only [exchange_findAll_append, exchange_findAll_cons]
  have hlength := length_value_findAll answer before state
  rw [← hlength, List.getElem?_append_right (Nat.le_refl _), Nat.sub_self]
  rfl

/-- Only a command that does not compile is an invalid argument. -/
theorem value_find_eq_invalidArgument_iff (command : Command) (state : σ) (reason : String) :
    ((find command).exchange answer state).value = .error (.invalidArgument reason) ↔
      command.request = .error (.invalidArgument reason) := by
  rw [value_find]
  cases command.request with
  | error error => simp
  | ok request =>
    exact iff_of_false (answered_ne_invalidArgument command _ reason) nofun

end Answering

end Finder

namespace Run

open Backend (canRequest)

/-- The request that the arguments stand for. -/
def requested (configuration : Configuration) (arguments : QueryArguments) :
    Except Failure SearchRequest :=
  match draftFor configuration arguments with
  | .error failure => .error failure
  | .ok draft => (Command.drafted draft).request.mapError fun error => ⟨error.message, []⟩

theorem compile_eq (configuration : Configuration) (arguments : QueryArguments) :
    compile configuration arguments =
      match requested configuration arguments with
      | .error failure => .failed failure
      | .ok request =>
          { output := (Json.object [("index", .string request.index),
              ("body", request.body)]).pretty ++ "\n" } := by
  unfold compile requested requestDocument
  cases draftFor configuration arguments with
  | error failure => rfl
  | ok draft =>
    dsimp only
    cases (Command.drafted draft).request <;> rfl

/-- A search sends what its arguments stand for, unless the backend's URL does not allow it. -/
theorem questions_search {σ : Type} (configuration : Configuration) (arguments : QueryArguments)
    (answer : σ → Http.Request → Http.Reply × σ) (state : σ) :
    ((search configuration arguments).exchange answer state).questions =
      match requested configuration arguments, backendFor configuration with
      | .ok request, .ok backend =>
          if canRequest (backend.searchUrl request.index) then
            [⟨.post, backend.searchUrl request.index, some request.body⟩]
          else []
      | _, _ => [] := by
  unfold search requested
  cases draftFor configuration arguments with
  | error failure => rfl
  | ok draft =>
    dsimp only
    cases backendFor configuration with
    | error failure => cases (Command.drafted draft).request <;> rfl
    | ok backend =>
      dsimp only
      refine (Dialogue.questions_bind_of_done (fun _ => ⟨_, rfl⟩) state).trans ?_
      cases hrequest : (Command.drafted draft).request with
      | error error =>
        rw [Finder.find_eq, hrequest]
        rfl
      | ok request =>
        rw [Backend.questions_relay_find backend hrequest, Backend.questions_search]
        rfl

end Run

namespace Finder

/-- The questions of a run of searches are what its commands compile to, in order and one for each
that has an index and not an empty one. Each search comes to the error of its command, to the error
of the reply as it is, or to what the reply is decoded to against the aggregations of its own query;
nothing else of the run enters but the state that the earlier searches leave to whoever answers. The
index and the body that are printed for given arguments are those that a search for them sends. -/
theorem findAll_follows_each_command {σ : Type}
    (answer : σ → SearchRequest → Except BackendError Json × σ) (state : σ) :
    (∀ commands : List Command,
      ((findAll commands).exchange answer state).questions =
          commands.filterMap (fun command => command.request.toOption) ∧
        ((findAll commands).exchange answer state).value.length = commands.length) ∧
      (∀ (before after : List Command) (command : Command),
        ((findAll (before ++ command :: after)).exchange answer state).value[before.length]? =
            some (match command.request with
              | .error error => .error error
              | .ok request =>
                  match (answer ((findAll before).exchange answer state).state request).1 with
                  | .error error => .error (.backend error)
                  | .ok response =>
                      match Response.result command.query.aggregations response with
                      | .error error => .error (.decode error.message)
                      | .ok result => .ok result) ∧
          ∀ reason,
            ((findAll (before ++ command :: after)).exchange answer state).value[before.length]? =
                some (.error (.invalidArgument reason)) ↔
              command.request = .error (.invalidArgument reason)) ∧
      (∀ command : Command,
        (∀ request, command.request = .ok request ↔
          command.index = some request.index ∧ request.index ≠ "" ∧
            request.body = command.query.document) ∧
        ∀ error, command.request = .error error ↔
          error = .invalidArgument "an index is required to search" ∧
            ∀ index, command.index = some index → index = "") ∧
      ∀ {τ : Type} (configuration : Configuration) (arguments : QueryArguments)
        (transmit : τ → Http.Request → Http.Reply × τ) (network : τ),
        Run.compile configuration arguments =
            (match Run.requested configuration arguments with
              | .error failure => .failed failure
              | .ok request =>
                  { output := (Json.object [("index", .string request.index),
                      ("body", request.body)]).pretty ++ "\n" }) ∧
          ((Run.search configuration arguments).exchange transmit network).questions =
            match Run.requested configuration arguments, Run.backendFor configuration with
            | .ok request, .ok backend =>
                if Backend.canRequest (backend.searchUrl request.index) then
                  [⟨.post, backend.searchUrl request.index, some request.body⟩]
                else []
            | _, _ => [] := by
  refine ⟨fun commands => ⟨questions_findAll answer commands state,
    length_value_findAll answer commands state⟩, fun before after command => ⟨?_, fun reason => ?_⟩,
    fun command => ⟨fun request => Command.request_eq_ok_iff,
      fun error => Command.request_eq_error_iff⟩,
    fun configuration arguments transmit network =>
      ⟨Run.compile_eq configuration arguments,
        Run.questions_search configuration arguments transmit network⟩⟩
  · rw [getElem?_value_findAll, value_find]
    cases command.request with
    | error error => rfl
    | ok request =>
      dsimp only
      cases (answer ((findAll before).exchange answer state).state request).1 <;> rfl
  · rw [getElem?_value_findAll, Option.some.injEq]
    exact value_find_eq_invalidArgument_iff answer command _ reason

/-- Commands without an index ask nothing and fail alike before and after one that is asked. -/
example : (findAll [.stated {}, .stated { index := some "posts" }, .drafted {}]).exchange
    (fun (asked : ℕ) _ => (.error (.transport "no route"), asked + 1)) 0 =
      ⟨[⟨"posts", Query.document {}⟩], [.error Command.missingIndex,
        .error (.backend (.transport "no route")), .error Command.missingIndex], 1⟩ := rfl

end Finder

end DocumentSearch
