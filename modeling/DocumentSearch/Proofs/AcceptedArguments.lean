import DocumentSearch.Proofs.ArgumentForms
import DocumentSearch.Proofs.DraftHistories

/-!
The arguments that are accepted, and the drafts that they stand for. A search is accepted exactly
if each of its arguments follows its form. Otherwise the first that does not decides the error, in
a fixed order of the forms. What an accepted search asks for is what its arguments state.
-/

namespace DocumentSearch.QueryArguments

/-- The arguments that have a form, in the order in which they are read. -/
def formed (arguments : QueryArguments) : List (Form × String) :=
  arguments.wheres.map (Form.equality, ·) ++ (arguments.whereIns.map (Form.membership, ·) ++
    (arguments.sort.map (Form.sort, ·) ++ (arguments.termsAggregations.map (Form.terms, ·) ++
      arguments.metricAggregations.map (Form.metric, ·))))

def AllFollow (items : List (Form × String)) : Prop := ∀ item ∈ items, Follows item.1 item.2

/-- The error is that of an argument before which all others follow their forms. -/
def FirstOffends (items : List (Form × String)) (error : ArgumentError) : Prop :=
  ∃ before form argument after, items = before ++ (form, argument) :: after ∧
    AllFollow before ∧ Offends form argument error

theorem allFollow_append_iff {first second : List (Form × String)} :
    AllFollow (first ++ second) ↔ AllFollow first ∧ AllFollow second :=
  List.forall_mem_append

theorem firstOffends_append_iff {first second : List (Form × String)} {error : ArgumentError} :
    FirstOffends (first ++ second) error ↔
      FirstOffends first error ∨ AllFollow first ∧ FirstOffends second error := by
  constructor
  · rintro ⟨before, form, argument, after, hsplit, hbefore, hoffends⟩
    rcases List.append_eq_append_iff.mp hsplit with ⟨rest, rfl, hsecond⟩ | ⟨rest, rfl, hrest⟩
    · obtain ⟨hfirst, hrest⟩ := allFollow_append_iff.mp hbefore
      exact Or.inr ⟨hfirst, rest, form, argument, after, hsecond, hrest, hoffends⟩
    · cases rest with
      | nil =>
        rw [List.append_nil]
        exact Or.inr ⟨hbefore, [], form, argument, after, hrest.symm, nofun, hoffends⟩
      | cons item rest =>
        obtain ⟨rfl, rfl⟩ := List.cons.inj hrest
        exact Or.inl ⟨before, form, argument, rest, rfl, hbefore, hoffends⟩
  · rintro (⟨before, form, argument, after, rfl, hbefore, hoffends⟩ |
      ⟨hfirst, before, form, argument, after, rfl, hbefore, hoffends⟩)
    · exact ⟨before, form, argument, after ++ second, by simp, hbefore, hoffends⟩
    · exact ⟨first ++ before, form, argument, after, by simp,
        allFollow_append_iff.mpr ⟨hfirst, hbefore⟩, hoffends⟩

/-- A reading comes to a value exactly if all of the arguments that it reads follow their forms, and
its error is that of the first that does not. -/
structure ReadsAll {α : Type} (items : List (Form × String))
    (reading : Except ArgumentError α) : Prop where
  ok : (∃ value, reading = .ok value) ↔ AllFollow items
  error : ∀ error, reading = .error error ↔ FirstOffends items error

namespace ReadsAll

variable {α β : Type}

theorem nothing (value : α) : ReadsAll [] (pure value) where
  ok := ⟨fun _ => nofun, fun _ => ⟨value, rfl⟩⟩
  error error := by
    refine iff_of_false nofun ?_
    rintro ⟨before, form, argument, after, h, -⟩
    simp at h

theorem bind {first second : List (Form × String)} {reading : Except ArgumentError α}
    {next : α → Except ArgumentError β} (h : ReadsAll first reading)
    (hnext : ∀ value, ReadsAll second (next value)) :
    ReadsAll (first ++ second) (reading >>= next) where
  ok := by
    simp only [bind_eq_ok_iff, allFollow_append_iff, ← h.ok]
    constructor
    · rintro ⟨value, inner, hinner, hvalue⟩
      exact ⟨⟨inner, hinner⟩, (hnext inner).ok.mp ⟨value, hvalue⟩⟩
    · rintro ⟨⟨inner, hinner⟩, hsecond⟩
      obtain ⟨value, hvalue⟩ := (hnext inner).ok.mpr hsecond
      exact ⟨value, inner, hinner, hvalue⟩
  error error := by
    simp only [bind_eq_error_iff, firstOffends_append_iff, ← h.ok, ← h.error, (hnext _).error,
      exists_and_right]

theorem map {items : List (Form × String)} {reading : Except ArgumentError α}
    (h : ReadsAll items reading) (f : α → β) :
    ReadsAll items (do return f (← reading)) := by
  have hbind := h.bind fun value => nothing (f value)
  rwa [List.append_nil] at hbind

theorem one {form : Form} {read : String → Except ArgumentError α} (h : Reads form read)
    (argument : String) : ReadsAll [(form, argument)] (read argument) where
  ok := by rw [h.ok, AllFollow, List.forall_mem_singleton]
  error error := by
    rw [h.error]
    constructor
    · intro hoffends
      exact ⟨[], form, argument, [], rfl, nofun, hoffends⟩
    · rintro ⟨before, other, found, after, hsplit, -, hoffends⟩
      cases before with
      | nil =>
        obtain ⟨rfl, rfl⟩ := Prod.mk.inj (List.cons.inj hsplit).1
        exact hoffends
      | cons item before => simp at hsplit

theorem mapM {form : Form} {read : String → Except ArgumentError α} (h : Reads form read)
    (arguments : List String) : ReadsAll (arguments.map (form, ·)) (arguments.mapM read) := by
  induction arguments with
  | nil => exact nothing []
  | cons argument rest ih =>
    rw [List.mapM_cons]
    exact (one h argument).bind fun value => ih.map (value :: ·)

end ReadsAll

theorem readsAll_steps (arguments : QueryArguments) (defaults : List String) :
    ReadsAll arguments.formed (arguments.steps defaults) := by
  unfold QueryArguments.steps formed
  refine .bind (.mapM reads_whereStep _) fun wheres => ?_
  refine .bind (.mapM reads_whereInStep _) fun whereIns => ?_
  refine .bind (.map (.mapM reads_sortKey _) _) fun sort => ?_
  refine .bind (.mapM reads_termsStep _) fun terms => ?_
  exact .map (.mapM reads_metricStep _) _

theorem readsAll_draft (arguments : QueryArguments) (defaults : List String) :
    ReadsAll arguments.formed (arguments.draft defaults) :=
  (readsAll_steps arguments defaults).map _

/-- What the arguments state, part by part. -/
structure States (arguments : QueryArguments) (equalities : List (String × Json))
    (memberships : List (String × List Json)) (keys : List SortKey)
    (terms metrics : List (String × Aggregation)) : Prop where
  equalities : List.Forall₂ StatesEquality arguments.wheres equalities
  memberships : List.Forall₂ StatesMembership arguments.whereIns memberships
  keys : List.Forall₂ StatesSort arguments.sort keys
  terms : List.Forall₂ StatesTerms arguments.termsAggregations terms
  metrics : List.Forall₂ StatesMetric arguments.metricAggregations metrics

/-- The steps of a draft that makes what is stated into a query. -/
def statedSteps (arguments : QueryArguments) (defaults : List String)
    (equalities : List (String × Json)) (memberships : List (String × List Json))
    (keys : List SortKey) (terms metrics : List (String × Aggregation)) : List Draft.Step :=
  [Draft.Step.forIndex arguments.index,
      Draft.Step.searchFields (arguments.searchFieldsOr defaults)] ++
    arguments.text.toList.map Draft.Step.search ++
    equalities.map (fun entry => Draft.Step.whereEq entry.1 entry.2) ++
    memberships.map (fun entry => Draft.Step.whereIn entry.1 entry.2) ++
    arguments.offset.toList.map Draft.Step.offset ++
    arguments.limit.toList.map Draft.Step.limit ++
    (if keys.isEmpty then [] else [Draft.Step.sort keys]) ++
    (if arguments.fields.isEmpty then [] else [Draft.Step.fields arguments.fields]) ++
    terms.map (fun entry => Draft.Step.aggregation entry.1 entry.2) ++
    metrics.map (fun entry => Draft.Step.aggregation entry.1 entry.2)

theorem steps_eq_ok_iff {arguments : QueryArguments} {defaults : List String}
    {steps : List Draft.Step} :
    arguments.steps defaults = .ok steps ↔
      ∃ equalities memberships keys terms metrics,
        arguments.States equalities memberships keys terms metrics ∧
          arguments.statedSteps defaults equalities memberships keys terms metrics = steps := by
  simp only [QueryArguments.steps, sortSteps, bind_eq_ok_iff, pure_eq_ok_iff,
    mapM_eq_ok_iff_of_states (fun _ _ => whereStep_eq_ok_iff),
    mapM_eq_ok_iff_of_states (fun _ _ => whereInStep_eq_ok_iff),
    mapM_eq_ok_iff_of_states (fun _ _ => termsStep_eq_ok_iff),
    mapM_eq_ok_iff_of_states (fun _ _ => metricStep_eq_ok_iff),
    mapM_eq_ok_iff, sortKey_eq_ok_iff]
  constructor
  · rintro ⟨_, ⟨equalities, hequalities, rfl⟩, _, ⟨memberships, hmemberships, rfl⟩, _,
      ⟨keys, hkeys, rfl⟩, _, ⟨terms, hterms, rfl⟩, _, ⟨metrics, hmetrics, rfl⟩, rfl⟩
    exact ⟨equalities, memberships, keys, terms, metrics,
      ⟨hequalities, hmemberships, hkeys, hterms, hmetrics⟩, rfl⟩
  · rintro ⟨equalities, memberships, keys, terms, metrics, h, rfl⟩
    exact ⟨_, ⟨equalities, h.equalities, rfl⟩, _, ⟨memberships, h.memberships, rfl⟩, _,
      ⟨keys, h.keys, rfl⟩, _, ⟨terms, h.terms, rfl⟩, _, ⟨metrics, h.metrics, rfl⟩, rfl⟩

/-- The query for what the arguments state. -/
def statedQuery (arguments : QueryArguments) (defaults : List String)
    (equalities : List (String × Json)) (memberships : List (String × List Json))
    (keys : List SortKey) (terms metrics : List (String × Aggregation)) : Query where
  conditions :=
    { must := match arguments.text with
        | none | some "" => []
        | some text => [Draft.textMatch text
            (if arguments.searchFields = [] then defaults else arguments.searchFields)]
      should := []
      filter := (Entries.settled equalities).map (fun entry => .term entry.1 entry.2 none) ++
        (Entries.settled memberships).map fun entry => .terms entry.1 entry.2 none }
  offset := arguments.offset
  limit := arguments.limit
  sort := keys
  fields := if arguments.fields = [] then none else some arguments.fields
  minScore := none
  aggregations := Entries.settled (terms ++ metrics)

open Draft in
theorem query_statedSteps (arguments : QueryArguments) (defaults : List String)
    (equalities : List (String × Json)) (memberships : List (String × List Json))
    (keys : List SortKey) (terms metrics : List (String × Aggregation)) :
    (Draft.ofSteps
        (arguments.statedSteps defaults equalities memberships keys terms metrics)).query =
      arguments.statedQuery defaults equalities memberships keys terms metrics := by
  have hkeys : (if keys.isEmpty then [] else [keys]).getLast?.getD [] = keys := by
    cases keys <;> rfl
  have hfields : (if arguments.fields.isEmpty then [] else [arguments.fields]).getLast? =
      if arguments.fields = [] then none else some arguments.fields := by
    cases arguments.fields <;> rfl
  have hsearch : arguments.searchFieldsOr defaults =
      if arguments.searchFields = [] then defaults else arguments.searchFields := by
    rw [searchFieldsOr]
    cases arguments.searchFields <;> rfl
  have hpairs : ∀ {α : Type} (pairs : List (String × α)),
      pairs.filterMap (fun pair => some (pair.1, pair.2)) = pairs :=
    fun pairs => List.filterMap_some
  have hlast : ∀ {α : Type} (given : Option α), given.toList.getLast? = given := by
    intro α given
    cases given <;> rfl
  rw [Draft.query_ofSteps, statedQuery, historyQuery, ← hsearch, ← hfields]
  -- Each selection leaves the steps of one kind, which are a part of their own.
  simp only [lastOf, statedSteps, List.filterMap_append, List.filterMap_cons, List.filterMap_nil,
    List.filterMap_map, apply_ite (List.filterMap _), Function.comp_def, Step.text?,
    Step.searchFields?, Step.must?, Step.should?, Step.filter?, Step.equality?, Step.membership?,
    Step.offset?, Step.limit?, Step.sort?, Step.fields?, Step.aggregation?,
    List.filterMap_none, List.filterMap_some, List.nil_append, List.append_nil, ite_self, hpairs,
    hlast, hkeys]
  rfl

open Draft in
theorem index_statedSteps (arguments : QueryArguments) (defaults : List String)
    (equalities : List (String × Json)) (memberships : List (String × List Json))
    (keys : List SortKey) (terms metrics : List (String × Aggregation)) :
    (Draft.ofSteps
        (arguments.statedSteps defaults equalities memberships keys terms metrics)).index =
      some arguments.index := by
  rw [ofSteps_eq_ofHistory, ofHistory]
  simp only [lastOf, statedSteps, List.filterMap_append, List.filterMap_cons, List.filterMap_nil,
    List.filterMap_map, apply_ite (List.filterMap _), Function.comp_def, Step.index?,
    List.filterMap_none, List.append_nil, ite_self]
  rfl

/-- A search is accepted exactly if all of its arguments follow their forms, and then it is for the
index and the query that they state. Otherwise the first argument that offends decides the error. -/
theorem draft_follows_forms (arguments : QueryArguments) (defaults : List String) :
    ((∃ draft, arguments.draft defaults = .ok draft) ↔
        ∀ item ∈ arguments.formed, Follows item.1 item.2) ∧
      (∀ error, arguments.draft defaults = .error error ↔
        FirstOffends arguments.formed error) ∧
      ∀ draft, arguments.draft defaults = .ok draft →
        (Command.drafted draft).index = some arguments.index ∧
          ∃ equalities memberships keys terms metrics,
            arguments.States equalities memberships keys terms metrics ∧
              (Command.drafted draft).query =
                arguments.statedQuery defaults equalities memberships keys terms metrics := by
  have hreads := readsAll_draft arguments defaults
  refine ⟨hreads.ok, hreads.error, ?_⟩
  intro draft hdraft
  simp only [QueryArguments.draft, bind_eq_ok_iff, pure_eq_ok_iff, steps_eq_ok_iff] at hdraft
  obtain ⟨_, ⟨equalities, memberships, keys, terms, metrics, hstates, rfl⟩, rfl⟩ := hdraft
  exact ⟨index_statedSteps arguments defaults equalities memberships keys terms metrics,
    equalities, memberships, keys, terms, metrics, hstates,
    query_statedSteps arguments defaults equalities memberships keys terms metrics⟩

def repeatedArguments : QueryArguments where
  index := "posts"
  text := some "rust"
  wheres := ["status=draft", "views= 10", "status=a=b"]
  whereIns := ["tags= a ,true,", "tags=2"]
  sort := ["date:DESC", "title"]
  termsAggregations := ["t=x", "u="]
  metricAggregations := ["t=max:price:eur"]

/-- The value may have the separator in it, but a field may not be empty, even if another separator
follows. The conditions are read before the sort keys, so theirs is the error. -/
theorem draft_follows_forms_repeatedArguments :
    (∃ draft, repeatedArguments.draft ["title"] = .ok draft ∧
      (Command.drafted draft).index = some "posts" ∧
        ∃ equalities memberships keys terms metrics,
          repeatedArguments.States equalities memberships keys terms metrics ∧
            (Command.drafted draft).query =
              repeatedArguments.statedQuery ["title"] equalities memberships keys terms metrics) ∧
      FirstOffends
        ({ repeatedArguments with wheres := ["views=1", "=a=b"], sort := ["date:up"] }).formed
        (.notAPair '=' "=a=b") := by
  have hdraft : ∃ draft, repeatedArguments.draft ["title"] = .ok draft := ⟨_, rfl⟩
  obtain ⟨draft, hdraft⟩ := hdraft
  exact ⟨⟨draft, hdraft, (draft_follows_forms repeatedArguments ["title"]).2.2 draft hdraft⟩,
    ((draft_follows_forms _ ["title"]).2.1 _).mp rfl⟩

end DocumentSearch.QueryArguments
