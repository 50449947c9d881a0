import DocumentSearch.Command
import DocumentSearch.Proofs.Insertions

/-!
Drafts by the history of their steps. Of the steps that set a part only the last one counts, and
the steps that put an entry count together, each field or name once. What a step has to say does
not depend on steps of other kinds, so steps of different kinds may change places.
-/

namespace DocumentSearch.Draft

namespace Step

/-- Which of the forms of steps a step has. -/
def kind (step : Step) : Nat := step.ctorIdx

def index? : Step → Option String
  | .forIndex name => some name
  | _ => none

def text? : Step → Option String
  | .search text => some text
  | _ => none

def searchFields? : Step → Option (List String)
  | .searchFields names => some names
  | _ => none

def must? : Step → Option (List Clause)
  | .must clauses => some clauses
  | _ => none

def should? : Step → Option (List Clause)
  | .should clauses => some clauses
  | _ => none

def filter? : Step → Option (List Clause)
  | .filter clauses => some clauses
  | _ => none

def equality? : Step → Option (String × Json)
  | .whereEq field value => some (field, value)
  | _ => none

def membership? : Step → Option (String × List Json)
  | .whereIn field values => some (field, values)
  | _ => none

def offset? : Step → Option UInt64
  | .offset value => some value
  | _ => none

def limit? : Step → Option UInt64
  | .limit value => some value
  | _ => none

def sort? : Step → Option (List SortKey)
  | .sort keys => some keys
  | _ => none

def fields? : Step → Option (List String)
  | .fields names => some names
  | _ => none

def aggregation? : Step → Option (String × Aggregation)
  | .aggregation name definition => some (name, definition)
  | _ => none

end Step

section History

variable {α : Type}

/-- What the last step of one kind says, if there is one. -/
def lastOf (select? : Step → Option α) (steps : List Step) : Option α :=
  (steps.filterMap select?).getLast?

theorem lastOf_concat (select? : Step → Option α) (steps : List Step) (step : Step) :
    lastOf select? (steps ++ [step]) = (select? step).or (lastOf select? steps) := by
  rw [lastOf, List.filterMap_append, List.getLast?_append]
  cases hselected : select? step with
  | none => simp [hselected, lastOf]
  | some value => simp [hselected]

/-- What the steps of one kind put, one after another. -/
def putBy (select? : Step → Option (String × α)) (steps : List Step) : Entries α :=
  Entries.ofPairs (steps.filterMap select?)

theorem putBy_concat (select? : Step → Option (String × α)) (steps : List Step) (step : Step) :
    putBy select? (steps ++ [step]) =
      match select? step with
      | none => putBy select? steps
      | some entry => (putBy select? steps).put entry.1 entry.2 := by
  rw [putBy, List.filterMap_append]
  cases hselected : select? step with
  | none => simp [hselected, putBy]
  | some entry => simp [hselected, Entries.ofPairs_concat, putBy]

end History

/-- The draft in which each part is what the steps of its kind say. -/
def ofHistory (steps : List Step) : Draft where
  index := lastOf Step.index? steps
  text := lastOf Step.text? steps
  searchFields := (lastOf Step.searchFields? steps).getD []
  must := (lastOf Step.must? steps).getD []
  should := (lastOf Step.should? steps).getD []
  filter := (lastOf Step.filter? steps).getD []
  equalities := putBy Step.equality? steps
  memberships := putBy Step.membership? steps
  offset := lastOf Step.offset? steps
  limit := lastOf Step.limit? steps
  sort := (lastOf Step.sort? steps).getD []
  fields := lastOf Step.fields? steps
  aggregations := putBy Step.aggregation? steps

/-- One more step changes what the steps of its kind say and nothing else. -/
theorem ofHistory_concat (steps : List Step) (step : Step) :
    ofHistory (steps ++ [step]) = (ofHistory steps).apply step := by
  cases step <;>
    simp [ofHistory, apply, lastOf_concat, putBy_concat, Step.index?, Step.text?,
      Step.searchFields?, Step.must?, Step.should?, Step.filter?, Step.equality?,
      Step.membership?, Step.offset?, Step.limit?, Step.sort?, Step.fields?, Step.aggregation?]

theorem ofSteps_eq_ofHistory (steps : List Step) : ofSteps steps = ofHistory steps := by
  induction steps using List.reverseRecOn with
  | nil => rfl
  | append_singleton steps step ih =>
    rw [ofHistory_concat, ← ih, ofSteps, List.foldl_concat]
    rfl

/-- The text is matched with tolerance across the fields, or across all fields if none are given. -/
def textMatch (text : String) (fields : List String) : Clause :=
  .multiMatch text (if fields = [] then none else some fields) (some "auto")

/-- The clauses for a text, of which there are none without a text or with an empty one. -/
def textMatches (text : Option String) (fields : List String) : List Clause :=
  match text with
  | none | some "" => []
  | some text => [textMatch text fields]

/-- The query that the steps describe. -/
def historyQuery (steps : List Step) : Query where
  conditions :=
    { must := (lastOf Step.must? steps).getD [] ++
        textMatches (lastOf Step.text? steps) ((lastOf Step.searchFields? steps).getD [])
      should := (lastOf Step.should? steps).getD []
      filter := (lastOf Step.filter? steps).getD [] ++
        (Entries.settled (steps.filterMap Step.equality?)).map
          (fun entry => .term entry.1 entry.2 none) ++
        (Entries.settled (steps.filterMap Step.membership?)).map
          fun entry => .terms entry.1 entry.2 none }
  offset := lastOf Step.offset? steps
  limit := lastOf Step.limit? steps
  sort := (lastOf Step.sort? steps).getD []
  fields := lastOf Step.fields? steps
  minScore := none
  aggregations := Entries.settled (steps.filterMap Step.aggregation?)

theorem fuzzyAcross_eq_textMatch (text : String) (fields : List String) :
    Clause.fuzzyAcross text fields = textMatch text fields := by
  cases fields <;> rfl

theorem textClauses_eq_textMatches (draft : Draft) :
    draft.textClauses = textMatches draft.text draft.searchFields := by
  unfold textClauses
  cases draft.text with
  | none => rfl
  | some text =>
    by_cases hempty : text = ""
    · subst hempty
      rfl
    · simp [textMatches, hempty, fuzzyAcross_eq_textMatch]

theorem query_ofSteps (steps : List Step) : (ofSteps steps).query = historyQuery steps := by
  rw [ofSteps_eq_ofHistory, query, textClauses_eq_textMatches]
  simp only [equalityClauses, membershipClauses, ofHistory, putBy, Entries.ofPairs_eq_settled]
  rfl

/-- Steps of different kinds change different parts. -/
theorem apply_comm {first second : Step} (h : first.kind ≠ second.kind) (draft : Draft) :
    (draft.apply second).apply first = (draft.apply first).apply second := by
  cases first <;> cases second <;> first | rfl | exact absurd rfl h

theorem ofSteps_exchange {first second : Step} (h : first.kind ≠ second.kind)
    (before after : List Step) :
    ofSteps (before ++ second :: first :: after) = ofSteps (before ++ first :: second :: after) := by
  simp only [ofSteps, List.foldl_append, List.foldl_cons, apply_comm h]

/-- The index and the query are what the steps of each kind say, in whatever order the kinds were
mixed, so the request stays the same when two neighbours of different kinds change places. -/
theorem history_determines_request (steps : List Step) :
    (Command.drafted (ofSteps steps)).index = lastOf Step.index? steps ∧
      (Command.drafted (ofSteps steps)).query = historyQuery steps ∧
      ∀ (before : List Step) (first second : Step) (after : List Step),
        steps = before ++ first :: second :: after → first.kind ≠ second.kind →
          (Command.drafted (ofSteps (before ++ second :: first :: after))).request =
            (Command.drafted (ofSteps steps)).request := by
  refine ⟨?_, query_ofSteps steps, ?_⟩
  · change (ofSteps steps).index = _
    rw [ofSteps_eq_ofHistory]
    rfl
  · rintro before first second after rfl hkind
    rw [ofSteps_exchange hkind]

def repeatedSteps : List Step :=
  [.search "rust", .whereEq "status" (.string "draft"), .whereIn "tags" [.string "a"],
    .whereEq "views" (.natural 3), .searchFields ["title"], .must [.present "id"],
    .whereEq "status" (.string "published"), .aggregation "t" (.terms "x" 10), .forIndex "posts",
    .aggregation "u" (.terms "y" 10), .search "lean", .aggregation "t" (.metric .max "z"),
    .filter [.present "day"], .whereIn "tags" []]

/-- A field that is set again keeps its place and takes the new value, and the text that is searched
for may come before its fields. -/
theorem history_determines_repeatedSteps :
    (Command.drafted (ofSteps repeatedSteps)).query =
        { conditions :=
            { must := [.present "id", .multiMatch "lean" (some ["title"]) (some "auto")]
              filter := [.present "day", .term "status" (.string "published") none,
                .term "views" (.natural 3) none, .terms "tags" [] none] }
          aggregations := [("t", .metric .max "z"), ("u", .terms "y" 10)] } ∧
      (Command.drafted (ofSteps (.whereEq "status" (.string "draft") :: .search "rust" ::
          repeatedSteps.drop 2))).request =
        (Command.drafted (ofSteps repeatedSteps)).request := by
  obtain ⟨-, hquery, hexchange⟩ := history_determines_request repeatedSteps
  exact ⟨hquery, hexchange [] _ _ _ rfl (by decide)⟩

end DocumentSearch.Draft
