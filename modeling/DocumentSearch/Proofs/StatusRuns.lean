import DocumentSearch.CommandLine.Run
import DocumentSearch.Proofs.SearchAddress
import DocumentSearch.Proofs.Sequencing
import DocumentSearch.Proofs.UpToDate

/-!
Checking indexes in turn. One check makes one request and comes to what its reply says: a missing
index, a configuration, or an error. A run of checks goes on as long as they come to a status, so
it ends with exit code 0 only if each selected index was asked for and is reported as it was
declared. Whatever else is replied, at any point of the run, shows in the exit code.
-/

namespace DocumentSearch

/-- The replies to requests that are made one after another. -/
def Http.repliesTo {σ : Type} (answer : σ → Http.Request → Http.Reply × σ) :
    σ → List Http.Request → List Http.Reply
  | _, [] => []
  | state, request :: rest =>
      (answer state request).1 :: Http.repliesTo answer (answer state request).2 rest

/-- A successful response whose body is a document that is read as a configuration of that name. -/
def Http.Response.Reports (response : Http.Response) (name : String)
    (actual : IndexConfiguration) : Prop :=
  (200 ≤ response.status ∧ response.status < 300) ∧
    ∃ document, (Text.Utf8.decode response.body).bind Json.read = some document ∧
      IndexConfiguration.ofReport name document = .ok actual

theorem Http.Response.Reports.status_ne {response : Http.Response} {name : String}
    {actual : IndexConfiguration} (h : response.Reports name actual) : response.status ≠ 404 := by
  have hsuccess := h.1
  omega

namespace Backend

/-- The request for the configuration of an index. -/
def inspection (backend : Backend) (index : IndexConfiguration) : Http.Request :=
  ⟨.get, backend.indexUrl index.name, none⟩

/-- The index can be asked for, and the reply says that it is missing or how it is configured. -/
def Checked (backend : Backend) (index : IndexConfiguration) (reply : Http.Reply) : Prop :=
  canRequest (backend.indexUrl index.name) = true ∧ ∃ response, reply = some response ∧
    (response.status = 404 ∨ ∃ actual, response.Reports index.name actual)

/-- The index can be asked for, and the reply reports a configuration that does not differ from
the declared one. -/
def Confirmed (backend : Backend) (index : IndexConfiguration) (reply : Http.Reply) : Prop :=
  canRequest (backend.indexUrl index.name) = true ∧ ∃ response, reply = some response ∧
    ∃ actual, response.Reports index.name actual ∧ Comparator.default.differences index actual = []

theorem isSuccess_iff (response : Http.Response) :
    response.isSuccess = true ↔ 200 ≤ response.status ∧ response.status < 300 := by
  simp [Http.Response.isSuccess]

theorem documentOf_eq_ok_iff {response : Http.Response} {document : Json} :
    documentOf response = .ok document ↔
      (200 ≤ response.status ∧ response.status < 300) ∧
        (Text.Utf8.decode response.body).bind Json.read = some document := by
  rw [← isSuccess_iff, documentOf]
  by_cases hsuccess : response.isSuccess = true
  · rw [if_pos hsuccess]
    cases (Text.Utf8.decode response.body).bind Json.read with
    | none => simp
    | some other => simp [hsuccess]
  · rw [if_neg hsuccess]
    simp [hsuccess]

theorem configurationOf_of_notFound {response : Http.Response} (name : String)
    (h : response.status = 404) : configurationOf name response = .ok none := if_pos h

/-- Unless there is no such index, a response is read as a configuration exactly if it reports
one. -/
theorem configurationOf_eq_ok_iff {response : Http.Response} {name : String}
    {answer : Option IndexConfiguration} (h : response.status ≠ 404) :
    configurationOf name response = .ok answer ↔
      ∃ actual, answer = some actual ∧ response.Reports name actual := by
  simp only [configurationOf, if_neg h, bind_eq_ok_iff, pure_eq_ok_iff, documentOf_eq_ok_iff]
  constructor
  · rintro ⟨document, ⟨hsuccess, hread⟩, actual, hreport, rfl⟩
    exact ⟨actual, rfl, hsuccess, document, hread, hreport⟩
  · rintro ⟨actual, rfl, hsuccess, document, hread, hreport⟩
    exact ⟨document, ⟨hsuccess, hread⟩, actual, hreport, rfl⟩

theorem name_of_ofReport {name : String} {document : Json} {actual : IndexConfiguration}
    (h : IndexConfiguration.ofReport name document = .ok actual) : actual.name = name := by
  unfold IndexConfiguration.ofReport at h
  split at h
  · simp only [IndexConfiguration.ofReportedIndex, bind_eq_ok_iff, pure_eq_ok_iff] at h
    obtain ⟨mapping, -, settings, -, rfl⟩ := h
    rfl
  · cases h
  · cases h

/-- What the check of an index comes to, by the reply to its request. -/
def statusOf (backend : Backend) (index : IndexConfiguration) (reply : Http.Reply) :
    Except Error IndexStatus :=
  IndexStatus.ofAnswer .default index
    (if canRequest (backend.indexUrl index.name) then
      match reply with
      | some response => configurationOf index.name response
      | none => .error (failedSending (backend.indexUrl index.name))
    else .error (failedBuilding (backend.indexUrl index.name)))

section Statuses

variable {backend : Backend} {index : IndexConfiguration} {response : Http.Response}

theorem statusOf_of_not_canRequest (reply : Http.Reply)
    (h : ¬ canRequest (backend.indexUrl index.name) = true) :
    backend.statusOf index reply =
      .error (.backend (failedBuilding (backend.indexUrl index.name))) := by
  unfold statusOf
  rw [if_neg h]
  rfl

theorem statusOf_none (h : canRequest (backend.indexUrl index.name) = true) :
    backend.statusOf index none =
      .error (.backend (failedSending (backend.indexUrl index.name))) := by
  unfold statusOf
  rw [if_pos h]
  rfl

theorem statusOf_some (h : canRequest (backend.indexUrl index.name) = true) :
    backend.statusOf index (some response) =
      IndexStatus.ofAnswer .default index (configurationOf index.name response) := by
  unfold statusOf
  rw [if_pos h]

theorem statusOf_notFound (h : canRequest (backend.indexUrl index.name) = true)
    (hstatus : response.status = 404) : backend.statusOf index (some response) = .ok .absent := by
  rw [statusOf_some h, configurationOf_of_notFound index.name hstatus]
  rfl

/-- A report has the name that was asked for, so it is compared with what was declared. -/
theorem statusOf_of_reports {actual : IndexConfiguration}
    (h : canRequest (backend.indexUrl index.name) = true)
    (hreports : response.Reports index.name actual) :
    backend.statusOf index (some response) =
      .ok (.ofDifferences (Comparator.default.differences index actual)) := by
  have hname : actual.name = index.name := by
    obtain ⟨-, document, -, hreport⟩ := hreports
    exact name_of_ofReport hreport
  rw [statusOf_some h, (configurationOf_eq_ok_iff hreports.status_ne).mpr ⟨actual, rfl, hreports⟩,
    IndexStatus.ofAnswer, if_pos hname]

/-- Any other response is an error: one without success, one whose body is no document, and one
whose document is no configuration. -/
theorem exists_statusOf_eq_error (h : canRequest (backend.indexUrl index.name) = true)
    (hstatus : response.status ≠ 404)
    (hreports : ¬ ∃ actual, response.Reports index.name actual) :
    ∃ error, backend.statusOf index (some response) = .error error := by
  rw [statusOf_some h]
  cases hanswer : configurationOf index.name response with
  | error error => exact ⟨.backend error, rfl⟩
  | ok answer =>
    obtain ⟨actual, -, hactual⟩ := (configurationOf_eq_ok_iff hstatus).mp hanswer
    exact absurd ⟨actual, hactual⟩ hreports

/-- What a reply to a request for an index can be, and what the check comes to. -/
theorem statusOf_cases (backend : Backend) (index : IndexConfiguration) (reply : Http.Reply) :
    (backend.statusOf index reply = .ok .absent ∧
        canRequest (backend.indexUrl index.name) = true ∧
        ∃ response, reply = some response ∧ response.status = 404) ∨
      (∃ response actual, canRequest (backend.indexUrl index.name) = true ∧
        reply = some response ∧ response.Reports index.name actual ∧
        backend.statusOf index reply =
          .ok (.ofDifferences (Comparator.default.differences index actual))) ∨
      (∃ error, backend.statusOf index reply = .error error) ∧ ¬ backend.Checked index reply := by
  by_cases hsend : canRequest (backend.indexUrl index.name) = true
  · cases reply with
    | none =>
      exact Or.inr (Or.inr ⟨⟨_, statusOf_none hsend⟩, fun ⟨_, _, hreply, _⟩ => by cases hreply⟩)
    | some response =>
      by_cases hstatus : response.status = 404
      · exact Or.inl ⟨statusOf_notFound hsend hstatus, hsend, response, rfl, hstatus⟩
      by_cases hreports : ∃ actual, response.Reports index.name actual
      · obtain ⟨actual, hactual⟩ := hreports
        exact Or.inr (Or.inl ⟨response, actual, hsend, rfl, hactual,
          statusOf_of_reports hsend hactual⟩)
      · refine Or.inr (Or.inr ⟨exists_statusOf_eq_error hsend hstatus hreports, ?_⟩)
        rintro ⟨-, other, hother, hchecked⟩
        rw [← Option.some.inj hother] at hchecked
        exact hchecked.elim hstatus hreports
  · refine Or.inr (Or.inr ⟨⟨_, statusOf_of_not_canRequest reply hsend⟩, ?_⟩)
    exact fun hchecked => hsend hchecked.1

theorem exists_statusOf_eq_ok_iff (backend : Backend) (index : IndexConfiguration)
    (reply : Http.Reply) :
    (∃ status, backend.statusOf index reply = .ok status) ↔ backend.Checked index reply := by
  rcases statusOf_cases backend index reply with
    ⟨hstatus, hsend, response, rfl, hnotFound⟩ | ⟨response, actual, hsend, rfl, hreports, hstatus⟩ |
      ⟨⟨error, herror⟩, hchecked⟩
  · exact iff_of_true ⟨_, hstatus⟩ ⟨hsend, response, rfl, Or.inl hnotFound⟩
  · exact iff_of_true ⟨_, hstatus⟩ ⟨hsend, response, rfl, Or.inr ⟨actual, hreports⟩⟩
  · refine iff_of_false ?_ hchecked
    rintro ⟨status, hstatus⟩
    cases herror.symm.trans hstatus

theorem ofDifferences_eq_upToDate_iff {differences : List Difference} :
    IndexStatus.ofDifferences differences = .upToDate ↔ differences = [] := by
  cases differences <;> simp [IndexStatus.ofDifferences]

theorem statusOf_eq_upToDate_iff (reply : Http.Reply) :
    backend.statusOf index reply = .ok .upToDate ↔ backend.Confirmed index reply := by
  constructor
  · intro hupToDate
    rcases statusOf_cases backend index reply with
      ⟨hstatus, -⟩ | ⟨response, actual, hsend, hreply, hreports, hstatus⟩ | ⟨⟨error, herror⟩, -⟩
    · cases hstatus.symm.trans hupToDate
    · have hsame := Except.ok.inj (hstatus.symm.trans hupToDate)
      exact ⟨hsend, response, hreply, actual, hreports, ofDifferences_eq_upToDate_iff.mp hsame⟩
    · cases herror.symm.trans hupToDate
  · rintro ⟨hsend, response, rfl, actual, hreports, hnone⟩
    rw [statusOf_of_reports hsend hreports, hnone]
    rfl

theorem statusOf_eq_absent_iff (h : canRequest (backend.indexUrl index.name) = true) :
    backend.statusOf index (some response) = .ok .absent ↔ response.status = 404 := by
  constructor
  · intro habsent
    rcases statusOf_cases backend index (some response) with
      ⟨-, -, other, hother, hstatus⟩ | ⟨other, actual, -, -, -, hstatus⟩ | ⟨⟨error, herror⟩, -⟩
    · exact Option.some.inj hother ▸ hstatus
    · have hsame := Except.ok.inj (hstatus.symm.trans habsent)
      unfold IndexStatus.ofDifferences at hsame
      split at hsame <;> cases hsame
    · cases herror.symm.trans habsent
  · exact statusOf_notFound h

theorem exists_statusOf_eq_error_iff (h : canRequest (backend.indexUrl index.name) = true) :
    (∃ error, backend.statusOf index (some response) = .error error) ↔
      response.status ≠ 404 ∧ ¬ ∃ actual, response.Reports index.name actual := by
  have hok := exists_statusOf_eq_ok_iff backend index (some response)
  have hchecked : backend.Checked index (some response) ↔
      response.status = 404 ∨ ∃ actual, response.Reports index.name actual := by
    simp [Checked, h]
  rw [hchecked] at hok
  rw [ne_eq, ← not_or, ← hok]
  cases backend.statusOf index (some response) <;> simp

theorem confirmed_some_iff (h : canRequest (backend.indexUrl index.name) = true) :
    backend.Confirmed index (some response) ↔
      ∃ actual, response.Reports index.name actual ∧
        Comparator.default.differences index actual = [] := by
  simp [Confirmed, h]

end Statuses

/-- A check makes its request, if it can be sent at all, and comes to what the reply says. -/
theorem relay_check (backend : Backend) (index : IndexConfiguration) :
    (IndexStatus.check .default index).relay backend.inspect =
      if canRequest (backend.indexUrl index.name) then
        .ask (backend.inspection index) fun reply => .done (backend.statusOf index reply)
      else .done (backend.statusOf index none) := by
  change ((send (backend.inspection index)).bind _).bind _ = _
  by_cases hsend : canRequest (backend.indexUrl index.name) = true
  · have hsent : send (backend.inspection index) = .ask (backend.inspection index) fun
        | some response => .done (.ok response)
        | none => .done (.error (failedSending (backend.indexUrl index.name))) := if_pos hsend
    rw [if_pos hsend, hsent]
    refine congrArg (Dialogue.ask _) (funext fun reply => ?_)
    cases reply with
    | none =>
      rw [statusOf_none hsend]
      rfl
    | some response =>
      rw [statusOf_some hsend]
      rfl
  · have hsent : send (backend.inspection index) =
        .done (.error (failedBuilding (backend.indexUrl index.name))) := if_neg hsend
    rw [if_neg hsend, hsent, statusOf_of_not_canRequest none hsend]
    rfl

end Backend

namespace Run

open Backend (canRequest)

theorem checkIndexes_cons (backend : Backend) (index : IndexConfiguration)
    (rest : List IndexConfiguration) :
    checkIndexes backend (index :: rest) =
      ((IndexStatus.check .default index).relay backend.inspect).bind fun status =>
        if (statusOutcome index.name status).failure.isSome then
          .done (statusOutcome index.name status)
        else (checkIndexes backend rest).bind fun others =>
          .done ((statusOutcome index.name status).followedBy others) := by
  change (((IndexStatus.check .default index).relay backend.inspect).bind _).bind _ = _
  rw [Backend.relay_check]
  split <;> rfl

section Checks

variable {σ : Type} {answer : σ → Http.Request → Http.Reply × σ} {backend : Backend}
  {index : IndexConfiguration} {state : σ} (rest : List IndexConfiguration)

/-- After a check that comes to a status the run goes on. -/
theorem exchange_checkIndexes_of_ok {status : IndexStatus}
    (h : backend.statusOf index (answer state (backend.inspection index)).1 = .ok status) :
    (checkIndexes backend (index :: rest)).exchange answer state =
      let others := (checkIndexes backend rest).exchange answer
        (answer state (backend.inspection index)).2
      ⟨backend.inspection index :: others.questions,
        (statusOutcome index.name (.ok status)).followedBy others.value, others.state⟩ := by
  have hsend := ((backend.exists_statusOf_eq_ok_iff _ _).mp ⟨status, h⟩).1
  have hgoesOn : (statusOutcome index.name (.ok status)).failure.isSome = false := rfl
  rw [checkIndexes_cons, Backend.relay_check, if_pos hsend]
  simp only [Dialogue.bind, Dialogue.exchange, h, hgoesOn, Bool.false_eq_true, if_false,
    Dialogue.exchange_bind, List.append_nil]

/-- A check that fails ends the run. -/
theorem exchange_checkIndexes_of_error {error : Error}
    (h : backend.statusOf index (answer state (backend.inspection index)).1 = .error error) :
    ((checkIndexes backend (index :: rest)).exchange answer state).questions =
        (if canRequest (backend.indexUrl index.name) then [backend.inspection index] else []) ∧
      ((checkIndexes backend (index :: rest)).exchange answer state).value.exitCode = 1 := by
  by_cases hsend : canRequest (backend.indexUrl index.name) = true
  · have hstops : (statusOutcome index.name (.error error)).failure.isSome = true := rfl
    rw [checkIndexes_cons, Backend.relay_check, if_pos hsend, if_pos hsend]
    simp only [Dialogue.bind, Dialogue.exchange, h, hstops, if_true]
    exact ⟨trivial, rfl⟩
  · rw [checkIndexes_cons, Backend.relay_check, if_neg hsend, if_neg hsend,
      Backend.statusOf_of_not_canRequest none hsend]
    exact ⟨rfl, rfl⟩

/-- A check that does not come to a status ends the run. -/
theorem exchange_checkIndexes_of_not_checked
    (h : ¬ backend.Checked index (answer state (backend.inspection index)).1) :
    ((checkIndexes backend (index :: rest)).exchange answer state).questions =
        (if canRequest (backend.indexUrl index.name) then [backend.inspection index] else []) ∧
      ((checkIndexes backend (index :: rest)).exchange answer state).value.exitCode = 1 := by
  cases hstatus : backend.statusOf index (answer state (backend.inspection index)).1 with
  | ok status => exact absurd ((backend.exists_statusOf_eq_ok_iff _ _).mp ⟨status, hstatus⟩) h
  | error error => exact exchange_checkIndexes_of_error rest hstatus

end Checks

theorem exitCode_eq_one_iff {outcome : Outcome} : outcome.exitCode = 1 ↔ outcome.exitCode ≠ 0 := by
  rw [Outcome.exitCode]
  split <;> simp

theorem exitCode_followedBy_eq_zero_iff {name : String} {status : IndexStatus}
    {others : Outcome} :
    ((statusOutcome name (.ok status)).followedBy others).exitCode = 0 ↔
      status = .upToDate ∧ others.exitCode = 0 := by
  cases status <;>
    simp [Outcome.exitCode, Outcome.followedBy, statusOutcome, IndexStatus.hasChanges]

section Runs

variable {σ : Type} {answer : σ → Http.Request → Http.Reply × σ} {backend : Backend}

/-- As long as all checks come to a status, each index is asked for once, in turn. -/
theorem questions_checkIndexes_of_checked {indexes : List IndexConfiguration} {state : σ}
    (h : List.Forall₂ backend.Checked indexes
      (Http.repliesTo answer state (indexes.map backend.inspection))) :
    ((checkIndexes backend indexes).exchange answer state).questions =
      indexes.map backend.inspection := by
  induction indexes generalizing state with
  | nil => rfl
  | cons index rest ih =>
    rw [List.map_cons, Http.repliesTo, List.forall₂_cons] at h
    obtain ⟨status, hstatus⟩ := (backend.exists_statusOf_eq_ok_iff _ _).mpr h.1
    rw [exchange_checkIndexes_of_ok rest hstatus, List.map_cons]
    exact congrArg _ (ih h.2)

/-- The run ends with the first check that does not come to a status. -/
theorem exchange_checkIndexes_of_first_failure {before : List IndexConfiguration}
    {index : IndexConfiguration} (after : List IndexConfiguration) {state : σ}
    (hbefore : List.Forall₂ backend.Checked before
      (Http.repliesTo answer state (before.map backend.inspection)))
    (hindex : ¬ List.Forall₂ backend.Checked (before ++ [index])
      (Http.repliesTo answer state ((before ++ [index]).map backend.inspection))) :
    ((checkIndexes backend (before ++ index :: after)).exchange answer state).questions =
        before.map backend.inspection ++
          (if canRequest (backend.indexUrl index.name) then [backend.inspection index] else []) ∧
      ((checkIndexes backend (before ++ index :: after)).exchange answer state).value.exitCode =
        1 := by
  induction before generalizing state with
  | nil =>
    refine exchange_checkIndexes_of_not_checked after fun hchecked => hindex ?_
    exact .cons hchecked .nil
  | cons first before ih =>
    rw [List.map_cons, Http.repliesTo, List.forall₂_cons] at hbefore
    obtain ⟨status, hstatus⟩ := (backend.exists_statusOf_eq_ok_iff _ _).mpr hbefore.1
    rw [List.cons_append, List.map_cons, Http.repliesTo, List.forall₂_cons] at hindex
    obtain ⟨hquestions, hexit⟩ := ih hbefore.2 fun hrest => hindex ⟨hbefore.1, hrest⟩
    rw [List.cons_append, exchange_checkIndexes_of_ok _ hstatus]
    refine ⟨congrArg _ hquestions, exitCode_eq_one_iff.mpr fun hzero => ?_⟩
    exact exitCode_eq_one_iff.mp hexit (exitCode_followedBy_eq_zero_iff.mp hzero).2

/-- The exit code is 0 exactly if each reply confirms its index. -/
theorem exitCode_checkIndexes_eq_zero_iff {indexes : List IndexConfiguration} {state : σ} :
    ((checkIndexes backend indexes).exchange answer state).value.exitCode = 0 ↔
      List.Forall₂ backend.Confirmed indexes
        (Http.repliesTo answer state (indexes.map backend.inspection)) := by
  induction indexes generalizing state with
  | nil => exact iff_of_true rfl .nil
  | cons index rest ih =>
    rw [List.map_cons, Http.repliesTo, List.forall₂_cons, ← backend.statusOf_eq_upToDate_iff]
    cases hstatus : backend.statusOf index (answer state (backend.inspection index)).1 with
    | error error =>
      rw [(exchange_checkIndexes_of_error rest hstatus).2]
      simp
    | ok status =>
      rw [exchange_checkIndexes_of_ok rest hstatus, exitCode_followedBy_eq_zero_iff, ih,
        Except.ok.injEq]

end Runs

/-- The indexes that names stand for, as far as they are configured; all indexes, if none is
named. -/
def selected (configuration : Configuration) (names : List String) : List IndexConfiguration :=
  if names = [] then configuration.indexes else names.filterMap configuration.index?

/-- Whether each name is the name of an index that is configured. -/
def AllConfigured (configuration : Configuration) (names : List String) : Prop :=
  ∀ name ∈ names, ∃ index ∈ configuration.indexes, index.name = name

theorem exists_index?_iff {configuration : Configuration} {name : String} :
    (∃ index, configuration.index? name = some index) ↔
      ∃ index ∈ configuration.indexes, index.name = name := by
  rw [← Option.isSome_iff_exists, Configuration.index?, List.find?_isSome]
  simp

theorem forall₂_index?_iff {configuration : Configuration} {names : List String}
    {indexes : List IndexConfiguration} :
    List.Forall₂ (fun name index => configuration.index? name = some index) names indexes ↔
      AllConfigured configuration names ∧ names.filterMap configuration.index? = indexes := by
  induction names generalizing indexes with
  | nil => simp [AllConfigured, eq_comm]
  | cons name rest ih =>
    rw [List.forall₂_cons_left_iff, AllConfigured, List.forall_mem_cons, ← exists_index?_iff,
      List.filterMap_cons]
    cases hfound : configuration.index? name with
    | none => simp
    | some index =>
      constructor
      · rintro ⟨other, others, hother, hrest, rfl⟩
        obtain ⟨hconfigured, hothers⟩ := ih.mp hrest
        exact ⟨⟨⟨index, rfl⟩, hconfigured⟩, by rw [hothers, Option.some.inj hother]⟩
      · rintro ⟨⟨-, hconfigured⟩, rfl⟩
        exact ⟨index, _, rfl, ih.mpr ⟨hconfigured, rfl⟩, rfl⟩

theorem select_eq_ok_iff {configuration : Configuration} {names : List String}
    {indexes : List IndexConfiguration} :
    select configuration names = .ok indexes ↔
      AllConfigured configuration names ∧ selected configuration names = indexes := by
  unfold select selected
  by_cases hnames : names = []
  · subst hnames
    simp [AllConfigured]
  · rw [if_neg (by simpa using hnames), if_neg hnames, mapM_eq_ok_iff, ← forall₂_index?_iff]
    constructor
    · refine List.Forall₂.imp fun name index h => ?_
      cases hfound : configuration.index? name with
      | none => simp [hfound] at h
      | some other => simpa [hfound] using h
    · refine List.Forall₂.imp fun name index h => ?_
      rw [h]

section Status

variable {σ : Type} {answer : σ → Http.Request → Http.Reply × σ} {state : σ}
  {configuration : Configuration} {names : List String}

/-- An unknown name ends the run before anything is asked. -/
theorem exchange_indexStatus_of_unknown (h : ¬ AllConfigured configuration names) :
    ((indexStatus configuration names).exchange answer state).questions = [] ∧
      ((indexStatus configuration names).exchange answer state).value.exitCode = 1 := by
  unfold indexStatus
  cases hselect : select configuration names with
  | ok indexes => exact absurd (select_eq_ok_iff.mp hselect).1 h
  | error failure => exact ⟨rfl, rfl⟩

theorem exchange_indexStatus_of_none_selected (h : AllConfigured configuration names)
    (hnone : selected configuration names = []) :
    ((indexStatus configuration names).exchange answer state).questions = [] ∧
      ((indexStatus configuration names).exchange answer state).value.exitCode = 0 := by
  unfold indexStatus
  rw [select_eq_ok_iff.mpr ⟨h, hnone⟩]
  exact ⟨rfl, rfl⟩

theorem exchange_indexStatus_of_invalid_url (h : AllConfigured configuration names)
    (hsome : selected configuration names ≠ []) {error : BackendUrlError}
    (hbackend : Backend.ofConfiguration configuration.backend = .error error) :
    ((indexStatus configuration names).exchange answer state).questions = [] ∧
      ((indexStatus configuration names).exchange answer state).value.exitCode = 1 := by
  unfold indexStatus backendFor
  obtain ⟨index, rest, hselected⟩ := List.exists_cons_of_ne_nil hsome
  rw [select_eq_ok_iff.mpr ⟨h, hselected⟩, hbackend]
  exact ⟨rfl, rfl⟩

theorem indexStatus_eq_checkIndexes (h : AllConfigured configuration names)
    (hsome : selected configuration names ≠ []) {backend : Backend}
    (hbackend : Backend.ofConfiguration configuration.backend = .ok backend) :
    indexStatus configuration names = checkIndexes backend (selected configuration names) := by
  unfold indexStatus backendFor
  obtain ⟨index, rest, hselected⟩ := List.exists_cons_of_ne_nil hsome
  rw [select_eq_ok_iff.mpr ⟨h, hselected⟩, hbackend, hselected]

/-- The exit code is 0 exactly if each selected index was asked for and is confirmed. -/
theorem exitCode_indexStatus_eq_zero_iff :
    ((indexStatus configuration names).exchange answer state).value.exitCode = 0 ↔
      AllConfigured configuration names ∧ (selected configuration names = [] ∨
        ∃ backend, Backend.ofConfiguration configuration.backend = .ok backend ∧
          List.Forall₂ backend.Confirmed (selected configuration names)
            (Http.repliesTo answer state
              ((selected configuration names).map backend.inspection))) := by
  by_cases hconfigured : AllConfigured configuration names
  · by_cases hnone : selected configuration names = []
    · exact iff_of_true (exchange_indexStatus_of_none_selected hconfigured hnone).2
        ⟨hconfigured, Or.inl hnone⟩
    · cases hbackend : Backend.ofConfiguration configuration.backend with
      | error error =>
        rw [(exchange_indexStatus_of_invalid_url hconfigured hnone hbackend).2]
        simp [hnone]
      | ok backend =>
        rw [indexStatus_eq_checkIndexes hconfigured hnone hbackend,
          exitCode_checkIndexes_eq_zero_iff]
        simp [hconfigured, hnone]
  · rw [(exchange_indexStatus_of_unknown hconfigured).2]
    simp [hconfigured]

end Status

/-- The run of the command that checks indexes. -/
def statusRun {σ : Type} (answer : σ → Http.Request → Http.Reply × σ) (state : σ)
    (configuration : Configuration) (names : List String) :
    Dialogue.Exchange Http.Request σ Outcome :=
  (subcommand configuration (.indexStatus names)).exchange answer state

/-- The check of a single index. -/
def checkRun {σ : Type} (answer : σ → Http.Request → Http.Reply × σ) (state : σ)
    (backend : Backend) (index : IndexConfiguration) :
    Dialogue.Exchange Http.Request σ (Except Error IndexStatus) :=
  ((IndexStatus.check .default index).relay backend.inspect).exchange answer state

def postsIndex : IndexConfiguration := { name := "posts" }

def tagsIndex : IndexConfiguration := { name := "tags" }

def twoIndexes : Configuration where
  backend := { url := "http://[::1]:9200" }
  indexes := [postsIndex, tagsIndex]

/-- An index without a mapping and without settings, under a name of its own. -/
def emptyReport : Http.Response where
  status := 200
  body := "\x7b\"posts_1\":\x7b\x7d\x7d".toList.map fun c => UInt8.ofNat c.toNat

/-- Replies from a list, and none when it is used up. -/
def replying (replies : List Http.Reply) (_ : Http.Request) : Http.Reply × List Http.Reply :=
  (replies.headD none, replies.tail)

theorem reports_emptyReport : emptyReport.Reports "posts" { name := "posts" } :=
  ⟨by decide, .single "posts_1" (.object []), rfl, rfl⟩

end Run

end DocumentSearch
