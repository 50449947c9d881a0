import DocumentSearch.Backend
import DocumentSearch.Finder
import DocumentSearch.Proofs.Dialogues
import DocumentSearch.Proofs.Segments
import DocumentSearch.Proofs.Sequencing

/-!
The address that a search is posted to. It should name the index by one segment between the path of
the base and `_search`. A name keeps its segment exactly if it is no dot segment and has no tabs or
line breaks, and then only a base whose path is nothing but two empty segments is left out of the
address.
-/

namespace DocumentSearch

namespace Url

/-- Whether a URL is the base with one more segment, which names the index, and `_search`. -/
def AddressesSearch (base : Url) (index : String) (url : Url) : Prop :=
  ∃ segment, Names segment index ∧
    url = { base with path := trunk base.path ++ [segment, "_search"] }

theorem encodedText_search (scheme : String) :
    encodedText (segmentSet scheme) "_search".toList = "_search" := by
  unfold segmentSet
  split <;> decide

theorem endpoint_search (base : Url) (index : String) (hscheme : base.scheme ≠ "file") :
    base.endpoint [index, "_search"] =
      { base with
        path := withoutRoot (appendSegment base.scheme (dropEmptyLast base.path) index) ++
          ["_search"] } := by
  have hsearch (path : List String) :
      appendSegment base.scheme path "_search" = withoutRoot path ++ ["_search"] := by
    rw [appendSegment_of_not_dots hscheme (by decide) (by decide), encodedText_search]
  simp only [endpoint, List.foldl_cons, List.foldl_nil, hsearch]

theorem eq_of_withoutRoot_eq {path front : List String} {segment : String}
    (h : withoutRoot path = front ++ [segment]) : path = front ++ [segment] := by
  unfold withoutRoot at h
  split at h
  · simp at h
  · exact h

/-- Whether the search is addressed is decided when the name is appended. -/
theorem addressesSearch_endpoint_iff_exists {base : Url} {index : String}
    (hscheme : base.scheme ≠ "file") :
    AddressesSearch base index (base.endpoint [index, "_search"]) ↔
      ∃ segment, Names segment index ∧
        withoutRoot (appendSegment base.scheme (dropEmptyLast base.path) index) =
          trunk base.path ++ [segment] := by
  rw [endpoint_search base index hscheme]
  have hassoc (segment : String) : trunk base.path ++ [segment, "_search"] =
      trunk base.path ++ [segment] ++ ["_search"] := by simp
  constructor
  · rintro ⟨segment, hnames, hurl⟩
    have hpath := congrArg Url.path hurl
    rw [hassoc] at hpath
    exact ⟨segment, hnames, List.append_cancel_right hpath⟩
  · rintro ⟨segment, hnames, hpath⟩
    exact ⟨segment, hnames, by rw [hpath, hassoc]⟩

theorem length_withoutRoot_dropEmptyLast_le (path : List String) :
    (withoutRoot (dropEmptyLast path)).length ≤ (trunk path).length := by
  rw [withoutRoot_dropEmptyLast]
  split <;> simp

theorem isKept_of_names {base : Url} {index segment : String} (hscheme : base.scheme ≠ "file")
    (hnames : Names segment index)
    (hpath : withoutRoot (appendSegment base.scheme (dropEmptyLast base.path) index) =
      trunk base.path ++ [segment]) :
    isKept index = true ∧ base.path ≠ ["", ""] := by
  have hdots : index ≠ "." ∧ index ≠ ".." := by
    rw [← not_or]
    intro hdots
    -- A skipped name leaves a path that is too short.
    have hlength := length_withoutRoot_dropEmptyLast_le base.path
    rw [appendSegment_of_dot_name hdots] at hpath
    rw [hpath, List.length_append, List.length_singleton] at hlength
    omega
  have happended := eq_of_withoutRoot_eq hpath
  -- Resolved dots end the path with an empty segment, and no name stands in one.
  by_cases hinner : withoutLineControls index.toList = ['.'] ∨
      withoutLineControls index.toList = ['.', '.']
  · obtain ⟨front, hfront⟩ :=
      exists_appendSegment_of_dots (dropEmptyLast base.path) hscheme hdots hinner
    have hsegment := (List.append_inj' (hfront.symm.trans happended) rfl).2
    exact absurd (List.singleton_inj.mp hsegment).symm hnames.nonempty
  · rw [appendSegment_of_not_dots hscheme hdots hinner] at happended
    obtain ⟨htrunk, hsegment⟩ := List.append_inj' happended rfl
    have hdecoded := hnames.decoded
    rw [← List.singleton_inj.mp hsegment] at hdecoded
    have hkept := withoutLineControls_eq_of_decode_eq (percent_mem_segmentSet _) hdecoded
    refine ⟨isKept_iff.mpr ⟨hdots, hkept⟩, ?_⟩
    intro hbase
    rw [withoutRoot_dropEmptyLast, if_pos hbase, hbase] at htrunk
    exact absurd htrunk (by decide)

/-- Exactly the kept names are addressed, below all bases but the one of two empty segments. -/
theorem addressesSearch_endpoint_iff {base : Url} {index : String}
    (hscheme : base.scheme = "http" ∨ base.scheme = "https") (hindex : index ≠ "") :
    AddressesSearch base index (base.endpoint [index, "_search"]) ↔
      isKept index = true ∧ base.path ≠ ["", ""] := by
  have hfile := ne_file_of_http hscheme
  have hspecial := isSpecial_of_http hscheme
  rw [addressesSearch_endpoint_iff_exists hfile]
  constructor
  · rintro ⟨segment, hnames, hpath⟩
    exact isKept_of_names hfile hnames hpath
  · rintro ⟨hkept, hbase⟩
    have hnames := names_encodedText hspecial hindex (isKept_iff.mp hkept).2
    have hroot : trunk base.path ++ [encodedText (segmentSet base.scheme) index.toList] ≠
        [] ++ [""] := by
      intro hroot
      exact hnames.nonempty (List.singleton_inj.mp (List.append_inj' hroot rfl).2)
    refine ⟨_, hnames, ?_⟩
    rw [appendSegment_of_kept hfile hkept, withoutRoot_dropEmptyLast, if_neg hbase]
    exact if_neg hroot

end Url

namespace Command

variable {command : Command}

theorem requiredIndex_eq_ok_iff {index : String} :
    command.requiredIndex = .ok index ↔ command.index = some index ∧ index ≠ "" := by
  unfold requiredIndex
  cases command.index with
  | none => simp
  | some name =>
    by_cases hempty : name = ""
    · simp only [String.isEmpty_iff, hempty, if_true, reduceCtorEq, Option.some.injEq, false_iff,
        not_and, not_not]
      exact Eq.symm
    · simp only [String.isEmpty_iff, hempty, if_false, Except.ok.injEq, Option.some.injEq]
      exact ⟨fun h => ⟨h, h ▸ hempty⟩, And.left⟩

/-- A command makes a request exactly if it has an index that is not empty. -/
theorem request_eq_ok_iff {request : SearchRequest} :
    command.request = .ok request ↔
      command.index = some request.index ∧ request.index ≠ "" ∧
        request.body = command.query.document := by
  obtain ⟨index, body⟩ := request
  simp only [Command.request, bind_eq_ok_iff, pure_eq_ok_iff, requiredIndex_eq_ok_iff,
    SearchRequest.mk.injEq]
  constructor
  · rintro ⟨name, ⟨hindex, hne⟩, rfl, rfl⟩
    exact ⟨hindex, hne, rfl⟩
  · rintro ⟨hindex, hne, rfl⟩
    exact ⟨index, ⟨hindex, hne⟩, rfl, rfl⟩

end Command

/-- A search makes its request by itself, but it is the one that the command stands for. -/
theorem Finder.find_eq (command : Command) :
    find command =
      match command.request with
      | .error error => .done (.error error)
      | .ok request => .ask request fun
          | .error error => .done (.error (.backend error))
          | .ok response => .done (decoded command.query response) := by
  unfold find Command.request
  cases command.requiredIndex <;> rfl

namespace Backend

section Searching

variable {σ : Type} {answer : σ → Http.Request → Http.Reply × σ}

theorem questions_send (request : Http.Request) (state : σ) :
    ((send request).exchange answer state).questions =
      if canRequest request.url then [request] else [] := by
  unfold send
  split
  · cases hreply : (answer state request).1 <;> simp [Dialogue.exchange, hreply]
  · rfl

theorem questions_search (backend : Backend) (request : SearchRequest) (state : σ) :
    ((backend.search request).exchange answer state).questions =
      if canRequest (backend.searchUrl request.index) then
        [⟨.post, backend.searchUrl request.index, some request.body⟩]
      else [] := by
  rw [← questions_send ⟨.post, backend.searchUrl request.index, some request.body⟩ state]
  exact Dialogue.questions_bind_of_done (fun reply => ⟨_, rfl⟩) state

theorem questions_relay_find (backend : Backend) {command : Command} {request : SearchRequest}
    (h : command.request = .ok request) (state : σ) :
    (((Finder.find command).relay backend.search).exchange answer state).questions =
      ((backend.search request).exchange answer state).questions := by
  simp only [Finder.find_eq, h, Dialogue.relay]
  refine Dialogue.questions_bind_of_done ?_ state
  rintro (cause | response)
  · exact ⟨_, rfl⟩
  · exact ⟨_, rfl⟩

end Searching

/-- A search posts once, if the URL can be requested at all, and names its index there exactly if
the index is kept as a segment and the base has not just two empty segments. -/
theorem search_addresses_index_iff {σ : Type} (backend : Backend) (command : Command)
    (request : SearchRequest) (answer : σ → Http.Request → Http.Reply × σ) (state : σ)
    (hscheme : backend.base.scheme = "http" ∨ backend.base.scheme = "https")
    (hrequest : command.request = .ok request) :
    (((Finder.find command).relay backend.search).exchange answer state).questions =
        (if canRequest (backend.searchUrl request.index) then
          [⟨.post, backend.searchUrl request.index, some request.body⟩]
        else []) ∧
      command.index = some request.index ∧ request.index ≠ "" ∧
      (Url.AddressesSearch backend.base request.index (backend.searchUrl request.index) ↔
        Url.isKept request.index = true ∧ backend.base.path ≠ ["", ""]) := by
  obtain ⟨hindex, hnonempty, -⟩ := Command.request_eq_ok_iff.mp hrequest
  refine ⟨?_, hindex, hnonempty, Url.addressesSearch_endpoint_iff hscheme hnonempty⟩
  rw [questions_relay_find backend hrequest, questions_search]

def loopback : Backend where
  base :=
    { scheme := "http"
      authority := some ⟨⟨"", ""⟩, some (.ipv6 [0, 0, 0, 0, 0, 0, 0, 1]), some 9200⟩
      isDotted := false
      path := [""]
      query := none
      fragment := none }

def searchOf (index : String) : Command := .stated { index := some index }

def requestOf (index : String) : SearchRequest := ⟨index, (searchOf index).query.document⟩

/-- A slash in the name makes no further segment. -/
theorem search_addresses_slashedIndex :
    ofConfiguration { url := "http://[::1]:9200" } = .ok loopback ∧
      (searchOf "a/b").request = .ok (requestOf "a/b") ∧
      Url.AddressesSearch loopback.base "a/b" (loopback.searchUrl "a/b") := by
  have hrequest : (searchOf "a/b").request = .ok (requestOf "a/b") := rfl
  have hiff := (search_addresses_index_iff loopback (searchOf "a/b") (requestOf "a/b")
    (fun (sent : ℕ) _ => (none, sent + 1)) 0 (Or.inl rfl) hrequest).2.2.2
  exact ⟨rfl, hrequest, hiff.mpr ⟨by decide, by decide⟩⟩

/-- Dots, and names of nothing but tabs and line breaks, are lost on the way: the search is posted
to all indices. -/
theorem search_of_lostIndex_asks_all :
    ofConfiguration { url := "http://[::1]:9200" } = .ok loopback ∧
      ∀ index ∈ [".", "..", "\t", "\r\n"],
        (searchOf index).request = .ok (requestOf index) ∧
        (((Finder.find (searchOf index)).relay loopback.search).exchange
          (fun (sent : ℕ) _ => (none, sent + 1)) 0).questions =
            [⟨.post, { loopback.base with path := ["_search"] }, some (requestOf index).body⟩] ∧
        ¬Url.AddressesSearch loopback.base index (loopback.searchUrl index) := by
  refine ⟨rfl, ?_⟩
  have hsendable : canRequest { loopback.base with path := ["_search"] } = true := by decide +kernel
  intro index hindex
  have hurl : loopback.searchUrl index = { loopback.base with path := ["_search"] } := by
    simp only [List.mem_cons, List.not_mem_nil, or_false] at hindex
    rcases hindex with rfl | rfl | rfl | rfl <;> rfl
  have hrequest : (searchOf index).request = .ok (requestOf index) := by
    simp only [List.mem_cons, List.not_mem_nil, or_false] at hindex
    rcases hindex with rfl | rfl | rfl | rfl <;> rfl
  refine ⟨hrequest, ?_, ?_⟩
  · rw [questions_relay_find loopback hrequest, questions_search, requestOf, hurl, if_pos hsendable]
  · rw [hurl]
    rintro ⟨segment, -, hsame⟩
    simpa [loopback, Url.trunk] using congrArg Url.path hsame

end Backend

end DocumentSearch
