import DocumentSearch.Proofs.SearchAddress
import DocumentSearch.Proofs.Separators

/-!
Addresses of several names. Each name that is kept becomes one segment behind the path of the base,
and nothing else of the base changes, so that the names can be told from the text of the address.
Only a path of two empty segments does not stand before them: the names are then appended to the
root.
-/

namespace DocumentSearch

namespace Url

/-- A path without segments is written as the root. -/
def orRoot (path : List String) : List String := if path = [] then [""] else path

/-- Whether a URL is the base with one more segment for each of the names. -/
def AppendsEach (base : Url) (names : List String) (url : Url) : Prop :=
  ∃ segments, List.Forall₂ Names segments names ∧
    url = { base with path := orRoot (trunk base.path ++ segments) }

/-- The base with the root in place of a path of two empty segments. -/
def collapsed (base : Url) : Url :=
  { base with path := if base.path = ["", ""] then [""] else base.path }

section Reading

/-- The last segment stays, if only as an empty one. -/
theorem addSegments_ne_nil {segments : List (List Char)} (hsegments : segments ≠ [])
    (path : List String) : addSegments false path segments ≠ [] := by
  induction segments generalizing path with
  | nil => exact absurd rfl hsegments
  | cons chars rest ih =>
    cases rest with
    | nil =>
      simp only [addSegments, addSegment, List.isEmpty_nil, Bool.false_and, Bool.false_eq_true,
        if_false, if_true]
      split
      · simp
      · split <;> simp
    | cons next rest => exact ih (List.cons_ne_nil next rest) _

theorem readPath_ne_nil (chars : List Char) : readPath true chars ≠ [] := by
  cases chars with
  | nil => exact List.cons_ne_nil _ _
  | cons c rest =>
    rw [readPath, resolve, ne_eq, List.reverse_eq_nil_iff]
    exact addSegments_ne_nil (Text.splitChars_ne_nil _) []

variable {scheme : String}

theorem path_ne_nil_of_readHierarchy {more : Bool} {chars : List Char}
    {authority : Option Authority} {path : List String} (hspecial : isSpecial scheme = true)
    (hfile : scheme ≠ "file") (h : readHierarchy scheme more chars = .ok (authority, path)) :
    path ≠ [] := by
  simp only [readHierarchy, if_neg hfile, hspecial, if_true, bind_eq_ok_iff, pure_eq_ok_iff,
    Prod.mk.injEq] at h
  obtain ⟨_, -, -, rfl⟩ := h
  exact readPath_ne_nil _

/-- A URL with an authority of a known kind has a path. -/
theorem path_ne_nil_of_read {text : String} {url : Url} (hspecial : isSpecial url.scheme = true)
    (hfile : url.scheme ≠ "file") (h : read text = .ok url) : url.path ≠ [] := by
  unfold read at h
  split at h
  case h_1 => cases h
  case h_2 scheme rest hscheme =>
    simp only [bind_eq_ok_iff, pure_eq_ok_iff] at h
    obtain ⟨⟨authority, path⟩, hhierarchy, rfl⟩ := h
    exact path_ne_nil_of_readHierarchy hspecial hfile hhierarchy

end Reading

section Appending

variable {scheme : String} {base : Url} {path names : List String}

theorem orRoot_withoutRoot (hpath : path ≠ []) : orRoot (withoutRoot path) = path := by
  unfold orRoot withoutRoot
  split_ifs with hroot
  · exact hroot.symm
  · contradiction
  · rfl

theorem orRoot_of_ne_nil (hpath : path ≠ []) : orRoot path = path := if_neg hpath

theorem withoutRoot_concat {segment : String} (hsegment : segment ≠ "") :
    withoutRoot (path ++ [segment]) = path ++ [segment] := by
  refine if_neg fun hroot => ?_
  have hlast := (List.append_inj' (hroot.trans (List.nil_append [""]).symm) rfl).2
  exact hsegment (List.singleton_inj.mp hlast)

/-- Each name that is kept is one more segment at the end; the first one takes the root's place. -/
theorem foldl_appendSegment (hspecial : isSpecial scheme = true) (hfile : scheme ≠ "file")
    (hnames : ∀ name ∈ names, name ≠ "" ∧ isKept name = true) (hpath : path ≠ []) :
    ∃ segments, List.Forall₂ Names segments names ∧
      names.foldl (appendSegment scheme) path = orRoot (withoutRoot path ++ segments) := by
  induction names generalizing path with
  | nil =>
    refine ⟨[], .nil, ?_⟩
    rw [List.foldl_nil, List.append_nil, orRoot_withoutRoot hpath]
  | cons name names ih =>
    obtain ⟨⟨hname, hkept⟩, hrest⟩ := List.forall_mem_cons.mp hnames
    have hsegment := names_encodedText hspecial hname (isKept_iff.mp hkept).2
    obtain ⟨segments, hsegments, hfold⟩ := ih hrest
      (List.concat_ne_nil (encodedText (segmentSet scheme) name.toList) (withoutRoot path))
    refine ⟨_, .cons hsegment hsegments, ?_⟩
    -- A path that ends with a name is not the root, so nothing is taken off it again.
    rw [List.foldl_cons, appendSegment_of_kept hfile hkept, hfold,
      withoutRoot_concat hsegment.nonempty, List.append_assoc, List.singleton_append]

theorem dropEmptyLast_ne_nil (hpath : path ≠ []) : dropEmptyLast path ≠ [] := by
  unfold dropEmptyLast
  split
  case isTrue h =>
    rw [Bool.and_eq_true, decide_eq_true_eq] at h
    rw [ne_eq, ← List.length_eq_zero_iff, List.length_dropLast]
    omega
  case isFalse => exact hpath

/-- The names are appended to the base, or to the root if there are just two empty segments. -/
theorem appendsEach_endpoint (hspecial : isSpecial base.scheme = true)
    (hfile : base.scheme ≠ "file") (hpath : base.path ≠ [])
    (hnames : ∀ name ∈ names, name ≠ "" ∧ isKept name = true) :
    AppendsEach base.collapsed names (base.endpoint names) := by
  have htrunk : withoutRoot (dropEmptyLast base.path) = trunk base.collapsed.path := by
    rw [withoutRoot_dropEmptyLast, collapsed]
    split <;> rfl
  obtain ⟨segments, hsegments, hfold⟩ :=
    foldl_appendSegment hspecial hfile hnames (dropEmptyLast_ne_nil hpath)
  refine ⟨segments, hsegments, ?_⟩
  rw [endpoint, hfold, htrunk]
  rfl

theorem AppendsEach.length_path {url : Url} (h : AppendsEach base names url)
    (hnames : names ≠ []) : url.path.length = (trunk base.path).length + names.length := by
  obtain ⟨segments, hsegments, rfl⟩ := h
  have hne : trunk base.path ++ segments ≠ [] := by
    intro hempty
    rw [List.append_eq_nil_iff] at hempty
    rw [hempty.2, List.forall₂_nil_left_iff] at hsegments
    exact hnames hsegments
  rw [orRoot_of_ne_nil hne, List.length_append, hsegments.length_eq]

theorem appendsEach_endpoint_iff (hspecial : isSpecial base.scheme = true)
    (hfile : base.scheme ≠ "file") (hpath : base.path ≠ [])
    (hnames : ∀ name ∈ names, name ≠ "" ∧ isKept name = true) :
    AppendsEach base names (base.endpoint names) ↔ base.path = ["", ""] → names = [] := by
  have happended := appendsEach_endpoint hspecial hfile hpath hnames
  constructor
  · intro h hslashes
    by_contra hne
    -- One segment too few is left of the two empty ones.
    have hlength := (h.length_path hne).symm.trans (happended.length_path hne)
    rw [collapsed, if_pos hslashes, hslashes] at hlength
    simp [trunk] at hlength
  · intro h
    by_cases hslashes : base.path = ["", ""]
    · refine ⟨[], ?_, ?_⟩
      · rw [h hslashes]
        exact .nil
      · rw [h hslashes, endpoint, hslashes]
        rfl
    · rwa [collapsed, if_neg hslashes] at happended

end Appending

section Texts

variable {base : Url} {names others : List String}

theorem rightUnique_names : Relator.RightUnique Names := by
  intro segment name other h h'
  have hbytes : Text.Utf8.encode name = Text.Utf8.encode other := h.decoded.symm.trans h'.decoded
  exact String.toList_inj.mp (Text.Utf8.eq_of_flatMap_encodeChar_eq hbytes)

/-- The text of a path is cut into its segments again. -/
theorem splitChars_pathText {path : List String} (hpath : ∀ segment ∈ path, '/' ∉ segment.toList) :
    Text.splitChars '/' (pathText path).toList = [] :: path.map String.toList := by
  induction path with
  | nil => rfl
  | cons segment path ih =>
    obtain ⟨hsegment, hrest⟩ := List.forall_mem_cons.mp hpath
    have hpiece := Text.splitChars_append_of_notMem hsegment (ih hrest)
    rw [List.append_nil] at hpiece
    have htext : (pathText (segment :: path)).toList =
        '/' :: (segment.toList ++ (pathText path).toList) := by
      simp [pathText]
    rw [htext, Text.splitChars_cons_self, hpiece, List.map_cons]

theorem eq_of_pathText_eq {path path' : List String}
    (hpath : ∀ segment ∈ path, '/' ∉ segment.toList)
    (hpath' : ∀ segment ∈ path', '/' ∉ segment.toList) (h : pathText path = pathText path') :
    path = path' := by
  have hpieces := splitChars_pathText hpath
  rw [h, splitChars_pathText hpath', List.cons.injEq] at hpieces
  have htoList : Function.Injective String.toList := fun _ _ => String.toList_inj.mp
  exact (List.map_injective_iff.mpr htoList hpieces.2).symm

theorem pathText_append (path path' : List String) :
    pathText (path ++ path') = pathText path ++ pathText path' := by
  rw [pathText, List.map_append, String.join_append, pathText, pathText]

theorem pathText_eq_of_text_eq {path path' : List String}
    (h : text { base with path := path } = text { base with path := path' }) :
    pathText path = pathText path' := by
  simpa only [text, leadText, queryText, fragmentText, String.append_left_inj,
    String.append_right_inj] using h

theorem notMem_of_mem_orRoot {path : List String} (h : ∀ segment ∈ path, '/' ∉ segment.toList) :
    ∀ segment ∈ orRoot path, '/' ∉ segment.toList := by
  unfold orRoot
  split
  case isTrue => decide
  case isFalse => exact h

theorem withoutRoot_orRoot {path : List String} (h : "" ∉ path) :
    withoutRoot (orRoot path) = path := by
  unfold orRoot
  split
  case isTrue hpath => exact hpath.symm
  case isFalse =>
    refine if_neg fun hroot => ?_
    rw [hroot] at h
    exact h List.mem_cons_self

/-- The segments behind a common path can be told from the text, as none of them is empty. -/
theorem segments_eq_of_pathText_eq {path segments segments' : List String}
    (hnonempty : "" ∉ segments) (hnonempty' : "" ∉ segments')
    (hundivided : ∀ segment ∈ segments, '/' ∉ segment.toList)
    (hundivided' : ∀ segment ∈ segments', '/' ∉ segment.toList)
    (h : pathText (orRoot (path ++ segments)) = pathText (orRoot (path ++ segments'))) :
    segments = segments' := by
  by_cases hpath : path = []
  · rw [hpath, List.nil_append, List.nil_append] at h
    have hroots := eq_of_pathText_eq (notMem_of_mem_orRoot hundivided)
      (notMem_of_mem_orRoot hundivided') h
    rw [← withoutRoot_orRoot hnonempty, hroots, withoutRoot_orRoot hnonempty']
  · rw [orRoot_of_ne_nil (List.append_ne_nil_of_left_ne_nil hpath segments),
      orRoot_of_ne_nil (List.append_ne_nil_of_left_ne_nil hpath segments'), pathText_append,
      pathText_append, String.append_right_inj] at h
    exact eq_of_pathText_eq hundivided hundivided' h

theorem empty_notMem_of_names {segments : List String} (h : List.Forall₂ Names segments names) :
    "" ∉ segments := by
  induction h with
  | nil => exact List.not_mem_nil
  | cons hsegment _ ih => exact List.not_mem_cons_of_ne_of_not_mem hsegment.nonempty.symm ih

theorem undivided_of_names {segments : List String} (h : List.Forall₂ Names segments names) :
    ∀ segment ∈ segments, '/' ∉ segment.toList := by
  induction h with
  | nil => exact List.forall_mem_nil _
  | cons hsegment _ ih =>
    exact List.forall_mem_cons.mpr ⟨hsegment.undivided '/' List.mem_cons_self, ih⟩

/-- The names can be told from the text of the address. -/
theorem AppendsEach.names_eq {url url' : Url} (h : AppendsEach base names url)
    (h' : AppendsEach base others url') (htext : url.text = url'.text) : names = others := by
  obtain ⟨segments, hsegments, rfl⟩ := h
  obtain ⟨segments', hsegments', rfl⟩ := h'
  have hpath := pathText_eq_of_text_eq htext
  obtain rfl := segments_eq_of_pathText_eq (empty_notMem_of_names hsegments)
    (empty_notMem_of_names hsegments') (undivided_of_names hsegments)
    (undivided_of_names hsegments') hpath
  exact List.right_unique_forall₂' rightUnique_names hsegments hsegments'

end Texts

end Url

namespace Backend

theorem read_of_ofConfiguration {configuration : BackendConfiguration} {backend : Backend}
    (h : ofConfiguration configuration = .ok backend) :
    Url.read configuration.url = .ok backend.base := by
  unfold ofConfiguration at h
  split at h
  case h_1 base hbase =>
    rw [hbase, ← Except.ok.inj h]
  case h_2 => cases h
  case h_3 => cases h

/-- Names that are kept are appended to the base one by one, or to the root if its path is two
empty segments, which makes a difference as soon as there is a name. The names can be told from the
text of the address. -/
theorem endpoint_appends_each_iff (configuration : BackendConfiguration) (backend : Backend)
    (names : List String) (haccepted : ofConfiguration configuration = .ok backend)
    (hscheme : backend.base.scheme = "http" ∨ backend.base.scheme = "https")
    (hnames : ∀ name ∈ names, name ≠ "" ∧ Url.isKept name = true) :
    (Url.AppendsEach backend.base names (backend.base.endpoint names) ↔
        (backend.base.path = ["", ""] → names = [])) ∧
      Url.AppendsEach backend.base.collapsed names (backend.base.endpoint names) ∧
      ∀ others : List String, (∀ name ∈ others, name ≠ "" ∧ Url.isKept name = true) →
        (backend.base.endpoint names).text = (backend.base.endpoint others).text →
          names = others := by
  have hfile := Url.ne_file_of_http hscheme
  have hspecial := Url.isSpecial_of_http hscheme
  have hpath : backend.base.path ≠ [] :=
    Url.path_ne_nil_of_read hspecial hfile (read_of_ofConfiguration haccepted)
  have happended := Url.appendsEach_endpoint hspecial hfile hpath hnames
  refine ⟨Url.appendsEach_endpoint_iff hspecial hfile hpath hnames, happended, ?_⟩
  intro others hothers htext
  exact happended.names_eq (Url.appendsEach_endpoint hspecial hfile hpath hothers) htext

/-- A base with two slashes at the end of its path, and a query and a fragment behind it. -/
def proxied : Backend where
  base :=
    { loopback.base with
      path := ["es", "", ""]
      query := some "q=1"
      fragment := some "f" }

/-- Names with marks in them, and one that is encoded already. -/
def markedNames : List String := ["a/b?c#d\\e", "%2F", "_search"]

/-- One of the slashes stays, and the marks are encoded. -/
theorem endpoint_appends_each_markedNames :
    ofConfiguration { url := "http://[::1]:9200/es//?q=1#f" } = .ok proxied ∧
      proxied.base.endpoint markedNames =
        { proxied.base with path := ["es", "", "a%2Fb%3Fc%23d%5Ce", "%252F", "_search"] } ∧
      Url.AppendsEach proxied.base markedNames (proxied.base.endpoint markedNames) ∧
      ∀ others : List String, (∀ name ∈ others, name ≠ "" ∧ Url.isKept name = true) →
        (proxied.base.endpoint markedNames).text = (proxied.base.endpoint others).text →
          markedNames = others := by
  have haccepted : ofConfiguration { url := "http://[::1]:9200/es//?q=1#f" } = .ok proxied := rfl
  have hslashes : proxied.base.path ≠ ["", ""] := by decide
  obtain ⟨hiff, -, hinjective⟩ :=
    endpoint_appends_each_iff _ proxied markedNames haccepted (Or.inl rfl) (by decide)
  exact ⟨haccepted, by decide, hiff.mpr fun h => absurd h hslashes, hinjective⟩

/-- A base whose path is two empty segments. -/
def slashed : Backend where
  base := { loopback.base with path := ["", ""] }

/-- Only one of the two empty segments is to be dropped, but neither of them stands before the
names. -/
theorem endpoint_of_slashed_loses_segment :
    ofConfiguration { url := "http://[::1]:9200//" } = .ok slashed ∧
      (∀ name ∈ ["posts", "_search"], name ≠ "" ∧ Url.isKept name = true) ∧
      slashed.base.endpoint ["posts", "_search"] =
        { slashed.base with path := ["posts", "_search"] } ∧
      ¬Url.AppendsEach slashed.base ["posts", "_search"]
        (slashed.base.endpoint ["posts", "_search"]) := by
  refine ⟨rfl, by decide, by decide, fun h => ?_⟩
  have hlength := h.length_path (by decide)
  exact absurd hlength (by decide)

end Backend

end DocumentSearch
