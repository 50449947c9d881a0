import DocumentSearch.Proofs.PercentEncoding
import DocumentSearch.Url.Endpoint

/-!
What becomes of a name that is appended to a path. Encoding makes no dot segments, so only dots in
the name itself are skipped or resolved; every other name becomes one segment at the end of the
path, and it can be read from there unless it has tabs or line breaks.
-/

namespace DocumentSearch.Url

/-- The segments of a base below which addresses are: all but an empty one at the end. -/
def trunk (path : List String) : List String :=
  if path.getLast? = some "" then path.dropLast else path

/-- A segment that cannot be taken for several, nor for the end of the path, and from which the
name can be read. -/
structure Names (segment name : String) : Prop where
  nonempty : segment ≠ ""
  undivided : ∀ mark ∈ ['/', '\\', '?', '#'], mark ∉ segment.toList
  decoded : Percent.decode segment.toList = Text.Utf8.encode name

/-- Whether a name becomes a segment of its own and as it is. -/
def isKept (name : String) : Bool :=
  name != "." && name != ".." && !name.toList.any isLineControl

/-- The root's empty segment does not stand before others. -/
def withoutRoot (path : List String) : List String := if path = [""] then [] else path

theorem isKept_iff {name : String} :
    isKept name = true ↔
      (name ≠ "." ∧ name ≠ "..") ∧ withoutLineControls name.toList = name.toList := by
  simp [isKept, withoutLineControls, List.filter_eq_self]

theorem isSpecial_of_http {scheme : String} (h : scheme = "http" ∨ scheme = "https") :
    isSpecial scheme = true := by
  rcases h with rfl | rfl <;> decide

theorem ne_file_of_http {scheme : String} (h : scheme = "http" ∨ scheme = "https") :
    scheme ≠ "file" := by
  rcases h with rfl | rfl <;> decide

theorem percent_mem_segmentSet (scheme : String) : '%' ∈ segmentSet scheme := by
  unfold segmentSet
  split <;> decide

theorem dot_notMem_segmentSet (scheme : String) : '.' ∉ segmentSet scheme := by
  unfold segmentSet
  split <;> decide

section EncodedText

variable {set : List Char} {chars others : List Char}

theorem decode_encodedText (hset : '%' ∈ set) (chars : List Char) :
    Percent.decode (encodedText set chars).toList =
      (withoutLineControls chars).flatMap String.utf8EncodeChar := by
  rw [encodedText, String.toList_ofList, Percent.decode_encode hset]

theorem withoutLineControls_eq_of_decode_eq (hset : '%' ∈ set)
    (h : Percent.decode (encodedText set chars).toList = others.flatMap String.utf8EncodeChar) :
    withoutLineControls chars = others := by
  rw [decode_encodedText hset] at h
  exact Text.Utf8.eq_of_flatMap_encodeChar_eq h

theorem encode_dots (hdot : '.' ∉ set) (count : Nat) :
    Percent.encode set (List.replicate count '.') = List.replicate count '.' := by
  have hcontrol : Percent.isControl '.' = false := by decide
  have hchar : Percent.encodeChar set '.' = ['.'] := by
    simp [Percent.encodeChar, hcontrol, hdot]
  induction count with
  | zero => rfl
  | succ count ih =>
    rw [List.replicate_succ, Percent.encode, List.flatMap_cons, hchar]
    exact congrArg (List.cons '.') ih

/-- Encoding makes no dot segments: of the texts that stand for dots, it can only give the dots
themselves, as a percent sign of the name does not stay as it is. -/
theorem contains_encodedText_iff (count : Nat) (hset : '%' ∈ set) (hdot : '.' ∉ set)
    {texts : List String} (hdots : String.ofList (List.replicate count '.') ∈ texts)
    (htexts : ∀ text ∈ texts, Percent.decode text.toList =
      (List.replicate count '.').flatMap String.utf8EncodeChar) :
    texts.contains (encodedText set chars) = true ↔
      withoutLineControls chars = List.replicate count '.' := by
  rw [List.contains_iff_mem]
  constructor
  · intro h
    exact withoutLineControls_eq_of_decode_eq hset (htexts _ h)
  · intro h
    rw [encodedText, h, encode_dots hdot]
    exact hdots

theorem isSingleDot_encodedText_iff (hset : '%' ∈ set) (hdot : '.' ∉ set) :
    isSingleDot (encodedText set chars) = true ↔ withoutLineControls chars = ['.'] :=
  contains_encodedText_iff 1 hset hdot (by decide) (by decide)

theorem isDoubleDot_encodedText_iff (hset : '%' ∈ set) (hdot : '.' ∉ set) :
    isDoubleDot (encodedText set chars) = true ↔ withoutLineControls chars = ['.', '.'] :=
  contains_encodedText_iff 2 hset hdot (by decide) (by decide)

end EncodedText

section Appending

variable {scheme : String} {path : List String} {name : String}

theorem appendSegment_of_dot_name (hname : name = "." ∨ name = "..") :
    appendSegment scheme path name = path := by
  rcases hname with rfl | rfl <;> rfl

/-- Dots that are left when line controls are dropped leave an empty segment. -/
theorem exists_appendSegment_of_dots (path : List String) (hscheme : scheme ≠ "file")
    (hname : name ≠ "." ∧ name ≠ "..") (hdots : withoutLineControls name.toList = ['.'] ∨
      withoutLineControls name.toList = ['.', '.']) :
    ∃ front, appendSegment scheme path name = front ++ [""] := by
  have hset := percent_mem_segmentSet scheme
  have hdot := dot_notMem_segmentSet scheme
  by_cases hdouble : isDoubleDot (encodedText (segmentSet scheme) name.toList) = true
  · refine ⟨(parent (withoutRoot path).reverse).reverse, ?_⟩
    simp [appendSegment, addSegment, hname, hscheme, hdouble, withoutRoot]
  · have hsingle : isSingleDot (encodedText (segmentSet scheme) name.toList) = true := by
      rw [isDoubleDot_encodedText_iff hset hdot] at hdouble
      exact (isSingleDot_encodedText_iff hset hdot).mpr (hdots.resolve_right hdouble)
    refine ⟨withoutRoot path, ?_⟩
    simp [appendSegment, addSegment, hname, hscheme, hdouble, hsingle, withoutRoot]

theorem appendSegment_of_not_dots (hscheme : scheme ≠ "file") (hname : name ≠ "." ∧ name ≠ "..")
    (hdots : ¬(withoutLineControls name.toList = ['.'] ∨
      withoutLineControls name.toList = ['.', '.'])) :
    appendSegment scheme path name =
      withoutRoot path ++ [encodedText (segmentSet scheme) name.toList] := by
  have hset := percent_mem_segmentSet scheme
  have hdot := dot_notMem_segmentSet scheme
  rw [← isSingleDot_encodedText_iff hset hdot, ← isDoubleDot_encodedText_iff hset hdot, not_or]
    at hdots
  simp [appendSegment, addSegment, hname, hscheme, hdots.1, hdots.2, withoutRoot]

theorem appendSegment_of_kept (hscheme : scheme ≠ "file") (hkept : isKept name = true) :
    appendSegment scheme path name =
      withoutRoot path ++ [encodedText (segmentSet scheme) name.toList] := by
  obtain ⟨hdots, hclean⟩ := isKept_iff.mp hkept
  refine appendSegment_of_not_dots hscheme hdots ?_
  rw [hclean]
  rintro (h | h)
  · exact hdots.1 (String.toList_inj.mp h)
  · exact hdots.2 (String.toList_inj.mp h)

theorem withoutRoot_dropEmptyLast (path : List String) :
    withoutRoot (dropEmptyLast path) = if path = ["", ""] then [] else trunk path := by
  by_cases hlast : path.getLast? = some ""
  · obtain ⟨front, rfl⟩ := List.getLast?_eq_some_iff.mp hlast
    cases front with
    | nil => rfl
    | cons first rest =>
      have hlength : 1 < (first :: rest ++ [""]).length := by simp
      have hroot : first :: rest ++ [""] = ["", ""] ↔ first :: rest = [""] := by simp
      simp only [withoutRoot, dropEmptyLast, trunk, hlast, hlength, hroot, decide_true,
        Bool.and_self, if_true, List.dropLast_concat]
  · have hroot : path ≠ [""] := by
      rintro rfl
      exact hlast rfl
    have hempty : path ≠ ["", ""] := by
      rintro rfl
      exact hlast rfl
    simp [withoutRoot, dropEmptyLast, trunk, hlast, hroot, hempty]

end Appending

theorem names_encodedText {scheme name : String} (hscheme : isSpecial scheme = true)
    (hname : name ≠ "") (hkept : withoutLineControls name.toList = name.toList) :
    Names (encodedText (segmentSet scheme) name.toList) name := by
  have hdecoded : Percent.decode (encodedText (segmentSet scheme) name.toList).toList =
      Text.Utf8.encode name := by
    rw [decode_encodedText (percent_mem_segmentSet scheme), hkept, Text.Utf8.encode]
  refine ⟨?_, ?_, hdecoded⟩
  · intro hempty
    rw [hempty] at hdecoded
    have hchars : [] = name.toList := Text.Utf8.eq_of_flatMap_encodeChar_eq hdecoded
    exact hname (String.toList_eq_nil_iff.mp hchars.symm)
  · have hmarks : ∀ mark ∈ ['/', '\\', '?', '#'], mark ∈ Percent.specialSegment ∧ mark ≠ '%' := by
      simp [Percent.specialSegment, Percent.segment, Percent.path, Percent.fragment]
    have hdigits : ∀ n < 16, Text.hexDigitUpper n ∉ ['/', '\\', '?', '#'] := by decide
    intro mark hmark
    obtain ⟨hset, hpercent⟩ := hmarks mark hmark
    rw [segmentSet, if_pos hscheme, encodedText, String.toList_ofList]
    refine Percent.notMem_encode hset hpercent ?_ _
    rintro n hn rfl
    exact hdigits n hn hmark

end DocumentSearch.Url
