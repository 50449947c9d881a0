import DocumentSearch.Text.Split
import DocumentSearch.Url
import DocumentSearch.Url.Percent

/-!
Paths from their segments. A double dot takes back the segment before it, unless that is a drive
letter, and a single dot stands for nothing. At the beginning of a file's path a drive letter is
written with a colon. Tabs and line breaks are dropped from a segment.
-/

namespace DocumentSearch.Url

def isLineControl (c : Char) : Bool := c = '\t' || c = '\n' || c = '\r'

def withoutLineControls (chars : List Char) : List Char := chars.filter (!isLineControl ·)

def isLetter (c : Char) : Bool := ('a' ≤ c && c ≤ 'z') || ('A' ≤ c && c ≤ 'Z')

def isDriveLetter : List Char → Bool
  | [letter, mark] => isLetter letter && (mark = ':' || mark = '|')
  | _ => false

/-- Whether a segment is a drive letter, with or without a backslash and more behind it. -/
def isDrive (segment : String) : Bool := isDriveLetter (segment.toList.takeWhile (· != '\\'))

def isSingleDot (segment : String) : Bool := [".", "%2e", "%2E"].contains segment

def isDoubleDot (segment : String) : Bool :=
  ["..", ".%2e", ".%2E", "%2e.", "%2E.", "%2e%2e", "%2e%2E", "%2E%2e", "%2E%2E"].contains segment

def encodedText (set : List Char) (chars : List Char) : String :=
  String.ofList (Percent.encode set (withoutLineControls chars))

/-- The letter and what follows it if the text is a drive letter with its colon, then a line
control, then more. -/
def cutAfterDrive (chars : List Char) : Option (Char × List Char) :=
  match chars.dropWhile isLineControl with
  | [] => none
  | letter :: rest =>
      match rest.dropWhile isLineControl with
      | ':' :: control :: rest =>
          if isLetter letter && isLineControl control && !rest.all isLineControl then
            some (letter, rest)
          else none
      | _ => none

/-- The segments, the last one first, that a drive letter makes at the beginning of a file's path.
A line control behind its colon ends the segment. -/
def driveSegments (set : List Char) (chars : List Char) : Option (List String) :=
  match cutAfterDrive chars, withoutLineControls chars with
  | some (letter, rest), _ => some [encodedText set rest, String.ofList [letter, ':']]
  | none, [letter, mark] =>
      if isDriveLetter [letter, mark] then some [String.ofList [letter, ':']] else none
  | none, _ => none

/-- The path, the last segment first, without that segment. A drive letter stays. -/
def parent : List String → List String
  | [] => []
  | segment :: path => if isDrive segment then segment :: path else path

/-- Adds one segment to a path, the last one first. A dot segment at the end leaves an empty one. -/
def addSegment (isFile : Bool) (set : List Char) (isLast : Bool) (path : List String)
    (chars : List Char) : List String :=
  let text := encodedText set chars
  let ending := if isLast then [""] else []
  match if isFile && path.isEmpty then driveSegments set chars else none with
  | some segments => segments
  | none =>
      if isDoubleDot text then ending ++ parent path
      else if isSingleDot text then ending ++ path
      else text :: path

def addSegments (isFile : Bool) (path : List String) : List (List Char) → List String
  | [] => path
  | chars :: rest =>
      addSegments isFile (addSegment isFile Percent.path rest.isEmpty path chars) rest

def resolve (isFile : Bool) (segments : List (List Char)) : List String :=
  (addSegments isFile [] segments).reverse

/-- Whether the path behind `path` begins with a drive letter that fills a whole segment. -/
def placesDrive (path : List String) : List (List Char) → Bool
  | [] => false
  | chars :: rest =>
      (path.isEmpty && isDriveLetter (withoutLineControls chars)) ||
        placesDrive (addSegment true Percent.path rest.isEmpty path chars) rest

def isSlash (special : Bool) (c : Char) : Bool := c = '/' || (special && c = '\\')

def splitPath (special : Bool) (chars : List Char) : List (List Char) :=
  Text.splitChars '/' (if special then chars.map fun c => if c = '\\' then '/' else c else chars)

/-- Reads what follows an authority. The first slash only separates; without it there is still a
path if the scheme is special. -/
def readPath (special : Bool) (chars : List Char) : List String :=
  match chars with
  | [] => if special then [""] else []
  | c :: rest =>
      resolve false (splitPath special (if isSlash special c then rest else c :: rest))

/-- The path of a file, which does not begin with an empty segment unless that is all there is. -/
def readFilePath (chars : List Char) : List String :=
  match (resolve true (splitPath true chars)).dropWhile (·.isEmpty) with
  | [] => [""]
  | path => path

end DocumentSearch.Url
