import DocumentSearch.Url.Reader

/-!
Addresses below a base URL. Each name is appended as one segment of the path, encoded so that
nothing in it can begin another segment, a query or a fragment.
-/

namespace DocumentSearch.Url

/-- The path without one empty segment at its end, unless that is all there is. -/
def dropEmptyLast (path : List String) : List String :=
  if 1 < path.length && path.getLast? = some "" then path.dropLast else path

def segmentSet (scheme : String) : List Char :=
  if isSpecial scheme then Percent.specialSegment else Percent.segment

/-- Appends one segment; the root's empty segment is filled instead. Dots by themselves are
skipped, and dots that are left when line controls are dropped are resolved. -/
def appendSegment (scheme : String) (path : List String) (name : String) : List String :=
  if name = "." || name = ".." then path
  else
    let front := if path = [""] then [] else path
    (addSegment (scheme = "file") (segmentSet scheme) true front.reverse name.toList).reverse

def endpoint (base : Url) (names : List String) : Url :=
  { base with
    path := names.foldl (appendSegment base.scheme) (dropEmptyLast base.path) }

end DocumentSearch.Url
