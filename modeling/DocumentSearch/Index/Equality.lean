import DocumentSearch.Json

/-!
Equality of documents up to order: the members of an object may stand in any order, and so may the
items of an array, which counts how often each item occurs. Scalars are compared strictly, so a
text never equals a number and an integer never equals a float.
-/

namespace DocumentSearch

/-- The list without its first element that satisfies `p`, if there is one. -/
def takeFirst {α : Type} (p : α → Bool) : List α → Option (List α)
  | [] => none
  | x :: rest => if p x then some rest else (takeFirst p rest).map (x :: ·)

namespace Json

mutual

def equivalent : Json → Json → Bool
  | .null, .null => true
  | .bool a, .bool b => a == b
  | .number a, .number b => a.equals b
  | .string a, .string b => a == b
  | .array a, .array b => equivalentItems a b
  | .object a, .object b => a.length == b.length && equivalentEntries a b
  | _, _ => false

/-- Pairs each item with the first equivalent one that is left. -/
def equivalentItems : List Json → List Json → Bool
  | [], others => others.isEmpty
  | item :: rest, others =>
      match takeFirst (equivalent item) others with
      | none => false
      | some others => equivalentItems rest others

def equivalentEntries : List (String × Json) → Entries Json → Bool
  | [], _ => true
  | (name, value) :: rest, others =>
      (match others.get? name with
        | none => false
        | some other => equivalent value other) && equivalentEntries rest others

end

end Json

end DocumentSearch
