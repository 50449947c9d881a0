import DocumentSearch.Entries
import DocumentSearch.Binary64

/-!
JSON documents. An object keeps its members in the order in which they were put, so two documents
with the same members in another order are different documents with the same meaning. A number
keeps its kind: a natural number, a negative integer or a floating point number.
-/

namespace DocumentSearch

/-- A number of a document. `negative n` stands for `-(n + 1)`, so each integer has one form. -/
inductive Number where
  | natural (value : UInt64)
  | negative (below : Fin 0x8000000000000000)
  | float (value : Binary64)
deriving DecidableEq

namespace Number

/-- The number for an integer; one outside the integer kinds becomes the nearest float. -/
def ofInt (i : Int) : Number :=
  match i with
  | .ofNat n => if n < UInt64.size then .natural (UInt64.ofNat n) else .float (Binary64.ofNat n)
  | .negSucc n =>
      if h : n < 0x8000000000000000 then .negative ⟨n, h⟩ else .float (Binary64.ofInt i)

def ofNat (n : Nat) : Number := ofInt n

/-- The nearest float. -/
def toBinary64 : Number → Binary64
  | .natural n => Binary64.ofNat n.toNat
  | .negative n => Binary64.ofInt (Int.negSucc n.val)
  | .float x => x

/-- Numbers of one kind with one value. An integer never equals a float. -/
def equals : Number → Number → Bool
  | .natural a, .natural b => a == b
  | .negative a, .negative b => a == b
  | .float a, .float b => a.equals b
  | _, _ => false

end Number

inductive Json where
  | null
  | bool (value : Bool)
  | number (value : Number)
  | string (value : String)
  | array (items : List Json)
  | object (entries : List (String × Json))

namespace Json

instance : Inhabited Json := ⟨.null⟩

def natural (n : UInt64) : Json := .number (.natural n)

/-- A document has no infinities and no NaN; they become `null`. -/
def float (x : Binary64) : Json := if x.isFinite then .number (.float x) else .null

def strings (values : List String) : Json := .array (values.map .string)

/-- The object with a single member. -/
def single (name : String) (value : Json) : Json := .object [(name, value)]

def entries? : Json → Option (Entries Json)
  | .object entries => some entries
  | _ => none

/-- The member of an object; other values have none. -/
def get? (document : Json) (name : String) : Option Json :=
  document.entries?.bind (Entries.get? · name)

end Json

end DocumentSearch
