import DocumentSearch.Text.Direction
import DocumentSearch.Text.Joining
import DocumentSearch.Url.DomainMapping

/-!
What the labels of a domain name have to satisfy before they are encoded. A label does not begin
with a mark, and a joiner stands only where it changes how letters are written. In a name with
letters that are written to the left, each label is written in one direction.
-/

namespace DocumentSearch.Url.Domain

/-- Whether a joiner has an effect between the characters `before` it, the nearest one first, and
those `after` it. Both joiners act on a virama, and the one that does not join acts on letters that
would be joined without it. -/
def joinerActs (joiner : Char) (before after : List Char) : Bool :=
  before.head?.any Text.isVirama ||
    (joiner = '\u200C' &&
      (before.dropWhile Text.isTransparent).head?.any Text.joinsBehind &&
      (after.dropWhile Text.isTransparent).head?.any Text.joinsBefore)

/-- Whether every joiner acts where it stands, `before` it the characters already seen. -/
def joinersAct (before : List Char) : List Char → Bool
  | [] => true
  | c :: rest => (!isJoiner c || joinerActs c before rest) && joinersAct (c :: before) rest

def isWellFormed (label : List Char) : Bool :=
  !label.head?.any Text.isMark && joinersAct [] label

/-- Letters and numbers of the scripts that are written to the left. -/
def isLeftwards (direction : Text.Direction) : Bool :=
  direction = .rightToLeft || direction = .arabicNumber

/-- What a label that begins with a letter written to the right can go on with. -/
def continuesRightwards (tail : List Text.Direction) : Bool :=
  tail.all [.leftToRight, .europeanNumber, .neutral, .mark].contains &&
    tail.getLast?.all [.leftToRight, .europeanNumber].contains

/-- What a label that begins with a letter written to the left can go on with. -/
def continuesLeftwards (tail : List Text.Direction) : Bool :=
  !tail.contains .leftToRight &&
    !(tail.contains .europeanNumber && tail.contains .arabicNumber) &&
    tail.getLast?.all [.rightToLeft, .arabicNumber, .europeanNumber].contains

/-- Whether a label is written in one direction. Marks at its end do not count. -/
def hasOneDirection (label : List Char) : Bool :=
  match label.map Text.direction with
  | [] => true
  | first :: rest =>
      let tail := (rest.reverse.dropWhile (· = .mark)).reverse
      match first with
      | .leftToRight => continuesRightwards tail
      | .rightToLeft => continuesLeftwards tail
      | _ => false

/-- The rule of direction, which holds for the names that have letters written to the left. -/
def haveOneDirection (labels : List (List Char)) : Bool :=
  !labels.any (·.any fun c => isLeftwards (Text.direction c)) || labels.all hasOneDirection

end DocumentSearch.Url.Domain
