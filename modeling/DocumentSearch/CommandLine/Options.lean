/-!
Options on a command line. An option has a long name and perhaps a letter, and takes one value: in
the same argument, behind an equals sign if one stands there, or as the next argument, which then
does not begin with a hyphen unless it is nothing else. Options are read from left to right up to
a subcommand or the end, and the first argument that fits nowhere ends the reading.
-/

namespace DocumentSearch

/-- An option with the values that it accepts. -/
structure OptionRule where
  long : String
  letter : Option Char := none
  repeatable : Bool := false
  accepts : String → Bool := fun _ => true

/-- What may stand on one level of the command line, apart from the request for help. -/
structure OptionLevel where
  options : List OptionRule
  hasVersion : Bool := false
  subcommands : List String := []

/-- Options by their long names with their values, in order. -/
abbrev GivenOptions := List (String × String)

/-- Where reading a level ends: before a subcommand or the end of the arguments, at a request for
help or for the version, or at an argument that does not fit. -/
inductive LevelEnd where
  | complete (given : GivenOptions) (rest : List String)
  | help
  | version
  | misuse
deriving DecidableEq

namespace GivenOptions

def values (given : GivenOptions) (long : String) : List String :=
  (given.filter (·.1 = long)).map Prod.snd

def value? (given : GivenOptions) (long : String) : Option String := (given.values long).head?

end GivenOptions

namespace OptionLevel

/-- Adds an option, unless its value is refused or it is there already and not repeatable. -/
def add? (given : GivenOptions) (rule : OptionRule) (value : String) : Option GivenOptions :=
  if !rule.accepts value || (!rule.repeatable && given.any (·.1 = rule.long)) then none
  else some (given ++ [(rule.long, value)])

/-- What an argument that begins with a hyphen asks for. -/
inductive Wanted where
  | help
  | version
  | option (rule : OptionRule) (attached : Option String)

def wantedLong? (level : OptionLevel) (body : List Char) : Option Wanted :=
  let name := String.ofList (body.takeWhile (· != '='))
  let attached := match body.dropWhile (· != '=') with
    | [] => none
    | _ :: value => some (String.ofList value)
  match level.options.find? (·.long = name) with
  | some rule => some (.option rule attached)
  | none =>
      if attached.isSome then none
      else if name = "help" then some .help
      else if name = "version" && level.hasVersion then some .version
      else none

def wantedLetter? (level : OptionLevel) (letter : Char) (more : List Char) : Option Wanted :=
  let attached := match more with
    | [] => none
    | '=' :: value => some (String.ofList value)
    | value => some (String.ofList value)
  match level.options.find? (·.letter = some letter) with
  | some rule => some (.option rule attached)
  | none =>
      if letter = 'h' then some .help
      else if letter = 'V' && level.hasVersion then some .version
      else none

def wanted? (level : OptionLevel) (argument : String) : Option Wanted :=
  match argument.toList with
  | '-' :: '-' :: body => level.wantedLong? body
  | '-' :: letter :: more => level.wantedLetter? letter more
  | _ => none

/-- Whether an argument can be the value of the option before it. -/
def isValue (argument : String) : Bool :=
  argument = "-" || argument.toList.head? != some '-'

def readFrom (level : OptionLevel) (given : GivenOptions) : List String → LevelEnd
  | [] => .complete given []
  | argument :: rest =>
      if argument = "--" then
        if rest.isEmpty then .complete given [] else .misuse
      else match level.wanted? argument with
        | some .help => .help
        | some .version => .version
        | some (.option rule (some value)) =>
            match add? given rule value with
            | some given => readFrom level given rest
            | none => .misuse
        | some (.option rule none) =>
            match rest with
            | value :: rest =>
                if isValue value then
                  match add? given rule value with
                  | some given => readFrom level given rest
                  | none => .misuse
                else .misuse
            | [] => .misuse
        | none =>
            if level.subcommands.contains argument then .complete given (argument :: rest)
            else .misuse

def read (level : OptionLevel) (arguments : List String) : LevelEnd := level.readFrom [] arguments

end OptionLevel

end DocumentSearch
