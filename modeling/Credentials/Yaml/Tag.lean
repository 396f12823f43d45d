import Credentials.Yaml.Timestamp

/-!
# Tags

The sort of a node. A plain scalar has its sort by the way it is written (`Tag.ofPlain`): a truth
word, an empty or null word, an integer in one of five notations, a floating-point number, a
timestamp, the sign of a merge or of a default value, and otherwise a text.
-/

namespace Credentials.Yaml

open Text

/-- The sort of a node. -/
inductive Tag where
  | null
  | bool
  | int
  | float
  | binary
  | timestamp
  | omap
  | pairs
  | set
  | str
  | seq
  | map
  | merge
  | value
  | other (uri : String)
  deriving DecidableEq, Repr

namespace Tag

/-- The tags of the language, by the last part of their names. -/
def known : List (String × Tag) :=
  [("null", null), ("bool", bool), ("int", int), ("float", float), ("binary", binary),
    ("timestamp", timestamp), ("omap", omap), ("pairs", pairs), ("set", set), ("str", str),
    ("seq", seq), ("map", map), ("merge", merge), ("value", value)]

/-- The tag of a full name. -/
def ofUri (uri : String) : Tag :=
  ((known.find? fun p => "tag:yaml.org,2002:" ++ p.1 == uri).map (·.2)).getD (other uri)

/-! ## Plain scalars -/

/-- The words of truth values. -/
def truthWords : List String :=
  ["yes", "Yes", "YES", "no", "No", "NO", "true", "True", "TRUE", "false", "False", "FALSE", "on",
    "On", "ON", "off", "Off", "OFF"]

/-- The words of null, the empty one among them. -/
def nullWords : List String := ["~", "null", "Null", "NULL", ""]

/-- Without a sign in front. -/
def unsigned : List Char → List Char
  | '+' :: r | '-' :: r => r
  | cs => cs

/-- A digit or an underscore. -/
def isDigitOrBar (c : Char) : Bool := c.isDigit || c == '_'

/-- Whether all parts of sixty up to the end, or to a point, are well written. -/
def allSixties (pointed : Bool) : List Char → Bool
  | [] => !pointed
  | '.' :: f => pointed && f.all isDigitOrBar
  | ':' :: a :: b :: r =>
    if a.isDigit && b.isDigit then decide (a ≤ '5') && allSixties pointed r
    else a.isDigit && allSixties pointed (b :: r)
  | [':', a] => a.isDigit && !pointed
  | _ => false

/-- Whether a text is a number of sixties: digits, then at least one part behind a colon. -/
def isSexagesimal (pointed : Bool) (cs : List Char) : Bool :=
  match cs.dropWhile isDigitOrBar with
  | ':' :: r => allSixties pointed (':' :: r)
  | _ => false

/-- Whether a plain scalar is an integer. -/
def isInt (cs : List Char) : Bool :=
  match unsigned cs with
  | ['0'] => true
  | '0' :: 'b' :: r => !r.isEmpty && r.all fun c => c == '0' || c == '1' || c == '_'
  | '0' :: 'x' :: r => !r.isEmpty && r.all fun c => (hexValue? c).isSome || c == '_'
  | '0' :: r => r.all fun c => ('0' ≤ c && c ≤ '7') || c == '_'
  | c :: r => c.isDigit && (r.all isDigitOrBar || isSexagesimal false (c :: r))
  | [] => false

/-- An exponent with its sign, or nothing. -/
def isExponent : List Char → Bool
  | [] => true
  | e :: s :: r =>
    (e == 'e' || e == 'E') && (s == '+' || s == '-') && !r.isEmpty && r.all Char.isDigit
  | _ => false

/-- Whether a plain scalar is a floating-point number. -/
def isFloat (cs : List Char) : Bool :=
  let body := unsigned cs
  let signed := body.length != cs.length
  match body with
  | '.' :: r =>
    let word := String.ofList r
    ["inf", "Inf", "INF"].contains word
      || (!signed && ["nan", "NaN", "NAN"].contains word)
      || (!signed && r.head?.any Char.isDigit && isExponent (r.dropWhile isDigitOrBar))
  | c :: r =>
    c.isDigit &&
      match r.dropWhile isDigitOrBar with
      | '.' :: f => isExponent (f.dropWhile isDigitOrBar)
      | _ => isSexagesimal true body
  | [] => false

/-- The tag of a word by the way it is written. -/
def ofWord (s : String) : Tag :=
  let cs := s.toList
  if truthWords.contains s then bool
  else if isFloat cs then float
  else if isInt cs then int
  else if s = "<<" then merge
  else if nullWords.contains s then null
  else if Timestamp.isPlain cs then timestamp
  else if s = "=" then value
  else str

/-- The tag of a scalar that counts as plain. A quoted or block scalar may count as plain too, and
then a line feed may end it: that is no part of the word. A line feed by itself is a text. -/
def ofPlain (s : String) : Tag :=
  if s = "\n" then str else ofWord (String.ofList (dropFinalLineFeed s.toList))

end Tag

end Credentials.Yaml
