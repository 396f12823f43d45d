import Credentials.Decimal.Layout
import Credentials.Raw.Basic
import Credentials.Text.Quoted

/-!
# Texts of raw values

`display` is the text of a value when it stands as a segment of a path or as the spelling of a role;
`quote` is its text inside a message, where texts and bytes are quoted. Neither shows what a wrapper
holds: its texts are made of its kind and the marker for hidden values alone.

An integer is written only up to a number of digits, and a collection that holds itself has no end:
`obstacle?` says what keeps a value from being written.
-/

namespace Credentials

open Text

/-- What stands for every hidden value. -/
def redacted : String := "***"

/-- The text of a wrapper inside a message. -/
def SecretKind.quote (k : SecretKind) : String := k.name ++ "('" ++ redacted ++ "')"

namespace Raw

/-- Texts with commas between them. -/
def commas (xs : List String) : String := ", ".intercalate xs

mutual

/-- The text of a value inside a message. -/
def quote : Raw → String
  | null => "None"
  | bool true => "True"
  | bool false => "False"
  | int n => toString n
  | float x => Decimal.render x
  | nan _ _ => "nan"
  | text s => quoted s
  | bytes bs => quotedBytes bs
  | list xs => "[" ++ commas (quoteList xs) ++ "]"
  | tuple [x] => "(" ++ quote x ++ ",)"
  | tuple xs => "(" ++ commas (quoteList xs) ++ ")"
  | set [] => "set()"
  | set xs => "\x7b" ++ commas (quoteList xs) ++ "\x7d"
  | map entries => "\x7b" ++ commas (quoteEntries entries) ++ "\x7d"
  | date d => d.render
  | moment m => m.render " "
  | secret kind _ => kind.quote
  | role r => "<Role." ++ r.constantName ++ ": " ++ quoted r.name ++ ">"
  | record cls fields => cls.name ++ "(" ++ commas (quoteFields fields) ++ ")"
  | endless false => "[...]"
  | endless true => "\x7b...\x7d"

/-- The texts of the items of a list. -/
def quoteList : List Raw → List String
  | [] => []
  | x :: xs => quote x :: quoteList xs

/-- The texts of the entries of a map. -/
def quoteEntries : List (Raw × Raw) → List String
  | [] => []
  | (k, v) :: r => (quote k ++ ": " ++ quote v) :: quoteEntries r

/-- The texts of the slots of a record. -/
def quoteFields : List (String × Raw) → List String
  | [] => []
  | (n, v) :: r => (n ++ "=" ++ quote v) :: quoteFields r

end

/-- The text of a value by itself. A record shows its slots without its name, but a view shows both.
-/
def display : Raw → String
  | text s => s
  | role r => "Role." ++ r.constantName
  | secret _ _ => redacted
  | record (.view r) fields => quote (record (.view r) fields)
  | record _ fields => " ".intercalate (quoteFields fields)
  | v => quote v

/-! ## Values that cannot be written -/

/-- The most digits of an integer that is written. -/
def writtenDigits : Nat := 4300

/-- The least number that is too long to write. -/
def writtenBound : Nat := Nat.pow 10 writtenDigits

end Raw

/-- What keeps a value from being written. -/
inductive Obstacle where
  /-- An integer has too many digits. -/
  | longInteger
  /-- A collection holds itself. -/
  | endless
  deriving DecidableEq, Repr

namespace Raw

mutual

/-- The first obstacle in a value, if there is one. -/
def obstacle? : Raw → Option Obstacle
  | int n => if n.natAbs < writtenBound then none else some .longInteger
  | endless _ => some .endless
  | list xs | tuple xs | set xs => anyObstacle? xs
  | map entries => entryObstacle? entries
  | record _ fields => fieldObstacle? fields
  | _ => none

/-- The first obstacle in some items. -/
def anyObstacle? : List Raw → Option Obstacle
  | [] => none
  | x :: xs => (obstacle? x).or (anyObstacle? xs)

/-- The first obstacle in some keys and values. -/
def entryObstacle? : List (Raw × Raw) → Option Obstacle
  | [] => none
  | (k, v) :: r => ((obstacle? k).or (obstacle? v)).or (entryObstacle? r)

/-- The first obstacle in the contents of some slots. -/
def fieldObstacle? : List (String × Raw) → Option Obstacle
  | [] => none
  | (_, v) :: r => (obstacle? v).or (fieldObstacle? r)

end

@[simp] theorem obstacle?_text (s : String) : (text s).obstacle? = none := by simp [obstacle?]

/-! ## Texts that are the only ones -/

@[simp] theorem display_text (s : String) : (text s).display = s := by simp [display]

@[simp] theorem quote_secret (k : SecretKind) (v : Raw) : (secret k v).quote = k.quote := by
  simp [quote]

end Raw

end Credentials
