import Credentials.Raw.Render
import Credentials.Report

/-!
# Errors

Everything that can go wrong, told by its cause, and the one wording of each (`Error.message`). No
cause carries the value of a credential; what a message shows of its input are paths, names of types
and sources, line numbers, and the spelling that was given for a role.

`Error.isReported` marks the errors that a command line reports in one line of its own; every other
one ends it.
-/

namespace Credentials

open Text

/-- Why a scalar of a document cannot be converted to what its tag says. -/
inductive ScalarFault where
  /-- A place of a number in base sixty is beyond the range of doubles. -/
  | placeOverflow
  | calendar (fault : CalendarFault)
  | malformedInt (base : Nat) (text : String)
  | longInt (digits : Nat)
  | emptyNumber
  | malformedFloat (text : String)
  | unknownTruth (text : String)
  | noTimestamp
  | notOneScalar
  | characterRange
  | characterOverflow
  /-- A default value leads back to itself. -/
  | endlessDefault
  deriving DecidableEq, Repr

/-- The first characters of a text, at most two hundred. -/
def excerpt (s : String) : String := String.ofList (s.toList.take 200)

/-- The wording about an integer with too many digits to be converted from or to a text. -/
def tooManyDigits (detail : String) : String :=
  "Exceeds the limit (" ++ toString Raw.writtenDigits ++ " digits) for integer string conversion"
    ++ detail ++ "; use sys.set_int_max_str_digits() to increase the limit"

/-- The wording of a scalar's fault. -/
def ScalarFault.message : ScalarFault → String
  | placeOverflow => "int too large to convert to float"
  | calendar fault => fault.message
  | malformedInt base text =>
    "invalid literal for int() with base " ++ toString base ++ ": " ++ excerpt (quoted text)
  | longInt digits => tooManyDigits (": value has " ++ toString digits ++ " digits")
  | emptyNumber => "string index out of range"
  | malformedFloat text => "could not convert string to float: " ++ quoted text
  | unknownTruth text => quoted text
  | noTimestamp => "'NoneType' object has no attribute 'groupdict'"
  | notOneScalar => "expected string or bytes-like object, got 'list'"
  | characterRange => "chr() arg not in range(0x110000)"
  | characterOverflow => "Python int too large to convert to C int"
  | endlessDefault => "maximum recursion depth exceeded"

/-- Why a document is not read. -/
inductive DocumentFault where
  /-- It is malformed; the problem shows at a line, counted from one. -/
  | malformed (line : Nat)
  /-- It holds a character that no document may hold. -/
  | forbiddenCharacter
  /-- It is well formed, but its top is no mapping. -/
  | notMapping
  /-- A scalar of it cannot be converted. -/
  | unconvertible (fault : ScalarFault)
  /-- Its bytes are no text. -/
  | undecodable
  deriving DecidableEq, Repr

/-- What is wrong with the content of a record. -/
inductive RecordFault where
  | missing
  | extraForbidden
  | literalError
  | modelType
  | frozenInstance
  | unionTagNotFound
  | unionTagInvalid
  deriving DecidableEq, Repr

/-- What can go wrong. -/
inductive Error where
  | unknownPath (path : String) (source : Option String)
  | wrongType (path typeName : String)
  | mergeAmbiguity (paths : List String)
  | general (message : String)
  | notExposed (path role : String)
  | absent (path : String)
  | invalid (report : Report)
  | document (source : String) (fault : DocumentFault)
  | notARole (shown : String)
  | notAView
  | cannotDump (typeName : String)
  | unhashable (typeName : String)
  | immutable (typeName : String)
  | readOnly (typeName : String)
  | noAttribute (typeName name : String)
  | noGroup (name : String)
  | record (title : String) (details : List (RecordFault × List String))
  | missingFile (path : String)
  | isDirectory (path : String)
  | notADirectory (path : String)
  | nameTooLong (path : String)
  | malformedPath
  | unwritable (obstacle : Obstacle)
  /-- A view stands in what is to be copied. -/
  | uncopyable
  deriving DecidableEq, Repr

namespace Error

/-- The wording of an error, where it has one of its own. -/
def message : Error → Option String
  | unknownPath path source =>
    let origin := match source with
      | some name => if name.isEmpty then "" else " (from source '" ++ name ++ "')"
      | none => ""
    some ("Unknown secrets field path '" ++ path ++ "'" ++ origin ++ ".")
  | wrongType path typeName =>
    some ("Secrets field '" ++ path ++ "' must be a string, got " ++ typeName ++ ".")
  | mergeAmbiguity paths =>
    some ("Ambiguous data availability input: " ++ Raw.commas paths ++ ".")
  | general message => some message
  | notExposed path role => some ("Field '" ++ path ++ "' is not exposed to role '" ++ role ++ "'.")
  | absent path => some ("Secrets field '" ++ path ++ "' is not set.")
  | invalid report => some report.text
  | document source fault =>
    match fault with
    | .malformed line => some (source ++ ": invalid YAML at line " ++ toString line)
    | .forbiddenCharacter => some (source ++ ": invalid YAML")
    | .notMapping => some (source ++ ": top-level YAML node must be a mapping")
    | .unconvertible fault => some fault.message
    | .undecodable => none
  | notARole shown =>
    some (shown ++ " is not a valid role. Must be one of "
      ++ Raw.quote (.list (Role.all.map fun r => .text r.name)))
  | notAView => some "reveal_for_transport() requires a validated view"
  | cannotDump typeName => some ("Cannot dump " ++ typeName)
  | unhashable typeName => some ("unhashable type: '" ++ typeName ++ "'")
  | immutable typeName => some (typeName ++ " is immutable")
  | readOnly typeName => some (typeName ++ " is read-only")
  | noAttribute typeName name =>
    some ("'" ++ typeName ++ "' object has no attribute '" ++ name ++ "'")
  | noGroup name =>
    some ("\"" ++ RecordClass.bundle.name ++ "\" object has no field \"" ++ name ++ "\"")
  | record _ _ => none
  | missingFile path => some ("[Errno 2] No such file or directory: " ++ quoted path)
  | isDirectory path => some ("[Errno 21] Is a directory: " ++ quoted path)
  | notADirectory path => some ("[Errno 20] Not a directory: " ++ quoted path)
  | nameTooLong path => some ("[Errno 36] File name too long: " ++ quoted path)
  | malformedPath => some "embedded null byte"
  | unwritable .longInteger => some (tooManyDigits "")
  | unwritable .endless => some "maximum recursion depth exceeded in comparison"
  | uncopyable => some "cannot pickle 'mappingproxy' object"

/-- The errors that a command line reports in a line of its own. -/
def isReported : Error → Bool
  | unknownPath _ _ | wrongType _ _ | mergeAmbiguity _ | general _ | notExposed _ _ | absent _
  | invalid _ => true
  | document _ fault =>
    match fault with
    | .malformed _ | .forbiddenCharacter | .notMapping => true
    | .unconvertible _ | .undecodable => false
  | _ => false

end Error

end Credentials
