import Credentials.Text.Resemblance

/-!
# Words of a command line

A word that starts with a hyphen and is longer than it is an option: a long one by its whole text,
where a value may follow an equals sign, or a row of letters behind one hyphen. An option that takes
a value and has none in its word takes the next word, whatever it is. The word of two hyphens ends
the options. What is no option is an argument; a table says whether options may follow arguments.
With a long option that is unknown goes a guess at which one was meant.
-/

namespace Credentials.CommandLine

/-- The options that a command knows. -/
structure OptionTable where
  /-- Long options without a value. -/
  flags : List String
  /-- Long options with a value. -/
  valued : List String
  /-- Letters, each an option without a value. -/
  letters : List Char
  /-- Whether options may follow arguments. -/
  interspersed : Bool

/-- What is wrong with an option. -/
inductive OptionFault where
  /-- It is not known; some that are known resemble it. -/
  | unknown (option : String) (similar : List String)
  | needsValue (option : String)
  | takesNoValue (option : String)
  deriving DecidableEq, Repr

/-- A use of an option; the value of a flag is empty. -/
structure Use where
  option : String
  value : String
  deriving DecidableEq, Repr

/-- The words of a command line, sorted into options and arguments. -/
structure Words where
  uses : List Use
  arguments : List String
  deriving DecidableEq, Repr

namespace Words

/-- With further uses of options before all others. -/
def after (us : List Use) (w : Words) : Words := { w with uses := us ++ w.uses }

/-- With a further argument before all others. -/
def withArgument (a : String) (w : Words) : Words := { w with arguments := a :: w.arguments }

/-- Whether an option is used. -/
def uses? (w : Words) (option : String) : Bool := w.uses.any (·.option == option)

/-- The values of an option, in their order. -/
def values (w : Words) (option : String) : List String :=
  (w.uses.filter (·.option == option)).map Use.value

/-- The value that counts: an option that is repeated is overruled. -/
def value? (w : Words) (option : String) : Option String := (w.values option).getLast?

end Words

/-- Whether a word is an option. -/
def isOption (word : String) : Bool :=
  match word.toList with
  | '-' :: _ :: _ => true
  | _ => false

/-- The word of two hyphens. -/
def doubleHyphen : String := "--"

/-- A word before and behind its first equals sign. -/
def splitValue (word : String) : String × Option String :=
  let cs := word.toList
  match cs.dropWhile (· != '=') with
  | [] => (word, none)
  | _ :: value => (String.ofList (cs.takeWhile (· != '=')), some (String.ofList value))

/-- The uses that a word is, or the option that it leaves without a value. -/
inductive WordReading where
  | uses (us : List Use)
  | awaiting (option : String)

namespace OptionTable

/-- The long options. -/
def long (t : OptionTable) : List String := t.flags ++ t.valued

/-- A row of letters. -/
def readLetters (t : OptionTable) : List Char → Except OptionFault (List Use)
  | [] => .ok []
  | c :: r =>
    let option := String.ofList ['-', c]
    if t.letters.contains c then (t.readLetters r).map (⟨option, ""⟩ :: ·)
    else .error (.unknown option [])

/-- A word that is an option. -/
def readOption (t : OptionTable) (word : String) : Except OptionFault WordReading :=
  let (option, value) := splitValue word
  if t.valued.contains option then
    match value with
    | some v => .ok (.uses [⟨option, v⟩])
    | none => .ok (.awaiting option)
  else if t.flags.contains option then
    match value with
    | some _ => .error (.takesNoValue option)
    | none => .ok (.uses [⟨option, ""⟩])
  else
    match word.toList with
    | '-' :: '-' :: _ => .error (.unknown option (Text.closest t.long option))
    | cs => (t.readLetters (cs.drop 1)).map .uses

/-- Words, of which the first may be the value of an option before it. -/
def readFrom (t : OptionTable) : Option String → List String → Except OptionFault Words
  | none, [] => .ok ⟨[], []⟩
  | some option, [] => .error (.needsValue option)
  | some option, v :: r => (t.readFrom none r).map (.after [⟨option, v⟩])
  | none, w :: r =>
    if w = doubleHyphen then .ok ⟨[], r⟩
    else if isOption w then
      match t.readOption w with
      | .error fault => .error fault
      | .ok (.uses us) => (t.readFrom none r).map (.after us)
      | .ok (.awaiting option) => t.readFrom (some option) r
    else if t.interspersed then (t.readFrom none r).map (.withArgument w)
    else .ok ⟨[], w :: r⟩

/-- The words of a command line. -/
def read (t : OptionTable) (words : List String) : Except OptionFault Words := t.readFrom none words

end OptionTable

end Credentials.CommandLine
