import Credentials.CommandLine.Usage
import Credentials.Dump
import Credentials.Naming
import Credentials.Raw.Json
import Credentials.Source.File

/-!
# Running the command line

A run is a function of the host and the words, and its outcome is everything that is seen of it: the
exit code, both outputs, and the error that ended it, if one did that is not reported in words.

The words are read first, then a page of help is shown if one is asked for, then the named files are
looked for, and then everything else is judged in the order in which it is needed. A check loads the
files in their order, the environment after them, and shows the dump of the role's view or why there
is none. The records of the work are shown on demand; a refusal is shown in any case. Records are
shown as they are, all other lines without control sequences.
-/

namespace Credentials.CommandLine

open Text

/-- What is seen of a run. -/
structure Outcome where
  exitCode : Nat
  stdout : String
  stderr : String
  escaped : Option Error

namespace Outcome

/-- A run that prints something and ends well. -/
def success (out : String) : Outcome := ⟨0, out, "", none⟩

/-- A run that shows a page of help. -/
def help (c : Command) : Outcome := success c.help

/-- A run that did not understand its words. -/
def refusal (c : Command) (f : UsageFault) : Outcome := ⟨2, "", f.report c, none⟩

/-- A run that an error ended. -/
def escape (e : Error) : Outcome := ⟨1, "", "", some e⟩

/-- A run after something was written to the second output. -/
def after (err : String) (o : Outcome) : Outcome := { o with stderr := err ++ o.stderr }

/-- A run whose outputs are written with one character to each end of a line. -/
def written (o : Outcome) : Outcome :=
  { o with stdout := withoutReturns o.stdout, stderr := withoutReturns o.stderr }

end Outcome

/-! ## Records -/

/-- The lines of a record: all records on demand, and the text of a refusal otherwise. -/
def recordLine (verbose : Bool) (l : LogRecord) : String :=
  if verbose then l.level ++ " " ++ l.channel ++ ": " ++ l.text ++ "\n"
  else match l with
    | .refused _ => l.text ++ "\n"
    | _ => ""

/-- The lines of records. -/
def recordLines (verbose : Bool) (ls : List LogRecord) : String :=
  String.join (ls.map (recordLine verbose))

/-! ## The check -/

/-- What the words of a check ask for. -/
structure CheckRequest where
  files : List String
  role : Option String
  environment : Bool
  variableStart : String
  extra : List String

/-- Whether an option says if the environment counts. -/
def isEnvironmentOption (o : String) : Bool := o == Command.envOption || o == Command.noEnvOption

/-- Reads a request off the words. Of the two options for the environment the later one counts. -/
def CheckRequest.ofWords (w : Words) : CheckRequest where
  files := w.values Command.fileOption
  role := w.value? Command.roleOption
  environment :=
    ((w.uses.map Use.option).filter isEnvironmentOption).getLast? == some Command.envOption
  variableStart := (w.value? Command.envNameOption).getD ""
  extra := w.arguments

/-- The name of the source over the environment. -/
def environmentName : String := "env"

/-- The sources of a request. -/
def CheckRequest.sources (q : CheckRequest) (host : Host) : List Source :=
  q.files.map (Source.ofFile host) ++
    if q.environment then [.ofEnvironment environmentName q.variableStart host.environment] else []

/-- The first named file that is none. -/
def firstUnusable (host : Host) : List String → Option Outcome
  | [] => none
  | path :: r =>
    match host.find path with
    | .file _ => firstUnusable host r
    | .directory => some (.refusal .check (.directoryForFile path))
    | .missing | .notADirectory | .tooLong => some (.refusal .check (.noSuchFile path))
    | .malformed => some (.escape .malformedPath)

/-- What is shown of a refused bundle. -/
def refusedLines (r : Report) : List String :=
  ("Secrets are invalid for role '" ++ r.role.name ++ "':")
    :: r.issues.map fun i => "  [" ++ i.kind.name ++ "] " ++ i.path ++ ": " ++ i.reason r.role

/-- What is shown of an error. -/
def errorOutcome : Error → Outcome
  | .invalid r => ⟨1, "", Command.lines (refusedLines r), none⟩
  | e =>
    if e.isReported then ⟨1, "", UsageFault.errorLine (e.message.getD ""), none⟩ else .escape e

/-- What is shown of a view, or of why there is none. -/
def viewOutcome : Except Error View → Outcome
  | .ok v => .success (v.dump.indentedJson 0 ++ "\n")
  | .error e => errorOutcome e

/-- Loads the sources of a request and checks them for a role. -/
def checkFor (host : Host) (q : CheckRequest) (role : Role) : Logged View :=
  (load (q.sources host)).andThen fun b => validate b role

/-- The role of a spelling, or the fault that tells that it is none. -/
def roleOf (spelling : String) : Except UsageFault Role :=
  match Role.read (.text spelling) with
  | .ok role => .ok role
  | .error e => .error (.notARole (e.message.getD ""))

/-- The command that checks a deployment. -/
def runCheck (host : Host) (verbose : Bool) (q : CheckRequest) : Outcome :=
  -- files are looked for before anything is said about the role
  match firstUnusable host q.files, q.role with
  | some outcome, _ => outcome
  | none, none => .refusal .check (.missingOption Command.roleOption)
  | none, some spelling =>
    if q.extra.isEmpty then
      match roleOf spelling with
      | .error fault => .refusal .check fault
      | .ok role =>
        let checked := checkFor host q role
        (viewOutcome checked.result).after (recordLines verbose checked.logs)
    else .refusal .check (.extraArguments q.extra)

/-! ## The listing -/

/-- The line of a path, with a mark for a role. -/
def pathLine (role : Option Role) (f : Field) : String :=
  match role with
  | none => f.path
  | some r => f.path ++ "\t" ++ if r.required.contains f then "required" else "optional"

/-- The listing of all paths. -/
def listing (role : Option Role) : List String :=
  Field.all.map (pathLine role) ++
    if role.any Role.needsBackend then [Group.dataAvailability.name ++ ".*\tone backend required"]
    else []

/-- The command that lists the paths; an empty spelling is no role. -/
def runPaths (spelling : Option String) (extra : List String) : Outcome :=
  if extra.isEmpty then
    match spelling.filter (!·.isEmpty) with
    | none => .success (Command.lines (listing none))
    | some s =>
      match roleOf s with
      | .error fault => .refusal .paths fault
      | .ok role => .success (Command.lines (listing (some role)))
  else .refusal .paths (.extraArguments extra)

/-! ## The program -/

/-- A command below the program. -/
def runCommand (host : Host) (verbose : Bool) (c : Command) (words : List String) : Outcome :=
  match c.options.read words with
  | .error fault => .refusal c (.option fault)
  | .ok w =>
    if w.uses? Command.helpOption then .help c
    else match c with
      | .check => runCheck host verbose (.ofWords w)
      | .paths => runPaths (w.value? Command.roleOption) w.arguments
      | .program => .help c

/-- Words whose first one names no command. They may be options that stand behind two hyphens, so
they are read once more. -/
def unknownCommand (name : String) (words : List String) : Outcome :=
  match Command.program.options.read (name :: words) with
  | .error fault => .refusal .program (.option fault)
  | .ok w =>
    if w.uses? Command.helpOption then .help .program
    else .refusal .program (.unknownCommand name (closest (Command.named.map (·.1)) name))

/-- The outcome of a command line before its outputs are written. -/
def outcomeOf (host : Host) (words : List String) : Outcome :=
  if words.isEmpty then ⟨2, "", Command.program.help, none⟩
  else
    match Command.program.options.read words with
    | .error fault => .refusal .program (.option fault)
    | .ok w =>
      if w.uses? Command.helpOption then .help .program
      else
        match w.arguments with
        | [] => .refusal .program .missingCommand
        | name :: r =>
          match Command.ofName? name with
          | some c => runCommand host (!w.uses.isEmpty) c r
          | none => unknownCommand name r

/-- Runs a command line. -/
def run (host : Host) (words : List String) : Outcome := (outcomeOf host words).written

/-- What a run looks at: the paths of files, as they are typed and as they are shown, and the names
of variables. -/
def lookups (words : List String) : List String × List String :=
  match Command.program.options.read words with
  | .ok ⟨_, _ :: r⟩ =>
    match Command.check.options.read r with
    | .ok w =>
      let q := CheckRequest.ofWords w
      (q.files ++ q.files.map FilePath.normalize,
        Field.all.map fun f => variableName q.variableStart f.path)
    | .error _ => ([], [])
  | _ => ([], [])

end Credentials.CommandLine
