import Credentials.Role

/-!
# Validation reports

An `Issue` is one violated rule, told by its cause. What a reader sees of it (path, sort, rule,
reason, the paths involved) is computed from the cause and the role, so a report holds no text and
no value.
-/

namespace Credentials

/-- The sort of an issue. -/
inductive IssueKind where
  | missingRequiredField
  | conflictingVariant
  | partialVariant
  deriving DecidableEq, Repr

/-- The name of a sort of issue. -/
def IssueKind.name : IssueKind → String
  | missingRequiredField => "MissingRequiredField"
  | conflictingVariant => "ConflictingVariant"
  | partialVariant => "PartialVariant"

/-- Every sort of issue. -/
def IssueKind.all : List IssueKind := [missingRequiredField, conflictingVariant, partialVariant]

/-- The sort of a name. -/
def IssueKind.ofName? (s : String) : Option IssueKind := all.find? (·.name == s)

/-- A violated rule. -/
inductive Issue where
  /-- The role needs a layer-one endpoint and there is none. -/
  | noL1Rpc
  /-- The role needs a consensus key that is not there. -/
  | noConsensusKey (key : Field)
  /-- The role needs a data-availability backend and none has any credential. -/
  | noBackend
  /-- Several backends have credentials. -/
  | backendConflict (backends : List Backend) (fields : List Field)
  /-- The role needs the chosen backend complete and a credential of it is not there. -/
  | backendIncomplete (backend : Backend) (field : Field)
  deriving DecidableEq, Repr

namespace Issue

/-- The sort of the issue. -/
def kind : Issue → IssueKind
  | noL1Rpc | noConsensusKey _ | noBackend => .missingRequiredField
  | backendConflict _ _ => .conflictingVariant
  | backendIncomplete _ _ => .partialVariant

/-- The path that the issue is about. -/
def path : Issue → String
  | noL1Rpc => Field.l1RpcUrl.path
  | noConsensusKey key => key.path
  | noBackend | backendConflict _ _ => Group.dataAvailability.name
  | backendIncomplete _ field => field.path

/-- The rule that is violated. -/
def rule : Issue → String
  | noL1Rpc => "l1-rpc"
  | noConsensusKey _ => "consensus-keys"
  | noBackend | backendConflict _ _ | backendIncomplete _ _ => "da-choice"

/-- The credentials involved. -/
def fields : Issue → List Field
  | noL1Rpc => [.l1RpcUrl]
  | noConsensusKey key => [key]
  | noBackend => []
  | backendConflict _ fields => fields
  | backendIncomplete _ field => [field]

/-- Names with commas between them. -/
def listing (xs : List String) : String := ", ".intercalate xs

/-- The reason, for a role. -/
def reason (role : Role) : Issue → String
  | noL1Rpc | noConsensusKey _ => "required for role '" ++ role.name ++ "'"
  | noBackend =>
    "one data availability backend (" ++ listing (Backend.all.map Backend.name)
      ++ ") is required for role '" ++ role.name ++ "'"
  | backendConflict backends fields =>
    "only one data availability backend may be set, found " ++ listing (backends.map Backend.name)
      ++ ": " ++ listing (fields.map Field.path)
  | backendIncomplete backend _ =>
    "'" ++ backend.name ++ "' backend is incomplete without this field"

/-- Rule, sort and path in one word. -/
def digest (i : Issue) : String := i.rule ++ "/" ++ i.kind.name ++ "/" ++ i.path

end Issue

/-- What a check of a bundle found. -/
structure Report where
  role : Role
  issues : List Issue
  deriving DecidableEq, Repr

namespace Report

/-- Whether nothing was found. -/
def ok (r : Report) : Bool := r.issues.isEmpty

/-- The issues of one sort. -/
def ofKind (r : Report) (k : IssueKind) : List Issue := r.issues.filter (·.kind == k)

/-- The report in words, one line to an issue. -/
def text (r : Report) : String :=
  if r.ok then "Secrets are valid for role '" ++ r.role.name ++ "'."
  else
    "\n".intercalate
      (("Secrets are invalid for role '" ++ r.role.name ++ "' (" ++ toString r.issues.length
          ++ " issue(s)):")
        :: r.issues.map fun i =>
          "  - [" ++ i.kind.name ++ "] " ++ i.path ++ ": " ++ i.reason r.role)

end Report

end Credentials
