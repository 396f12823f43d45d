import Credentials.Field
import Credentials.Text.Case
import Credentials.Text.Character

/-!
# Deployment roles

The seven roles, what each of them requires and exposes, and how a role is spelled. A spelling is
trimmed and read twice: as it stands, and with an underscore put between a small letter or digit and
a capital that follows it; both times in lower case, hyphens and spaces counting as underscores.
-/

namespace Credentials

open Text

/-- A deployment role. -/
inductive Role where
  | mainNode
  | prover
  | validator
  | consensusParticipant
  | attester
  | dataAvailabilityClient
  | contractVerifier
  deriving DecidableEq, Repr

namespace Role

/-- The roles in their order of listing. -/
def all : List Role :=
  [mainNode, prover, validator, consensusParticipant, attester, dataAvailabilityClient,
    contractVerifier]

theorem mem_all (r : Role) : r ∈ all := by cases r <;> decide

/-- The name of a role. -/
def name : Role → String
  | mainNode => "main_node"
  | prover => "prover"
  | validator => "validator"
  | consensusParticipant => "consensus_participant"
  | attester => "attester"
  | dataAvailabilityClient => "data_availability_client"
  | contractVerifier => "contract_verifier"

/-- The name in capitals. -/
def constantName : Role → String
  | mainNode => "MAIN_NODE"
  | prover => "PROVER"
  | validator => "VALIDATOR"
  | consensusParticipant => "CONSENSUS_PARTICIPANT"
  | attester => "ATTESTER"
  | dataAvailabilityClient => "DATA_AVAILABILITY_CLIENT"
  | contractVerifier => "CONTRACT_VERIFIER"

/-- The name of the role's view. -/
def viewName : Role → String
  | mainNode => "MainNodeView"
  | prover => "ProverView"
  | validator => "ValidatorView"
  | consensusParticipant => "ConsensusParticipantView"
  | attester => "AttesterView"
  | dataAvailabilityClient => "DataAvailabilityClientView"
  | contractVerifier => "ContractVerifierView"

/-! ## Spellings -/

/-- An ASCII small letter or digit. -/
def isLowOrDigit (c : Char) : Bool := c.isLower || c.isDigit

/-- Puts an underscore between a small letter or digit and a capital right after it. -/
def splitWords : List Char → List Char
  | a :: b :: r =>
    if isLowOrDigit a && b.isUpper then a :: '_' :: splitWords (b :: r)
    else a :: splitWords (b :: r)
  | cs => cs

/-- Hyphens and spaces count as underscores. -/
def unifySeparator (c : Char) : Char := if c = '-' ∨ c = ' ' then '_' else c

/-- A spelling in lower case with underscores. -/
def normalize (cs : List Char) : List Char := (cs.flatMap lowerChar).map unifySeparator

/-- The role of exactly this name. -/
def ofNameChars? (cs : List Char) : Option Role := all.find? (·.name.toList == cs)

/-- The role that a spelling stands for. -/
def ofSpelling? (s : String) : Option Role :=
  let cs := trimChars s.toList
  (ofNameChars? (normalize cs)).or (ofNameChars? (normalize (splitWords cs)))

/-! ## Requirements -/

/-- The one role that works without a layer-one endpoint. -/
def needsL1Rpc (r : Role) : Bool := r != contractVerifier

/-- The consensus keys that a role requires, the node's key first. -/
def consensusKeys : Role → List Field
  | validator => [.nodeKey, .validatorKey]
  | consensusParticipant => [.nodeKey]
  | attester => [.nodeKey, .attesterKey]
  | _ => []

/-- The one role that requires a data-availability backend. -/
def needsBackend (r : Role) : Bool := r == dataAvailabilityClient

/-- The credentials that a role requires one by one. -/
def required (r : Role) : List Field :=
  (if r.needsL1Rpc then [.l1RpcUrl] else []) ++ r.consensusKeys

/-- The groups that a role's view shows. -/
def exposes : Role → Group → Bool
  | mainNode, _ => true
  | prover, g => g == .database || g == .l1
  | validator, g | consensusParticipant, g | attester, g => g == .l1 || g == .consensus
  | dataAvailabilityClient, g => g == .l1 || g == .dataAvailability
  | contractVerifier, g => g == .database || g == .l1 || g == .contractVerifier

/-- Texts in increasing order. -/
def sorted (xs : List String) : List String := xs.mergeSort fun a b => decide (a ≤ b)

/-- The paths that a role requires, in increasing order. -/
def requiredPaths (r : Role) : List String := sorted (r.required.map Field.path)

/-- The groups that a role's view shows, in increasing order of their names. -/
def exposedGroups (r : Role) : List Group :=
  ([.consensus, .contractVerifier, .dataAvailability, .database, .l1] : List Group).filter r.exposes

/-- The credentials that a role's view shows, in the order of the schema. -/
def exposedFields (r : Role) : List Field := Field.all.filter fun f => r.exposes f.group

end Role

end Credentials
