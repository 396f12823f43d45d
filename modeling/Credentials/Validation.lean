import Credentials.Bundle
import Credentials.Report

/-!
# Checking a bundle for a role

Three rules run in a fixed order and every violation is collected: the layer-one endpoint, the
consensus keys, and the choice of a data-availability backend. A backend is chosen when it is the
only one with a credential; it is resolved when, besides, none of its credentials is missing. A
chosen backend that is incomplete is a violation only where the role needs a backend; elsewhere it
stays unresolved.

Main statement: `issues_eq_of_isSet`, a check looks only at which credentials are set.
-/

namespace Credentials

namespace Bundle

/-! ## Data-availability backends -/

/-- The credentials of a backend that the bundle holds. -/
def presentOf (b : Bundle) (x : Backend) : List Field := (Field.ofBackend x).filter b.isSet

/-- The credentials of a backend that the bundle lacks. -/
def missingOf (b : Bundle) (x : Backend) : List Field := (Field.ofBackend x).filter (!b.isSet ·)

/-- The backends with at least one credential, in the order of the schema. -/
def populated (b : Bundle) : List Backend := Backend.all.filter fun x => !(b.presentOf x).isEmpty

/-- The populated backends with their credentials, if the group of the backends is there. -/
def draft? (b : Bundle) : Option (List (Backend × List Field)) :=
  if b.holds .dataAvailability then some (b.populated.map fun x => (x, b.presentOf x)) else none

/-- The backend that a bundle resolves to: the only populated one, if it is complete. -/
def resolved (b : Bundle) : Option Backend :=
  match b.populated with
  | [x] => if (b.missingOf x).isEmpty then some x else none
  | _ => none

/-! ## Rules -/

/-- The rule of the layer-one endpoint. -/
def l1Issues (b : Bundle) (r : Role) : List Issue :=
  if r.needsL1Rpc && !b.isSet .l1RpcUrl then [.noL1Rpc] else []

/-- The rule of the consensus keys. -/
def consensusIssues (b : Bundle) (r : Role) : List Issue :=
  (r.consensusKeys.filter (!b.isSet ·)).map .noConsensusKey

/-- The rule of the backend's choice. -/
def backendIssues (b : Bundle) (r : Role) : List Issue :=
  match b.populated with
  | [] => if r.needsBackend then [.noBackend] else []
  | [x] => if r.needsBackend then (b.missingOf x).map (.backendIncomplete x) else []
  | xs => [.backendConflict xs (xs.flatMap b.presentOf)]

/-- Every violation, rule after rule. -/
def issues (b : Bundle) (r : Role) : List Issue :=
  b.l1Issues r ++ b.consensusIssues r ++ b.backendIssues r

/-- The report on a bundle for a role. -/
def check (b : Bundle) (r : Role) : Report := ⟨r, b.issues r⟩

/-! ## What a check looks at -/

theorem issues_eq_of_isSet {a b : Bundle} (h : ∀ f, a.isSet f = b.isSet f) (r : Role) :
    a.issues r = b.issues r := by
  have e : a.isSet = b.isSet := funext h
  have hp : a.presentOf = b.presentOf := by
    funext x
    simp [presentOf, e]
  have hm : a.missingOf = b.missingOf := by
    funext x
    simp [missingOf, e]
  simp [issues, l1Issues, consensusIssues, backendIssues, populated, e, hp, hm]

end Bundle

end Credentials
