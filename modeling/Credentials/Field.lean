/-!
# The credentials of a deployment

The thirteen credentials that a deployment may hold, in the order of the schema (`Field.all`), the
five groups they fall into and the three data-availability backends. Every credential is addressed
by a dotted path that starts with the name of its group.

Main statements: `Field.ofPath?_path` and `Field.path_of_ofPath?`, a path names exactly one
credential.
-/

namespace Credentials

/-! ## Wrappers -/

/-- The kind of a redacting wrapper: the plain one, or one of the three consensus keys, each a
special case of the plain one. -/
inductive SecretKind where
  | plain
  | validatorKey
  | nodeKey
  | attesterKey
  deriving DecidableEq, Repr

namespace SecretKind

/-- The name under which a wrapper shows itself. -/
def name : SecretKind → String
  | plain => "Secret"
  | validatorKey => "ValidatorSecretKey"
  | nodeKey => "NodeSecretKey"
  | attesterKey => "AttesterSecretKey"

/-- Every kind. -/
def all : List SecretKind := [plain, validatorKey, nodeKey, attesterKey]

/-- Whether a wrapper of this kind may stand where one of the other kind is declared. -/
def fits (own declared : SecretKind) : Bool := declared == plain || own == declared

end SecretKind

/-! ## Groups and backends -/

/-- A group of credentials. -/
inductive Group where
  | database
  | l1
  | consensus
  | dataAvailability
  | contractVerifier
  deriving DecidableEq, Repr

namespace Group

/-- The groups in the order of the schema. -/
def all : List Group := [database, l1, consensus, dataAvailability, contractVerifier]

/-- The first segment of the group's paths. -/
def name : Group → String
  | database => "database"
  | l1 => "l1"
  | consensus => "consensus"
  | dataAvailability => "da"
  | contractVerifier => "contract_verifier"

/-- The group of a name. -/
def ofName? (s : String) : Option Group := all.find? (·.name == s)

theorem mem_all (g : Group) : g ∈ all := by cases g <;> decide

end Group

/-- A data-availability backend. -/
inductive Backend where
  | avail
  | celestia
  | eigen
  deriving DecidableEq, Repr

namespace Backend

/-- The backends in the order of the schema. -/
def all : List Backend := [avail, celestia, eigen]

/-- The backend's own segment of its paths, and its tag. -/
def name : Backend → String
  | avail => "avail"
  | celestia => "celestia"
  | eigen => "eigen"

/-- The backend of a name. -/
def ofName? (s : String) : Option Backend := all.find? (·.name == s)

theorem mem_all (b : Backend) : b ∈ all := by cases b <;> decide

end Backend

/-! ## Fields -/

/-- A credential. -/
inductive Field where
  | serverUrl
  | serverReplicaUrl
  | proverUrl
  | l1RpcUrl
  | gatewayRpcUrl
  | validatorKey
  | nodeKey
  | attesterKey
  | availSeedPhrase
  | availGasRelayApiKey
  | celestiaPrivateKey
  | eigenPrivateKey
  | etherscanApiKey
  deriving DecidableEq, Repr

namespace Field

/-- The credentials in the order of the schema. -/
def all : List Field :=
  [serverUrl, serverReplicaUrl, proverUrl, l1RpcUrl, gatewayRpcUrl, validatorKey, nodeKey,
    attesterKey, availSeedPhrase, availGasRelayApiKey, celestiaPrivateKey, eigenPrivateKey,
    etherscanApiKey]

theorem mem_all (f : Field) : f ∈ all := by cases f <;> decide

/-- The group that a credential belongs to. -/
def group : Field → Group
  | serverUrl | serverReplicaUrl | proverUrl => .database
  | l1RpcUrl | gatewayRpcUrl => .l1
  | validatorKey | nodeKey | attesterKey => .consensus
  | availSeedPhrase | availGasRelayApiKey => .dataAvailability
  | celestiaPrivateKey | eigenPrivateKey => .dataAvailability
  | etherscanApiKey => .contractVerifier

/-- The backend that a data-availability credential belongs to. -/
def backend? : Field → Option Backend
  | availSeedPhrase | availGasRelayApiKey => some .avail
  | celestiaPrivateKey => some .celestia
  | eigenPrivateKey => some .eigen
  | _ => none

/-- The last segment of the path: the name inside the group or, for a backend's credential, inside
the backend. -/
def localName : Field → String
  | serverUrl => "server_url"
  | serverReplicaUrl => "server_replica_url"
  | proverUrl => "prover_url"
  | l1RpcUrl => "l1_rpc_url"
  | gatewayRpcUrl => "gateway_rpc_url"
  | validatorKey => "validator_key"
  | nodeKey => "node_key"
  | attesterKey => "attester_key"
  | availSeedPhrase => "seed_phrase"
  | availGasRelayApiKey => "gas_relay_api_key"
  | celestiaPrivateKey | eigenPrivateKey => "private_key"
  | etherscanApiKey => "etherscan_api_key"

/-- The name of the slot in the group's record: backends share one record before one of them is
chosen, so their slots carry the backend's name. -/
def slot (f : Field) : String :=
  match f.backend? with
  | some b => b.name ++ "_" ++ f.localName
  | none => f.localName

/-- The wrapper declared for the credential. -/
def kind : Field → SecretKind
  | validatorKey => .validatorKey
  | nodeKey => .nodeKey
  | attesterKey => .attesterKey
  | _ => .plain

/-- The segments of the path. -/
def segments (f : Field) : List String :=
  match f.backend? with
  | some b => [f.group.name, b.name, f.localName]
  | none => [f.group.name, f.localName]

/-- The dotted path. -/
def path (f : Field) : String := ".".intercalate f.segments

/-- The credential at a path. -/
def ofPath? (p : String) : Option Field := all.find? (·.path == p)

/-- The credentials of a group. -/
def ofGroup (g : Group) : List Field := all.filter (·.group == g)

/-- The credentials of a backend. -/
def ofBackend (b : Backend) : List Field := all.filter (·.backend? == some b)

theorem ofPath?_path (f : Field) : ofPath? f.path = some f := by
  cases f <;> decide +kernel

theorem path_of_ofPath? {p : String} {f : Field} (h : ofPath? p = some f) : f.path = p := by
  simpa using List.find?_some h

theorem ofPath?_eq_some_iff {p : String} {f : Field} : ofPath? p = some f ↔ f.path = p :=
  ⟨path_of_ofPath?, fun h => h ▸ ofPath?_path f⟩

theorem path_injective {f g : Field} (h : f.path = g.path) : f = g := by
  have := ofPath?_path f
  rw [h, ofPath?_path] at this
  exact (Option.some.inj this).symm

end Field

end Credentials
