import Credentials.Attribute
import Credentials.Bundle.Open
import Credentials.Main
import Credentials.Placeholder
import Credentials.Proofs.Alike
import Credentials.Proofs.CheckRun
import Credentials.Proofs.Documents.Acceptance
import Credentials.Proofs.Documents.CleanFailure
import Credentials.Proofs.DumpReload
import Credentials.Proofs.Extensionality
import Credentials.Proofs.Findings
import Credentials.Proofs.FirstFault
import Credentials.Proofs.Growth
import Credentials.Proofs.History
import Credentials.Proofs.KeyChains
import Credentials.Proofs.LastWrite
import Credentials.Proofs.Layering
import Credentials.Proofs.LoadsAndCalls
import Credentials.Proofs.MergeAlgebra
import Credentials.Proofs.Narrowing
import Credentials.Proofs.Nesting
import Credentials.Proofs.Noninterference
import Credentials.Proofs.Reachable
import Credentials.Proofs.Reveal
import Credentials.Proofs.Spellings
import Credentials.Proofs.Usable
import Credentials.Proofs.Validation
