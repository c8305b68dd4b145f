import Deduction.Main
import Deduction.Proofs.ExitStatus
import Deduction.Proofs.Isolation
import Deduction.Proofs.LeastModel
import Deduction.Proofs.Prompt
import Deduction.Proofs.Rearrangement
import Deduction.Proofs.Renaming
import Deduction.Proofs.Renderings
import Deduction.Proofs.RequestBody
import Deduction.Proofs.Resumption
import Deduction.Proofs.RunLog
import Deduction.Proofs.RunReport
import Deduction.Proofs.Snapshot
import Deduction.Proofs.StoreHistory
import Deduction.Proofs.Parts
import Deduction.Proofs.LineGrammar
import Deduction.Proofs.PatternGrammar
import Deduction.Proofs.WrittenStore
import Deduction.Proofs.Verdict
import Deduction.Proofs.LeastMatch
import Deduction.Proofs.LineReports
import Deduction.Proofs.Inspection
import Deduction.Proofs.CredentialWarning
import Deduction.Proofs.AtomOrder
