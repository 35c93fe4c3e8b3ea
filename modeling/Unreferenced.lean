import Unreferenced.Main
import Unreferenced.Proofs.CandidateSet
import Unreferenced.Proofs.CommandLine.Answer
import Unreferenced.Proofs.Config.Settings
import Unreferenced.Proofs.Content.Unset
import Unreferenced.Proofs.Corpus
import Unreferenced.Proofs.Duration
import Unreferenced.Proofs.Identity.Coherence
import Unreferenced.Proofs.Identity.FileName
import Unreferenced.Proofs.Identity.TextForm
import Unreferenced.Proofs.LetterCase.Scan
import Unreferenced.Proofs.Report.Json
import Unreferenced.Proofs.Report.Order
import Unreferenced.Proofs.Report.Text
import Unreferenced.Proofs.Report.Warning
import Unreferenced.Proofs.Scan.Interrupted
import Unreferenced.Proofs.Scan.PlainText
import Unreferenced.Proofs.Scan.Repair
import Unreferenced.Proofs.Scan.Sequential
import Unreferenced.Proofs.Scan.Unused
import Unreferenced.Proofs.Script.Balance
import Unreferenced.Proofs.Script.References
import Unreferenced.Proofs.Store.History
