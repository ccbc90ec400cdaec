import ClassQuota.Assembly
import ClassQuota.LintRun
import ClassQuota.Proofs.Settling
import ClassQuota.Proofs.CheckerRun
import ClassQuota.Proofs.Interleaving
import ClassQuota.Proofs.TreeWalk
import ClassQuota.Proofs.Respelling
import ClassQuota.Proofs.FileRemoval
import ClassQuota.Proofs.UpwardSearch
import ClassQuota.Proofs.UnreadableFiles
import ClassQuota.Proofs.DocumentLevels
import ClassQuota.Proofs.DecimalNumeral
import ClassQuota.Proofs.IntegerArgument
import ClassQuota.Proofs.NearestDocument
import ClassQuota.Proofs.FailedApplications
import ClassQuota.Proofs.EntryLookup
import ClassQuota.Proofs.RuleLog
import ClassQuota.Proofs.PlainText
import ClassQuota.Proofs.MessageTable
import ClassQuota.Proofs.BoxedEntries
import ClassQuota.Proofs.RegistryCopies
import ClassQuota.Proofs.AssemblyPast
import ClassQuota.Proofs.AssemblyTrace
import ClassQuota.Proofs.PrintableLiteral
import ClassQuota.Proofs.PlainReports
