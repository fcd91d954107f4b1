import RegexInsight.Main
import RegexInsight.Proofs.StepLimit
import RegexInsight.Proofs.Enumeration
import RegexInsight.Proofs.Tiling
import RegexInsight.Proofs.MachineBounds
import RegexInsight.Proofs.ReadBack
import RegexInsight.Proofs.Enclosure
import RegexInsight.Proofs.PlaceInvariance
import RegexInsight.Proofs.EnclosedText
import RegexInsight.Proofs.SearchAnswers
import RegexInsight.Proofs.EnclosedPattern
import RegexInsight.Proofs.Transparency
import RegexInsight.Proofs.Repetition
import RegexInsight.Proofs.CountedLoops
import RegexInsight.Proofs.Validity
import RegexInsight.Proofs.EstimateSound
import RegexInsight.Proofs.Greediness
import RegexInsight.Proofs.WiderModes
import RegexInsight.Proofs.StrictReading
import RegexInsight.Proofs.Anchoring
import RegexInsight.Proofs.Covering
import RegexInsight.Proofs.AnchoredSearch
import RegexInsight.Proofs.ProgramSize
import RegexInsight.Proofs.OnePass
import RegexInsight.Proofs.SingleMember
import RegexInsight.Proofs.Truncation
import RegexInsight.Proofs.StepCounts
import RegexInsight.Proofs.CaptureSpans
import RegexInsight.Proofs.Rewriting
import RegexInsight.Proofs.RewrittenAtoms
import RegexInsight.Proofs.RewrittenRuns
import RegexInsight.Proofs.ShorterForms
import RegexInsight.Proofs.Escalation
import RegexInsight.Proofs.WorkBudget
import RegexInsight.Proofs.SeedClipping
import RegexInsight.Proofs.VariantOverlap
import RegexInsight.Proofs.IntentSelection
import RegexInsight.Proofs.QuantifierText
import RegexInsight.Proofs.RejectedPatterns
import RegexInsight.Proofs.SeedCap
import RegexInsight.Proofs.WarningExamples
import RegexInsight.Proofs.LiteralLines
import RegexInsight.Proofs.ControlFree
import RegexInsight.Proofs.ReadNames
import RegexInsight.Proofs.ExplainedText
import RegexInsight.Proofs.ReportLines
import RegexInsight.Proofs.ReportControls
import RegexInsight.Proofs.Rollback
import RegexInsight.Proofs.Listing
import RegexInsight.Proofs.VariantLists
import RegexInsight.Proofs.LiteralRuns
