import UxLint.Main
import UxLint.Proofs.Config.Loading
import UxLint.Proofs.Diff.PatchReading
import UxLint.Proofs.Report.OrderFree
import UxLint.Proofs.Request.Folding
import UxLint.Proofs.Resolver.Agreement
import UxLint.Proofs.Resolver.Memo
import UxLint.Proofs.Rule.Findings
import UxLint.Proofs.Rule.Narrowing
import UxLint.Proofs.Run.Containment
import UxLint.Proofs.Run.Forgetful
import UxLint.Proofs.Run.Narrowing
import UxLint.Proofs.Run.Pairs
import UxLint.Proofs.Run.Switching
import UxLint.Proofs.Source.Blanking
import UxLint.Proofs.Source.Regions
import UxLint.Proofs.StableSort
import UxLint.Proofs.Rule.Location
import UxLint.Proofs.Source.Immunity
import UxLint.Proofs.Resolver.Calls
import UxLint.Proofs.Source.Reblanking
import UxLint.Proofs.Request.Comments
import UxLint.Proofs.Markup.Binding
import UxLint.Proofs.Loading.Flow
import UxLint.Proofs.Rule.Diagnosis
import UxLint.Proofs.Loading.Protection
import UxLint.Proofs.Rule.Protection
import UxLint.Proofs.Request.Sites
import UxLint.Proofs.Resolver.Declarations
import UxLint.Proofs.Rule.Additions
import UxLint.Proofs.Rule.Reference
import UxLint.Proofs.Diff.Sections
import UxLint.Proofs.Rule.Limiters
import UxLint.Proofs.Rule.Faults
import UxLint.Proofs.Markup.Extraction
import UxLint.Proofs.Config.Overlay
import UxLint.Proofs.Config.Schema
import UxLint.Proofs.Text.PathPatterns
import UxLint.Proofs.Rule.Spelling
import UxLint.Proofs.Rule.Lists
import UxLint.Proofs.Rule.Tally
import UxLint.Proofs.Rule.Touching
import UxLint.Proofs.Rule.Whitelisting
import UxLint.Proofs.Guidance.Asking
import UxLint.Proofs.Project.Walks
import UxLint.Proofs.Rule.SourceOrder
