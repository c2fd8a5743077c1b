import EnumCases.Expansion
import EnumCases.Trace
import EnumCases.Proofs.Accessor
import EnumCases.Proofs.Names
import EnumCases.Proofs.Predicate
import EnumCases.Proofs.Rendering
import EnumCases.Proofs.Verdict
import EnumCases.Proofs.Outcome
import EnumCases.Proofs.Alike
import EnumCases.Proofs.Parsing
import EnumCases.Proofs.ReadBack
import EnumCases.Proofs.Outline
import EnumCases.Proofs.Scanning
import EnumCases.Proofs.EscapeRules
import EnumCases.Proofs.Depth
import EnumCases.Proofs.Settings
import EnumCases.Proofs.PathStyle
import EnumCases.Proofs.Gaps
import EnumCases.Proofs.Discriminator
import EnumCases.Proofs.Reescape
import EnumCases.Proofs.Image
import EnumCases.Proofs.Report
import EnumCases.Proofs.Hygiene
