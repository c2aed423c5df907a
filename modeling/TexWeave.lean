import TexWeave.Main
import TexWeave.Proofs.Commands
import TexWeave.Proofs.Files
import TexWeave.Proofs.Growth
import TexWeave.Proofs.Listings
import TexWeave.Text.Utf8
import TexWeave.Proofs.Verbatim
import TexWeave.Proofs.Paths
import TexWeave.Proofs.Recompile
import TexWeave.Proofs.Operations
import TexWeave.Proofs.History
import TexWeave.Proofs.Embedding
import TexWeave.Proofs.Environments
import TexWeave.Proofs.Nesting
import TexWeave.Proofs.LogErrors
import TexWeave.Proofs.Console
import TexWeave.Proofs.Delivery
import TexWeave.Proofs.LineNumbers
import TexWeave.Proofs.WarningLines
import TexWeave.Proofs.WarningNames
import TexWeave.Proofs.Unresolved
import TexWeave.Proofs.Headings
import TexWeave.Proofs.Labels
import TexWeave.Proofs.References
import TexWeave.Proofs.Packages
import TexWeave.Proofs.Margins
import TexWeave.Proofs.Pushing
import TexWeave.Proofs.SinglePass
import TexWeave.Proofs.AutoSections
import TexWeave.Proofs.ModeSwitch
import TexWeave.Proofs.GivenFile
import TexWeave.Proofs.Indentation
import TexWeave.Proofs.Recovery
import TexWeave.Proofs.Words
import TexWeave.Proofs.Readings
import TexWeave.Proofs.Statements
import TexWeave.Proofs.Literals
import TexWeave.Proofs.Scanning
import TexWeave.Proofs.Moves
import TexWeave.Proofs.Placement
import TexWeave.Proofs.Definitions
import TexWeave.Proofs.DeclaredNames
import TexWeave.Proofs.Resuming
import TexWeave.Proofs.PassedLines
import TexWeave.Proofs.ValidSources
import TexWeave.Proofs.Rounding
import TexWeave.Proofs.Points
import TexWeave.Proofs.Spans
import TexWeave.Proofs.Trees
import TexWeave.Proofs.FirstLines
import TexWeave.Proofs.Contexts
import TexWeave.Proofs.Substitution
import TexWeave.Proofs.Titles
import TexWeave.Proofs.Reports
import TexWeave.Proofs.Excerpts
import TexWeave.Proofs.LoneDefinitions
import TexWeave.Proofs.SlicedAgain
import TexWeave.Proofs.Records
import TexWeave.Proofs.Unindented
import TexWeave.Proofs.UniformIndents
import TexWeave.Proofs.DescribedDefinitions
