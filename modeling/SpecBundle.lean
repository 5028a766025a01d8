import SpecBundle.Main
import SpecBundle.Proofs.Entity.Attributes
import SpecBundle.Proofs.Identifiers.Distinct
import SpecBundle.Proofs.Identifiers.Printed
import SpecBundle.Proofs.Relationship.Settle
import SpecBundle.Proofs.Relationship.Suffixes
import SpecBundle.Proofs.Relationship.Lookups
import SpecBundle.Proofs.SystemForm.Subgrids
import SpecBundle.Proofs.Document.Extension
import SpecBundle.Proofs.SavedQuery.Compile
import SpecBundle.Proofs.SavedQuery.Columns
import SpecBundle.Proofs.SavedQuery.Labels
import SpecBundle.Proofs.Document.Failure
import SpecBundle.Proofs.Document.Placement
import SpecBundle.Proofs.Document.RootComponents
import SpecBundle.Proofs.Identifiers.FromNames
import SpecBundle.Proofs.Verification.Evidence
import SpecBundle.Proofs.Document.OptionSets
import SpecBundle.Proofs.Json.Related
import SpecBundle.Proofs.Path.Order
import SpecBundle.Proofs.SavedQuery.RelativeDates
import SpecBundle.Proofs.Verification.Findings
import SpecBundle.Proofs.Verification.Verdict
import SpecBundle.Proofs.Document.Markup
import SpecBundle.Proofs.Document.Captions
import SpecBundle.Proofs.SavedQuery.Values
import SpecBundle.Proofs.SystemForm.Bindings
import SpecBundle.Proofs.Relationship.Targets
import SpecBundle.Proofs.Text.Bytes
import SpecBundle.Proofs.Names.Prefix
import SpecBundle.Proofs.Names.References
import SpecBundle.Proofs.Entity.Assembly
import SpecBundle.Proofs.SystemForm.Controls
import SpecBundle.Proofs.Text.Utf8
import SpecBundle.Proofs.FileTree.Listing
import SpecBundle.Proofs.FileTree.Following
import SpecBundle.Proofs.Path.Names
import SpecBundle.Proofs.Path.Components
import SpecBundle.Proofs.FileTree.Removal
import SpecBundle.Proofs.Build.Cleaning
import SpecBundle.Proofs.Spec.Reading
import SpecBundle.Proofs.Verification.Patterns
import SpecBundle.Proofs.Verification.ResultPaths
