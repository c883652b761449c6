import TokenQuery.Pattern.Match
import TokenQuery.Proofs.Criteria.Anchored
import TokenQuery.Proofs.Criteria.Built
import TokenQuery.Proofs.Criteria.Meaning
import TokenQuery.Proofs.Dataset.Addition
import TokenQuery.Proofs.Dataset.Apply
import TokenQuery.Proofs.Dataset.Batch
import TokenQuery.Proofs.Dataset.Concatenation
import TokenQuery.Proofs.Dataset.Identity
import TokenQuery.Proofs.Dataset.Index
import TokenQuery.Proofs.Dataset.Lookup
import TokenQuery.Proofs.Dataset.Parts
import TokenQuery.Proofs.Dataset.Reachable
import TokenQuery.Proofs.Dataset.Removal
import TokenQuery.Proofs.Dataset.Reordering
import TokenQuery.Proofs.Edit.Acceptance
import TokenQuery.Proofs.Edit.Batch
import TokenQuery.Proofs.Edit.Bounds
import TokenQuery.Proofs.Edit.Commit
import TokenQuery.Proofs.Edit.Staging
import TokenQuery.Proofs.Entries
import TokenQuery.Proofs.Object.Definitions
import TokenQuery.Proofs.Object.Lookups
import TokenQuery.Proofs.Object.Parts
import TokenQuery.Proofs.Object.Readers
import TokenQuery.Proofs.Object.Tags
import TokenQuery.Proofs.Pattern.Anchored
import TokenQuery.Proofs.Pattern.ClassExtension
import TokenQuery.Proofs.Pattern.Enclosure
import TokenQuery.Proofs.Pattern.Escaped
import TokenQuery.Proofs.Query.Alike
import TokenQuery.Proofs.Query.Arrangement
import TokenQuery.Proofs.Query.Keeping
import TokenQuery.Proofs.Query.Labels
import TokenQuery.Proofs.Query.Prolonged
import TokenQuery.Proofs.Query.StopPoint
import TokenQuery.Proofs.Scan.Answers
import TokenQuery.Proofs.Scan.Refusal
import TokenQuery.Proofs.Scope.Boundary
import TokenQuery.Proofs.Scope.Deletion
import TokenQuery.Proofs.Scope.Dictionary
import TokenQuery.Proofs.Scope.Kinds
import TokenQuery.Proofs.Scope.Records
import TokenQuery.Proofs.Settings.Categories
import TokenQuery.Proofs.Settings.Override
import TokenQuery.Proofs.Settings.Queries
import TokenQuery.Proofs.Token.Grammar
import TokenQuery.Proofs.Token.RoundTrip
import TokenQuery.Proofs.Token.Shorthand
import TokenQuery.Proofs.Token.Signature
import TokenQuery.Proofs.Traversal.Calls
import TokenQuery.Proofs.Traversal.Full
import TokenQuery.Proofs.Traversal.Pass
import TokenQuery.Settings.Load
