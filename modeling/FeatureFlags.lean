import FeatureFlags.Criterion.Rule
import FeatureFlags.Document.Source
import FeatureFlags.Proofs.Document.Exchange
import FeatureFlags.Proofs.Document.Meaning
import FeatureFlags.Proofs.Document.Problems
import FeatureFlags.Proofs.Document.Refusal
import FeatureFlags.Proofs.Document.Classification
import FeatureFlags.Proofs.Document.Source
import FeatureFlags.Proofs.Document.Independence
import FeatureFlags.Proofs.Criterion.Spelling
import FeatureFlags.Proofs.Parameters
import FeatureFlags.Proofs.Document.Case
import FeatureFlags.Proofs.Criterion.Checked
import FeatureFlags.Proofs.Document.Validation
import FeatureFlags.Proofs.Text.Casing
import FeatureFlags.Proofs.Document.Names
import FeatureFlags.Proofs.Catalog
import FeatureFlags.Proofs.Catalog.Replacement
import FeatureFlags.Proofs.Text.Unbroken
import FeatureFlags.Proofs.Criterion.Unbroken
import FeatureFlags.Proofs.Document.Messages
import FeatureFlags.Proofs.Document.Growth
import FeatureFlags.Proofs.Document.Consulted
import FeatureFlags.Proofs.Document.Insertion
import FeatureFlags.Proofs.Document.Padding
import FeatureFlags.Proofs.Feature.Frame
import FeatureFlags.Proofs.Document.Shelved
import FeatureFlags.Proofs.Feature.Recorded
import FeatureFlags.Proofs.Text.Reader
