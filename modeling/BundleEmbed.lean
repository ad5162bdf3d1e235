import BundleEmbed.Main
import BundleEmbed.Proofs.Pass
import BundleEmbed.Proofs.Run
import BundleEmbed.Proofs.InlinePrecedence
import BundleEmbed.Proofs.ExactClassification
import BundleEmbed.Proofs.HeaderForm
import BundleEmbed.Proofs.Globs
import BundleEmbed.Proofs.Additions
import BundleEmbed.Proofs.HeaderKeys
import BundleEmbed.Proofs.Refusal
import BundleEmbed.Proofs.WriteBack
import BundleEmbed.Proofs.ReadBack
import BundleEmbed.Proofs.Reordering
import BundleEmbed.Proofs.Composition
import BundleEmbed.Proofs.RuleOrder
import BundleEmbed.Proofs.ProcessFailure
import BundleEmbed.Proofs.LoadFailure
import BundleEmbed.Proofs.DirectFlag
import BundleEmbed.Proofs.DescriptorCheck
import BundleEmbed.Proofs.DirectoryPrecedence
import BundleEmbed.Proofs.FileShape
import BundleEmbed.Proofs.FlagEdits
import BundleEmbed.Proofs.Json.RoundTrip
import BundleEmbed.Proofs.JsonReport
import BundleEmbed.Proofs.StatedProperties
import BundleEmbed.Proofs.Requests
import BundleEmbed.Proofs.Observation
import BundleEmbed.Proofs.TransitiveSelection
import BundleEmbed.Proofs.NullFields
import BundleEmbed.Proofs.BarePrefix
import BundleEmbed.Proofs.Negation
import BundleEmbed.Proofs.RunningHeaders
import BundleEmbed.Proofs.Targets
import BundleEmbed.Proofs.PathText
import BundleEmbed.Proofs.StatedFiles
import BundleEmbed.Proofs.Coordinates
