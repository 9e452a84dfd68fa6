import StructFill.CommandLine.Run
import StructFill.Config.Discovery
import StructFill.Generation
import StructFill.Main
import StructFill.Package.Directory
import StructFill.Proofs.Emission.Imports
import StructFill.Proofs.Emission.Soundness
import StructFill.Proofs.Generation.Accounting
import StructFill.Proofs.Session.Queries
import StructFill.Session.Opening
import StructFill.Session.Toolchain
import StructFill.Source.Grammar
import StructFill.Proofs.Generation.Qualifiers
import StructFill.Proofs.Files.Paths
import StructFill.Proofs.Output.Place
import StructFill.Proofs.Generation.Failures
import StructFill.Proofs.Generation.Names
import StructFill.Proofs.Files.Writing
import StructFill.Proofs.Generation.Agreement
import StructFill.Proofs.Generation.Regeneration
import StructFill.Proofs.CommandLine.Effects
import StructFill.Proofs.Generation.Usage
import StructFill.Proofs.Generation.Independence
import StructFill.Proofs.Generation.Laziness
import StructFill.Proofs.Generation.Stability
import StructFill.Proofs.Generation.Placeholders
import StructFill.Proofs.Package.Bindings
import StructFill.Proofs.Session.Placement
import StructFill.Proofs.Emission.Reading
import StructFill.Proofs.Session.Probing
import StructFill.Proofs.Source.TagBytes
import StructFill.Proofs.Emission.Results
import StructFill.Proofs.Source.Quoting
import StructFill.Proofs.Naming.SnakeCase
import StructFill.Proofs.Package.Selection
import StructFill.Proofs.Package.Constraints
import StructFill.Proofs.Generation.Visibility
import StructFill.Proofs.Generation.Capture
import StructFill.Proofs.Package.FileForms
import StructFill.Proofs.Package.Coherence
import StructFill.Proofs.Session.Containment
import StructFill.Proofs.Config.Discovery
