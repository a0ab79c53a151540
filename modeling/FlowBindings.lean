import FlowBindings.Inspect.Collection
import FlowBindings.Inspect.Identifiers
import FlowBindings.Inspect.Layouts
import FlowBindings.Inspect.Loci
import FlowBindings.Inspect.ObjectModel
import FlowBindings.Inspect.Outline
import FlowBindings.Inspect.Template
import FlowBindings.Inspect.TypeSpec
import FlowBindings.Main
import FlowBindings.Markup
import FlowBindings.Proofs.AccessorSwitch
import FlowBindings.Proofs.AppendedMembers
import FlowBindings.Proofs.BitmaskFlags
import FlowBindings.Proofs.CleanedImports
import FlowBindings.Proofs.Containment
import FlowBindings.Proofs.DissectorFields
import FlowBindings.Proofs.Grammar.RoundTrip
import FlowBindings.Proofs.Identification
import FlowBindings.Proofs.IdentifierHeader
import FlowBindings.Proofs.IntegerLiterals
import FlowBindings.Proofs.LengthPlaceholders
import FlowBindings.Proofs.ModuleOrder
import FlowBindings.Proofs.OrderedSets
import FlowBindings.Proofs.RememberedResults
import FlowBindings.Proofs.StableEnums
import FlowBindings.Proofs.TestSections
import FlowBindings.Proofs.TypeLengths
import FlowBindings.Proofs.TypeResolution
import FlowBindings.Proofs.VersionTables
import FlowBindings.Proofs.WrittenTypes
