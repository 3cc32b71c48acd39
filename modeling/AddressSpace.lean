import AddressSpace.Error
import AddressSpace.Text.Numeral
import AddressSpace.Text.Blank
import AddressSpace.Text.Printable
import AddressSpace.Text.Escaped
import AddressSpace.Uuid
import AddressSpace.NodeId.Basic
import AddressSpace.NodeId.WellKnown
import AddressSpace.NodeId.Parse
import AddressSpace.Attribute
import AddressSpace.NodeClass
import AddressSpace.Value
import AddressSpace.Limits
import AddressSpace.Reference
import AddressSpace.Store
import AddressSpace.Store.Subtypes
import AddressSpace.Browse
import AddressSpace.AttributeStore
import AddressSpace.Space
import AddressSpace.Standard
import AddressSpace.Number.Binary64
import AddressSpace.Number.Shortest
import AddressSpace.Json.Basic
import AddressSpace.Json.Encode
import AddressSpace.Json.Decode
import AddressSpace.Json.Syntax
import AddressSpace.Json.Parse
import AddressSpace.Table
import AddressSpace.Output
import AddressSpace.Failure
import AddressSpace.Config.Toml
import AddressSpace.Config.Settings
import AddressSpace.Config.File
import AddressSpace.Files.Path
import AddressSpace.Files.Access
import AddressSpace.Files.Tree
import AddressSpace.CommandLine.Grammar
import AddressSpace.CommandLine.Invocation
import AddressSpace.CommandLine.Commands
import AddressSpace.CommandLine.Program
import AddressSpace.Main
import AddressSpace.Proofs.StoreIndex
import AddressSpace.Proofs.SubtypeClosure
import AddressSpace.Proofs.BrowseSpec
import AddressSpace.Proofs.BrowseFilters
import AddressSpace.Proofs.ReadCommand
import AddressSpace.Proofs.AttributeRead
import AddressSpace.Proofs.NodeIdText
import AddressSpace.Proofs.SnapshotJson
import AddressSpace.Proofs.SettingsToml
import AddressSpace.Proofs.DirectoryMaking
import AddressSpace.Proofs.SettingsFile
import AddressSpace.Proofs.ClosureLaws
import AddressSpace.Proofs.ClosurePasses
import AddressSpace.Proofs.AttributeText
import AddressSpace.Proofs.ClassMasks
import AddressSpace.Proofs.TableLayout
