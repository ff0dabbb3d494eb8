import NetworkAutomation.Text.Blank
import NetworkAutomation.Text.Numeral
import NetworkAutomation.Text.Replace
import NetworkAutomation.Decimal.Spelling
import NetworkAutomation.Document.Printer
import NetworkAutomation.Document.Reader
import NetworkAutomation.Yaml.Lexer
import NetworkAutomation.Yaml.Node
import NetworkAutomation.Yaml.Content
import NetworkAutomation.Entity.Naming
import NetworkAutomation.Entity.Serialization
import NetworkAutomation.Entity.Reading
import NetworkAutomation.Collection.Path
import NetworkAutomation.Runner.Basic
import NetworkAutomation.Bindings.Source
import NetworkAutomation.Bindings.Description
import NetworkAutomation.Specification.Description
import NetworkAutomation.Main
import NetworkAutomation.Proofs.WellFormedDocuments
import NetworkAutomation.Proofs.Descent
import NetworkAutomation.Proofs.Slots
import NetworkAutomation.Proofs.Reading
import NetworkAutomation.Proofs.Workspace
import NetworkAutomation.Proofs.Soundness
import NetworkAutomation.Proofs.Layout
import NetworkAutomation.Proofs.Admission
import NetworkAutomation.Proofs.Coercion
import NetworkAutomation.Proofs.TypeBuilding
import NetworkAutomation.Proofs.Paths
import NetworkAutomation.Proofs.Edits
import NetworkAutomation.Proofs.Collections
import NetworkAutomation.Proofs.Preservation
import NetworkAutomation.Proofs.Conformance
import NetworkAutomation.Proofs.Rebuilding
import NetworkAutomation.Proofs.ReadingBack
import NetworkAutomation.Proofs.RoundTrip
import NetworkAutomation.Proofs.InPlace
import NetworkAutomation.Proofs.CommandsInPlace
import NetworkAutomation.Proofs.FailedOperations
import NetworkAutomation.Proofs.InsertionMap
import NetworkAutomation.Proofs.MapRefinement
import NetworkAutomation.Proofs.ParsedSpecifications
import NetworkAutomation.Proofs.Compilation
import NetworkAutomation.Proofs.Invocation
import NetworkAutomation.Proofs.HeldKeys
import NetworkAutomation.Proofs.KeysInPlace
import NetworkAutomation.Proofs.ModelIdentity
import NetworkAutomation.Proofs.ShortestDecimals
import NetworkAutomation.Proofs.NumberTexts
import NetworkAutomation.Proofs.Agreement
import NetworkAutomation.Proofs.Digests
import NetworkAutomation.Proofs.Readers
import NetworkAutomation.Proofs.Restoring
import NetworkAutomation.Proofs.Refilling
import NetworkAutomation.Proofs.Rereading
import NetworkAutomation.Proofs.Normalization
import NetworkAutomation.Proofs.CollectionRoundTrip
import NetworkAutomation.Proofs.ReservedNames
import NetworkAutomation.Proofs.SpecificationGrammar
import NetworkAutomation.Proofs.KeptDeclarations
import NetworkAutomation.Proofs.RunnerHistories
import NetworkAutomation.Proofs.EditsAlongPaths
import NetworkAutomation.Proofs.HiddenSlots
import NetworkAutomation.Proofs.Filling
import NetworkAutomation.Proofs.CapturedKeys
import NetworkAutomation.Proofs.FieldOrder
import NetworkAutomation.Proofs.Inheritance
import NetworkAutomation.Proofs.Capabilities
import NetworkAutomation.Proofs.FieldCommands
import NetworkAutomation.Proofs.DocumentShape
import NetworkAutomation.Proofs.SettledValues
import NetworkAutomation.Proofs.Replacement
import NetworkAutomation.Proofs.ConfigObjects
import NetworkAutomation.Proofs.OmittedArguments
import NetworkAutomation.Proofs.Judgements
import NetworkAutomation.Proofs.TruthfulReports
import NetworkAutomation.Proofs.CompiledModels
import NetworkAutomation.Proofs.JudgedBindings
import NetworkAutomation.Proofs.DeclaredValidators
import NetworkAutomation.Proofs.WordTexts
import NetworkAutomation.Proofs.ConfigLines
import NetworkAutomation.Proofs.OperationPlaybooks
import NetworkAutomation.Proofs.NestedBraces
import NetworkAutomation.Proofs.PassedTexts
import NetworkAutomation.Proofs.EmbeddedObjects
import NetworkAutomation.Proofs.LastObject
import NetworkAutomation.Proofs.IntegerArguments
