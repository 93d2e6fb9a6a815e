import StructBridge.Main
import StructBridge.Proofs.ConversionTyping
import StructBridge.Proofs.Selection
import StructBridge.Proofs.Refusal
import StructBridge.Proofs.Growth
import StructBridge.Proofs.WriteOutcome
import StructBridge.Proofs.WriteSafety
import StructBridge.Proofs.Brackets
import StructBridge.Proofs.HeaderParts
import StructBridge.Proofs.Nesting
import StructBridge.Proofs.TypeGrammar
import StructBridge.Proofs.Overwriting
import StructBridge.Proofs.NamesInCode
import StructBridge.Proofs.Alphabet
import StructBridge.Proofs.AccessorLines
import StructBridge.Proofs.EncodableHeader
import StructBridge.Proofs.CallText
import StructBridge.Proofs.CallSafety
import StructBridge.Proofs.AccessorNames
import StructBridge.Proofs.SelectionOrder
import StructBridge.Proofs.Spelling
import StructBridge.Proofs.ForeignWords
import StructBridge.Proofs.HiddenDirectories
import StructBridge.Proofs.DictionaryKeys
import StructBridge.Proofs.BlockParameters
import StructBridge.Proofs.OffendingNode
import StructBridge.Proofs.FaultPaths
import StructBridge.Proofs.SettingsRoundTrip
import StructBridge.Proofs.TypeShapes
import StructBridge.Proofs.MemberNames
import StructBridge.Proofs.WriteAgreement
import StructBridge.Proofs.SourceRoutes
import StructBridge.Proofs.GeneratorHistory
import StructBridge.Proofs.HeaderComment
import StructBridge.Proofs.CanonicalNames
