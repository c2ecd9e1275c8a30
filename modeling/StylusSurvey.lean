import StylusSurvey.Main
import StylusSurvey.Proofs.Characters
import StylusSurvey.Proofs.Texts
import StylusSurvey.Proofs.Lines
import StylusSurvey.Proofs.Braces
import StylusSurvey.Proofs.Declarations
import StylusSurvey.Proofs.Scan
import StylusSurvey.Proofs.Layout
import StylusSurvey.Proofs.Positions
import StylusSurvey.Proofs.Slices
import StylusSurvey.Proofs.Enclosure
import StylusSurvey.Proofs.Bookkeeping
import StylusSurvey.Proofs.Signatures
import StylusSurvey.Proofs.SignatureExtent
import StylusSurvey.Proofs.CommentLines
import StylusSurvey.Proofs.StorageScan
import StylusSurvey.Proofs.StorageLines
import StylusSurvey.Proofs.StorageExtent
import StylusSurvey.Proofs.Comments
import StylusSurvey.Proofs.Printing
import StylusSurvey.Proofs.SignatureLayouts
import StylusSurvey.Proofs.PrintedFields
import StylusSurvey.Proofs.PrintedFunctions
import StylusSurvey.Proofs.PrintedContracts
import StylusSurvey.Proofs.Bytes
import StylusSurvey.Proofs.Decoding
import StylusSurvey.Proofs.Values
import StylusSurvey.Proofs.Numerals
import StylusSurvey.Proofs.TypeNames
import StylusSurvey.Proofs.Integers
import StylusSurvey.Proofs.PrintedValues
import StylusSurvey.Proofs.Digits
import StylusSurvey.Proofs.Lowercase
import StylusSurvey.Proofs.Intents
import StylusSurvey.Proofs.Calls
import StylusSurvey.Proofs.EncodingErrors
import StylusSurvey.Proofs.InterfaceTypes
import StylusSurvey.Proofs.AcceptedTypes
import StylusSurvey.Proofs.ReturnTypes
import StylusSurvey.Proofs.TestNames
import StylusSurvey.Proofs.TestModules
import StylusSurvey.Proofs.Literals
import StylusSurvey.Proofs.LongestKeys
import StylusSurvey.Proofs.JsonTokens
import StylusSurvey.Proofs.PrintedJson
import StylusSurvey.Proofs.Documents
import StylusSurvey.Proofs.ResultDocuments
import StylusSurvey.Proofs.PrintedDocuments
import StylusSurvey.Proofs.Runs
import StylusSurvey.Proofs.ManifestFiles
import StylusSurvey.Proofs.FileTrees
import StylusSurvey.Proofs.OutputOption
import StylusSurvey.Proofs.Outputs
import StylusSurvey.Proofs.ToolCalls
import StylusSurvey.Proofs.Tallies
import StylusSurvey.Proofs.XmlTags
import StylusSurvey.Proofs.XmlReports
import StylusSurvey.Proofs.XmlElements
import StylusSurvey.Proofs.XmlReadBack
import StylusSurvey.Proofs.Reports
import StylusSurvey.Proofs.Suggestions
import StylusSurvey.Proofs.TableRows
import StylusSurvey.Proofs.AuditParts
import StylusSurvey.Proofs.Occurrences
import StylusSurvey.Proofs.BlockParts
import StylusSurvey.Proofs.LineEnds
import StylusSurvey.Proofs.XmlCharacters
import StylusSurvey.Proofs.SortedTrees
import StylusSurvey.Proofs.Discovery
