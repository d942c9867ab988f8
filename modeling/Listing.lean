import Listing.Catalogue
import Listing.Classification.Memo
import Listing.Http.Exchange
import Listing.Parameter
import Listing.Sql
import Listing.Store
import Listing.Proofs.Documentation
import Listing.Proofs.Moments
import Listing.Proofs.Numerals
import Listing.Proofs.PageDefaults
import Listing.Proofs.Paging
import Listing.Proofs.Parameters
import Listing.Proofs.RangePolicy
import Listing.Proofs.Shadowing
import Listing.Proofs.Statement
import Listing.Proofs.Identifiers
import Listing.Proofs.Documents
import Listing.Proofs.Rounding
import Listing.Proofs.FieldStorage
import Listing.Proofs.RecordStorage
import Listing.Proofs.Insertion
import Listing.Proofs.SortedPairs
import Listing.Proofs.Settings
import Listing.Proofs.Binding
import Listing.Proofs.ParameterOrder
import Listing.Proofs.IgnoredParameters
import Listing.Proofs.DocumentedBinding
import Listing.Proofs.PatternMatching
import Listing.Proofs.PatternTranslation
import Listing.Proofs.SelfMatch
import Listing.Proofs.History
import Listing.Proofs.Failures
import Listing.Proofs.TypedBounds
import Listing.Proofs.FieldChanges
import Listing.Proofs.Remembering
import Listing.Proofs.Scanning
import Listing.Proofs.DocumentTexts
import Listing.Proofs.Structures
import Listing.Proofs.RangeDocuments
import Listing.Proofs.RangeStorage
import Listing.Proofs.FilterStorage
import Listing.Proofs.TextSearch
import Listing.Proofs.LoweredOrder
import Listing.Proofs.RecordTypes
import Listing.Proofs.SortedSelection
import Listing.Proofs.Refusals
import Listing.Proofs.EmptyLists
import Listing.Proofs.KindReading
import Listing.Proofs.Narrowing
import Listing.Proofs.LooseEquality
import Listing.Proofs.CaseFolding
import Listing.Proofs.CompiledForm
import Listing.Proofs.MixedOrder
import Listing.Proofs.Customizing
import Listing.Proofs.UntypedReading
import Listing.Proofs.NearestNumbers
import Listing.Proofs.UntypedValues
import Listing.Proofs.JoinedTexts
import Listing.Proofs.Words
import Listing.Proofs.QuotedNames
import Listing.Proofs.DisplayedValues
