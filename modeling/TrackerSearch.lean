import TrackerSearch.App.State
import TrackerSearch.Config.Database
import TrackerSearch.Config.Decode
import TrackerSearch.Config.DotEnv
import TrackerSearch.Config.Environment
import TrackerSearch.Config.Settings
import TrackerSearch.Config.Sources
import TrackerSearch.Config.Value
import TrackerSearch.Decimal.Shortest
import TrackerSearch.Decimal.Text
import TrackerSearch.Ini.Read
import TrackerSearch.Json.Read
import TrackerSearch.Json.Value
import TrackerSearch.Json.Write
import TrackerSearch.Model.Time
import TrackerSearch.Model.Uuid
import TrackerSearch.Model.WorkItem
import TrackerSearch.Pattern.Error
import TrackerSearch.Pattern.Footprint
import TrackerSearch.Pattern.Hir
import TrackerSearch.Pattern.Parser
import TrackerSearch.Pattern.Program
import TrackerSearch.Pattern.Regex
import TrackerSearch.Pattern.Syntax
import TrackerSearch.Proofs.AscendingIds
import TrackerSearch.Proofs.BestMatch
import TrackerSearch.Proofs.DetailLinks
import TrackerSearch.Proofs.ExpressionPrint
import TrackerSearch.Proofs.ExpressionRead
import TrackerSearch.Proofs.ExpressionTermination
import TrackerSearch.Proofs.JoinedSearch
import TrackerSearch.Proofs.Lowercase
import TrackerSearch.Proofs.MemorySearch
import TrackerSearch.Proofs.Paging
import TrackerSearch.Proofs.PatternRun
import TrackerSearch.Proofs.PercentDecoding
import TrackerSearch.Proofs.QueryMeaning
import TrackerSearch.Proofs.Registry
import TrackerSearch.Proofs.Retrieval
import TrackerSearch.Proofs.RowConversion
import TrackerSearch.Proofs.SearchOutcome
import TrackerSearch.Proofs.TokenOrder
import TrackerSearch.Proofs.TypeTree
import TrackerSearch.Proofs.Utf8RoundTrip
import TrackerSearch.Search.Error
import TrackerSearch.Search.KnownUrl
import TrackerSearch.Search.Lexeme
import TrackerSearch.Search.Memory
import TrackerSearch.Search.Query
import TrackerSearch.Search.Service
import TrackerSearch.Search.Store
import TrackerSearch.Search.Token
import TrackerSearch.Search.TsQuery
import TrackerSearch.Store.Database
import TrackerSearch.Store.Types
import TrackerSearch.Store.WorkItems
import TrackerSearch.Text.Debug
import TrackerSearch.Text.Percent
import TrackerSearch.Text.Utf8
import TrackerSearch.Text.Words
import TrackerSearch.Toml.Read
import TrackerSearch.Toml.Value
import TrackerSearch.Unicode.Age
import TrackerSearch.Unicode.Alphanumeric
import TrackerSearch.Unicode.Bidi
import TrackerSearch.Unicode.BinaryProperty
import TrackerSearch.Unicode.Case
import TrackerSearch.Unicode.CaseFoldTable
import TrackerSearch.Unicode.Casing
import TrackerSearch.Unicode.CodeSet
import TrackerSearch.Unicode.Digit
import TrackerSearch.Unicode.GeneralCategory
import TrackerSearch.Unicode.Idna
import TrackerSearch.Unicode.IdnaTable
import TrackerSearch.Unicode.Joining
import TrackerSearch.Unicode.LowercaseTable
import TrackerSearch.Unicode.Normalization
import TrackerSearch.Unicode.NormalizationTable
import TrackerSearch.Unicode.Printable
import TrackerSearch.Unicode.Property
import TrackerSearch.Unicode.Script
import TrackerSearch.Unicode.ScriptExtension
import TrackerSearch.Unicode.Segment
import TrackerSearch.Unicode.WhiteSpace
import TrackerSearch.Unicode.Word
import TrackerSearch.Url.Address
import TrackerSearch.Url.Domain
import TrackerSearch.Url.Punycode
import TrackerSearch.Url.Web
import TrackerSearch.Yaml.Load
import TrackerSearch.Yaml.Parser
import TrackerSearch.Yaml.Scanner
