import Signpost.Dict
import Signpost.Except
import Signpost.Host
import Signpost.Json.Basic
import Signpost.Json.Decode
import Signpost.Json.Reader
import Signpost.Json.Token
import Signpost.Json.Types
import Signpost.Json.Writer
import Signpost.Method
import Signpost.Options
import Signpost.Params
import Signpost.Path
import Signpost.Percent
import Signpost.Proofs.Building.Encoding
import Signpost.Proofs.Building.Matched
import Signpost.Proofs.Building.Recovery
import Signpost.Proofs.Building.Reference
import Signpost.Proofs.Building.Relevance
import Signpost.Proofs.Building.RoundTrip
import Signpost.Proofs.Building.Tidy
import Signpost.Proofs.Host.Links
import Signpost.Proofs.Host.Normal
import Signpost.Proofs.Host.Patterns
import Signpost.Proofs.Host.Rooted
import Signpost.Proofs.Host.Trust
import Signpost.Proofs.Json.Data
import Signpost.Proofs.Json.Settings
import Signpost.Proofs.Json.Text
import Signpost.Proofs.Json.Words
import Signpost.Proofs.Matching.Agreement
import Signpost.Proofs.Matching.Anchoring
import Signpost.Proofs.Matching.Depth
import Signpost.Proofs.Matching.Derivation
import Signpost.Proofs.Matching.Determined
import Signpost.Proofs.Matching.Filters
import Signpost.Proofs.Matching.Parameters
import Signpost.Proofs.Matching.Reachable
import Signpost.Proofs.Matching.Source
import Signpost.Proofs.Regex.Bracket
import Signpost.Proofs.Regex.Escape
import Signpost.Proofs.Regex.Language
import Signpost.Proofs.Regex.Parser
import Signpost.Proofs.Regex.Standalone
import Signpost.Proofs.Registry.Atomicity
import Signpost.Proofs.Registry.Codec
import Signpost.Proofs.Registry.Coverage
import Signpost.Proofs.Registry.Handles
import Signpost.Proofs.Registry.Loading
import Signpost.Proofs.Registry.Order
import Signpost.Proofs.Registry.Rebuild
import Signpost.Proofs.Registry.Reload
import Signpost.Proofs.Registry.Restore
import Signpost.Proofs.Registry.Step
import Signpost.Proofs.Registry.Tally
import Signpost.Proofs.Registry.Validation
import Signpost.Proofs.Template.Canonical
import Signpost.Proofs.Template.Chain
import Signpost.Proofs.Template.Effective
import Signpost.Proofs.Template.Name
import Signpost.Proofs.Template.Printing
import Signpost.Proofs.Template.Token
import Signpost.Proofs.Template.Verdict
import Signpost.Regex.Basic
import Signpost.Regex.Bracket
import Signpost.Regex.CharSet
import Signpost.Regex.Escape
import Signpost.Regex.Parser
import Signpost.Regex.Path
import Signpost.Regex.Preferred
import Signpost.Regex.Search
import Signpost.Regex.Text
import Signpost.Registry.Basic
import Signpost.Registry.Call
import Signpost.Registry.Catalog
import Signpost.Registry.Error
import Signpost.Registry.Metrics
import Signpost.Registry.Snapshot
import Signpost.Registry.Store
import Signpost.Registry.Table
import Signpost.Route.Basic
import Signpost.Route.Build
import Signpost.Route.Match
import Signpost.Site
import Signpost.Template.Basic
import Signpost.Template.Compiled
import Signpost.Template.Error
import Signpost.Template.Parser
import Signpost.Text
import Signpost.Unicode.Age
import Signpost.Unicode.Binary
import Signpost.Unicode.Break
import Signpost.Unicode.CaseFold
import Signpost.Unicode.Casing
import Signpost.Unicode.Category
import Signpost.Unicode.Emoji
import Signpost.Unicode.Grapheme
import Signpost.Unicode.Identifier
import Signpost.Unicode.Letter
import Signpost.Unicode.Mark
import Signpost.Unicode.Name
import Signpost.Unicode.Number
import Signpost.Unicode.Property
import Signpost.Unicode.Punctuation
import Signpost.Unicode.Script
import Signpost.Unicode.ScriptExtension
import Signpost.Unicode.Sign
import Signpost.Unicode.Span
import Signpost.Unicode.Symbol
import Signpost.Unicode.Utf8
import Signpost.Unicode.Word
