import FallbackEnum.Analysis
import FallbackEnum.Arguments.Basic
import FallbackEnum.Arguments.Parser
import FallbackEnum.Catalog
import FallbackEnum.Chain
import FallbackEnum.Configuration
import FallbackEnum.Decimal.Binary64
import FallbackEnum.Decimal.Shortest
import FallbackEnum.Declaration.Basic
import FallbackEnum.Decode.Document
import FallbackEnum.Decode.Error
import FallbackEnum.Decode.Held
import FallbackEnum.Decode.Scalar
import FallbackEnum.Derive
import FallbackEnum.Diagnostic
import FallbackEnum.Expansion
import FallbackEnum.Grammar.Attribute
import FallbackEnum.Grammar.Expression
import FallbackEnum.Grammar.Item
import FallbackEnum.Grammar.Pattern
import FallbackEnum.Grammar.Reader
import FallbackEnum.Grammar.Rules
import FallbackEnum.Grammar.Type
import FallbackEnum.Json.Basic
import FallbackEnum.Json.Reader
import FallbackEnum.Lookup
import FallbackEnum.Numbering
import FallbackEnum.Proofs.ArgumentGrammar
import FallbackEnum.Proofs.Coherence
import FallbackEnum.Proofs.CompiledEnum
import FallbackEnum.Proofs.Decoding
import FallbackEnum.Proofs.Dependence
import FallbackEnum.Proofs.EditRuns
import FallbackEnum.Proofs.Evolution
import FallbackEnum.Proofs.Expansion
import FallbackEnum.Proofs.Framing
import FallbackEnum.Proofs.IntegerLiterals
import FallbackEnum.Proofs.IntegerLookup
import FallbackEnum.Proofs.ItemEquality
import FallbackEnum.Proofs.JsonInteger
import FallbackEnum.Proofs.JsonScalar
import FallbackEnum.Proofs.JsonText
import FallbackEnum.Proofs.Lexemes
import FallbackEnum.Proofs.LookupCode
import FallbackEnum.Proofs.Numerals
import FallbackEnum.Proofs.Offenders
import FallbackEnum.Proofs.Outcome
import FallbackEnum.Proofs.Places
import FallbackEnum.Proofs.QuotedText
import FallbackEnum.Proofs.RawLiterals
import FallbackEnum.Proofs.Reexpansion
import FallbackEnum.Proofs.Rescanning
import FallbackEnum.Proofs.SingleDecoder
import FallbackEnum.Proofs.StrippedDerives
import FallbackEnum.Proofs.Stripping
import FallbackEnum.Proofs.TextLookup
import FallbackEnum.Proofs.TraitLists
import FallbackEnum.RawEnum
import FallbackEnum.RawValue
import FallbackEnum.Routine
import FallbackEnum.Source
import FallbackEnum.Text.CodeRange
import FallbackEnum.Text.Digits
import FallbackEnum.Text.Identifier
import FallbackEnum.Text.Printable
import FallbackEnum.Text.Quoted
import FallbackEnum.Text.UpperCase
import FallbackEnum.Token.Basic
import FallbackEnum.Token.Code
import FallbackEnum.Token.Keyword
import FallbackEnum.Token.Lexer
import FallbackEnum.Token.Literal
import FallbackEnum.Validation
