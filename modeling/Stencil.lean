import Stencil.Bracket
import Stencil.Declaration
import Stencil.Directive
import Stencil.Expand
import Stencil.Failure
import Stencil.File.Expand
import Stencil.File.Fault
import Stencil.File.Path
import Stencil.File.Tree
import Stencil.File.Workspace
import Stencil.Generate
import Stencil.Handle
import Stencil.Header
import Stencil.Identifier
import Stencil.Import
import Stencil.Log
import Stencil.Name
import Stencil.Pattern.Basic
import Stencil.Pattern.CharTest
import Stencil.Pattern.Fault
import Stencil.Pattern.Flags
import Stencil.Pattern.Match
import Stencil.Pattern.Reader
import Stencil.Pattern.Substitute
import Stencil.Pattern.Token
import Stencil.Placeholder
import Stencil.Proofs.Batch
import Stencil.Proofs.Edits
import Stencil.Proofs.Escaping
import Stencil.Proofs.Generation
import Stencil.Proofs.HeaderProtection
import Stencil.Proofs.Isolation
import Stencil.Proofs.Leftovers
import Stencil.Proofs.Octets
import Stencil.Proofs.Outcomes
import Stencil.Proofs.Overwriting
import Stencil.Proofs.Placeholders
import Stencil.Proofs.Sources
import Stencil.Proofs.StoreExpansion
import Stencil.Proofs.StoreInvariant
import Stencil.Proofs.Substitution
import Stencil.Proofs.Texts
import Stencil.Proofs.WholeIdentifier
import Stencil.Proofs.Words
import Stencil.Report
import Stencil.Rule
import Stencil.Rules.Error
import Stencil.Rules.Expand
import Stencil.Rules.Ledger
import Stencil.Rules.Line
import Stencil.Rules.Reading
import Stencil.Rules.Store
import Stencil.Rules.Substitution
import Stencil.Rules.Value
import Stencil.TargetName
import Stencil.Text.Alphanumeric
import Stencil.Text.Basic
import Stencil.Text.Blank
import Stencil.Text.Case
import Stencil.Text.CharName
import Stencil.Text.Digit
import Stencil.Text.Lines
import Stencil.Text.NameChar
import Stencil.Text.Printable
import Stencil.Text.Quoted
import Stencil.Text.Range
import Stencil.Text.Utf8
import Stencil.TypeParameter
import Stencil.Unit
import Stencil.Workspace
import Stencil.Proofs.Introspection
import Stencil.Proofs.PatternReading
import Stencil.Proofs.Refusals
import Stencil.Proofs.Captures
import Stencil.Proofs.Containment
import Stencil.Proofs.RulesErrors
import Stencil.Proofs.Composition
import Stencil.Proofs.Layout
import Stencil.Proofs.Emissions
import Stencil.Proofs.OutputPaths
import Stencil.Session.Expand
import Stencil.Proofs.Verbosity
import Stencil.Proofs.LiteralRules
import Stencil.Proofs.Declarations
import Stencil.Proofs.Renaming
import Stencil.Proofs.CodeRegions
import Stencil.Proofs.Balance
import Stencil.Proofs.Stripping
import Stencil.Proofs.StrippedWords
import Stencil.Proofs.ImportErasure
import Stencil.Proofs.ParameterLists
import Stencil.Proofs.Annotations
import Stencil.Proofs.TypeNames
import Stencil.Proofs.WrittenRules
import Stencil.Proofs.TypeLists
import Stencil.Proofs.NameLists
import Stencil.Proofs.EmittedFiles
import Stencil.Proofs.Redeclarations
import Stencil.Proofs.Cuts
import Stencil.Proofs.Freezing
import Stencil.Proofs.Bookkeeping
