import CharacterSheet.Advantage.Activation
import CharacterSheet.Advantage.Deviation
import CharacterSheet.Advantage.Kind
import CharacterSheet.Advantage.Player
import CharacterSheet.Advantage.Prepared
import CharacterSheet.Advantage.Processing
import CharacterSheet.Advantage.Record
import CharacterSheet.Advantage.Tree
import CharacterSheet.Citation
import CharacterSheet.CommandLine
import CharacterSheet.Config
import CharacterSheet.Decimal.Amount
import CharacterSheet.Decimal.Digits
import CharacterSheet.Decimal.Dyadic
import CharacterSheet.Decimal.Fixed
import CharacterSheet.Decimal.Reading
import CharacterSheet.Decimal.Rounding
import CharacterSheet.Decimal.Shortest
import CharacterSheet.Fault
import CharacterSheet.Handler.Argument
import CharacterSheet.Handler.Arithmetic
import CharacterSheet.Handler.Basic
import CharacterSheet.Handler.Builtin
import CharacterSheet.Handler.Conditional
import CharacterSheet.Handler.Listing
import CharacterSheet.Handler.Rated
import CharacterSheet.Handler.Script
import CharacterSheet.Handler.Tooltip
import CharacterSheet.Handler.Wording
import CharacterSheet.Identifier
import CharacterSheet.Main
import CharacterSheet.Markup.Escape
import CharacterSheet.Markup.Nesting
import CharacterSheet.Markup.Tag
import CharacterSheet.Markup.Typography
import CharacterSheet.Notation.Arguments
import CharacterSheet.Notation.Cursor
import CharacterSheet.Notation.Expression
import CharacterSheet.Notation.Operation
import CharacterSheet.Notation.Quoted
import CharacterSheet.Notation.Span
import CharacterSheet.Pattern.CharSet
import CharacterSheet.Pattern.ClassReader
import CharacterSheet.Pattern.Library
import CharacterSheet.Pattern.Linear
import CharacterSheet.Pattern.Parser
import CharacterSheet.Pattern.Program
import CharacterSheet.Pattern.Property
import CharacterSheet.Pattern.Reader
import CharacterSheet.Pattern.Replacement
import CharacterSheet.Pattern.Search
import CharacterSheet.Pattern.Substitution
import CharacterSheet.Pattern.Syntax
import CharacterSheet.Reference
import CharacterSheet.Rendering.Diagnostic
import CharacterSheet.Rendering.Engine
import CharacterSheet.Rendering.Origins
import CharacterSheet.Rendering.Placeholders
import CharacterSheet.RuleBook
import CharacterSheet.Scope
import CharacterSheet.Sheet
import CharacterSheet.Text.Basic
import CharacterSheet.Text.Blank
import CharacterSheet.Text.Case
import CharacterSheet.Text.Case.Groups
import CharacterSheet.Text.Case.Runs
import CharacterSheet.Text.Category
import CharacterSheet.Text.Category.Ranges
import CharacterSheet.Text.Category.Runs
import CharacterSheet.Trait.Attribute
import CharacterSheet.Trait.Dotline
import CharacterSheet.Trait.Pronoun
import CharacterSheet.Trait.ScarStat
import CharacterSheet.Value.Basic
import CharacterSheet.Value.Comparison
import CharacterSheet.Value.Label
import CharacterSheet.Value.Layer
import CharacterSheet.Value.Literal
import CharacterSheet.Value.Number
import CharacterSheet.Value.Parser
import CharacterSheet.Value.Path
import CharacterSheet.Value.Printer
import CharacterSheet.Value.Rating
import CharacterSheet.Proofs.Rendering.Action
import CharacterSheet.Proofs.Rendering.Run
import CharacterSheet.Proofs.Rendering.Freshness
import CharacterSheet.Proofs.Rendering.Growth
import CharacterSheet.Proofs.Notation.Span
import CharacterSheet.Proofs.Rendering.Existence
import CharacterSheet.Proofs.Rendering.Rescan
import CharacterSheet.Proofs.Rendering.Concatenation
import CharacterSheet.Proofs.Rendering.Limit
import CharacterSheet.Proofs.Handler.Tooltips
import CharacterSheet.Proofs.Rendering.Document
import CharacterSheet.Proofs.Rendering.Substitution
import CharacterSheet.Proofs.Markup.Tag
import CharacterSheet.Proofs.Markup.Typography
import CharacterSheet.Proofs.Rendering.FixedPoint
import CharacterSheet.Proofs.Rendering.History
import CharacterSheet.Proofs.Rendering.Leniency
import CharacterSheet.Proofs.Failure
import CharacterSheet.Proofs.Reference
import CharacterSheet.Proofs.Rendering.Failures
import CharacterSheet.Proofs.Rendering.Fallback
import CharacterSheet.Proofs.Notation.Unclosed
import CharacterSheet.Proofs.Rendering.Unclosed
import CharacterSheet.Proofs.Advantage.Provenance
import CharacterSheet.Proofs.Advantage.Processing
import CharacterSheet.Proofs.Advantage.Granting
import CharacterSheet.Proofs.Advantage.Worklist
import CharacterSheet.Proofs.Advantage.LevelOrder
import CharacterSheet.Proofs.Advantage.Forest
import CharacterSheet.Proofs.Advantage.Finished
import CharacterSheet.Proofs.Sheet.Finished
import CharacterSheet.Proofs.Sheet.Frame
import CharacterSheet.Proofs.Handler.Contract
import CharacterSheet.Proofs.Rendering.Registration
import CharacterSheet.Proofs.Rendering.Mentions
import CharacterSheet.Proofs.Rendering.Leak
import CharacterSheet.Proofs.Markup.Marks
import CharacterSheet.Proofs.Rendering.AllowList
import CharacterSheet.Proofs.Rendering.Origins
import CharacterSheet.Proofs.Rendering.Steps
import CharacterSheet.Proofs.Rendering.Lines
import CharacterSheet.Proofs.Notation.Grammar
import CharacterSheet.Proofs.Rendering.Replacement
import CharacterSheet.Proofs.Rendering.Headroom
import CharacterSheet.Proofs.Rendering.Cutoff
import CharacterSheet.Proofs.Notation.Call
import CharacterSheet.Proofs.Rendering.Transparency
import CharacterSheet.Proofs.Markup.Nesting
import CharacterSheet.Proofs.Notation.Lexeme
import CharacterSheet.Proofs.Notation.ExpressionGrammar
import CharacterSheet.Proofs.Notation.Content
import CharacterSheet.Proofs.Notation.Operand
import CharacterSheet.Proofs.Notation.Evaluation
import CharacterSheet.Proofs.Decimal.Zero
import CharacterSheet.Proofs.Decimal.Exact
import CharacterSheet.Proofs.Decimal.Shown
import CharacterSheet.Proofs.Decimal.ReadBack
import CharacterSheet.Proofs.Handler.Calculation
import CharacterSheet.Proofs.Rendering.Calculation
import CharacterSheet.Proofs.Value.Ordered
import CharacterSheet.Proofs.Value.Duplicates
import CharacterSheet.Proofs.Value.Written
import CharacterSheet.Proofs.Value.Beneath
import CharacterSheet.Proofs.Value.Rating
import CharacterSheet.Proofs.Reference.Rating
import CharacterSheet.Proofs.Value.Override
import CharacterSheet.Proofs.Advantage.Record
import CharacterSheet.Proofs.Advantage.Replacement
import CharacterSheet.Proofs.Advantage.Layers
import CharacterSheet.Proofs.Advantage.RoundTrip
import CharacterSheet.Proofs.Advantage.Selection
import CharacterSheet.Proofs.Advantage.Repetition
import CharacterSheet.Proofs.Pattern.Replacement
import CharacterSheet.Proofs.Handler.Choice
import CharacterSheet.Proofs.Reference.Stats
import CharacterSheet.Proofs.Rendering.Laziness
import CharacterSheet.Proofs.Decimal.Distance
import CharacterSheet.Proofs.Decimal.Range
import CharacterSheet.Proofs.Notation.Pieces
import CharacterSheet.Proofs.Rendering.Keys
import CharacterSheet.Proofs.Notation.Limit
import CharacterSheet.Proofs.Notation.Settled
import CharacterSheet.Proofs.Notation.Quoted
import CharacterSheet.Proofs.Notation.QuotedArgument
import CharacterSheet.Proofs.Rendering.Arity
import CharacterSheet.Proofs.Rendering.Counting
import CharacterSheet.Proofs.Rendering.Tracing
import CharacterSheet.Proofs.Text.Case
import CharacterSheet.Proofs.Rendering.Rewording
import CharacterSheet.Proofs.Markup.Escape
import CharacterSheet.Proofs.Rendering.ErrorMark
import CharacterSheet.Proofs.Trait.Dotline
