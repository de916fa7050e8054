import PolicyBuiltins.Binary64.Basic
import PolicyBuiltins.Binary64.Scientific
import PolicyBuiltins.Catalogue.Basic
import PolicyBuiltins.Catalogue.Builtin
import PolicyBuiltins.Catalogue.Draft
import PolicyBuiltins.Catalogue.Standard
import PolicyBuiltins.Catalogue.Steps
import PolicyBuiltins.Decimal.Basic
import PolicyBuiltins.Decimal.Lemmas
import PolicyBuiltins.Decimal.Literal
import PolicyBuiltins.Decimal.Notation
import PolicyBuiltins.Decimal.Reading
import PolicyBuiltins.Failure.Basic
import PolicyBuiltins.Failure.Cause
import PolicyBuiltins.Location
import PolicyBuiltins.Numeral.Basic
import PolicyBuiltins.Numeral.Lemmas
import PolicyBuiltins.Operand
import PolicyBuiltins.Outcome
import PolicyBuiltins.Rounding
import PolicyBuiltins.Settings
import PolicyBuiltins.Strings.Builtins
import PolicyBuiltins.Strings.Slice
import PolicyBuiltins.Template.Directive
import PolicyBuiltins.Template.Formatting
import PolicyBuiltins.Template.Layout
import PolicyBuiltins.Template.Mismatch
import PolicyBuiltins.Template.Scientific
import PolicyBuiltins.Template.Verb
import PolicyBuiltins.Text.Casing
import PolicyBuiltins.Text.Quoted
import PolicyBuiltins.Text.Searching
import PolicyBuiltins.Text.Sorting
import PolicyBuiltins.Text.Trimming
import PolicyBuiltins.Unicode.CaseIgnorable
import PolicyBuiltins.Unicode.CaseMapping
import PolicyBuiltins.Unicode.Cased
import PolicyBuiltins.Unicode.DefaultIgnorable
import PolicyBuiltins.Unicode.GraphemeExtend
import PolicyBuiltins.Unicode.Runs
import PolicyBuiltins.Unicode.Unprintable
import PolicyBuiltins.Unicode.WhiteSpace
import PolicyBuiltins.Value.Basic
import PolicyBuiltins.Value.Equality
import PolicyBuiltins.Value.Hashing
import PolicyBuiltins.Value.Kind
import PolicyBuiltins.Value.Rendering
import PolicyBuiltins.Word
import PolicyBuiltins.Proofs.Template.Mismatches
import PolicyBuiltins.Proofs.Decimal.TextReading
import PolicyBuiltins.Proofs.Decimal.Rational
import PolicyBuiltins.Proofs.Text.Trimming
import PolicyBuiltins.Proofs.Decimal.Grammar
import PolicyBuiltins.Proofs.Decimal.Limits
import PolicyBuiltins.Proofs.Decimal.Exactness
import PolicyBuiltins.Proofs.Decimal.WordArithmetic
import PolicyBuiltins.Proofs.Decimal.ScaleLimit
import PolicyBuiltins.Proofs.Decimal.CanonicalText
import PolicyBuiltins.Proofs.Decimal.NormalForm
import PolicyBuiltins.Proofs.Template.Composition
import PolicyBuiltins.Proofs.Text.Separable
import PolicyBuiltins.Proofs.Value.Reading
import PolicyBuiltins.Proofs.Value.Canonical
import PolicyBuiltins.Proofs.Value.Faithful
import PolicyBuiltins.Proofs.Operand.Demands
import PolicyBuiltins.Proofs.Catalogue.Standard
import PolicyBuiltins.Proofs.Catalogue.Dispatch
import PolicyBuiltins.Proofs.Text.ByteOrder
import PolicyBuiltins.Proofs.Catalogue.Runs
import PolicyBuiltins.Proofs.Operand.Leftmost
import PolicyBuiltins.Proofs.Strings.Contracts
import PolicyBuiltins.Proofs.Strings.Settings
import PolicyBuiltins.Proofs.Binary64.Nearest
import PolicyBuiltins.Proofs.Binary64.Digits
import PolicyBuiltins.Proofs.Decimal.Moderate
import PolicyBuiltins.Proofs.Template.FloatingRange
import PolicyBuiltins.Proofs.Decimal.Order
import PolicyBuiltins.Proofs.Strings.WordRange
import PolicyBuiltins.Proofs.Strings.Substring
import PolicyBuiltins.Proofs.Decimal.FixedPlaces
import PolicyBuiltins.Proofs.Template.SingleDirective
import PolicyBuiltins.Proofs.Template.FixedVerb
import PolicyBuiltins.Proofs.Text.Occurrences
import PolicyBuiltins.Proofs.Text.Splitting
import PolicyBuiltins.Proofs.Strings.SplitConcat
import PolicyBuiltins.Proofs.Text.Replacing
import PolicyBuiltins.Proofs.Strings.ReplaceSplit
import PolicyBuiltins.Proofs.Text.ByteSearch
import PolicyBuiltins.Proofs.Text.Positions
import PolicyBuiltins.Proofs.Strings.Searching
import PolicyBuiltins.Proofs.Template.DirectiveText
import PolicyBuiltins.Proofs.Template.IntegerVerb
import PolicyBuiltins.Proofs.Strings.IntegerFormatting
import PolicyBuiltins.Proofs.Template.Width
import PolicyBuiltins.Proofs.Value.Enumeration
import PolicyBuiltins.Proofs.Value.Entries
import PolicyBuiltins.Proofs.Value.Hashing
import PolicyBuiltins.Proofs.Value.Collections
import PolicyBuiltins.Proofs.Operand.Enumeration
import PolicyBuiltins.Proofs.Operand.RenderingOrder
import PolicyBuiltins.Proofs.Strings.SetOrder
import PolicyBuiltins.Proofs.Decimal.Truncation
import PolicyBuiltins.Proofs.Strings.IntegerConversion
import PolicyBuiltins.Failure.Layers
import PolicyBuiltins.Proofs.Failure.Layers
import PolicyBuiltins.Proofs.Text.TrimmedEnds
import PolicyBuiltins.Proofs.Strings.Trimming
import PolicyBuiltins.Proofs.Unicode.CaseMapping
import PolicyBuiltins.Proofs.Text.Casing
import PolicyBuiltins.Proofs.Strings.Casing
import PolicyBuiltins.Proofs.Template.PercentLiterals
import PolicyBuiltins.Proofs.Strings.PercentEscaping
import PolicyBuiltins.Proofs.Template.CountsInWords
import PolicyBuiltins.Proofs.Template.PlacedDigits
import PolicyBuiltins.Proofs.Template.GeneralForm
