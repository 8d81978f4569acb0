import RecordRules.Check.Address
import RecordRules.Check.Basic
import RecordRules.Check.Bound
import RecordRules.Check.Catalog
import RecordRules.Check.Format
import RecordRules.Check.Literal
import RecordRules.Check.Multiple
import RecordRules.Comparison
import RecordRules.Constraint.Basic
import RecordRules.Constraint.Dump
import RecordRules.Constraint.OfClause
import RecordRules.Constraint.Verdict
import RecordRules.Dictionary
import RecordRules.FieldType
import RecordRules.Json
import RecordRules.Moment
import RecordRules.Numeric.Binary64
import RecordRules.Numeric.Decimal
import RecordRules.Numeric.Number
import RecordRules.Path.Basic
import RecordRules.Path.Error
import RecordRules.Pattern.Basic
import RecordRules.Pattern.Charset
import RecordRules.Pattern.Machine.Basic
import RecordRules.Pattern.Machine.OfShape
import RecordRules.Pattern.Machine.Set
import RecordRules.Pattern.Machine.Slots
import RecordRules.Pattern.Machine.Trie
import RecordRules.Pattern.Match
import RecordRules.Pattern.Property
import RecordRules.Pattern.Property.Break
import RecordRules.Pattern.Property.Derived
import RecordRules.Pattern.Ranges
import RecordRules.Pattern.Reader
import RecordRules.Pattern.Shape
import RecordRules.Pattern.Term
import RecordRules.Pattern.Tree
import RecordRules.Plan.Basic
import RecordRules.Plan.Dump
import RecordRules.Plan.Shelf
import RecordRules.Plan.Verdict
import RecordRules.Proofs.Below
import RecordRules.Proofs.Blindness
import RecordRules.Proofs.Blueprint
import RecordRules.Proofs.Cache
import RecordRules.Proofs.Comparability
import RecordRules.Proofs.Conformance
import RecordRules.Proofs.Escapes
import RecordRules.Proofs.Growth
import RecordRules.Proofs.History
import RecordRules.Proofs.Independence
import RecordRules.Proofs.Interpretation
import RecordRules.Proofs.ListForms
import RecordRules.Proofs.NestedChecks
import RecordRules.Proofs.Outcome
import RecordRules.Proofs.Printing
import RecordRules.Proofs.Privacy
import RecordRules.Proofs.Reading
import RecordRules.Proofs.Refinement
import RecordRules.Proofs.Sound
import RecordRules.Proofs.Stages
import RecordRules.Proofs.Tour
import RecordRules.Proofs.Walk
import RecordRules.Rule.Aliases
import RecordRules.Rule.Basic
import RecordRules.Rule.Error
import RecordRules.Rule.Escape
import RecordRules.Rule.Grammar
import RecordRules.Rule.Keyword
import RecordRules.Rule.Printer
import RecordRules.Rulebook.Basic
import RecordRules.Rulebook.Build
import RecordRules.Rulebook.Derivation
import RecordRules.Rulebook.Plan
import RecordRules.Sample
import RecordRules.Schema
import RecordRules.Settings
import RecordRules.Settings.Json
import RecordRules.Storage.Basic
import RecordRules.Storage.Datum
import RecordRules.Text.Blank
import RecordRules.Text.Cut
import RecordRules.Text.Dump
import RecordRules.Text.Encoded
import RecordRules.Text.Quoted
import RecordRules.Unicode.Age
import RecordRules.Unicode.Binary
import RecordRules.Unicode.CaseChange
import RecordRules.Unicode.CaseOrbit
import RecordRules.Unicode.Category
import RecordRules.Unicode.Category.Letter
import RecordRules.Unicode.Category.Mark
import RecordRules.Unicode.Category.Numeral
import RecordRules.Unicode.Category.Other
import RecordRules.Unicode.Category.Punctuation
import RecordRules.Unicode.Category.Symbol
import RecordRules.Unicode.Emoji
import RecordRules.Unicode.OtherProperties
import RecordRules.Unicode.Property
import RecordRules.Unicode.Recent
import RecordRules.Unicode.Script
import RecordRules.Unicode.ScriptExtension
import RecordRules.Unicode.Stretch
import RecordRules.Validator
import RecordRules.Value
import RecordRules.Value.Compare
import RecordRules.Value.Dump
import RecordRules.Violation
import RecordRules.Proofs.Expansion
import RecordRules.Proofs.ReservedNames
import RecordRules.Proofs.StoredData
import RecordRules.Proofs.Coverage
import RecordRules.Proofs.ByteOrder
import RecordRules.Proofs.ComparisonLaws
import RecordRules.Proofs.Concatenation
import RecordRules.Proofs.Origins
import RecordRules.Proofs.Mirror
import RecordRules.Proofs.WellFormed
import RecordRules.Proofs.References
import RecordRules.Proofs.Retrieval
import RecordRules.Proofs.SelfReference
import RecordRules.Proofs.Descent
import RecordRules.Proofs.PresenceFamily
import RecordRules.Proofs.LiteralConditions
import RecordRules.Proofs.Alternatives
import RecordRules.Proofs.Registration
import RecordRules.Proofs.Rounding
import RecordRules.Proofs.Numerals
import RecordRules.Proofs.BoundOrder
import RecordRules.Proofs.NumericOrder
import RecordRules.Proofs.Neighbours
import RecordRules.Proofs.ShortestDigits
import RecordRules.Proofs.NumberTexts
import RecordRules.Proofs.LiteralEquality
import RecordRules.Proofs.Substitution
import RecordRules.Proofs.ForeignDigits
import RecordRules.Proofs.Channels
import RecordRules.Proofs.NumericFormats
import RecordRules.Proofs.Channels
import RecordRules.Proofs.NumericFormats
