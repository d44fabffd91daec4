import FormCheck.Address.Mailbox
import FormCheck.Address.Web
import FormCheck.Condition.Basic
import FormCheck.Condition.Document
import FormCheck.Condition.Expression
import FormCheck.Corpus.Input
import FormCheck.Corpus.Suite
import FormCheck.Evaluation.Report
import FormCheck.Evaluation.Visit
import FormCheck.Fault
import FormCheck.Form.Basic
import FormCheck.Form.Build
import FormCheck.Form.Declaration
import FormCheck.Form.Field
import FormCheck.Form.Flaw
import FormCheck.Form.Kind
import FormCheck.Form.Reference
import FormCheck.Form.SpecError
import FormCheck.Message.Catalog
import FormCheck.Message.Facet
import FormCheck.Message.Template
import FormCheck.Moment.Basic
import FormCheck.Moment.Calendar
import FormCheck.Moment.Reader
import FormCheck.Moment.Token
import FormCheck.Number.Binary64
import FormCheck.Number.Decimal
import FormCheck.Number.Digits
import FormCheck.Number.Shortest
import FormCheck.Path.Basic
import FormCheck.Path.Binding
import FormCheck.Path.Notation
import FormCheck.Pattern.Character
import FormCheck.Pattern.Literal
import FormCheck.Pattern.Matcher
import FormCheck.Pattern.Reader
import FormCheck.Pattern.Search
import FormCheck.Pattern.Step
import FormCheck.Pattern.Syntax
import FormCheck.Pattern.Width
import FormCheck.Proofs.Address.MailGrammar
import FormCheck.Proofs.Condition.Answers
import FormCheck.Proofs.Condition.Literals
import FormCheck.Proofs.Condition.Operands
import FormCheck.Proofs.Condition.Quoting
import FormCheck.Proofs.Condition.Rereading
import FormCheck.Proofs.Condition.Separators
import FormCheck.Proofs.Condition.Spacing
import FormCheck.Proofs.Condition.WrittenForms
import FormCheck.Proofs.Corpus.AbsentEntries
import FormCheck.Proofs.Corpus.RepeatedSpec
import FormCheck.Proofs.Corpus.Suites
import FormCheck.Proofs.Evaluation.Absence
import FormCheck.Proofs.Evaluation.Addressed
import FormCheck.Proofs.Evaluation.Alike
import FormCheck.Proofs.Evaluation.Answers
import FormCheck.Proofs.Evaluation.Findings
import FormCheck.Proofs.Evaluation.Gating
import FormCheck.Proofs.Evaluation.Isolation
import FormCheck.Proofs.Evaluation.Locality
import FormCheck.Proofs.Evaluation.Lookup
import FormCheck.Proofs.Evaluation.Lost
import FormCheck.Proofs.Evaluation.Order
import FormCheck.Proofs.Evaluation.OwnElements
import FormCheck.Proofs.Evaluation.Participation
import FormCheck.Proofs.Evaluation.Reach
import FormCheck.Proofs.Evaluation.Switching
import FormCheck.Proofs.Evaluation.Texts
import FormCheck.Proofs.Evaluation.Undeclared
import FormCheck.Proofs.Evaluation.Visits
import FormCheck.Proofs.Fallible
import FormCheck.Proofs.Form.Alike
import FormCheck.Proofs.Form.Blame
import FormCheck.Proofs.Form.ByNames
import FormCheck.Proofs.Form.Construction
import FormCheck.Proofs.Form.Declared
import FormCheck.Proofs.Form.Descent
import FormCheck.Proofs.Form.FurtherRules
import FormCheck.Proofs.Form.Lessening
import FormCheck.Proofs.Form.Linking
import FormCheck.Proofs.Form.Placement
import FormCheck.Proofs.Form.Preorder
import FormCheck.Proofs.Form.Readings
import FormCheck.Proofs.Form.References
import FormCheck.Proofs.Form.Refusal
import FormCheck.Proofs.Form.Renewal
import FormCheck.Proofs.Form.Reordered
import FormCheck.Proofs.Form.Representation
import FormCheck.Proofs.Form.Resolution
import FormCheck.Proofs.Form.RootGroup
import FormCheck.Proofs.Form.Scope
import FormCheck.Proofs.Form.Skeleton
import FormCheck.Proofs.Form.SpelledOut
import FormCheck.Proofs.Form.Stripped
import FormCheck.Proofs.Form.Unconditioned
import FormCheck.Proofs.Form.Untexted
import FormCheck.Proofs.Form.Walking
import FormCheck.Proofs.Message.Mention
import FormCheck.Proofs.Message.Names
import FormCheck.Proofs.Message.Plain
import FormCheck.Proofs.Moment.CalendarDays
import FormCheck.Proofs.Number.Numeral
import FormCheck.Proofs.Number.Range
import FormCheck.Proofs.Number.Written
import FormCheck.Proofs.Path.Apart
import FormCheck.Proofs.Path.Filling
import FormCheck.Proofs.Path.Grammar
import FormCheck.Proofs.Path.Referring
import FormCheck.Proofs.Path.RoundTrip
import FormCheck.Proofs.Path.SharedPrefix
import FormCheck.Proofs.Path.Writing
import FormCheck.Proofs.Result.Assembly
import FormCheck.Proofs.Result.ErrorAt
import FormCheck.Proofs.Result.Keyed
import FormCheck.Proofs.Result.Reordered
import FormCheck.Proofs.Result.Templates
import FormCheck.Proofs.Result.Undeclared
import FormCheck.Proofs.Result.Validation
import FormCheck.Proofs.Result.Verdict
import FormCheck.Proofs.Rule.Answers
import FormCheck.Proofs.Rule.Blindness
import FormCheck.Proofs.Rule.Multiples
import FormCheck.Proofs.Rule.Preparation
import FormCheck.Proofs.Text.Cutting
import FormCheck.Proofs.Text.Languages
import FormCheck.Proofs.Value.Change
import FormCheck.Proofs.Value.Insertion
import FormCheck.Proofs.Value.LongNumbers
import FormCheck.Proofs.Value.Parts
import FormCheck.Proofs.Value.Reading
import FormCheck.Result.Basic
import FormCheck.Result.Wording
import FormCheck.Rule.Agreement
import FormCheck.Rule.Argument
import FormCheck.Rule.Basic
import FormCheck.Rule.Format
import FormCheck.Rule.Presence
import FormCheck.Rule.Registry
import FormCheck.Rule.Size
import FormCheck.Rule.Standard
import FormCheck.Text.Blank
import FormCheck.Text.CharacterName
import FormCheck.Text.CharacterName.Accented
import FormCheck.Text.CharacterName.Alias
import FormCheck.Text.CharacterName.Ancient
import FormCheck.Text.CharacterName.Eastern
import FormCheck.Text.CharacterName.Forms
import FormCheck.Text.CharacterName.Notation
import FormCheck.Text.CharacterName.Pictorial
import FormCheck.Text.CharacterName.Pictures
import FormCheck.Text.CharacterName.Recent
import FormCheck.Text.CharacterName.Southern
import FormCheck.Text.CharacterName.Symbols
import FormCheck.Text.CharacterName.Western
import FormCheck.Text.Cut
import FormCheck.Text.Letter
import FormCheck.Text.LowerCase
import FormCheck.Text.Numeral
import FormCheck.Text.Printable
import FormCheck.Text.Quoted
import FormCheck.Text.Ranges
import FormCheck.Text.UpperCase
import FormCheck.Text.Word
import FormCheck.Validator
import FormCheck.Value.Basic
import FormCheck.Value.Literal
import FormCheck.Value.Order
import FormCheck.Value.Reading
