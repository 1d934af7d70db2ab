import Vetting.Address
import Vetting.Argument.Basic
import Vetting.Argument.Reading
import Vetting.Calendar
import Vetting.Check.Basic
import Vetting.Check.CreditCard
import Vetting.Check.Shapes
import Vetting.Instant.Basic
import Vetting.Instant.Timestamp
import Vetting.Json.Basic
import Vetting.Json.Reader
import Vetting.Json.Token
import Vetting.ListedValues
import Vetting.Members
import Vetting.Message.English
import Vetting.Message.Language
import Vetting.Message.Template
import Vetting.Misuse
import Vetting.Number.Binary
import Vetting.Number.Literal
import Vetting.Number.Rounding
import Vetting.Number.Shortest
import Vetting.Number.Text
import Vetting.Number.Width
import Vetting.Options.Address
import Vetting.Options.Basic
import Vetting.Options.Reference
import Vetting.Path
import Vetting.Regex.Basic
import Vetting.Regex.Reader
import Vetting.Report.Basic
import Vetting.Report.Encoding
import Vetting.Rule.Amendment
import Vetting.Rule.Assembly
import Vetting.Rule.Basic
import Vetting.Rule.Declaration
import Vetting.Rule.Siblings
import Vetting.Rule.Wiring
import Vetting.Ruleset.Basic
import Vetting.Ruleset.Standard
import Vetting.Run.Basic
import Vetting.Run.Join
import Vetting.Schema.Basic
import Vetting.Schema.Catalogue
import Vetting.Schema.Parts
import Vetting.Schema.Workshop
import Vetting.Text.Alphabetic
import Vetting.Text.Blank
import Vetting.Text.CaseTable
import Vetting.Text.Casing
import Vetting.Text.CharTable
import Vetting.Text.FoldTable
import Vetting.Text.Folding
import Vetting.Text.Invisible
import Vetting.Text.Mark
import Vetting.Text.Pieces
import Vetting.Text.Quoted
import Vetting.Text.Word
import Vetting.Url.Basic
import Vetting.Url.Domain.Basic
import Vetting.Url.Domain.DirectionTable
import Vetting.Url.Domain.JoiningTable
import Vetting.Url.Domain.MappingTable
import Vetting.Url.Host
import Vetting.Url.Punycode
import Vetting.Validation.Engine
import Vetting.Validation.Judging
import Vetting.Validation.Setting
import Vetting.Validation.Summary
import Vetting.Validation.Validator
import Vetting.Value.Basic
import Vetting.Value.Encoding
import Vetting.Value.Equality
import Vetting.Value.Text
import Vetting.Proofs.Assembly.Course
import Vetting.Proofs.Assembly.Deeds
import Vetting.Proofs.Assembly.Invariants
import Vetting.Proofs.Assembly.Rounds
import Vetting.Proofs.Assembly.Sifting
import Vetting.Proofs.Assembly.Translation
import Vetting.Proofs.Assembly.Views
import Vetting.Proofs.Repetition.Again
import Vetting.Proofs.Repetition.Harmless
import Vetting.Proofs.Repetition.Heard
import Vetting.Proofs.Repetition.Indifference
import Vetting.Proofs.Repetition.Lookalikes
import Vetting.Proofs.Repetition.Meddling
import Vetting.Proofs.Repetition.Moving
import Vetting.Proofs.Repetition.Resemblance
import Vetting.Proofs.Repetition.Standing
import Vetting.Proofs.Repetition.Verdicts
import Vetting.Proofs.Rule.Deeds
import Vetting.Proofs.Rule.Identity
import Vetting.Proofs.Ruleset.LookUp
import Vetting.Proofs.Ruleset.QualifiedNames
import Vetting.Proofs.Ruleset.Registration
import Vetting.Proofs.Ruleset.Tree
import Vetting.Proofs.Run.Answers
import Vetting.Proofs.Run.Completion
import Vetting.Proofs.Run.Deciding
import Vetting.Proofs.Run.Licence
import Vetting.Proofs.Schema.Family
import Vetting.Proofs.Schema.Parts
import Vetting.Proofs.Schema.Standard
import Vetting.Proofs.Schema.Workshop
import Vetting.Proofs.Session.Basic
import Vetting.Proofs.Session.Behaviour
import Vetting.Proofs.Validation.AtOnce
import Vetting.Proofs.Validation.Conversion
import Vetting.Proofs.Validation.Frame
import Vetting.Proofs.Validation.Judging
import Vetting.Proofs.Validation.Licence
import Vetting.Proofs.Validation.Inquiry
import Vetting.Proofs.Validation.Objections
import Vetting.Proofs.Validation.Parallel
import Vetting.Proofs.Validation.Location
import Vetting.Proofs.Schema.Retiming
import Vetting.Proofs.Validation.Survey
import Vetting.Proofs.Validation.Sources
import Vetting.Proofs.Listing.Book
import Vetting.Proofs.Listing.Record
import Vetting.Proofs.Listing.Verdicts
import Vetting.Proofs.Listing.Invalid
import Vetting.Proofs.Run.Alike
import Vetting.Proofs.Validation.Wording
import Vetting.Proofs.Absence.Gates
import Vetting.Proofs.Absence.Optional
import Vetting.Proofs.Absence.Required
import Vetting.Proofs.Absence.StandIn
import Vetting.Proofs.Object.KeyMap
import Vetting.Proofs.Object.Patterns
import Vetting.Proofs.Object.Strangers
import Vetting.Proofs.Run.Silence
import Vetting.Proofs.Run.Prompt
import Vetting.Proofs.Validation.Alerts
import Vetting.Proofs.Validation.Usage
import Vetting.Proofs.Validation.Relocation
import Vetting.Proofs.Message.Template
import Vetting.Proofs.Message.English
import Vetting.Proofs.Validation.English
import Vetting.Proofs.Validation.WriteBack
import Vetting.Proofs.Assembly.Tiers
import Vetting.Proofs.Alternatives.Candidates
import Vetting.Proofs.Alternatives.FirstMatch
import Vetting.Proofs.Text.Forms
import Vetting.Proofs.Validation.Offers
import Vetting.Proofs.Validation.Duplicates
import Vetting.Proofs.Text.Pieces
import Vetting.Proofs.Text.Digits
import Vetting.Proofs.Regex.Matching
import Vetting.Proofs.Regex.Language
import Vetting.Proofs.Regex.Folding
import Vetting.Proofs.Check.Texts
import Vetting.Proofs.Check.CreditCard
import Vetting.Proofs.Check.Words
import Vetting.Proofs.Check.OrdinalDate
import Vetting.Proofs.Options.Address
import Vetting.Proofs.Number.Decimal
import Vetting.Proofs.Number.Literal
import Vetting.Proofs.Instant.Calendar
import Vetting.Proofs.Instant.Timestamp
import Vetting.Proofs.Message.Segments
import Vetting.Proofs.Value.Encoding
import Vetting.Proofs.Related
import Vetting.Proofs.Value.Equality
import Vetting.Proofs.Value.PartialEquality
import Vetting.Proofs.Value.RoundTrip
import Vetting.Proofs.Rule.Sameness
import Vetting.Proofs.Options.Encoding
