import FormRules.Calendar.Date
import FormRules.Calendar.DateTime
import FormRules.Calendar.Iso
import FormRules.Catalog
import FormRules.Clause
import FormRules.DateFormat.Basic
import FormRules.DateFormat.Reading
import FormRules.DateFormat.Strict
import FormRules.Engine
import FormRules.Fault
import FormRules.Form
import FormRules.FreeDate.Lexeme
import FormRules.FreeDate.Quantity
import FormRules.FreeDate.Reading
import FormRules.FreeDate.Triple
import FormRules.FreeDate.Vocabulary
import FormRules.Log
import FormRules.Logger
import FormRules.Message
import FormRules.Number.Basic
import FormRules.Number.Decimal
import FormRules.Number.Double
import FormRules.Number.Integer
import FormRules.Number.Shortest
import FormRules.Outcome
import FormRules.Proofs.Clause
import FormRules.Proofs.DateFormat.Cut
import FormRules.Proofs.DateFormat.FixedWidth
import FormRules.Proofs.DateFormat.Kind
import FormRules.Proofs.DateFormat.Misread
import FormRules.Proofs.DateFormat.Mixed
import FormRules.Proofs.DateFormat.Part
import FormRules.Proofs.DateFormat.Reading
import FormRules.Proofs.DateFormat.Sample
import FormRules.Proofs.DateFormat.Share
import FormRules.Proofs.DateFormat.Spelling
import FormRules.Proofs.DateFormat.Stretch
import FormRules.Proofs.DateFormat.Tried
import FormRules.Proofs.FirstFailure
import FormRules.Proofs.Registry
import FormRules.Proofs.Text.Padded
import FormRules.Proofs.Text.Separated
import FormRules.Proofs.Verdict
import FormRules.Registry
import FormRules.Rule.Basic
import FormRules.Rule.Bound
import FormRules.Rule.Custom
import FormRules.Rule.Dated
import FormRules.Rule.Form
import FormRules.Rule.Kind
import FormRules.Rule.Presence
import FormRules.Session
import FormRules.Settings.Assignment
import FormRules.Settings.Basic
import FormRules.Settings.Reading
import FormRules.Text.Base64
import FormRules.Text.Blank
import FormRules.Text.Break
import FormRules.Text.Case
import FormRules.Text.Cut
import FormRules.Text.Digit
import FormRules.Text.Letter
import FormRules.Text.Pattern
import FormRules.Text.Printable
import FormRules.Text.Quoted
import FormRules.Text.Table
import FormRules.Value.Basic
import FormRules.Value.Moment
import FormRules.Value.Number
import FormRules.Value.Written
import FormRules.Yaml.Cursor
import FormRules.Yaml.Document
import FormRules.Yaml.Layout
import FormRules.Yaml.Moment
import FormRules.Yaml.Node
import FormRules.Yaml.Number
import FormRules.Yaml.Scalar
import FormRules.Yaml.Tag
import FormRules.Yaml.Token
import FormRules.Proofs.Catalog.Path
import FormRules.Proofs.Catalog.Writable
import FormRules.Proofs.Session.Calls
import FormRules.Proofs.Session.Reloads
import FormRules.Proofs.Number.Rounding
import FormRules.Proofs.Number.Nearest
import FormRules.Proofs.Number.Literal
import FormRules.Proofs.Rule.Bound
import FormRules.Proofs.Form
import FormRules.Proofs.Message
import FormRules.Proofs.Rule.Parameter
import FormRules.Proofs.Dependence
import FormRules.Proofs.Registry.History
import FormRules.Proofs.Registry.Names
import FormRules.Proofs.Session.Naming
import FormRules.Proofs.Number.Grammar
import FormRules.Proofs.Rule.Demand
import FormRules.Proofs.Rule.Dated
import FormRules.Proofs.Value.Number
import FormRules.Proofs.Value.Written
import FormRules.Proofs.Rule.Order
import FormRules.Proofs.Outcome
import FormRules.Proofs.Message.Key
import FormRules.Proofs.Message.Template
import FormRules.Proofs.Text.Pattern
import FormRules.Proofs.Rule.Form
import FormRules.Proofs.Calendar.Count
import FormRules.Proofs.Rule.Password
import FormRules.Proofs.Rule.Email
import FormRules.Proofs.Rule.Condition
import FormRules.Proofs.Rule.Side
import FormRules.Proofs.DateFormat.Pieces
import FormRules.Proofs.Calendar.Iso
import FormRules.Proofs.Rule.IsoText
import FormRules.Proofs.Catalog.Shape
import FormRules.Proofs.Catalog.Loader
import FormRules.Proofs.Logger.Table
import FormRules.Proofs.Logger.SetUp
