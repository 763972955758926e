import Mailroom.Callback
import Mailroom.Callback.NewCase
import Mailroom.Callback.Process
import Mailroom.Case
import Mailroom.Case.EnvelopeReferences
import Mailroom.CaseAccess
import Mailroom.CaseField
import Mailroom.CaseStore
import Mailroom.Credentials
import Mailroom.Delivery
import Mailroom.Document
import Mailroom.Document.Collection
import Mailroom.Envelope
import Mailroom.Envelope.Message
import Mailroom.Failure
import Mailroom.Fault
import Mailroom.Flow
import Mailroom.Http
import Mailroom.Http.CaseStore
import Mailroom.Http.Identity
import Mailroom.Http.Payments
import Mailroom.Http.Peers
import Mailroom.Http.Transformation
import Mailroom.Json
import Mailroom.Json.Display
import Mailroom.Json.Reader
import Mailroom.Json.Writer
import Mailroom.Log
import Mailroom.Log.Record
import Mailroom.Log.Template
import Mailroom.Metrics
import Mailroom.Number.Binary64
import Mailroom.Number.Places
import Mailroom.Number.RealText
import Mailroom.OpenData
import Mailroom.Payments
import Mailroom.Peers
import Mailroom.Proofs.Admission
import Mailroom.Proofs.Assurance
import Mailroom.Proofs.AttachedDocuments
import Mailroom.Proofs.CallbackAccounts
import Mailroom.Proofs.CallbackCourse
import Mailroom.Proofs.CallbackDeeds
import Mailroom.Proofs.CaseBookFaithful
import Mailroom.Proofs.CaseMarks
import Mailroom.Proofs.CleanAnswers
import Mailroom.Proofs.ConcurrentEvidence
import Mailroom.Proofs.Deeds
import Mailroom.Proofs.DocumentAddress
import Mailroom.Proofs.EvidenceTalk
import Mailroom.Proofs.FaithfulStore
import Mailroom.Proofs.History
import Mailroom.Proofs.JsonText
import Mailroom.Proofs.MomentText
import Mailroom.Proofs.OfficeInMemory
import Mailroom.Proofs.OfficeWithPayments
import Mailroom.Proofs.OneCase
import Mailroom.Proofs.PaymentsOfRecord
import Mailroom.Proofs.ReadMoments
import Mailroom.Proofs.RecordSession
import Mailroom.Proofs.Redelivery
import Mailroom.Proofs.ReportedProblems
import Mailroom.Proofs.RoutingDeeds
import Mailroom.Proofs.StoreAccess
import Mailroom.Proofs.TextParts
import Mailroom.Proofs.TwoEntrances
import Mailroom.Record
import Mailroom.Record.Validation
import Mailroom.Routing
import Mailroom.Routing.AutomaticCase
import Mailroom.Routing.CaseFinding
import Mailroom.Routing.Evidence
import Mailroom.Routing.LogContext
import Mailroom.Routing.PaymentNotice
import Mailroom.Routing.RecordFiling
import Mailroom.Schema
import Mailroom.Schema.Scalar
import Mailroom.Service
import Mailroom.Settings
import Mailroom.Simulation.CaseBook
import Mailroom.Simulation.Scripted
import Mailroom.Text.Base64
import Mailroom.Text.Blank
import Mailroom.Text.Composed
import Mailroom.Text.Composed.Table
import Mailroom.Text.Decimal
import Mailroom.Text.Digit
import Mailroom.Text.Encodable
import Mailroom.Text.Encoding
import Mailroom.Text.Hex
import Mailroom.Text.Letter
import Mailroom.Text.Letter.Table
import Mailroom.Text.Percent
import Mailroom.Text.Printable
import Mailroom.Text.Quoted
import Mailroom.Text.Ranges
import Mailroom.Text.Split
import Mailroom.Text.Surrogate
import Mailroom.Text.Utf8
import Mailroom.Text.Whole
import Mailroom.Time.Calendar
import Mailroom.Time.IsoText
import Mailroom.Time.Moment
import Mailroom.Time.WireText
import Mailroom.Transformation
import Mailroom.Transformation.RequestMessage
import Mailroom.Url.Authority
import Mailroom.Url.Host
import Mailroom.Url.Label
import Mailroom.Url.Label.Table
import Mailroom.Url.Punycode
import Mailroom.Url.Reference
import Mailroom.Url.Request
import Mailroom.Web
import Mailroom.Web.Body
import Mailroom.Web.Health
import Mailroom.Web.Samples
import Mailroom.Proofs.RecordDetour
import Mailroom.Proofs.CredentialRaces
import Mailroom.Proofs.Journal
import Mailroom.Proofs.TwoPhases
import Mailroom.Proofs.Evictions
import Mailroom.Proofs.RejectedTokens
import Mailroom.Proofs.DeliveryAttempts
import Mailroom.Proofs.Transcript
import Mailroom.Proofs.CallOrder
import Mailroom.Proofs.RegisteredPayments
import Mailroom.Proofs.UnheardFailures
import Mailroom.Proofs.EvidenceFallback
import Mailroom.Proofs.DecidedForms
import Mailroom.Proofs.KeptDocuments
import Mailroom.Proofs.SortedAnswers
import Mailroom.Proofs.StrayFailures
import Mailroom.Proofs.ClassifiedCreation
import Mailroom.Proofs.RecordComplaints
import Mailroom.Proofs.TransformableRecords
import Mailroom.Proofs.ReportedIdentities
import Mailroom.Proofs.PhraseQueries
import Mailroom.Proofs.StoredMoments
import Mailroom.Proofs.ReportedStatus
import Mailroom.Proofs.PathSegments
import Mailroom.Proofs.AddressBelow
import Mailroom.Proofs.CaseAddress
import Mailroom.Proofs.LogLines
import Mailroom.Proofs.PlacedNumbers
import Mailroom.Proofs.WireMoments
import Mailroom.Proofs.RequestMessages
