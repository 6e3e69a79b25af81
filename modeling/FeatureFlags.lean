import FeatureFlags.BigSegments.Basic
import FeatureFlags.BigSegments.Lookup
import FeatureFlags.Calendar.Date
import FeatureFlags.Calendar.Instant
import FeatureFlags.Calendar.MailDate
import FeatureFlags.Calendar.Timestamp
import FeatureFlags.Client.AllFlags
import FeatureFlags.Client.Basic
import FeatureFlags.Client.Request
import FeatureFlags.Client.Variation
import FeatureFlags.Config
import FeatureFlags.Context.Attribute
import FeatureFlags.Context.Basic
import FeatureFlags.Context.Builder
import FeatureFlags.Context.Codec
import FeatureFlags.Context.Kind
import FeatureFlags.Context.Reference
import FeatureFlags.Decimal.Notation
import FeatureFlags.Decimal.Shortest
import FeatureFlags.Diagnostics
import FeatureFlags.Digest.Base64
import FeatureFlags.Digest.Message
import FeatureFlags.Digest.Sha1
import FeatureFlags.Digest.Sha256
import FeatureFlags.Document
import FeatureFlags.Entries
import FeatureFlags.Evaluation.Bucket
import FeatureFlags.Evaluation.Clause
import FeatureFlags.Evaluation.Codec
import FeatureFlags.Evaluation.Flag
import FeatureFlags.Evaluation.Operator
import FeatureFlags.Evaluation.Reason
import FeatureFlags.Evaluation.Segment
import FeatureFlags.Evaluation.Selection
import FeatureFlags.Evaluation.State
import FeatureFlags.Event.Basic
import FeatureFlags.Event.Codec
import FeatureFlags.Event.Delivery
import FeatureFlags.Event.Factory
import FeatureFlags.Event.Output
import FeatureFlags.Event.Redaction
import FeatureFlags.Event.Summary
import FeatureFlags.Failure
import FeatureFlags.Flag.Basic
import FeatureFlags.Flag.Clause
import FeatureFlags.Flag.Codec
import FeatureFlags.FlagsState
import FeatureFlags.Hook
import FeatureFlags.Http.Host
import FeatureFlags.Http.Sender
import FeatureFlags.Http.Status
import FeatureFlags.Http.Url
import FeatureFlags.Json.Basic
import FeatureFlags.Json.Printer
import FeatureFlags.Json.Reader
import FeatureFlags.Json.Record
import FeatureFlags.Json.Token
import FeatureFlags.KeySet
import FeatureFlags.Log
import FeatureFlags.Migration.Basic
import FeatureFlags.Migration.Tracker
import FeatureFlags.Pattern.Basic
import FeatureFlags.Pattern.Escape
import FeatureFlags.Pattern.Parser
import FeatureFlags.Platform
import FeatureFlags.Processor.Basic
import FeatureFlags.Processor.Meeting
import FeatureFlags.Processor.Outputs
import FeatureFlags.Processor.Run
import FeatureFlags.Processor.Timeline
import FeatureFlags.Recency
import FeatureFlags.Store
import FeatureFlags.Store.Codec
import FeatureFlags.Store.Update
import FeatureFlags.Text.CaseFolding
import FeatureFlags.Text.Category
import FeatureFlags.Text.Quoted
import FeatureFlags.Version
import FeatureFlags.Proofs.BigSegments.Calls
import FeatureFlags.Proofs.BigSegments.Constant
import FeatureFlags.Proofs.BigSegments.Staleness
import FeatureFlags.Proofs.BigSegments.Steady
import FeatureFlags.Proofs.BigSegments.Transparency
import FeatureFlags.Proofs.Client.AllFlags
import FeatureFlags.Proofs.Client.Isolation
import FeatureFlags.Proofs.Client.Migration
import FeatureFlags.Proofs.Client.Recording
import FeatureFlags.Proofs.Client.Tracking
import FeatureFlags.Proofs.Client.Typed
import FeatureFlags.Proofs.Context.Arising
import FeatureFlags.Proofs.Context.Built
import FeatureFlags.Proofs.Context.CanonicalKey
import FeatureFlags.Proofs.Context.Combination
import FeatureFlags.Proofs.Context.Grammar
import FeatureFlags.Proofs.Context.Members
import FeatureFlags.Proofs.Context.OldUser
import FeatureFlags.Proofs.Context.Reading
import FeatureFlags.Proofs.Context.Reference
import FeatureFlags.Proofs.Context.RoundTrip
import FeatureFlags.Proofs.Context.Several
import FeatureFlags.Proofs.Context.WellFormed
import FeatureFlags.Proofs.Counter
import FeatureFlags.Proofs.Document
import FeatureFlags.Proofs.Entries
import FeatureFlags.Proofs.Evaluation.Agreement
import FeatureFlags.Proofs.Evaluation.Arrival
import FeatureFlags.Proofs.Evaluation.Consultation
import FeatureFlags.Proofs.Evaluation.Experiment
import FeatureFlags.Proofs.Evaluation.Faults
import FeatureFlags.Proofs.Evaluation.Interval
import FeatureFlags.Proofs.Evaluation.Kinds
import FeatureFlags.Proofs.Evaluation.Level
import FeatureFlags.Proofs.Evaluation.Locality
import FeatureFlags.Proofs.Evaluation.Lockstep
import FeatureFlags.Proofs.Evaluation.Membership
import FeatureFlags.Proofs.Evaluation.Negation
import FeatureFlags.Proofs.Evaluation.Prerequisite
import FeatureFlags.Proofs.Evaluation.Reach
import FeatureFlags.Proofs.Evaluation.Reason
import FeatureFlags.Proofs.Evaluation.Recall
import FeatureFlags.Proofs.Evaluation.Run
import FeatureFlags.Proofs.Evaluation.Selection
import FeatureFlags.Proofs.Evaluation.Sight
import FeatureFlags.Proofs.Evaluation.Stepwise
import FeatureFlags.Proofs.Evaluation.Stickiness
import FeatureFlags.Proofs.Evaluation.Termination
import FeatureFlags.Proofs.Evaluation.Visits
import FeatureFlags.Proofs.Evaluation.WellFormed
import FeatureFlags.Proofs.Evaluation.WorstStatus
import FeatureFlags.Proofs.Event.Announcement
import FeatureFlags.Proofs.Event.Counting
import FeatureFlags.Proofs.Event.Erasure
import FeatureFlags.Proofs.Event.Lookup
import FeatureFlags.Proofs.Event.Redaction
import FeatureFlags.Proofs.Event.RoundTrip
import FeatureFlags.Proofs.Event.Secrecy
import FeatureFlags.Proofs.Event.Tally
import FeatureFlags.Proofs.Flag.RoundTrip
import FeatureFlags.Proofs.Json.Finite
import FeatureFlags.Proofs.Json.Record
import FeatureFlags.Proofs.Migration.Tracker
import FeatureFlags.Proofs.Processor.Announcement
import FeatureFlags.Proofs.Processor.Answer
import FeatureFlags.Proofs.Processor.Arrival
import FeatureFlags.Proofs.Processor.Barrier
import FeatureFlags.Proofs.Processor.Books
import FeatureFlags.Proofs.Processor.Capacity
import FeatureFlags.Proofs.Processor.Delivery
import FeatureFlags.Proofs.Processor.Intake
import FeatureFlags.Proofs.Processor.Meeting
import FeatureFlags.Proofs.Processor.Secrecy
import FeatureFlags.Proofs.Processor.Shutdown
import FeatureFlags.Proofs.Processor.Statistics
import FeatureFlags.Proofs.Processor.Summaries
import FeatureFlags.Proofs.Processor.Summary
import FeatureFlags.Proofs.Processor.Timeline
import FeatureFlags.Proofs.Processor.Traffic
import FeatureFlags.Proofs.Processor.Window
import FeatureFlags.Proofs.Recency
import FeatureFlags.Proofs.Rounding
import FeatureFlags.Proofs.Store.Convergence
import FeatureFlags.Proofs.Surface
import FeatureFlags.Proofs.Version.Precedence
import FeatureFlags.Proofs.Version.Reading
import FeatureFlags.Proofs.Version.Verdict
import FeatureFlags.Proofs.Version.Writing
