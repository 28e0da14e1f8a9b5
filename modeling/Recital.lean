import Recital.Main
import Recital.Session
import Recital.Proofs.Catalogue.EventRow
import Recital.Proofs.Catalogue.Integrity
import Recital.Proofs.Catalogue.Listing
import Recital.Proofs.Desk.Resolution
import Recital.Proofs.Http.Editing
import Recital.Proofs.Http.Scheduling
import Recital.Proofs.Http.Service
import Recital.Proofs.Http.Soundness
import Recital.Proofs.Session.Run
import Recital.Proofs.Session.Publication
import Recital.Proofs.Session.Failure
import Recital.Proofs.Catalogue.Keeping
import Recital.Proofs.Http.Keeping
import Recital.Proofs.Session.References
import Recital.Proofs.Entity.Rules
import Recital.Proofs.Session.Validity
import Recital.Proofs.Http.Lifecycle
import Recital.Proofs.Session.Lifecycle
import Recital.Proofs.Http.Frame
import Recital.Proofs.Session.Frame
import Recital.Proofs.Desk.Protection
import Recital.Proofs.Catalogue.Programmes
import Recital.Proofs.Session.Reading
import Recital.Proofs.Session.Reopening
import Recital.Proofs.Http.Allotment
import Recital.Proofs.Session.Identity
import Recital.Proofs.Catalogue.Clock
import Recital.Proofs.Catalogue.Timeless
import Recital.Proofs.Catalogue.Calls
import Recital.Proofs.Http.Timeless
import Recital.Proofs.Session.UnitOfWork
import Recital.Proofs.Http.Unread
import Recital.Proofs.Session.Unread
import Recital.Proofs.Session.ReadBack
import Recital.Proofs.Http.Fulfilment
import Recital.Proofs.Http.Repetition
import Recital.Proofs.Session.Repetition
import Recital.Proofs.Desk.Refusals
import Recital.Proofs.Session.Gates
import Recital.Proofs.Session.Rearrangement
import Recital.Proofs.Session.Listings
import Recital.Proofs.Session.Timeframes
import Recital.Proofs.Desk.Intents
import Recital.Proofs.Session.Intents
import Recital.Proofs.Desk.Commands
import Recital.Proofs.Session.Commands
import Recital.Proofs.Json.Record
import Recital.Proofs.Http.Tags
import Recital.Proofs.Session.Tags
import Recital.Proofs.Instant.Moment
import Recital.Proofs.Instant.Written
import Recital.Proofs.Http.Dates
import Recital.Proofs.Session.Dates
import Recital.Proofs.Json.Grammar
import Recital.Proofs.Json.Tokens
import Recital.Proofs.Json.Parsing
import Recital.Proofs.Json.Rendering
import Recital.Proofs.Json.Lawful
import Recital.Proofs.Json.Codec
import Recital.Proofs.Json.Spelling
import Recital.Proofs.Entity.Codecs
import Recital.Proofs.Entity.Forms
import Recital.Proofs.Desk.Codecs
import Recital.Proofs.Desk.Spelling
import Recital.Proofs.Outcome
import Recital.Proofs.Toml.Distinct
import Recital.Proofs.Startup.File
import Recital.Proofs.Startup.CommandLine
import Recital.Proofs.Startup.Refill
import Recital.Proofs.Startup.Priority
import Recital.Proofs.Startup.Notice
import Recital.Proofs.Startup.Flaw
import Recital.Proofs.Startup.Opening
import Recital.Proofs.Startup.Stages
