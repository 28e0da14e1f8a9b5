import Recital.Entity.Basic
import Recital.Intent.Basic

/-!
# Faults

* `Violation` : a text that must not be blank, or a part of an event that must be there.
* `Fault` : the reasons for which an operation fails; `Fault.message` is the wording of each.
* `Fault.isBusinessRule` : faults of a request, as against faults of the system.
* `Fault.statusCode`, `Fault.code` : how a fault is answered over HTTP.
-/

set_option autoImplicit false

namespace Recital

/-- What is empty and must not be. -/
inductive Violation where
  | composerFullName | composerShortName
  | pieceTitle
  | programmeTitle
  | venueName | venueFullAddress | venueShortAddress
  | eventTitle | eventDate | eventTicketLink | eventVenue | eventProgramme
  deriving DecidableEq, Repr, Inhabited

namespace Violation

/-- The words for what is empty. -/
def subject : Violation → String
  | composerFullName => "composer full name"
  | composerShortName => "composer short name"
  | pieceTitle => "piece title"
  | programmeTitle => "programme title"
  | venueName => "venue name"
  | venueFullAddress => "venue full address"
  | venueShortAddress => "venue short address"
  | eventTitle => "event title"
  | eventDate => "event date"
  | eventTicketLink => "event ticket link"
  | eventVenue => "event venue"
  | eventProgramme => "event programme"

def message (v : Violation) : String :=
  v.subject ++ " is empty"

end Violation

/-- The name of a kind of entity. -/
def Kind.name : Kind → String
  | .composer => "composer"
  | .piece => "piece"
  | .programme => "programme"
  | .venue => "venue"
  | .event => "event"

/-- Why an operation fails. -/
inductive Fault where
  | invalidResource (violation : Violation)
  | invalidOperation
  | operationMismatch (expected found : Operation)
  | invalidBiographyVariant (name : String)
  | notFound
  /-- The database holds what it must not hold. -/
  | invariantBroken (detail : String)
  /-- An entity that others depend on is to be deleted. -/
  | deletionForbidden (kind : Kind)
  | programmeImmutable
  | eventImmutable
  | notPublishable (violation : Violation)
  | programmeHasNoPieces
  | database
  | io
  | configuration (detail : String)
  deriving DecidableEq, Repr, Inhabited

namespace Fault

/-- The wording of a fault. -/
def message : Fault → String
  | invalidResource v => "invalid resource: " ++ v.message
  | invalidOperation => "invalid operation"
  | operationMismatch expected found =>
    "operation mismatch: expected " ++ expected.name ++ ", found " ++ found.name
  | invalidBiographyVariant name => "invalid biography variant: " ++ name
  | notFound => "resource not found"
  | invariantBroken detail => "invariant violation: " ++ detail
  | deletionForbidden kind => kind.name ++ " protected; deletion forbidden"
  | programmeImmutable => "programme is immutable"
  | eventImmutable => "event is immutable"
  | notPublishable v => "event not publishable: " ++ v.message
  | programmeHasNoPieces => "programme has no pieces"
  | database => "Database error"
  | io => "IO error"
  | configuration detail => "Configuration error: " ++ detail

/-- Whether the fault lies in the request and not in the system. -/
def isBusinessRule : Fault → Bool
  | invariantBroken _ => false
  | database => false
  | io => false
  | configuration _ => false
  | _ => true

/-- The status of the answer to a request that fails so. -/
def statusCode : Fault → Nat
  | invalidResource _ => 400
  | invalidOperation => 400
  | operationMismatch _ _ => 400
  | invalidBiographyVariant _ => 400
  | notFound => 404
  | deletionForbidden _ => 409
  | programmeImmutable => 409
  | eventImmutable => 409
  | notPublishable _ => 422
  | programmeHasNoPieces => 422
  | invariantBroken _ => 500
  | database => 500
  | io => 500
  | configuration _ => 500

/-- The machine-readable code in the answer to a request that fails so. -/
def code : Fault → String
  | invalidResource _ => "INVALID_RESOURCE"
  | invalidOperation => "INVALID_OPERATION"
  | operationMismatch _ _ => "OPERATION_MISMATCH"
  | invalidBiographyVariant _ => "INVALID_BIOGRAPHY_VARIANT"
  | notFound => "RESOURCE_NOT_FOUND"
  | invariantBroken _ => "INVARIANT_VIOLATION"
  | deletionForbidden .composer => "COMPOSER_PROTECTED"
  | deletionForbidden .piece => "PIECE_PROTECTED"
  | deletionForbidden .programme => "PROGRAMME_PROTECTED"
  | deletionForbidden .venue => "VENUE_PROTECTED"
  | deletionForbidden .event => "EVENT_PROTECTED"
  | programmeImmutable => "PROGRAMME_IMMUTABLE"
  | eventImmutable => "EVENT_IMMUTABLE"
  | notPublishable _ => "EVENT_NOT_PUBLISHABLE"
  | programmeHasNoPieces => "PROGRAMME_HAS_NO_PIECES"
  | database => "DATABASE_ERROR"
  | io => "IO_ERROR"
  | configuration _ => "CONFIG_ERROR"

/-- The number of rows that a write to one row affected. -/
def affected : Nat → Except Fault Unit
  | 0 => .error notFound
  | 1 => .ok ()
  | n => .error (invariantBroken ("expected 1 row affected, got " ++ toString n))

end Fault

end Recital
