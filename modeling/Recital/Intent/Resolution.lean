import Recital.Catalogue.Statement
import Recital.Entity.Rules

/-!
# Resolving intents

* `Resolvable` : the entities that intents carry.
* `resolve` : the stored entity that an intent stands for, after what the intent asks has been done.
-/

set_option autoImplicit false

namespace Recital

open Step Statement

/-- The entities that intents carry. -/
class Resolvable (α : Type) extends Stored α where
  /-- The first violated rule. -/
  validate : α → Except Violation Unit
  /-- What must exist before the entity is written. -/
  needs : α → Step Unit

instance : Resolvable Composer where
  validate := Composer.validate
  needs _ := pure ()

instance : Resolvable Piece where
  validate := Piece.validate
  needs p := require .composer p.composerId

instance : Resolvable Venue where
  validate := Venue.validate
  needs _ := pure ()

/-- The stored entity that an intent stands for.  Of the entity in the intent, a selection looks only at
the id; what is created or changed must be valid first. -/
def resolve {α : Type} [Resolvable α] (intent : Intent α) : Step α :=
  match intent.operation with
  | .select => fetch (Keyed.id intent.data)
  | .create => do
    check (valid (Resolvable.validate intent.data))
    Resolvable.needs intent.data
    insert intent.data
  | .update => do
    check (valid (Resolvable.validate intent.data))
    Resolvable.needs intent.data
    update intent.data
  | .unsupported => fail .invalidOperation

end Recital
