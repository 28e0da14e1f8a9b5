/-!
# Intents

An intent tells what is to be done with an entity that a request carries: take the stored one, make a
new one, or change the stored one.

* `Operation` : what to do; a name that is none of the three known ones is `unsupported`.
* `Intent` : an operation, the entity, and a mark by which the client finds its entity in the answer.
* `Operation.ofTag_tag` : the written tag of an operation is read back as that operation.
-/

set_option autoImplicit false

namespace Recital

/-- What is to be done with an entity. -/
inductive Operation where
  | select | create | update | unsupported
  deriving DecidableEq, Repr, Inhabited

namespace Operation

/-- The name of an operation in messages. -/
def name : Operation → String
  | select => "select"
  | create => "create"
  | update => "update"
  | unsupported => "unsupported"

/-- The tag of an operation in requests. -/
def tag : Operation → String
  | select => "SELECT"
  | create => "CREATE"
  | update => "UPDATE"
  | unsupported => "UNSUPPORTED"

/-- The operation of a tag: any text is one. -/
def ofTag : String → Operation
  | "SELECT" => select
  | "CREATE" => create
  | "UPDATE" => update
  | _ => unsupported

theorem ofTag_tag (op : Operation) : ofTag op.tag = op := by
  cases op <;> decide

end Operation

/-- An entity and what is to be done with it. -/
structure Intent (α : Type) where
  operation : Operation
  data : α
  tempId : Option String := none
  deriving DecidableEq, Repr, Inhabited

end Recital
