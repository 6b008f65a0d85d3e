import ListQuery.Rejection

/-!
# Events

What happens on the way to a page is reported in events.  No event holds a value
that a statement binds, only texts of statements and how many values they bind.

`Logged α` is a computation that reports events and then ends in an `α` or in a
failure; the events stand in the order in which they were reported.
-/

namespace ListQuery

/-- The part of a request that had to be ignored. -/
inductive DroppedKind where
  | filter
  | sort
  | search
deriving DecidableEq

/-- Something worth reporting. -/
inductive Event where
  /-- A filter or sort names a field that does not allow it, or a search finds no
  field to look at; `subject` is the field or the term. -/
  | dropped (kind : DroppedKind) (subject : String)
  /-- A cursor was not accepted. -/
  | cursorRejected (reason : String)
  /-- A statement is about to be sent. -/
  | query (sql : String) (parameters : Nat)
  /-- A statement could not be run; of its text no more than a beginning is kept. -/
  | queryFailed (sql : String) (failure : String)
deriving DecidableEq

/-- Events and the outcome after them. -/
structure Logged (α : Type) where
  events : List Event
  outcome : Except Failure α

namespace Logged

variable {α β : Type}

/-- The first computation and then, unless it failed, the second. -/
def andThen (first : Logged α) (next : α → Logged β) : Logged β :=
  match first.outcome with
  | .ok value => ⟨first.events ++ (next value).events, (next value).outcome⟩
  | .error failure => ⟨first.events, .error failure⟩

instance : Monad Logged where
  pure value := ⟨[], .ok value⟩
  bind := andThen

/-- Reports an event. -/
def report (event : Event) : Logged Unit := ⟨[event], .ok ()⟩

/-- Ends in a failure. -/
def fail (failure : Failure) : Logged α := ⟨[], .error failure⟩

/-- Rejects the request. -/
def reject (rejection : Rejection) : Logged α := fail (.rejected rejection)

end Logged

end ListQuery
