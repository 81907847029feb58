/-!
# Debouncing

A value that is typed takes effect when nothing has been typed for a while.  Each new value
replaces the one that waits and starts the quiet time again.  Times are milliseconds.
-/

namespace TailView

/-- A value that may be waiting, and how long it has to wait. -/
structure Debouncer (α : Type) where
  /-- How long nothing may be typed before a value takes effect. -/
  quiet : Nat
  /-- The value that waits, and the time when it is due. -/
  pending : Option (α × Nat) := none
deriving DecidableEq

namespace Debouncer

variable {α : Type}

/-- Lets a value wait from now on. -/
def push (debouncer : Debouncer α) (value : α) (now : Nat) : Debouncer α :=
  { debouncer with pending := some (value, now + debouncer.quiet) }

/-- When the waiting value is due. -/
def deadline (debouncer : Debouncer α) : Option Nat := debouncer.pending.map (·.2)

/-- Nothing waits any more. -/
def cancel (debouncer : Debouncer α) : Debouncer α := { debouncer with pending := none }

/-- The waiting value if it is due, which then waits no more. -/
def poll (debouncer : Debouncer α) (now : Nat) : Option α × Debouncer α :=
  match debouncer.pending with
  | some (value, due) => if due ≤ now then (some value, debouncer.cancel) else (none, debouncer)
  | none => (none, debouncer)

@[simp]
theorem deadline_push (debouncer : Debouncer α) (value : α) (now : Nat) :
    (debouncer.push value now).deadline = some (now + debouncer.quiet) := rfl

@[simp]
theorem deadline_cancel (debouncer : Debouncer α) : debouncer.cancel.deadline = none := rfl

end Debouncer
end TailView
