import BatchedSave.Command

/-!
# Metrics events

What the work on batches reports while it goes on. A round trip that ends is reported with the time
it took. The work itself has no clock: what it tells are notices, without a time, and whoever takes
a notice in puts the time on it.
-/
namespace BatchedSave.Metrics

/-- A time in whole microseconds. -/
abbrev Micros := Nat

/-- Events, with the time that a round trip took as an `Elapsed`. -/
inductive Event (Elapsed : Type) where
  | batchStart (commands parameters : Nat)
  | batchFinish (commands rowsAffected : Nat) (elapsed : Elapsed)
  | batchFull (commands : Nat)
  | commandApplied (table : String) (kind : ChangeKind) (generatedValues : Nat)
  | conflict (table : String)
  | violation
  | storeFailure
  | cancelled
  deriving DecidableEq, Repr

/-- An event as the work on batches tells it. -/
abbrev Notice := Event Unit

/-- The event that a notice is for whoever has measured the time. A word holds the longest one. -/
def Event.stamped (measured : Micros) : Notice → Event Micros
  | batchStart commands parameters => batchStart commands parameters
  | batchFinish commands rowsAffected _ =>
    batchFinish commands rowsAffected (min measured (UInt64.size - 1))
  | batchFull commands => batchFull commands
  | commandApplied table kind generatedValues => commandApplied table kind generatedValues
  | conflict table => conflict table
  | violation => violation
  | storeFailure => storeFailure
  | cancelled => cancelled

end BatchedSave.Metrics
