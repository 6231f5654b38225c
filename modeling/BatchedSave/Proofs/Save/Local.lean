import BatchedSave.Save
import BatchedSave.Proofs.Batch.History

/-!
# What is done without the store

Filling a batch, writing its text, applying a result that has been read and classifying a failure
are local: they ask the dialect and the limits, write values back and report, but they neither call
the store nor look at the token, and they draw no command.
-/
namespace BatchedSave

/-- A request that involves neither the store nor the caller. -/
def Request.Local : Request → Prop
  | .store _ | .await _ | .cancelled | .settings | .fieldCount | .close | .pull _ => False
  | _ => True

theorem Request.local_of_limits {r : Request} (asked : r.OfLimits) : r.Local := by
  cases r <;> trivial

namespace Script

theorem fragments_local (commands : List Command) :
    (fragments commands).run.Asks Request.Local := by
  induction commands with
  | nil => trivial
  | cons c rest ih =>
    have asked : (Program.request (.fragment c)).Asks Request.Local := Program.asks_request trivial
    refine asked.lift.attempt_bind fun r => ?_
    cases r.failure with
    | some e => trivial
    | none => exact ih.attempt_bind fun _ => trivial

theorem closing_local (s : Script) : s.closing.Asks Request.Local := by
  unfold closing
  split
  · trivial
  · exact Program.asks_request trivial

theorem render_local (s : Script) (commands : List Command) :
    (s.render commands).Asks Request.Local := by
  unfold render
  split
  · trivial
  · refine (fragments_local _).bind fun outcome => ?_
    cases outcome with
    | error e => trivial
    | ok added => exact s.closing_local.bind fun _ => trivial

end Script

namespace Batch

theorem full_local (b : Batch) (c : Command) : (b.full c).Asks Request.Local :=
  ⟨trivial, fun _ => ⟨trivial, fun _ => trivial⟩⟩

theorem prepared_local (b : Batch) : b.prepared.Asks Request.Local := by
  unfold prepared
  split
  · exact ⟨trivial, fun _ => trivial⟩
  · trivial

theorem tryAdd_local (b : Batch) (c : Command) : (b.tryAdd c).Asks Request.Local := by
  unfold tryAdd
  cases c.validate with
  | error refusal => trivial
  | ok _ =>
    refine b.prepared_local.bind fun ready => ?_
    have asked := (ready.limits.mayAdd_asks ready.view c).imp fun _ => Request.local_of_limits
    refine asked.bind fun allowed => ?_
    cases allowed with
    | false => exact (ready.full_local c).bind fun _ => trivial
    | true =>
      have checked := (ready.limits.accepts_asks (ready.push c).view).imp fun _ =>
        Request.local_of_limits
      refine checked.bind fun verdict => ?_
      rcases verdict with e | fits
      · dsimp only
        split <;> trivial
      · cases fits with
        | true => trivial
        | false =>
          dsimp only
          split
          · exact (full_local _ _).bind fun _ => trivial
          · trivial

theorem finalize_local (b : Batch) : b.finalize.Asks Request.Local := by
  unfold finalize
  split
  · trivial
  · exact (b.script.render_local _).bind fun _ => trivial

theorem statement_local (b : Batch) : b.statement.Asks Request.Local :=
  b.finalize_local.bind fun _ => trivial

end Batch

namespace Command

theorem applyGenerated_local (c : Command) (index : Nat) (values : List Value) :
    (c.applyGenerated index values).run.Asks Request.Local := by
  unfold applyGenerated
  split
  · trivial
  · refine (Program.Asks.forM _ fun pair => ?_).attempt_bind fun _ => trivial
    exact (Program.asks_request trivial).lift

theorem complete_local (c : Command) (index : Nat) (outcome : RowOutcome) :
    (c.complete index outcome).run.Asks Request.Local := by
  have recorded (event : Metrics.Notice) :
      (Program.request (.record event)).Asks Request.Local := Program.asks_request trivial
  unfold complete
  split
  · exact (c.applyGenerated_local index _).attempt_bind fun _ =>
      (recorded _).lift.attempt_bind fun _ => trivial
  · split
    · exact (recorded _).lift.attempt_bind fun _ => trivial
    · trivial
  all_goals trivial

end Command

namespace Reconciliation

theorem classify_local (r : Reconciliation) (e : Error) : (r.classify e).Asks Request.Local := by
  unfold classify
  split
  · exact ⟨trivial, fun _ => ⟨trivial, fun _ => trivial⟩⟩
  · exact ⟨trivial, fun _ => ⟨trivial, fun _ => trivial⟩⟩
  · exact ⟨trivial, fun _ => ⟨trivial, fun _ => trivial⟩⟩
  · exact ⟨trivial, fun _ => trivial⟩
  · exact ⟨trivial, fun _ => ⟨trivial, fun _ => trivial⟩⟩

theorem conclude_local (r : Reconciliation) (result : Except (Abort Error) Unit) :
    (r.conclude result).Asks Request.Local := by
  unfold conclude
  split
  · dsimp only
    split <;> trivial
  · exact (r.classify_local _).bind fun _ => trivial
  · trivial

end Reconciliation

namespace Save

theorem tryAdd_local (b : Batch) (c : Command) : (tryAdd b c).run.Asks Request.Local :=
  (b.tryAdd_local c).lift.attempt_bind fun (_, result) =>
    Program.Asks.attempt_bind (by cases result <;> trivial) fun _ => trivial

theorem startBatch_local (s : Save) (c : Command) : (s.startBatch c).run.Asks Request.Local := by
  refine (tryAdd_local s.emptyBatch c).attempt_bind fun (b, admission) => ?_
  cases admission <;> trivial

end Save

end BatchedSave
