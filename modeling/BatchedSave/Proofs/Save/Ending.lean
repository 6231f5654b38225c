import BatchedSave.Proofs.Reconciliation.Heard
import BatchedSave.Proofs.Save.Course

/-!
# How a suspending save ends

A save that comes back with an error has a reason in its trace: `Ending` lists them, each with the
exchanges that gave rise to it. A save that succeeds with commands to send made its last call to
find that no result set is left.
-/
namespace BatchedSave

/-- The advance that finds no further result set. -/
def Exchange.drained : Exchange :=
  ⟨.await (.reader .nextSet), some (.ok false)⟩

theorem Idle.calls_eq_nil {trace : List Exchange} (idle : Idle trace) : calls trace = [] := by
  refine calls_eq_nil_iff.mpr fun x member => ?_
  have here := idle x member
  obtain ⟨request, answer⟩ := x
  cases request with
  | store call => exact here.elim
  | await call => exact here.elim
  | _ => rfl

theorem Request.IsEffect.not_isCall {r : Request} (effect : r.IsEffect) : r.isCall = false := by
  cases r with
  | store call => exact effect.elim
  | await call => exact effect.elim
  | _ => rfl

/-- The results of the commands were rejected in a trace: a statement was executed, and what was
heard behind it is rejected with the error. No call was made afterwards. -/
inductive Rejected (commands : List Command) (e : Error) : List Exchange → Prop
  | heard {statement : StoreCommand} {earlier reading later : List Exchange}
      (executed : lastCall earlier = some ⟨.await (.query statement), some (.ok ())⟩)
      (rejects : Reconciliation.Rejects 0 commands (heard reading) e) (ended : calls later = []) :
    Rejected commands e (earlier ++ reading ++ later)

section Rejected

variable {commands : List Command} {trace : List Exchange} {e : Error}

theorem Rejected.behind (earlier : List Exchange) (rejected : Rejected commands e trace) :
    Rejected commands e (earlier ++ trace) := by
  cases rejected with
  | heard executed rejects ended =>
    rw [← List.append_assoc, ← List.append_assoc]
    exact .heard (lastCall_append _ executed) rejects ended

theorem Rejected.before {later : List Exchange} (quiet : calls later = [])
    (rejected : Rejected commands e trace) : Rejected commands e (trace ++ later) := by
  cases rejected with
  | heard executed rejects ended =>
    rw [List.append_assoc]
    exact .heard executed rejects (by rw [calls_append, ended, quiet]; rfl)

theorem Rejected.isJudged (rejected : Rejected commands e trace) : e.isJudged = true := by
  cases rejected with
  | heard _ rejects => exact rejects.isJudged

end Rejected

/-- Why a save comes back with an error. The caller gave up. Or the last call failed of its own, and
the save hands on that error, as a store failure if it has no verdict. Or the results of a group of
its commands were rejected for what was heard of them. Or the last it did was to try a command it
had drawn, which is refused, at which the limits fail, or which exceeds them on its own; or to ask
for a fragment that cannot be written. -/
inductive Ending (s : Save) (commands : List Command) (trace : List Exchange) : Error → Prop
  | cancelled (origin : Origin) : Ending s commands trace (.cancelled origin)
  | own {x : Exchange} {e : Error} (last : lastCall trace = some x) (own : x.error? = some e)
      (judged : e.isJudged = true) : Ending s commands trace e
  | stored {x : Exchange} {e : Error} (suspect : Option CommandRef)
      (last : lastCall trace = some x) (own : x.error? = some e) (unjudged : e.isJudged = false) :
    Ending s commands trace (.storeFailure suspect e)
  | rejected {group : List Command} {e : Error} (sent : group <:+: commands)
      (rejected : Rejected group e trace) : Ending s commands trace e
  | stopped {header : String} {held : List Command} {c : Command} {part : List Exchange} {e : Error}
      (drawn : ⟨.pull (some c), ()⟩ ∈ trace) (among : held ++ [c] <:+: commands)
      (trial : s.Trial s.limits header held c part (.error e)) (last : part <:+ trace) :
    Ending s commands trace e
  | oversized {header : String} {c : Command} {part : List Exchange}
      (drawn : ⟨.pull (some c), ()⟩ ∈ trace) (among : c ∈ commands)
      (trial : s.Trial s.limits header [] c part (.ok none)) (last : part <:+ trace) :
    Ending s commands trace (Save.oversized c)
  | unwritten {c : Command} {junk : String} {e : Error} (among : c ∈ commands)
      (last : trace.getLast? = some ⟨.fragment c, Rendering.mk junk (some e)⟩) :
    Ending s commands trace e

/-- What happened before, and commands around those it is about, leave the reason in place. -/
theorem Ending.behind {s : Save} {commands all : List Command} {trace : List Exchange} {e : Error}
    (earlier : List Exchange) (among : commands <:+: all) (ending : Ending s commands trace e) :
    Ending s all (earlier ++ trace) e := by
  have ends : trace <:+ earlier ++ trace := List.suffix_append earlier trace
  cases ending with
  | cancelled origin => exact .cancelled origin
  | own last own judged => exact .own (lastCall_append _ last) own judged
  | stored suspect last own unjudged => exact .stored suspect (lastCall_append _ last) own unjudged
  | rejected sent rejected => exact .rejected (sent.trans among) (rejected.behind earlier)
  | stopped drawn within trial last =>
    exact .stopped (ends.subset drawn) (within.trans among) trial (last.trans ends)
  | oversized drawn within trial last =>
    exact .oversized (ends.subset drawn) (among.subset within) trial (last.trans ends)
  | unwritten within last =>
    exact .unwritten (among.subset within) (List.mem_getLast?_append_of_mem_getLast? last)

/-! ### Round trips -/

section RoundTrip

variable {trace : List Exchange}

/-- A walk that succeeds ends with the advance that finds no further result set. -/
theorem walk_drains {applied : List Applied} {pending : List Command} {r : Reconciliation}
    (run : (Reconciliation.walkIn .suspending applied pending).Runs trace (r, .ok ())) :
    lastCall trace = some .drained := by
  induction pending generalizing applied trace with
  | nil =>
    obtain ⟨_, _, finished, rfl, ended, done⟩ := Program.runs_bind.mp run
    obtain ⟨rfl, same⟩ := Program.runs_done_iff.mp done
    cases same
    obtain ⟨advance, rest, more, rfl, called, left⟩ := Program.runs_attempt_bind_ok.mp ended
    cases more with
    | true =>
      obtain ⟨-, failed⟩ := Program.runs_throw.mp left
      cases failed
    | false =>
      obtain ⟨rfl, -⟩ := Program.runs_attempt_pure.mp left
      rw [List.append_nil, List.append_nil, perform_awaits called]
      rfl
  | cons c others ih =>
    obtain ⟨_, _, reconciled, rfl, head, tail⟩ := Program.runs_bind.mp run
    cases reconciled with
    | error e =>
      obtain ⟨-, same⟩ := Program.runs_done_iff.mp tail
      cases same
    | ok a => exact lastCall_append _ (ih tail)

theorem Trip.drains {statement : Statement} {commands : List Command} {r : Reconciliation}
    (trip : Trip .suspending statement commands trace r (.ok ())) :
    lastCall trace = some .drained := by
  have closed : calls [⟨.close, ()⟩] = [] := rfl
  cases trip with
  | read opened executed walked =>
    rw [lastCall_append_quiet closed]
    exact lastCall_append _ (walk_drains walked)

/-- A trip that fails was cut short, or what was heard of its results was rejected. -/
theorem Trip.fails {statement : Statement} {commands : List Command} {r : Reconciliation}
    {e : Error} (trip : Trip .suspending statement commands trace r (.error e)) :
    Cut trace e ∨ Rejected commands e trace := by
  have closed : calls [⟨.close, ()⟩] = [] := rfl
  cases trip with
  | unopened failed => exact .inl ((perform_cut failed).before closed)
  | unexecuted opened failed => exact .inl (((perform_cut failed).behind _).before closed)
  | @read opening asking reading settings _ _ opened executed walked =>
    rcases Reconciliation.walkIn_stops walked with cut | rejects
    · exact .inl ((cut.behind _).before closed)
    · rw [perform_awaits executed]
      have last : lastCall [⟨.cancelled, false⟩,
          ⟨.await (.query (statement.bind settings)), some (.ok ())⟩] = some _ := rfl
      exact .inr (.heard (lastCall_append _ last) rejects closed)

theorem Script.Fragmented.failing {commands : List Command} {e : Error}
    (fragments : Fragmented commands trace (.error e)) :
    ∃ c ∈ commands, ∃ junk, trace.getLast? = some ⟨.fragment c, Rendering.mk junk (some e)⟩ := by
  generalize same : (Except.error e : Except Error String) = result at fragments
  induction fragments with
  | nil => cases same
  | @failed c _ junk _ =>
    cases same
    exact ⟨c, List.mem_cons_self, junk, rfl⟩
  | @cons _ rest trace result text more ih =>
    cases result with
    | ok others => cases same
    | error e' =>
      cases same
      obtain ⟨c, among, junk, last⟩ := ih rfl
      refine ⟨c, List.mem_cons_of_mem _ among, junk, ?_⟩
      rw [List.getLast?_cons, last]
      rfl

theorem Cut.ending {s : Save} {commands : List Command} {e : Error} (r : Reconciliation)
    (cut : Cut trace e) : Ending s commands trace (r.classified e) := by
  unfold Reconciliation.classified
  cases cut with
  | cancelled origin => exact .cancelled origin
  | own last own =>
    split
    next judged => exact .own last own judged
    next unjudged => exact .stored _ last own (Bool.eq_false_iff.mpr unjudged)

theorem Batch.Posted.drains {b : Batch} {executed : Executed}
    (posted : b.Posted .suspending trace (.ok executed)) : lastCall trace = some .drained := by
  cases posted with
  | @sent asked travelled concluding added footer r read result written trip concluded =>
    have silent : calls concluding = [] := concluded.idle.calls_eq_nil
    cases concluded with
    | executed =>
      have counted (rows : Nat) :
          calls [⟨.record (.batchFinish b.commands.length rows ()), ()⟩] = [] := rfl
      rw [lastCall_append_quiet (counted _), lastCall_append_quiet silent]
      exact lastCall_append _ trip.drains

theorem Batch.Posted.ends {s : Save} {b : Batch} {e : Error}
    (posted : b.Posted .suspending trace (.error (.failed e))) : Ending s b.commands trace e := by
  cases posted with
  | unwritten failed =>
    obtain ⟨c, among, junk, last⟩ := failed.failing
    exact .unwritten among last
  | @sent asked travelled concluding added footer r read result written trip concluded =>
    have silent : calls concluding = [] := concluded.idle.calls_eq_nil
    cases concluded with
    | failed e =>
      have counted : calls [⟨.record (.batchFinish b.commands.length 0 ()), ()⟩] = [] := rfl
      rcases trip.fails with cut | rejected
      · exact (((cut.behind _).before silent).before counted).ending r
      · have kept : r.classified e = e := if_pos rejected.isJudged
        rw [kept]
        exact .rejected List.infix_rfl (((rejected.behind _).before silent).before counted)

end RoundTrip

/-! ### Saves -/

namespace Save

variable {s : Save} {header : String} {held : List Command} {trace : List Exchange}
variable {o : SaveOutcome}

theorem Delivered.drains {known : Option String} {groups : List (List Command)} {o' : SaveOutcome}
    (nonempty : ∀ group ∈ groups, group ≠ []) (sending : groups ≠ [])
    (delivered : s.Delivered .suspending known o groups trace (.ok o')) :
    lastCall trace = some .drained := by
  generalize same : (Except.ok o' : Except (Abort Error) SaveOutcome) = result at delivered
  induction delivered with
  | done => exact absurd rfl sending
  | failed => cases same
  | overflowed => cases same
  | @next _ _ _ groups _ _ _ _ _ _ _ began run absorbed more ih =>
    obtain ⟨here, others⟩ := List.forall_mem_cons.mp nonempty
    by_cases last : groups = []
    · subst last
      cases more
      rw [List.append_nil]
      exact lastCall_append _ (Batch.execute_runs rfl here run).drains
    · exact lastCall_append _ (ih others last same)

theorem Sent.drains {o' : SaveOutcome} (filled : held ≠ [])
    (sent : s.Sent .suspending header held o trace (.ok o')) : lastCall trace = some .drained := by
  obtain ⟨rest, rfl, delivered⟩ := sent
  have sending : parcels s.minBatchSize held ≠ [] := by
    intro none
    have whole := parcels_flatten s.minBatchSize held
    rw [none] at whole
    exact filled whole.symm
  exact lastCall_append [_] (delivered.drains (parcels_ne_nil s.minBatchSize filled) sending)

/-- A save that succeeds with commands to send ends with the advance that finds no further result
set. -/
theorem Course.drains {o' : SaveOutcome} {drawn : Bool} {stream : List Command}
    (course : s.Course .suspending o header held drawn stream trace (.ok o'))
    (sending : held ++ stream ≠ []) : lastCall trace = some .drained := by
  generalize same : (Except.ok o' : Except (Abort Error) SaveOutcome) = result at course
  induction course with
  | finished => exact absurd rfl sending
  | last filled sent =>
    subst same
    exact lastCall_append [_] (sent.drains filled)
  | draw _ ih => exact lastCall_append [_] (ih sending same)
  | stopped => cases same
  | oversized => cases same
  | added _ _ ih => exact lastCall_append _ (ih (by simp) same)
  | failing => cases same
  | closed _ _ _ _ ih => exact lastCall_append _ (ih (by simp) same)

theorem Delivered.ends {known : Option String} {groups : List (List Command)} {e : Error}
    (nonempty : ∀ group ∈ groups, group ≠ [])
    (delivered : s.Delivered .suspending known o groups trace (.error (.failed e))) :
    Ending s groups.flatten trace e := by
  generalize same : (Except.error (.failed e) : Except (Abort Error) SaveOutcome) = result
    at delivered
  induction delivered with
  | done => cases same
  | failed began run =>
    cases same
    have ends := (Batch.execute_runs rfl (nonempty _ List.mem_cons_self) run).ends (s := s)
    rw [List.flatten_cons]
    exact ends.behind _ (List.prefix_append _ _).isInfix
  | overflowed began run excess =>
    cases same
    cases absorb_error excess
  | next began run absorbed more ih =>
    rw [List.flatten_cons]
    exact (ih (List.forall_mem_cons.mp nonempty).2 same).behind _ (List.suffix_append _ _).isInfix

theorem Sent.ends {e : Error} (filled : held ≠ [])
    (sent : s.Sent .suspending header held o trace (.error (.failed e))) :
    Ending s held trace e := by
  obtain ⟨rest, rfl, delivered⟩ := sent
  have ends := delivered.ends (parcels_ne_nil s.minBatchSize filled)
  rw [parcels_flatten] at ends
  exact ends.behind [_] List.infix_rfl

/-- A save that comes back with an error has a reason among the commands it holds and those it
draws, behind whatever came before; if the first of these has been drawn, it was there. The
induction is on the evidence for the course of the save. -/
theorem Course.ends (past : List Exchange) {drawn : Bool} {stream : List Command} {e : Error}
    (before : drawn = true → ∀ {c later}, stream = c :: later → ⟨.pull (some c), ()⟩ ∈ past)
    (course : s.Course .suspending o header held drawn stream trace (.error (.failed e))) :
    Ending s (held ++ stream) (past ++ trace) e := by
  generalize same : (Except.error (.failed e) : Except (Abort Error) SaveOutcome) = result
    at course
  induction course generalizing past with
  | finished => cases same
  | last filled sent =>
    subst same
    rw [List.append_nil, List.append_cons]
    exact (sent.ends filled).behind _ List.infix_rfl
  | @draw _ _ _ c _ _ _ _ ih =>
    rw [List.append_cons past]
    refine ih _ ?_ same
    rintro - _ _ ⟨⟩
    exact List.mem_append_right _ List.mem_cons_self
  | @stopped _ _ held c later _ _ trial =>
    cases same
    have among : held ++ [c] <:+: held ++ c :: later := ⟨[], later, by simp⟩
    have drawn := before rfl rfl
    exact .stopped (List.mem_append_left _ drawn) among trial (List.suffix_append _ _)
  | @oversized _ _ c _ _ trial =>
    cases same
    have drawn := before rfl rfl
    exact .oversized (List.mem_append_left _ drawn) List.mem_cons_self trial
      (List.suffix_append _ _)
  | added _ _ ih =>
    rw [List.append_cons, ← List.append_assoc past]
    exact ih _ nofun same
  | failing filled trial sent =>
    cases same
    rw [← List.append_assoc]
    exact (sent.ends filled).behind _ (List.prefix_append _ _).isInfix
  | closed _ _ _ _ ih =>
    rw [← List.append_assoc past]
    refine (ih _ ?_ same).behind [] (List.suffix_append _ _).isInfix
    exact fun _ _ _ first => List.mem_append_left _ (before rfl first)

end Save

end BatchedSave
