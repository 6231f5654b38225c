import BatchedSave.Proofs.Reconciliation.Settlement
import BatchedSave.Proofs.Save.Course

/-!
# A save halts where something goes wrong

`Exchange.Raises` tells the exchanges by which something goes wrong: a command that is drawn is
invalid, the limits fail, an empty batch is reported full, a fragment is not written, a call comes
back with an error, the caller gives up. Behind such an exchange nothing is drawn, no call is made
and nothing is written back, and the save fails. `Arises` is the converse: whatever a save fails
with arises at some point of its trace, and what is behind that point is as inert.
-/
namespace BatchedSave

/-- Something goes wrong with this exchange. -/
def Exchange.Raises : Exchange → Prop
  | ⟨.pull (some c), _⟩ => c.validate ≠ .ok ()
  | ⟨.accepts _, verdict⟩ => ∃ e, verdict = .error e
  | ⟨.record (.batchFull held), _⟩ => held = 0
  | ⟨.fragment _, written⟩ => written.failure ≠ none
  | ⟨.store _, result⟩ => ∃ e, result = .error e
  | ⟨.await _, result⟩ => result = none ∨ ∃ e, result = some (.error e)
  | ⟨.cancelled, given⟩ => given = true
  | _ => False

/-- Nothing goes wrong in the trace. -/
def Calm (trace : List Exchange) : Prop :=
  ∀ x ∈ trace, ¬ x.Raises

/-- A request that neither draws a command, nor makes a call, nor gives a value back. -/
def Request.Inert : Request → Prop
  | .pull _ | .store _ | .await _ | .writeBack .. => False
  | _ => True

/-- Nothing is drawn, called or written back in the trace. -/
def Inert (trace : List Exchange) : Prop :=
  ∀ x ∈ trace, x.request.Inert

/-- What goes wrong in the trace ends it: it has failed, and only inert requests follow. -/
def Stops (trace : List Exchange) (failed : Prop) : Prop :=
  ∀ before x after, trace = before ++ x :: after → x.Raises → failed ∧ Inert after

variable {first second trace : List Exchange} {x : Exchange} {failed : Prop}

theorem calm_nil : Calm [] :=
  fun _ member => nomatch member

theorem calm_cons (here : ¬ x.Raises) (rest : Calm trace) : Calm (x :: trace) :=
  List.forall_mem_cons.mpr ⟨here, rest⟩

theorem Calm.append (here : Calm first) (there : Calm second) : Calm (first ++ second) :=
  List.forall_mem_append.mpr ⟨here, there⟩

theorem inert_nil : Inert [] :=
  fun _ member => nomatch member

theorem inert_cons (here : x.request.Inert) (rest : Inert trace) : Inert (x :: trace) :=
  List.forall_mem_cons.mpr ⟨here, rest⟩

theorem Inert.append (here : Inert first) (there : Inert second) : Inert (first ++ second) :=
  List.forall_mem_append.mpr ⟨here, there⟩

theorem Calm.stops (calm : Calm trace) : Stops trace failed :=
  fun _ x _ same raises => absurd raises (calm x (by simp [same]))

theorem Stops.calm (stops : Stops trace failed) (succeeded : ¬ failed) : Calm trace := by
  intro x member raises
  obtain ⟨before, after, same⟩ := List.append_of_mem member
  exact succeeded (stops before x after same raises).1

theorem Stops.imp {failed' : Prop} (stops : Stops trace failed) (weaker : failed → failed') :
    Stops trace failed' := by
  intro before x after same raises
  obtain ⟨fails, inert⟩ := stops before x after same raises
  exact ⟨weaker fails, inert⟩

/-- Where only inert requests follow the first exchange, nothing is left to be stopped. -/
theorem stops_of_inert (fails : failed) (inert : Inert trace) : Stops (x :: trace) failed := by
  intro before y after same _
  refine ⟨fails, fun z member => inert z ?_⟩
  cases before with
  | nil =>
    obtain ⟨-, rfl⟩ := List.cons.inj same
    exact member
  | cons w before =>
    obtain ⟨-, rfl⟩ := List.cons.inj same
    exact List.mem_append_right _ (List.mem_cons_of_mem y member)

theorem Inert.stops (inert : Inert trace) (fails : failed) : Stops trace failed := by
  cases trace with
  | nil => exact calm_nil.stops
  | cons x trace => exact stops_of_inert fails (List.forall_mem_cons.mp inert).2

theorem stops_single (fails : x.Raises → failed) : Stops [x] failed := by
  intro before y after same raises
  obtain ⟨rfl, rfl, rfl⟩ : before = [] ∧ y = x ∧ after = [] := by
    simpa [List.append_eq_singleton_iff, eq_comm] using same
  exact ⟨fails raises, inert_nil⟩

theorem Stops.behind (calm : Calm first) (stops : Stops second failed) :
    Stops (first ++ second) failed := by
  intro before x after same raises
  rcases List.append_eq_append_iff.mp same with ⟨cut, rfl, split⟩ | ⟨cut, rfl, split⟩
  · exact stops cut x after split raises
  · cases cut with
    | nil => exact stops [] x after split.symm raises
    | cons y cut =>
      obtain ⟨rfl, -⟩ := List.cons.inj split
      exact absurd raises (calm x (by simp))

theorem Stops.before (stops : Stops first failed) (calm : Calm second) (inert : Inert second) :
    Stops (first ++ second) failed := by
  intro before x after same raises
  rcases List.append_eq_append_iff.mp same with ⟨cut, rfl, rfl⟩ | ⟨cut, rfl, split⟩
  · exact absurd raises (calm x (by simp))
  · cases cut with
    | nil =>
      have whole : second = x :: after := split.symm
      exact absurd raises (calm x (by simp [whole]))
    | cons y cut =>
      obtain ⟨rfl, rfl⟩ := List.cons.inj split
      obtain ⟨fails, quiet⟩ := stops before x cut rfl raises
      exact ⟨fails, quiet.append inert⟩

/-! ### Round trips -/

section RoundTrip

variable {manner : Manner}

theorem perform_stops {origin : Origin} {call : StoreCall} {result : Except Error call.Result}
    (run : (manner.perform origin call).run.Runs trace result) :
    Stops trace (∃ e, result = .error e) := by
  have looked : Calm [⟨.cancelled, false⟩] := calm_cons nofun calm_nil
  rcases Program.runs_perform run with rfl | rfl | ⟨rfl, rfl | rfl⟩
  · exact stops_single id
  · refine (stops_single fun raises => ?_).behind looked
    rcases raises with none | ⟨e, failed⟩
    · cases none
    · exact ⟨e, Option.some.inj failed⟩
  · exact stops_single fun _ => ⟨_, rfl⟩
  · exact (stops_single fun _ => ⟨_, rfl⟩).behind looked

/-- A call that fails is the last exchange, or the look that found the caller giving up is. -/
theorem perform_raises {origin : Origin} {call : StoreCall} {e : Error}
    (run : (manner.perform origin call).run.Runs trace (.error e)) :
    ∃ inner x, trace = inner ++ [x] ∧ x.Raises := by
  rcases Program.runs_perform run with rfl | rfl | ⟨-, rfl | rfl⟩
  · exact ⟨[], _, rfl, e, rfl⟩
  · exact ⟨[_], _, rfl, .inr ⟨e, rfl⟩⟩
  · exact ⟨[], _, rfl, rfl⟩
  · exact ⟨[_], _, rfl, .inl rfl⟩

theorem Request.IsEffect.calm {x : Exchange} (effect : x.request.IsEffect) : ¬ x.Raises := by
  obtain ⟨request, answer⟩ := x
  cases request with
  | writeBack entry column value => exact id
  | record event =>
    cases event with
    | commandApplied => exact id
    | _ => exact effect.elim
  | _ => exact effect.elim

namespace Reconciliation

/-- A walk stops where something goes wrong; if nothing does, it rejects what it has read. -/
theorem halting_account : Account manner fun trace ended =>
    Stops trace (∃ e, ended = some e) ∧
      ∀ e, ended = some e → Rejection e ∨ ∃ inner x, trace = inner ++ [x] ∧ x.Raises where
  nothing := ⟨calm_nil.stops, nofun⟩
  append := by
    intro first second ended ⟨here, _⟩ ⟨there, ends⟩
    refine ⟨there.behind (here.calm (by simp)), fun e early => ?_⟩
    rcases ends e early with rejection | ⟨inner, x, rfl, raises⟩
    · exact .inl rejection
    · exact .inr ⟨first ++ inner, x, (List.append_assoc _ _ _).symm, raises⟩
  called := by
    rintro call trace (e | a) run
    · refine ⟨(perform_stops run).imp fun _ => ⟨e, rfl⟩, fun _ _ => .inr (perform_raises run)⟩
    · refine ⟨(perform_stops run).imp ?_, nofun⟩
      rintro ⟨_, ⟨⟩⟩
  counted _ := ⟨(calm_cons id calm_nil).stops, nofun⟩
  effect _ effect := ⟨(calm_cons effect.calm calm_nil).stops, nofun⟩
  rejected := by
    rintro e rejection
    refine ⟨calm_nil.stops, ?_⟩
    rintro e' ⟨⟩
    exact .inl rejection

end Reconciliation

/-- The trace ends with a reading of results. -/
def EndsReading (trace : List Exchange) : Prop :=
  ∃ inner x, trace = inner ++ [x] ∧ x.request.OfReader

theorem EndsReading.behind (first : List Exchange) (ends : EndsReading second) :
    EndsReading (first ++ second) := by
  obtain ⟨inner, x, rfl, reading⟩ := ends
  exact ⟨first ++ inner, x, (List.append_assoc _ _ _).symm, reading⟩

theorem endsReading_call {call : ReaderCall} {result : Except Error call.Result}
    (run : (manner.perform .reader (.reader call)).run.Runs trace result) :
    EndsReading trace := by
  rcases Program.runs_perform run with rfl | rfl | ⟨-, rfl | rfl⟩
  · exact ⟨[], _, rfl, trivial⟩
  · exact ⟨[_], _, rfl, trivial⟩
  · exact ⟨[], _, rfl, trivial⟩
  · exact ⟨[_], _, rfl, trivial⟩

/-- What begins with a call on the reader and only reads ends reading. -/
theorem endsReading_of_call {α : Type} {call : ReaderCall} {next : call.Result → Attempt α}
    {result : Except Error α} (reads : ∀ a, (next a).run.Asks Request.OfReader)
    (run : (manner.perform .reader (.reader call) >>= next).run.Runs trace result) :
    EndsReading trace := by
  rcases Program.runs_attempt_bind.mp run with ⟨_, -, called⟩ | ⟨_, after, a, rfl, called, rest⟩
  · exact endsReading_call called
  · rcases List.eq_nil_or_concat' after with rfl | ⟨inner, x, rfl⟩
    · rw [List.append_nil]
      exact endsReading_call called
    · exact .behind _ ⟨inner, x, rfl, (reads a).of_mem rest x (by simp)⟩

section Commands

variable {c : Command} {index : Nat}

theorem readOutcomeIn_endsReading {result : Except Error RowOutcome}
    (run : (c.readOutcomeIn manner index).run.Runs trace result) : EndsReading trace := by
  refine endsReading_of_call (fun entered => ?_) run
  cases entered with
  | true => exact readRowIn_asks
  | false => trivial

/-- A result that is not applied leaves no trace. -/
theorem complete_fails_silently {outcome : RowOutcome} {e : Error}
    (run : (c.complete index outcome).run.Runs trace (.error e)) : trace = [] := by
  unfold Command.complete at run
  split at run
  · rcases Program.runs_attempt_bind.mp run with ⟨_, -, failed⟩ | ⟨_, _, _, -, -, recorded⟩
    · unfold Command.applyGenerated at failed
      split at failed
      · exact (Program.runs_throw (α := Command).mp failed).1
      · rcases Program.runs_attempt_bind.mp failed with ⟨_, -, writing⟩ | ⟨_, _, _, -, -, done⟩
        · cases (forM_writeBacks writing).1
        · cases (Program.runs_attempt_pure.mp done).2
    · obtain ⟨_, _, _, -, -, done⟩ := Program.runs_lift_bind.mp recorded
      cases (Program.runs_attempt_pure.mp done).2
  · split at run
    · obtain ⟨_, _, _, -, -, done⟩ := Program.runs_lift_bind.mp run
      cases (Program.runs_attempt_pure.mp done).2
    · exact (Program.runs_throw.mp run).1
  all_goals exact (Program.runs_throw.mp run).1

/-- A command that is not applied is given up at a reading. -/
theorem reconcileIn_endsReading {e : Error}
    (run : (c.reconcileIn manner index).run.Runs trace (.error e)) : EndsReading trace := by
  rcases Program.runs_attempt_bind.mp run with ⟨_, -, failed⟩ | ⟨_, _, _, rfl, -, rest⟩
  · unfold Manner.enterSet at failed
    split at failed
    · refine endsReading_of_call (fun moved => ?_) failed
      cases moved <;> trivial
    · cases (Program.runs_attempt_pure.mp failed).2
  · refine .behind _ ?_
    rcases Program.runs_attempt_bind.mp rest with ⟨_, -, failed⟩ | ⟨_, _, _, rfl, read, completed⟩
    · exact readOutcomeIn_endsReading failed
    · rw [complete_fails_silently completed, List.append_nil]
      exact readOutcomeIn_endsReading read

end Commands

/-- Every walk ends with a reading: the one at which a command is given up, or the look for further
results behind the last command. -/
theorem Reconciliation.walkIn_endsReading {applied : List Applied} {pending : List Command}
    {r : Reconciliation} {result : Except Error Unit}
    (run : (walkIn manner applied pending).Runs trace (r, result)) : EndsReading trace := by
  induction pending generalizing applied trace with
  | nil =>
    obtain ⟨_, _, _, rfl, ended, done⟩ := Program.runs_bind.mp run
    obtain ⟨rfl, -⟩ := Program.runs_done_iff.mp done
    rw [List.append_nil]
    refine endsReading_of_call (fun more => ?_) ended
    cases more <;> trivial
  | cons c others ih =>
    obtain ⟨_, _, reconciled, rfl, head, tail⟩ := Program.runs_bind.mp run
    cases reconciled with
    | error e =>
      obtain ⟨rfl, -⟩ := Program.runs_done_iff.mp tail
      rw [List.append_nil]
      exact reconcileIn_endsReading head
    | ok a => exact .behind _ (ih tail)

theorem Statement.preparing_calm (s : Statement) (settings : Settings) :
    Calm (s.preparing settings) :=
  calm_cons id (calm_cons id calm_nil)

/-- What goes wrong in a trip makes it fail; the connection is closed, and that is all. -/
theorem Trip.stops {statement : Statement} {commands : List Command} {r : Reconciliation}
    {read : Except Error Unit} (trip : Trip manner statement commands trace r read) :
    Stops trace (∃ e, read = .error e) := by
  have closed : Calm [⟨.close, ()⟩] ∧ Inert [⟨.close, ()⟩] :=
    ⟨calm_cons id calm_nil, inert_cons trivial inert_nil⟩
  -- a call that succeeds is calm
  have succeeded {origin : Origin} {call : StoreCall} {a : call.Result} {trace : List Exchange}
      (run : (manner.perform origin call).run.Runs trace (.ok a)) : Calm trace :=
    (perform_stops run).calm nofun
  cases trip with
  | unopened failed => exact (perform_stops failed).before closed.1 closed.2
  | @unexecuted _ _ settings _ opened failed =>
    have begun := (succeeded opened).append (statement.preparing_calm settings)
    exact ((perform_stops failed).behind begun).before closed.1 closed.2
  | @read _ _ _ settings _ result opened executed walked =>
    have begun := (succeeded opened).append (statement.preparing_calm settings)
    have failed : (∃ e, failure read = some e) → ∃ e, read = .error e := by
      rintro ⟨_, early⟩
      cases read with
      | error e => exact ⟨e, rfl⟩
      | ok _ => cases early
    have walks := (Reconciliation.halting_account.walk walked).1.imp failed
    exact (walks.behind (begun.append (succeeded executed))).before closed.1 closed.2

/-- Where a trip turns: a reading of results behind which nothing is read any more, or the exchange
that goes wrong. -/
def TurnsAt (x : Exchange) : Except Error Unit → Prop
  | .ok _ => x.request.OfReader
  | .error e => x.Raises ∨ (x.request.OfReader ∧ Rejection e)

theorem Trip.turns {statement : Statement} {commands : List Command} {r : Reconciliation}
    {read : Except Error Unit} (trip : Trip manner statement commands trace r read) :
    ∃ inner x, trace = inner ++ [x] ++ [⟨.close, ()⟩] ∧ TurnsAt x read := by
  cases trip with
  | unopened failed =>
    obtain ⟨inner, x, rfl, raises⟩ := perform_raises failed
    exact ⟨inner, x, rfl, .inl raises⟩
  | unexecuted _ failed =>
    obtain ⟨inner, x, rfl, raises⟩ := perform_raises failed
    exact ⟨_, x, by rw [← List.append_assoc], .inl raises⟩
  | read _ _ walked =>
    have rejects := (Reconciliation.halting_account.walk walked).2
    obtain ⟨inner, x, rfl, reading⟩ := Reconciliation.walkIn_endsReading walked
    refine ⟨_, x, by rw [← List.append_assoc], ?_⟩
    cases read with
    | ok _ => exact reading
    | error e =>
      rcases rejects e rfl with rejection | ⟨inner', y, same, raises⟩
      · exact .inr ⟨reading, rejection⟩
      · obtain ⟨-, last⟩ := List.append_inj' same rfl
        obtain rfl := List.singleton_inj.mp last
        exact .inl raises

end RoundTrip

/-! ### Saves -/

namespace Save

/-- A failure of the save arises at the end of the trace: something goes wrong there, what has just
been read is rejected or comes to too many rows, or the command that has just been tried is refused
or meets limits that fail. -/
inductive Arises (s : Save) : List Exchange → Abort Error → Prop
  | raised {inner : List Exchange} {x : Exchange} {e : Error} (raises : x.Raises) :
    Arises s (inner ++ [x]) (.failed e)
  | rejected {inner : List Exchange} {x : Exchange} {e : Error} (reading : x.request.OfReader)
      (rejection : Rejection e) : Arises s (inner ++ [x]) (.failed e)
  | outOfRange {inner : List Exchange} {x : Exchange} (reading : x.request.OfReader) :
    Arises s (inner ++ [x]) .totalOutOfRange
  | declined {inner trying : List Exchange} {header : String} {held : List Command} {c : Command}
      {e : Error} (trial : s.Trial s.limits header held c trying (.error e)) :
    Arises s (inner ++ trying) (.failed e)

/-- What goes wrong in the trace ends it, and what it ends with arises in it; from there on there
are only inert requests. -/
structure Halts (s : Save) (trace : List Exchange) (ended : Option (Abort Error)) : Prop where
  stops : Stops trace (∃ e, ended = some (.failed e))
  arises : ∀ abort, ended = some abort →
    ∃ before after, trace = before ++ after ∧ Inert after ∧ s.Arises before abort

variable {s : Save} {manner : Manner} {limits : Limits} {header : String} {held : List Command}
variable {c : Command} {trace first second : List Exchange} {ended : Option (Abort Error)}

theorem Arises.behind {abort : Abort Error} (first : List Exchange)
    (arises : s.Arises trace abort) : s.Arises (first ++ trace) abort := by
  cases arises with
  | raised raises =>
    rw [← List.append_assoc]
    exact .raised raises
  | rejected reading rejection =>
    rw [← List.append_assoc]
    exact .rejected reading rejection
  | outOfRange reading =>
    rw [← List.append_assoc]
    exact .outOfRange reading
  | declined trial =>
    rw [← List.append_assoc]
    exact .declined trial

theorem Halts.of_calm (calm : Calm trace) : s.Halts trace none :=
  ⟨calm.stops, nofun⟩

theorem Halts.calm (halts : s.Halts trace none) : Calm trace :=
  halts.stops.calm nofun

theorem Halts.behind (calm : Calm first) (halts : s.Halts second ended) :
    s.Halts (first ++ second) ended where
  stops := halts.stops.behind calm
  arises abort early := by
    obtain ⟨before, after, rfl, inert, arises⟩ := halts.arises abort early
    exact ⟨first ++ before, after, (List.append_assoc _ _ _).symm, inert, arises.behind first⟩

/-! ### Trials -/

theorem Begun.inert {known : Option String} (began : Begun known trace header) : Inert trace := by
  cases began with
  | already => exact inert_nil
  | anew => exact inert_cons trivial inert_nil

theorem Begun.calm {known : Option String} (began : Begun known trace header) : Calm trace := by
  cases began with
  | already => exact calm_nil
  | anew => exact calm_cons id calm_nil

theorem inert_of_limits {α : Type} {p : Program α} {a : α} (asked : p.Asks Request.OfLimits)
    (run : p.Runs trace a) : Inert trace :=
  (asked.imp fun r ofLimits => by cases r <;> trivial).of_mem run

theorem Judged.inert {verdict : Except Error Bool}
    (judged : Judged limits held c trace verdict) : Inert trace := by
  cases judged with
  | refused => exact inert_nil
  | declined _ answered => exact inert_of_limits (limits.mayAdd_asks _ _) answered
  | checked _ answered accepted =>
    exact (inert_of_limits (limits.mayAdd_asks _ _) answered).append
      (inert_of_limits (limits.accepts_asks _) accepted)

theorem Judged.calm {fits : Bool} (judged : Judged limits held c trace (.ok fits)) :
    Calm trace := by
  have asked {view : BatchView} {trace : List Exchange} {may : Bool}
      (answered : (limits.mayAdd view c).Runs trace may) : Calm trace := by
    cases limits with
    | policy p =>
      obtain ⟨rfl, -⟩ := Program.runs_done_iff.mp answered
      exact calm_nil
    | consulted =>
      obtain rfl := Program.runs_request_iff.mp answered
      exact calm_cons id calm_nil
  cases judged with
  | declined _ answered => exact asked answered
  | checked _ answered accepted =>
    refine (asked answered).append ?_
    cases limits with
    | policy p =>
      obtain ⟨rfl, -⟩ := Program.runs_done_iff.mp accepted
      exact calm_nil
    | consulted =>
      obtain rfl := Program.runs_request_iff.mp accepted
      exact calm_cons nofun calm_nil

theorem Trial.inert {outcome : Except Error (Option String)}
    (trial : s.Trial limits header held c trace outcome) : Inert trace := by
  cases trial with
  | failed began judged =>
    rcases began with rfl | ⟨_, began⟩
    · exact judged.inert
    · exact began.inert.append judged.inert
  | added began judged => exact began.inert.append judged.inert
  | full began judged =>
    exact (began.inert.append judged.inert).append
      (inert_cons trivial (inert_cons trivial inert_nil))

/-- Nothing goes wrong when a command joins those held. -/
theorem Trial.calm_added {header' : String}
    (trial : s.Trial limits header held c trace (.ok (some header'))) : Calm trace := by
  cases trial with
  | added began judged => exact began.calm.append judged.calm

/-- Nothing goes wrong when a command is handed back by a batch with commands. -/
theorem Trial.calm_full (filled : held ≠ [])
    (trial : s.Trial limits header held c trace (.ok none)) : Calm trace := by
  cases trial with
  | full began judged =>
    have reported : held.length ≠ 0 := fun none => filled (List.length_eq_zero_iff.mp none)
    exact (began.calm.append judged.calm).append (calm_cons id (calm_cons reported calm_nil))

/-- An empty batch that hands a command back is reported full in the end. -/
theorem Trial.arises_oversized (trial : s.Trial limits header [] c trace (.ok none)) (e : Error) :
    s.Arises trace (.failed e) := by
  cases trial with
  | @full opening asked header' began judged =>
    have reported : (s.holding limits header' []).reportFull =
        [⟨.log (.batchFull 0 0), ()⟩] ++ [⟨.record (.batchFull 0), ()⟩] := rfl
    have empty : (⟨.record (.batchFull 0), ()⟩ : Exchange).Raises := rfl
    rw [reported, ← List.append_assoc]
    exact .raised empty

/-! ### Batches are sent -/

end Save

theorem Script.Fragmented.inert {commands : List Command} {trace : List Exchange}
    {result : Except Error String} (fragments : Fragmented commands trace result) :
    Inert trace := by
  induction fragments with
  | nil => exact inert_nil
  | failed junk e => exact inert_cons trivial inert_nil
  | cons text _ ih => exact inert_cons trivial ih

theorem Script.Fragmented.calm {commands : List Command} {trace : List Exchange} {added : String}
    (fragments : Fragmented commands trace (.ok added)) : Calm trace := by
  generalize same : (Except.ok added : Except Error String) = result at fragments
  induction fragments generalizing added with
  | nil => exact calm_nil
  | failed => cases same
  | @cons c rest trace result text more ih =>
    cases result with
    | error e => cases same
    | ok others => exact calm_cons (fun raises => raises rfl) (ih rfl)

/-- A text that cannot be written fails at its last fragment. -/
theorem Script.Fragmented.raises {commands : List Command} {trace : List Exchange} {e : Error}
    (fragments : Fragmented commands trace (.error e)) :
    ∃ inner x, trace = inner ++ [x] ∧ Calm inner ∧ x.Raises := by
  generalize same : (Except.error e : Except Error String) = result at fragments
  induction fragments with
  | nil => cases same
  | @failed c _ junk e => exact ⟨[], _, rfl, calm_nil, nofun⟩
  | @cons c rest trace result text more ih =>
    cases result with
    | ok others => cases same
    | error e' =>
      cases same
      obtain ⟨inner, x, rfl, calm, raises⟩ := ih rfl
      exact ⟨_ :: inner, x, rfl, calm_cons (fun raises => raises rfl) calm, raises⟩

theorem Reconciliation.reports_calm (r : Reconciliation) (e : Error) :
    Calm (r.reports e) ∧ Inert (r.reports e) := by
  unfold reports
  split
  case h_4 => exact ⟨calm_cons id calm_nil, inert_cons trivial inert_nil⟩
  all_goals exact ⟨calm_cons id (calm_cons id calm_nil),
    inert_cons trivial (inert_cons trivial inert_nil)⟩

theorem Reconciliation.Concluded.calm {r : Reconciliation} {read : Except Error Unit}
    {trace : List Exchange} {result : Except (Abort Error) Executed}
    (concluded : r.Concluded read trace result) : Calm trace ∧ Inert trace := by
  cases concluded with
  | executed => exact ⟨calm_nil, inert_nil⟩
  | outOfRange => exact ⟨calm_nil, inert_nil⟩
  | failed e => exact r.reports_calm e

namespace Save

variable {s : Save} {manner : Manner} {trace opening posted : List Exchange} {header : String}
variable {held group : List Command} {limits : Limits}

/-- A round trip and what it adds to the outcome: the rows may be too many to count. -/
theorem halts_posted {b : Batch} {o : SaveOutcome} {result : Except (Abort Error) Executed}
    {final : Except (Abort Error) SaveOutcome} (posted : b.Posted manner trace result)
    (made : result >>= o.absorb = final) : s.Halts trace (failure final) := by
  cases posted with
  | unwritten failed =>
    obtain rfl := made
    obtain ⟨inner, x, rfl, calm, raises⟩ := failed.raises
    refine .behind calm ⟨stops_single fun _ => ⟨_, rfl⟩, ?_⟩
    rintro abort ⟨⟩
    exact ⟨[] ++ [x], [], rfl, inert_nil, .raised raises⟩
  | @sent asked travelled concluding added footer r read result written trip concluded =>
    obtain ⟨calm, inert⟩ := concluded.calm
    have began : Calm (asked ++ [⟨.footer, footer⟩,
        ⟨.record (.batchStart b.commands.length b.parameterCount), ()⟩]) :=
      written.calm.append (calm_cons id (calm_cons id calm_nil))
    have counted (rows : Nat) : Calm [⟨.record (.batchFinish b.commands.length rows ()), ()⟩] ∧
        Inert [⟨.record (.batchFinish b.commands.length rows ()), ()⟩] :=
      ⟨calm_cons id calm_nil, inert_cons trivial inert_nil⟩
    constructor
    · have failed : (∃ e, read = .error e) → ∃ e, failure final = some (.failed e) := by
        rintro ⟨e, rfl⟩
        cases concluded
        obtain rfl := made
        exact ⟨_, rfl⟩
      have travels := (trip.stops.imp failed).behind began
      exact (travels.before calm inert).before (counted _).1 (counted _).2
    · intro abort early
      obtain ⟨inner, x, rfl, turns⟩ := trip.turns
      have closed : Inert [⟨.close, ()⟩] := inert_cons trivial inert_nil
      have ending := closed.append (inert.append (counted (Batch.rowsOf result)).2)
      refine ⟨asked ++ [⟨.footer, footer⟩,
          ⟨.record (.batchStart b.commands.length b.parameterCount), ()⟩] ++ inner ++ [x], _,
        by simp only [List.append_assoc], ending, ?_⟩
      cases concluded with
      | executed =>
        obtain rfl : o.absorb _ = final := made
        cases absorbed : o.absorb ⟨r.commands, r.rowsAffected⟩ with
        | ok o' =>
          rw [absorbed] at early
          cases early
        | error excess =>
          rw [absorbed, absorb_error absorbed] at early
          cases early
          exact .outOfRange turns
      | outOfRange =>
        obtain rfl := made
        cases early
        exact .outOfRange turns
      | failed e =>
        obtain rfl := made
        cases early
        rcases turns with raises | ⟨reading, rejection⟩
        · exact .raised raises
        · have kept : r.classified e = e := if_pos rejection.isJudged
          rw [kept]
          exact .rejected reading rejection

theorem Delivered.halts {known : Option String} {o : SaveOutcome} {groups : List (List Command)}
    {result : Except (Abort Error) SaveOutcome} (filled : ∀ group ∈ groups, group ≠ [])
    (delivered : s.Delivered manner known o groups trace result) :
    s.Halts trace (failure result) := by
  induction delivered with
  | done => exact .of_calm calm_nil
  | failed began run =>
    have posted := Batch.execute_runs rfl (filled _ List.mem_cons_self) run
    exact (halts_posted (o := {}) posted rfl).behind began.calm
  | overflowed began run excess =>
    have posted := Batch.execute_runs rfl (filled _ List.mem_cons_self) run
    exact (halts_posted posted excess).behind began.calm
  | next began run absorbed _ ih =>
    obtain ⟨here, others⟩ := List.forall_mem_cons.mp filled
    have posted := halts_posted (s := s) (Batch.execute_runs rfl here run) absorbed
    exact (ih others).behind (began.calm.append posted.calm)

theorem Sent.halts {o : SaveOutcome} {result : Except (Abort Error) SaveOutcome}
    (filled : held ≠ []) (sent : s.Sent manner header held o trace result) :
    s.Halts trace (failure result) := by
  obtain ⟨rest, rfl, delivered⟩ := sent
  have logged : Calm [⟨.log (.executingBatch held.length (viewOf held).parameterCount), ()⟩] :=
    calm_cons id calm_nil
  exact (delivered.halts (parcels_ne_nil s.minBatchSize filled)).behind logged

/-! ### The whole save -/

/-- A command that has been drawn is valid. -/
def Ready (drawn : Bool) (stream : List Command) : Prop :=
  drawn = true → ∀ c ∈ stream.head?, c.validate = .ok ()

/-- A trial that fails halts the save. -/
theorem Trial.halts {e : Error} (trial : s.Trial s.limits header held c trace (.error e)) :
    s.Halts trace (some (.failed e)) where
  stops := trial.inert.stops ⟨e, rfl⟩
  arises := by
    rintro abort ⟨⟩
    exact ⟨[] ++ trace, [], by simp, inert_nil, .declined trial⟩

/-- An invalid command is refused when it is tried. -/
theorem Course.refuses {o : SaveOutcome} {later : List Command}
    {result : Except (Abort Error) SaveOutcome} (invalid : c.validate ≠ .ok ())
    (course : s.Course manner o header held true (c :: later) trace result) :
    ∃ e, result = .error (.failed e) ∧ s.Trial s.limits header held c trace (.error e) := by
  cases course with
  | stopped trial => exact ⟨_, rfl, trial⟩
  | oversized trial => exact absurd trial.valid invalid
  | added trial => exact absurd trial.valid invalid
  | failing _ trial => exact absurd trial.valid invalid
  | closed _ trial => exact absurd trial.valid invalid

/-- Whatever course a save takes, it halts where something goes wrong. The induction is on the
course; an invalid command goes wrong where it is drawn, so one that has been drawn already is
valid. -/
theorem Course.halts {o : SaveOutcome} {drawn : Bool} {stream : List Command}
    {result : Except (Abort Error) SaveOutcome} (ready : Ready drawn stream)
    (course : s.Course manner o header held drawn stream trace result) :
    s.Halts trace (failure result) := by
  have exhausted : Calm [⟨.pull none, ()⟩] := calm_cons id calm_nil
  have undrawn {stream : List Command} : Ready false stream := nofun
  induction course with
  | finished => exact .of_calm exhausted
  | last filled sent => exact (sent.halts filled).behind exhausted
  | @draw _ _ _ c later rest _ more ih =>
    by_cases valid : c.validate = .ok ()
    · have drawn : Calm [⟨.pull (some c), ()⟩] := calm_cons (fun raises => raises valid) calm_nil
      exact (ih fun _ => by simpa using valid).behind drawn
    · obtain ⟨e, rfl, trial⟩ := more.refuses valid
      refine ⟨stops_of_inert ⟨e, rfl⟩ trial.inert, ?_⟩
      rintro abort ⟨⟩
      exact ⟨[⟨.pull (some c), ()⟩] ++ rest, [], (List.append_nil _).symm, inert_nil,
        .declined trial⟩
  | stopped trial => exact trial.halts
  | @oversized _ _ _ _ trace trial =>
    refine ⟨trial.inert.stops ⟨_, rfl⟩, ?_⟩
    rintro abort ⟨⟩
    exact ⟨trace, [], (List.append_nil trace).symm, inert_nil, trial.arises_oversized _⟩
  | added trial _ ih => exact (ih undrawn).behind trial.calm_added
  | failing filled trial sent => exact (sent.halts filled).behind (trial.calm_full filled)
  | closed filled trial sent _ ih =>
    exact (ih ready).behind ((trial.calm_full filled).append (sent.halts filled).calm)

/-- Something that goes wrong in a save ends it, and what a save fails with arises in it. -/
theorem run_halts {commands : List Command} {result : Except (Abort Error) SaveOutcome}
    (run : (s.run manner commands).Runs trace result) : s.Halts trace (failure result) :=
  have undrawn : Ready false commands := nofun
  (run_course run).halts undrawn

end Save

end BatchedSave
