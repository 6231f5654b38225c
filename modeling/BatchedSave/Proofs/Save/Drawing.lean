import Mathlib
import BatchedSave.Proofs.Program.Surroundings
import BatchedSave.Proofs.Save.Halting
import BatchedSave.Proofs.Save.Sendings

/-!
# A save draws no further than it has to

At every moment of a save the commands that have been drawn are those of the batches already sent,
those of the batch being filled or sent, and at most one more, which is being tried on that batch or
was handed back by it. `Stage` tells what is going on at a moment, `Stands` what it says about the
exchanges up to there. A batch is sent as soon as it has handed a command back, or when the source
is exhausted, and nothing is drawn behind anything that goes wrong.
-/
namespace BatchedSave

def Exchange.drawn? : Exchange → Option Command
  | ⟨.pull next, _⟩ => next
  | _ => none

/-- The commands drawn in a trace. -/
def draws (trace : List Exchange) : List Command :=
  trace.filterMap Exchange.drawn?

@[simp] theorem draws_nil : draws [] = [] := rfl

@[simp] theorem draws_append (before after : List Exchange) :
    draws (before ++ after) = draws before ++ draws after :=
  List.filterMap_append

/-- Requests other than that for the next command draw nothing. -/
theorem Exchange.drawn?_eq_none {x : Exchange} (other : ∀ next, x.request ≠ .pull next) :
    x.drawn? = none := by
  obtain ⟨request, answer⟩ := x
  cases request with
  | pull next => exact absurd rfl (other next)
  | _ => rfl

theorem draws_eq_nil {trace : List Exchange}
    (other : ∀ x ∈ trace, ∀ next, x.request ≠ .pull next) : draws trace = [] :=
  List.filterMap_eq_nil_iff.mpr fun x member => x.drawn?_eq_none (other x member)

theorem Inert.draws_eq_nil {trace : List Exchange} (inert : Inert trace) : draws trace = [] := by
  refine BatchedSave.draws_eq_nil fun x member next same => ?_
  have here := inert x member
  rw [same] at here
  exact here

/-! ### Round trips draw nothing -/

section RoundTrip

variable {manner : Manner} {trace : List Exchange}

theorem perform_draws {origin : Origin} {call : StoreCall} {result : Except Error call.Result}
    (run : (manner.perform origin call).run.Runs trace result) : draws trace = [] := by
  rcases Program.runs_perform run with rfl | rfl | ⟨-, rfl | rfl⟩ <;> rfl

theorem Reconciliation.drawing_account : Account manner fun trace _ => draws trace = [] where
  nothing := rfl
  append := by
    intro first second _ here there
    rw [draws_append, here, there, List.append_nil]
  called _ _ _ run := perform_draws run
  counted _ := rfl
  effect x effect := by
    refine draws_eq_nil (List.forall_mem_singleton.mpr fun next same => ?_)
    rw [same] at effect
    exact effect
  rejected _ := rfl

theorem Trip.draws_eq_nil {statement : Statement} {commands : List Command} {r : Reconciliation}
    {read : Except Error Unit} (trip : Trip manner statement commands trace r read) :
    draws trace = [] := by
  have prepared (settings : Settings) : draws (statement.preparing settings) = [] := rfl
  have closed : draws [⟨.close, ()⟩] = [] := rfl
  cases trip with
  | unopened failed => rw [draws_append, perform_draws failed, closed, List.append_nil]
  | unexecuted opened failed =>
    simp only [draws_append, perform_draws opened, prepared, perform_draws failed, closed,
      List.append_nil]
  | read opened executed walked =>
    have walks := Reconciliation.drawing_account.walk walked
    simp only [draws_append, perform_draws opened, prepared, perform_draws executed, walks, closed,
      List.append_nil]

theorem Batch.Posted.draws_eq_nil {b : Batch} {result : Except (Abort Error) Executed}
    (posted : b.Posted manner trace result) : draws trace = [] := by
  cases posted with
  | unwritten failed => exact failed.inert.draws_eq_nil
  | @sent _ _ _ _ footer _ _ result written trip concluded =>
    have begun : draws [⟨.footer, footer⟩,
        ⟨.record (.batchStart b.commands.length b.parameterCount), ()⟩] = [] := rfl
    have finished :
        draws [⟨.record (.batchFinish b.commands.length (rowsOf result) ()), ()⟩] = [] :=
      rfl
    simp only [draws_append, written.inert.draws_eq_nil, begun, trip.draws_eq_nil,
      concluded.calm.2.draws_eq_nil, finished, List.append_nil]

end RoundTrip

/-! ### Sendings up to a moment -/

namespace Speaks

variable {s : Save} {xs : List Sending} {first second : List Utterance}

/-- What is said for a group holds no query but the last utterance. -/
theorem unqueried_of_said {x : Sending} {u : Utterance}
    (said : x.said s = first ++ u :: second) : queries first = [] := by
  have last : queries (x.said s) = [x.command s] := by
    rw [← List.append_nil (x.said s), queries_said]
    rfl
  -- the query is among what is still to be said
  have ends : (u :: second).getLast? = some (.query (x.command s)) := by
    have whole : (x.said s).getLast? = some (.query (x.command s)) := by
      rw [Sending.said, List.getLast?_append]
      rfl
    rwa [said, List.getLast?_append_cons] at whole
  have asked : x.command s ∈ queries (u :: second) :=
    List.mem_filterMap.mpr ⟨_, List.mem_of_getLast? ends, rfl⟩
  rw [said, queries_append] at last
  rcases List.append_eq_singleton_iff.mp last with ⟨none, -⟩ | ⟨-, none⟩
  · exact none
  · rw [none] at asked
    cases asked

/-- Up to any point of a conversation the first of its sendings have been made. -/
theorem before (speaks : Speaks s xs (first ++ second)) :
    ∃ ys, ys <+: xs ∧ Speaks s ys first := by
  generalize whole : first ++ second = said at speaks
  induction speaks generalizing first with
  | nil =>
    obtain ⟨rfl, -⟩ := List.append_eq_nil_iff.mp whole
    exact ⟨[], List.prefix_rfl, .nil⟩
  | @idle u xs rest other _ ih =>
    cases first with
    | nil => exact ⟨[], List.nil_prefix, .nil⟩
    | cons v first =>
      obtain ⟨rfl, same⟩ := List.cons.inj whole
      obtain ⟨ys, within, speaks⟩ := ih same
      exact ⟨ys, within, .idle other speaks⟩
  | @sent x xs rest more ih =>
    rcases List.append_eq_append_iff.mp whole with ⟨cut, said, rfl⟩ | ⟨later, rfl, same⟩
    · cases cut with
      | nil =>
        rw [List.append_nil] at said
        rw [← said]
        exact ⟨[x], by simp, .single x⟩
      | cons u cut => exact ⟨[], List.nil_prefix, .of_unqueried (unqueried_of_said said)⟩
    · obtain ⟨ys, within, speaks⟩ := ih same.symm
      exact ⟨x :: ys, by simpa using within, .sent x speaks⟩

end Speaks

namespace Save

/-- The store has been sent these commands, in order, in the groups of the trace's sendings. -/
def HasSent (s : Save) (trace : List Exchange) (commands : List Command) : Prop :=
  ∃ xs : List Sending, Speaks s xs (conversation trace) ∧ xs.flatMap (·.group) = commands

inductive Phase where
  | filling
  | sending
  deriving DecidableEq, Repr

/-- Where a save is: the commands of the batches it has sent, the batch that it is filling or
sending, those of that batch which the store has been sent already, and the command that was drawn
beyond it. -/
structure Position where
  phase : Phase
  sent : List Command
  batch : List Command
  posted : List Command
  waiting : Option Command

/-- Why a batch has been closed at the end of the trace: it has just handed a command back, or the
source has just been found exhausted. -/
inductive Closed (s : Save) (header : String) (batch : List Command) :
    List Exchange → Option Command → Prop
  | rejected {earlier trying : List Exchange} {c : Command}
      (trial : s.Trial s.limits header batch c trying (.ok none)) :
    Closed s header batch (earlier ++ trying) (some c)
  | exhausted {earlier : List Exchange} :
    Closed s header batch (earlier ++ [⟨.pull none, ()⟩]) none

/-- What is going on between what is behind and what is ahead in a save with this result: the next
command is about to be drawn, one is being tried on the batch, or the batch is being sent. A trial
or a sending that fails is the last thing the save does. -/
inductive Stage (s : Save) (manner : Manner) (result : Except (Abort Error) SaveOutcome) :
    List Exchange → List Exchange → Position → Prop
  | drawing {behind ahead : List Exchange} {sent batch : List Command}
      (draws : ∀ x rest, ahead = x :: rest → ∃ next, x.request = .pull next) :
    Stage s manner result behind ahead ⟨.filling, sent, batch, [], none⟩
  | trying {head here there rest : List Exchange} {sent batch : List Command} {header : String}
      {c : Command} {outcome : Except Error (Option String)}
      (trial : s.Trial s.limits header batch c (here ++ there) outcome)
      (ended : there = [] → rest = [])
      (failed : ∀ e, outcome = .error e → rest = [] ∧ result = .error (.failed e))
      (alone : outcome = .ok none → batch = [] →
        rest = [] ∧ result = .error (.failed (oversized c))) :
    Stage s manner result (head ++ here) (there ++ rest) ⟨.filling, sent, batch, [], some c⟩
  | sending {head here there rest : List Exchange} {sent batch posted : List Command}
      {waiting : Option Command} {header : String} {o : SaveOutcome}
      {outcome : Except (Abort Error) SaveOutcome} (closed : s.Closed header batch head waiting)
      (sends : s.Sent manner header batch o (here ++ there) outcome)
      (ended : there = [] → rest = [])
      (failed : ∀ abort, outcome = .error abort → rest = [] ∧ result = .error abort) :
    Stage s manner result (head ++ here) (there ++ rest) ⟨.sending, sent, batch, posted, waiting⟩

/-- A save of the commands stands at a position. Everything that has been drawn is accounted for,
and of the batch at hand the store has been sent nothing before it was closed. -/
structure Stands (s : Save) (manner : Manner) (commands : List Command)
    (result : Except (Abort Error) SaveOutcome) (behind ahead : List Exchange) (p : Position) :
    Prop where
  drawn : draws behind = p.sent ++ p.batch ++ p.waiting.toList
  early : draws behind <+: commands
  sent : s.HasSent behind (p.sent ++ p.posted)
  within : p.posted <+: p.batch
  unsent : p.phase = .filling → p.posted = []
  exhausted : p.phase = .sending → p.waiting = none →
    draws behind = commands ∧ ⟨.pull none, ()⟩ ∈ behind
  stage : s.Stage manner result behind ahead p

/-! ### The course of drawing -/

/-- Between two of its steps a save holds commands under a header, with the others still to come;
`drawn` tells whether the first of these has been drawn already. -/
structure Resting (s : Save) (commands : List Command) (behind : List Exchange) (header : String)
    (sent held : List Command) (drawn : Bool) (stream : List Command) : Prop where
  said : ∃ (xs : List Sending) (said : List Utterance), Speaks s xs said ∧
    xs.flatMap (·.group) = sent ∧ conversation behind = said ++ greeting (begun header held)
  drawn : draws behind = sent ++ held ++ if drawn then stream.head?.toList else []
  whole : commands = sent ++ held ++ stream

variable {s : Save} {manner : Manner} {commands sent held stream later : List Command}
variable {behind ahead trace here there : List Exchange} {header : String} {c : Command}
variable {drawn : Bool} {result : Except (Abort Error) SaveOutcome}

theorem Delivered.draws_eq_nil {known : Option String} {o : SaveOutcome}
    {groups : List (List Command)} (filled : ∀ group ∈ groups, group ≠ [])
    (delivered : s.Delivered manner known o groups trace result) : draws trace = [] := by
  induction delivered with
  | done => rfl
  | failed began run =>
    have posted := Batch.execute_runs rfl (filled _ List.mem_cons_self) run
    rw [draws_append, began.inert.draws_eq_nil, posted.draws_eq_nil, List.append_nil]
  | overflowed began run =>
    have posted := Batch.execute_runs rfl (filled _ List.mem_cons_self) run
    rw [draws_append, began.inert.draws_eq_nil, posted.draws_eq_nil, List.append_nil]
  | next began run _ _ ih =>
    obtain ⟨here, others⟩ := List.forall_mem_cons.mp filled
    have posted := Batch.execute_runs rfl here run
    rw [draws_append, draws_append, began.inert.draws_eq_nil, posted.draws_eq_nil, ih others,
      List.append_nil, List.append_nil]

theorem Sent.draws_eq_nil {o : SaveOutcome} (filled : held ≠ [])
    (sends : s.Sent manner header held o trace result) : draws trace = [] := by
  obtain ⟨rest, rfl, delivered⟩ := sends
  have undrawn : draws rest = [] := delivered.draws_eq_nil (parcels_ne_nil s.minBatchSize filled)
  exact undrawn

/-- What draws nothing has drawn nothing up to any of its moments. -/
theorem draws_of_prefix {first second : List Exchange} (none : draws (first ++ second) = []) :
    draws first = [] := by
  rw [draws_append] at none
  exact (List.append_eq_nil_iff.mp none).1

namespace Resting

theorem start (s : Save) (commands : List Command) :
    s.Resting commands [] "" [] [] false commands where
  said := ⟨[], [], .nil, rfl, rfl⟩
  drawn := rfl
  whole := rfl

/-- Where nothing is said the conversation stays as it is. -/
theorem saidBehind (resting : s.Resting commands behind header sent held drawn stream)
    (silent : conversation here = []) :
    ∃ (xs : List Sending) (said : List Utterance), Speaks s xs said ∧
      xs.flatMap (·.group) = sent ∧
      conversation (behind ++ here) = said ++ greeting (begun header held) := by
  obtain ⟨xs, said, speaks, groups, same⟩ := resting.said
  refine ⟨xs, said, speaks, groups, ?_⟩
  rw [conversation_append, same, silent, List.append_nil]

/-- While nothing is asked of the store, it has been sent the batches before. -/
theorem hasSent (resting : s.Resting commands behind header sent held drawn stream)
    (unasked : queries (conversation here) = []) : s.HasSent (behind ++ here) sent := by
  obtain ⟨xs, said, speaks, rfl, same⟩ := resting.said
  refine ⟨xs, ?_, rfl⟩
  rw [conversation_append, same, List.append_assoc, ← List.append_nil xs]
  refine speaks.append (.of_unqueried ?_)
  rw [queries_append, queries_greeting, unasked]
  rfl

theorem early (resting : s.Resting commands behind header sent held drawn stream) :
    draws behind <+: commands := by
  rw [resting.drawn, resting.whole, List.prefix_append_right_inj]
  cases drawn with
  | false => exact List.nil_prefix
  | true => cases stream <;> simp

/-- A save is about to draw, or has drawn all it will. -/
theorem drawing (resting : s.Resting commands behind header sent held false stream)
    (draws : ∀ x rest, ahead = x :: rest → ∃ next, x.request = .pull next) :
    s.Stands manner commands result behind ahead ⟨.filling, sent, held, [], none⟩ where
  drawn := resting.drawn
  early := resting.early
  sent := by
    have unasked : queries (conversation []) = [] := rfl
    simpa using resting.hasSent unasked
  within := List.nil_prefix
  unsent _ := rfl
  exhausted := nofun
  stage := .drawing draws

/-- A command that has been drawn is being tried. -/
theorem trying {rest : List Exchange} {outcome : Except Error (Option String)}
    (resting : s.Resting commands behind header sent held true (c :: later))
    (trial : s.Trial s.limits header held c (here ++ there) outcome)
    (ended : there = [] → rest = [])
    (failed : ∀ e, outcome = .error e → rest = [] ∧ result = .error (.failed e))
    (alone : outcome = .ok none → held = [] →
      rest = [] ∧ result = .error (.failed (oversized c))) :
    s.Stands manner commands result (behind ++ here) (there ++ rest)
      ⟨.filling, sent, held, [], some c⟩ := by
  have undrawn : draws here = [] := draws_of_prefix trial.inert.draws_eq_nil
  have unasked : queries (conversation here) = [] :=
    queries_of_idle fun x member => trial.idle x (List.mem_append_left there member)
  refine ⟨?_, ?_, ?_, List.nil_prefix, fun _ => rfl, nofun, .trying trial ended failed alone⟩
  · rw [draws_append, undrawn, List.append_nil]
    exact resting.drawn
  · rw [draws_append, undrawn, List.append_nil]
    exact resting.early
  · simpa using resting.hasSent unasked

/-- A batch that has been closed is being sent. -/
theorem sending {rest : List Exchange} {waiting : Option Command} {o : SaveOutcome}
    {outcome : Except (Abort Error) SaveOutcome}
    (resting : s.Resting commands behind header sent held drawn stream) (filled : held ≠ [])
    (closed : s.Closed header held behind waiting)
    (waits : waiting = if drawn then stream.head? else none) (all : waiting = none → stream = [])
    (sends : s.Sent manner header held o (here ++ there) outcome) (ended : there = [] → rest = [])
    (failed : ∀ abort, outcome = .error abort → rest = [] ∧ result = .error abort) :
    ∃ posted, s.Stands manner commands result (behind ++ here) (there ++ rest)
      ⟨.sending, sent, held, posted, waiting⟩ := by
  have undrawn : draws here = [] := draws_of_prefix (sends.draws_eq_nil filled)
  have whole : draws behind = sent ++ held ++ waiting.toList := by
    rw [resting.drawn, waits]
    cases drawn <;> rfl
  obtain ⟨xs, speaks, within, -⟩ := sends.sends filled
  rw [conversation_append, ← List.cons_append] at speaks
  obtain ⟨ys, first, made⟩ := speaks.before
  have posted : ys.flatMap (·.group) <+: held := by
    obtain ⟨unsent, same⟩ := (first.map (·.group)).trans within
    have flat := congrArg List.flatten same
    rw [parcels_flatten, List.flatten_append] at flat
    rw [List.flatMap_def]
    exact ⟨_, flat⟩
  refine ⟨ys.flatMap (·.group), ?_, ?_, ?_, posted, nofun, ?_, .sending closed sends ended failed⟩
  · rw [draws_append, undrawn, List.append_nil]
    exact whole
  · rw [draws_append, undrawn, List.append_nil]
    exact resting.early
  · obtain ⟨zs, said, earlier, groups, same⟩ := resting.said
    refine ⟨zs ++ ys, ?_, by rw [List.flatMap_append, groups]⟩
    rw [begun_of_filled header filled] at same
    rw [conversation_append, same, List.append_assoc]
    exact earlier.append made
  · rintro - none
    have none : waiting = Option.none := none
    subst none
    refine ⟨?_, ?_⟩
    · rw [draws_append, undrawn, List.append_nil, whole, resting.whole, all rfl]
      rfl
    · cases closed
      simp

theorem pulled (resting : s.Resting commands behind header sent held false (c :: later)) :
    s.Resting commands (behind ++ [⟨.pull (some c), ()⟩]) header sent held true (c :: later) where
  said := resting.saidBehind rfl
  drawn := by
    rw [draws_append, resting.drawn, if_neg Bool.false_ne_true, List.append_nil]
    rfl
  whole := resting.whole

theorem exhausted (resting : s.Resting commands behind header sent held false []) :
    s.Resting commands (behind ++ [⟨.pull none, ()⟩]) header sent held false [] where
  said := resting.saidBehind rfl
  drawn := by
    rw [draws_append, resting.drawn]
    exact List.append_nil _
  whole := resting.whole

/-- A command that joins those held. -/
theorem added {header' : String}
    (resting : s.Resting commands behind header sent held true (c :: later))
    (trial : s.Trial s.limits header held c trace (.ok (some header'))) :
    s.Resting commands (behind ++ trace) header' sent (held ++ [c]) false later where
  said := by
    obtain ⟨xs, said, speaks, groups, same⟩ := resting.said
    refine ⟨xs, said, speaks, groups, ?_⟩
    rw [conversation_append, same, List.append_assoc, trial.greets,
      begun_of_filled header' (by simp)]
    rfl
  drawn := by
    rw [draws_append, resting.drawn, trial.inert.draws_eq_nil]
    simp
  whole := by simpa using resting.whole

/-- A command that is handed back by a batch with commands. -/
theorem handedBack (filled : held ≠ [])
    (resting : s.Resting commands behind header sent held true (c :: later))
    (trial : s.Trial s.limits header held c trace (.ok none)) :
    s.Resting commands (behind ++ trace) header sent held true (c :: later) where
  said := resting.saidBehind (trial.silent filled)
  drawn := by rw [draws_append, resting.drawn, trial.inert.draws_eq_nil, List.append_nil]
  whole := resting.whole

/-- A batch that has been sent. -/
theorem sentOff {o o' : SaveOutcome} (filled : held ≠ [])
    (resting : s.Resting commands behind header sent held drawn stream)
    (sends : s.Sent manner header held o trace (.ok o')) :
    s.Resting commands (behind ++ trace) "" (sent ++ held) [] drawn stream where
  said := by
    obtain ⟨xs, said, speaks, groups, same⟩ := resting.said
    obtain ⟨ys, speaks', -, complete⟩ := sends.sends filled
    obtain ⟨all, -⟩ := complete o' rfl
    refine ⟨xs ++ ys, said ++ (.header header :: conversation trace), speaks.append speaks', ?_, ?_⟩
    · rw [List.flatMap_append, groups, List.flatMap_def, all, parcels_flatten]
    · rw [begun_of_filled header filled] at same
      rw [conversation_append, same, List.append_assoc]
      exact (List.append_nil _).symm
  drawn := by
    rw [draws_append, resting.drawn, sends.draws_eq_nil filled]
    simp
  whole := by simpa using resting.whole

end Resting

/-- A point of two traces in sequence is behind the first one, or has more of it ahead. -/
theorem behind_or_within {first second : List Exchange} (same : first ++ second = behind ++ ahead) :
    (∃ cut, behind = first ++ cut ∧ second = cut ++ ahead) ∨
      ∃ x cut, first = behind ++ x :: cut ∧ ahead = x :: cut ++ second := by
  rcases List.append_eq_append_iff.mp same with found | ⟨cut, rfl, rfl⟩
  · exact .inl found
  · cases cut with
    | nil => exact .inl ⟨[], by simp, rfl⟩
    | cons x cut => exact .inr ⟨x, cut, rfl, rfl⟩

/-- At every moment of its course a save stands somewhere. The induction is on the course; what is
behind the save where the course begins is carried along. -/
theorem Course.stands {o : SaveOutcome} {past : List Exchange}
    (resting : s.Resting commands past header sent held drawn stream)
    (course : s.Course manner o header held drawn stream trace result)
    (split : trace = here ++ ahead) :
    ∃ p, s.Stands manner commands result (past ++ here) ahead p := by
  have pulls {next : Option Command} {behind : List Exchange} {x : Exchange}
      {rest : List Exchange} (same : ⟨.pull next, ()⟩ :: behind = x :: rest) :
      ∃ next, x.request = .pull next := by
    obtain ⟨rfl, -⟩ := List.cons.inj same
    exact ⟨next, rfl⟩
  induction course generalizing past sent here with
  | finished =>
    cases here with
    | nil =>
      rw [List.nil_append] at split
      rw [List.append_nil, ← split]
      exact ⟨_, resting.drawing fun _ _ => pulls⟩
    | cons x here =>
      obtain ⟨rfl, none⟩ := List.cons.inj split
      obtain ⟨rfl, rfl⟩ := List.append_eq_nil_iff.mp none.symm
      exact ⟨_, resting.exhausted.drawing nofun⟩
  | last filled sends =>
    cases here with
    | nil =>
      rw [List.nil_append] at split
      rw [List.append_nil, ← split]
      exact ⟨_, resting.drawing fun _ _ => pulls⟩
    | cons x here =>
      obtain ⟨rfl, rfl⟩ := List.cons.inj split
      obtain ⟨posted, stands⟩ := resting.exhausted.sending filled .exhausted rfl (fun _ => rfl)
        sends (fun _ => rfl) fun abort failed => ⟨rfl, failed⟩
      exact ⟨_, by simpa using stands⟩
  | draw _ ih =>
    cases here with
    | nil =>
      rw [List.nil_append] at split
      rw [List.append_nil, ← split]
      exact ⟨_, resting.drawing fun _ _ => pulls⟩
    | cons x here =>
      obtain ⟨rfl, rest⟩ := List.cons.inj split
      obtain ⟨p, stands⟩ := ih resting.pulled rest
      exact ⟨p, by simpa using stands⟩
  | @stopped _ _ _ _ _ _ e trial =>
    subst split
    have failed (e' : Error) (same : (.error e : Except Error (Option String)) = .error e') :
        ([] : List Exchange) = [] ∧
          (.error (.failed e) : Except (Abort Error) SaveOutcome) = .error (.failed e') := by
      cases same
      exact ⟨rfl, rfl⟩
    rw [← List.append_nil ahead]
    exact ⟨_, resting.trying trial (fun _ => rfl) failed nofun⟩
  | oversized trial =>
    subst split
    rw [← List.append_nil ahead]
    exact ⟨_, resting.trying trial (fun _ => rfl) nofun fun _ _ => ⟨rfl, rfl⟩⟩
  | added trial _ ih =>
    rcases behind_or_within split with ⟨cut, rfl, rest⟩ | ⟨x, cut, rfl, rfl⟩
    · obtain ⟨p, stands⟩ := ih (resting.added trial) rest
      exact ⟨p, by simpa using stands⟩
    · exact ⟨_, resting.trying trial nofun nofun nofun⟩
  | failing filled trial sends =>
    rcases behind_or_within split with ⟨cut, rfl, rfl⟩ | ⟨x, cut, rfl, rfl⟩
    · obtain ⟨posted, stands⟩ := (resting.handedBack filled trial).sending filled (.rejected trial)
        rfl nofun sends (fun _ => rfl) fun abort failed => ⟨rfl, failed⟩
      exact ⟨_, by simpa using stands⟩
    · exact ⟨_, resting.trying trial nofun nofun fun _ empty => absurd empty filled⟩
  | closed filled trial sends _ ih =>
    rcases behind_or_within split with ⟨cut, rfl, rest⟩ | ⟨x, cut, within, rfl⟩
    · obtain ⟨p, stands⟩ := ih ((resting.handedBack filled trial).sentOff filled sends) rest
      exact ⟨p, by simpa using stands⟩
    rcases behind_or_within within with ⟨cut, rfl, rfl⟩ | ⟨y, trying, rfl, rest⟩
    · obtain ⟨posted, stands⟩ := (resting.handedBack filled trial).sending filled (.rejected trial)
        rfl nofun sends nofun nofun
      exact ⟨_, by simpa using stands⟩
    · rw [rest, List.append_assoc]
      exact ⟨_, resting.trying trial nofun nofun fun _ empty => absurd empty filled⟩

/-! ### Saves -/

/-- Only a batch that is being sent has anything but idle requests made for it. -/
theorem Stands.sending_of_call {x : Exchange} {rest : List Exchange} {p : Position}
    (stands : s.Stands manner commands result behind (x :: rest) p) (busy : ¬ x.request.Idle) :
    p.phase = .sending := by
  obtain ⟨-, -, -, -, -, -, stage⟩ := stands
  generalize same : x :: rest = ahead at stage
  cases stage with
  | drawing draws =>
    obtain ⟨next, pulls⟩ := draws x rest same.symm
    rw [pulls] at busy
    exact absurd trivial busy
  | @trying _ here there rest _ _ _ _ _ trial ended =>
    cases there with
    | nil =>
      rw [ended rfl] at same
      cases same
    | cons y there =>
      obtain ⟨rfl, -⟩ := List.cons.inj same
      exact absurd (trial.idle x (by simp)) busy
  | sending => rfl

/-- What a save draws and when. -/
structure Lazy (s : Save) (manner : Manner) (commands : List Command) (trace : List Exchange)
    (result : Except (Abort Error) SaveOutcome) : Prop where
  /-- At every moment the save stands somewhere, and only a batch that has been closed has its
  round trips made. -/
  stands : ∀ behind ahead, trace = behind ++ ahead → ∃ p,
    s.Stands manner commands result behind ahead p ∧
      ∀ x rest, ahead = x :: rest → ¬ x.request.Idle → p.phase = .sending
  /-- The save ends where something goes wrong: from there on nothing is drawn, no call is made,
  nothing is written back. -/
  ends : ∀ behind x ahead, trace = behind ++ x :: ahead → x.Raises →
    (∃ e, result = .error (.failed e)) ∧ Inert ahead
  /-- What the save fails with arises at some moment, which is the last in the same sense. The
  store has then been sent what is sent in all: a batch that was being filled is lost. -/
  arises : ∀ abort, result = .error abort → ∃ behind ahead p, trace = behind ++ ahead ∧
    s.Arises behind abort ∧ Inert ahead ∧ s.Stands manner commands result behind ahead p ∧
    draws trace = p.sent ++ p.batch ++ p.waiting.toList ∧ s.HasSent trace (p.sent ++ p.posted)

/-- Inert requests ask the store for nothing. -/
theorem queries_of_inert (inert : Inert trace) : queries (conversation trace) = [] := by
  refine queries_eq_nil fun x member command => ?_
  have here := inert x member
  constructor <;> intro same <;> rw [same] at here <;> exact here

/-- A save reads its input lazily and stops at the first error. -/
theorem run_draws_lazily (run : (s.run manner commands).Runs trace result) :
    s.Lazy manner commands trace result where
  stands behind ahead split := by
    obtain ⟨p, stands⟩ := (run_course run).stands (.start s commands) split
    refine ⟨p, stands, ?_⟩
    rintro x rest rfl busy
    exact stands.sending_of_call busy
  ends behind x ahead split raises := by
    obtain ⟨⟨e, failed⟩, inert⟩ := (run_halts run).stops behind x ahead split raises
    refine ⟨⟨e, ?_⟩, inert⟩
    cases result with
    | ok o => cases failed
    | error abort => exact congrArg Except.error (Option.some.inj failed)
  arises := by
    rintro abort rfl
    obtain ⟨behind, ahead, split, inert, arises⟩ := (run_halts run).arises abort rfl
    obtain ⟨p, stands⟩ := (run_course run).stands (.start s commands) split
    refine ⟨behind, ahead, p, split, arises, inert, stands, ?_, ?_⟩
    · rw [split, draws_append, inert.draws_eq_nil, List.append_nil]
      exact stands.drawn
    · obtain ⟨xs, speaks, groups⟩ := stands.sent
      refine ⟨xs, ?_, groups⟩
      rw [split, conversation_append, ← List.append_nil xs]
      exact speaks.append (.of_unqueried (queries_of_inert inert))

/-- One delete fits a batch, and the store fails to execute the first: the second delete has been
drawn, for it closed the batch of the first, and the third never is. -/
theorem run_draws_lazily_up_to_a_failure :
    let save : Save := { limits := .caps 1 9 }
    let commands : List Command := [.keyDelete 0, .keyDelete 1, .keyDelete 2]
    let played := (save.run .blocking commands).play
      (Surroundings.scripted (Dialect.plain atPlaceholder))
      { responses := [.error (.plain .internal .store "connection lost")] }
    (save.run .blocking commands).Runs played.journal played.result ∧
    played.result.toOption = none ∧
    draws played.journal = [.keyDelete 0, .keyDelete 1] ∧
    save.Lazy .blocking commands played.journal played.result :=
  ⟨Program.runs_play _ _ _, by cbv, by cbv, run_draws_lazily (Program.runs_play _ _ _)⟩

end Save

end BatchedSave
