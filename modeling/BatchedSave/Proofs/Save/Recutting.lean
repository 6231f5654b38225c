import BatchedSave.Proofs.Reconciliation.Replies
import BatchedSave.Proofs.Save.Caps

/-!
# How a save is cut does not matter

Where the store replies to every command with a result set of its own, a save comes to the judgement
of these replies, in whatever round trips they arrive. `Achieved` tells this for the rest of a save
and is composed along its course. Two saves of the same commands that are cut differently then come
to the same: `run_however_cut`.
-/
namespace BatchedSave

/-- A request the feed has nothing to do with. -/
def Request.Unfed (r : Request) : Prop :=
  ∀ f : Feed, f.next r = f

theorem Fed.unmoved {f f' : Feed} {trace : List Exchange} (fed : Fed f trace f')
    (unfed : ∀ x ∈ trace, x.request.Unfed) : f' = f := by
  induction fed with
  | nil f => rfl
  | cons _ _ ih =>
    obtain ⟨here, others⟩ := List.forall_mem_cons.mp unfed
    rw [ih others, here]

/-! ### One round trip -/

section RoundTrip

variable {trace : List Exchange} {f f' : Feed} {replies : List Reply} {more : List ResultSet}

/-- Fragments are all written, and the result sets of their commands are ready. -/
theorem Script.Fragmented.fed {result : Except Error String}
    (fragments : Fragmented (replies.map (·.command)) trace result) (fed : Fed f trace f')
    (coming : f.coming = replies.map (·.set) ++ more) :
    (∃ added, result = .ok added) ∧
      f' = { f with coming := more, written := f.written ++ replies.map (·.set) } := by
  induction replies generalizing f trace result with
  | nil =>
    cases fragments
    cases fed
    refine ⟨⟨_, rfl⟩, ?_⟩
    rw [List.map_nil, List.append_nil, ← List.nil_append more, ← List.map_nil, ← coming]
  | cons x replies ih =>
    cases fragments with
    | failed junk e =>
      obtain _ | ⟨allowed, -⟩ := fed
      cases congrArg Rendering.failure allowed
    | cons text others =>
      obtain _ | ⟨-, rest⟩ := fed
      have behind : (f.next (.fragment x.command)).coming = replies.map (·.set) ++ more := by
        simp [Feed.next, coming]
      obtain ⟨⟨added, rfl⟩, rfl⟩ := ih others rest behind
      exact ⟨⟨_, rfl⟩, by simp [Feed.next, coming]⟩

theorem Reconciliation.reports_unfed (r : Reconciliation) (e : Error) :
    ∀ x ∈ r.reports e, x.request.Unfed := by
  unfold reports
  split
  case h_4 => exact List.forall_mem_singleton.mpr fun _ => rfl
  all_goals
    exact List.forall_mem_cons.mpr ⟨fun _ => rfl, List.forall_mem_singleton.mpr fun _ => rfl⟩

theorem Reconciliation.Concluded.unfed {r : Reconciliation} {read : Except Error Unit}
    {result : Except (Abort Error) Executed} (concluded : r.Concluded read trace result) :
    ∀ x ∈ trace, x.request.Unfed := by
  cases concluded with
  | executed => simp
  | outOfRange => simp
  | failed e => exact r.reports_unfed e

/-- A statement is executed and finds the results that are ready. -/
theorem Fed.queried {statement : Statement} {settings : Settings} {rest : List Exchange}
    {opened answer : Except Error Unit}
    (fed : Fed f ([⟨.store .connect, opened⟩] ++ statement.preparing settings ++
      [⟨.store (.query (statement.bind settings)), answer⟩] ++ rest) f') :
    answer = .ok () ∧ Fed { f with written := [], cursor := .ofSets f.written } rest f' := by
  obtain ⟨_, asked, rest⟩ := Fed.append_iff.mp fed
  obtain ⟨_, prepared, queried⟩ := Fed.append_iff.mp asked
  obtain rfl := prepared.unmoved (by simp [Statement.preparing, Request.Unfed, Feed.next])
  obtain _ | ⟨answered, ⟨⟩⟩ := queried
  exact ⟨answered, rest⟩

/-- A trip whose replies are ready comes to their judgement. -/
theorem Trip.judges {statement : Statement} {r : Reconciliation} {read : Except Error Unit}
    (trip : Trip .blocking statement (replies.map (·.command)) trace r read) (filled : replies ≠ [])
    (fed : Fed f trace f') (ready : f.written = replies.map (·.set)) :
    Judgement replies (writeBacks trace) (failure read) ∧ f'.coming = f.coming ∧
      f'.written = [] ∧ (read = .ok () → r.applied = replies.map (·.applied) ∧ r.pending = []) := by
  cases trip with
  | unopened failed =>
    obtain rfl := Program.runs_request_iff.mp failed
    obtain _ | ⟨connects, -⟩ := fed
    cases connects
  | unexecuted opened failed =>
    obtain rfl := Program.runs_request_iff.mp opened
    obtain rfl := Program.runs_request_iff.mp failed
    cases fed.queried.1
  | @read _ _ reading settings _ _ opened executed walked =>
    obtain rfl := Program.runs_request_iff.mp opened
    obtain rfl := Program.runs_request_iff.mp executed
    have calls := Reconciliation.reading_account.walk walked
    rw [Reconciliation.walkIn_blocking] at walked
    obtain ⟨_, sent, closed⟩ := Fed.append_iff.mp fed
    obtain rfl := closed.unmoved (List.forall_mem_singleton.mpr fun _ => rfl)
    obtain ⟨-, results⟩ := sent.queried
    have faces : (Cursor.ofSets f.written).Faces ([] : List Applied).length
        (replies.map (·.set)) := by
      have shown : Reconciliation.shown (replies.map (·.set)) = replies.map (·.set) := by
        cases replies with
        | nil => exact absurd rfl filled
        | cons => rfl
      have fresh := Reconciliation.ofSets_faces (replies.map (·.set))
      rw [shown] at fresh
      rwa [ready]
    obtain ⟨judged, coming, written, complete⟩ :=
      Reconciliation.walk_judges walked calls results faces (.inr filled)
    refine ⟨?_, coming, written, by simpa using complete⟩
    have around : writeBacks ([⟨.store .connect, .ok ()⟩] ++ statement.preparing settings ++
        [⟨.store (.query (statement.bind settings)), .ok ()⟩] ++ reading ++ [⟨.close, ()⟩]) =
          writeBacks reading := by
      rw [writeBacks_append, writeBacks_append]
      exact List.append_nil _
    exact around ▸ judged

/-- A batch whose replies are next comes to their judgement, and leaves the others for later. -/
theorem Batch.Posted.judges {s : Save} {limits : Limits} {header : String}
    {result : Except (Abort Error) Executed}
    (posted : (s.holding limits header (replies.map (·.command))).Posted .blocking trace result)
    (filled : replies ≠ []) (fed : Fed f trace f')
    (coming : f.coming = replies.map (·.set) ++ more) (fresh : f.written = [])
    (inRange : (replies.map (·.applied.rows)).sum < totalBound) :
    (∃ e, result = .error (.failed e) ∧ Judgement replies (writeBacks trace) (some e)) ∨
      (result = .ok ⟨replies.map (·.applied.command), replies.map (·.applied.rows)⟩ ∧
        Judgement replies (writeBacks trace) none ∧ f'.coming = more ∧ f'.written = []) := by
  cases posted with
  | unwritten failed =>
    obtain ⟨⟨_, ⟨⟩⟩, -⟩ := failed.fed fed coming
  | @sent asked travelled concluding added footer r read result written trip concluded =>
    have unwritten := written.idle.writeBacks_eq_nil
    have unconcluded := concluded.idle.writeBacks_eq_nil
    obtain ⟨_, fed, finished⟩ := Fed.append_iff.mp fed
    obtain rfl := finished.unmoved (List.forall_mem_singleton.mpr fun _ => rfl)
    obtain ⟨_, fed, judging⟩ := Fed.append_iff.mp fed
    obtain rfl := judging.unmoved concluded.unfed
    obtain ⟨_, fed, travelling⟩ := Fed.append_iff.mp fed
    obtain ⟨_, fed, begun⟩ := Fed.append_iff.mp fed
    obtain rfl := begun.unmoved
      (List.forall_mem_cons.mpr ⟨fun _ => rfl, List.forall_mem_singleton.mpr fun _ => rfl⟩)
    obtain ⟨-, rfl⟩ := written.fed fed coming
    obtain ⟨judged, left, used, complete⟩ := trip.judges filled travelling (by rw [fresh]; rfl)
    have begun (commands parameters : Nat) : writeBacks [⟨.footer, footer⟩,
        ⟨.record (.batchStart commands parameters), ()⟩] = [] := rfl
    have finished (commands rows : Nat) :
        writeBacks [⟨.record (.batchFinish commands rows ()), ()⟩] = [] := rfl
    simp only [writeBacks_append, unwritten, begun, unconcluded, finished, List.nil_append,
      List.append_nil]
    cases concluded with
    | executed =>
      obtain ⟨applied, finished⟩ := complete rfl
      refine .inr ⟨?_, judged, left, used⟩
      simp [Reconciliation.commands, Reconciliation.rowsAffected, applied, finished]
    | outOfRange excess =>
      obtain ⟨applied, -⟩ := complete rfl
      have total : (Executed.mk r.commands r.rowsAffected).total =
          (replies.map (·.applied.rows)).sum := by
        rw [Executed.total, Reconciliation.rowsAffected, applied, List.map_map]
        rfl
      exact absurd (total ▸ inRange) excess
    | failed e =>
      have same : r.classified e = e := if_pos judged.isJudged
      rw [same]
      exact .inl ⟨e, rfl, judged⟩

end RoundTrip

/-! ### Whole saves -/

/-- What comes of the rest of a save that has achieved `o` and has these replies still to come: it
adds them to the outcome, or fails with the error of the one that is rejected. -/
inductive Achieved (o : SaveOutcome) (replies : List Reply) :
    List WriteBack → Except (Abort Error) SaveOutcome → Prop
  | succeeded {written : List WriteBack} (batches : Nat)
      (judged : Judgement replies written none) :
    Achieved o replies written
      (.ok ⟨o.commands ++ replies.map (·.applied.command),
        o.rowsAffected + (replies.map (·.applied.rows)).sum, batches⟩)
  | failed {written : List WriteBack} {e : Error} (judged : Judgement replies written (some e)) :
    Achieved o replies written (.error (.failed e))

/-- Two saves came to the same, but for the number of round trips and the place of a rejected
command in its round trip. -/
inductive SameResult : Except (Abort Error) SaveOutcome → Except (Abort Error) SaveOutcome → Prop
  | succeeded {o o' : SaveOutcome} (commands : o.commands = o'.commands)
      (rows : o.rowsAffected = o'.rowsAffected) : SameResult (.ok o) (.ok o')
  | failed {e e' : Error} (same : SameFailure e e') :
    SameResult (.error (.failed e)) (.error (.failed e'))

namespace Achieved

variable {o o' : SaveOutcome} {replies first second : List Reply} {written more : List WriteBack}
variable {result result' : Except (Abort Error) SaveOutcome}

theorem nothing (o : SaveOutcome) : Achieved o [] [] (.ok o) := by
  have judged : Judgement [] [] none := .applied (by simp)
  simpa using Achieved.succeeded (o := o) o.batches judged

theorem append (here : Achieved o first written (.ok o'))
    (there : Achieved o' second more result) :
    Achieved o (first ++ second) (written ++ more) result := by
  cases here with
  | succeeded batches judged =>
    cases there with
    | succeeded batches others =>
      have both := Achieved.succeeded (o := o) batches (judged.append others)
      simpa [Nat.add_assoc] using both
    | failed others => exact .failed (judged.append others)

theorem early {abort : Abort Error} (here : Achieved o first written (.error abort)) :
    Achieved o (first ++ second) written (.error abort) := by
  cases here with
  | failed judged => exact .failed judged.early

theorem counted (here : Achieved o replies written (.ok o')) :
    o'.rowsAffected = o.rowsAffected + (replies.map (·.applied.rows)).sum := by
  cases here with
  | succeeded => rfl

/-- Only one thing can come of the replies. -/
theorem agree (one : Achieved o replies written result)
    (other : Achieved o replies more result') : written = more ∧ SameResult result result' := by
  cases one with
  | succeeded _ judged =>
    cases other with
    | succeeded _ judged' => exact ⟨(judged.agree judged').1, .succeeded rfl rfl⟩
    | failed judged' => cases (judged.agree judged').2
  | failed judged =>
    cases other with
    | succeeded _ judged' => cases (judged.agree judged').2
    | failed judged' =>
      obtain ⟨same, ⟨failure⟩⟩ := judged.agree judged'
      exact ⟨same, .failed failure⟩

/-- All replies have to answer their commands, and then they are all applied. -/
theorem isOk_iff (here : Achieved o replies written result) :
    result.isOk ↔ ∀ x ∈ replies, x.Answers := by
  cases here with
  | succeeded _ judged =>
    cases judged with
    | applied answered => exact iff_of_true rfl answered
  | failed judged =>
    cases judged with
    | @rejected done later x _ _ place _ offence =>
      refine iff_of_false nofun fun answered => ?_
      exact (answered x (by simp [place])).not_offence offence

end Achieved

namespace Save

variable {s : Save} {p : Policy} {header : String} {trace : List Exchange} {f f' : Feed}
variable {o : SaveOutcome} {result : Except (Abort Error) SaveOutcome} {known : Option String}
variable {replies held coming : List Reply} {more : List ResultSet}

theorem Begun.unfed {opening : List Exchange} (began : Begun known opening header) :
    ∀ x ∈ opening, x.request.Unfed := by
  cases began with
  | already => simp
  | anew => exact List.forall_mem_singleton.mpr fun _ => rfl

/-- A policy leaves the feed alone while a command is tried. -/
theorem Trial.unfed {commands : List Command} {c : Command}
    {outcome : Except Error (Option String)}
    (trial : s.Trial (.policy p) header commands c trace outcome) :
    ∀ x ∈ trace, x.request.Unfed := by
  cases trial with
  | failed began judged =>
    obtain ⟨rfl, -⟩ := judged.of_policy
    rw [List.append_nil]
    rcases began with rfl | ⟨_, began⟩
    · simp
    · exact began.unfed
  | added began judged =>
    obtain ⟨rfl, -⟩ := judged.of_policy
    rw [List.append_nil]
    exact began.unfed
  | full began judged =>
    obtain ⟨rfl, -⟩ := judged.of_policy
    rw [List.append_nil]
    exact List.forall_mem_append.mpr ⟨began.unfed,
      List.forall_mem_cons.mpr ⟨fun _ => rfl, List.forall_mem_singleton.mpr fun _ => rfl⟩⟩

theorem Trial.passed {commands : List Command} {c : Command} {rest : List Exchange}
    {outcome : Except Error (Option String)}
    (trial : s.Trial (.policy p) header commands c trace outcome) (fed : Fed f (trace ++ rest) f') :
    Fed f rest f' ∧ writeBacks (trace ++ rest) = writeBacks rest := by
  obtain ⟨_, tried, behind⟩ := Fed.append_iff.mp fed
  obtain rfl := tried.unmoved trial.unfed
  exact ⟨behind, by rw [writeBacks_append, trial.idle.writeBacks_eq_nil, List.nil_append]⟩

/-- One group that is sent. -/
theorem achieves_posted {limits : Limits} {opening posted : List Exchange}
    {executed : Except (Abort Error) Executed} {final : Except (Abort Error) SaveOutcome}
    (filled : replies ≠ []) (began : Begun known opening header)
    (run : ((s.holding limits header (replies.map (·.command))).execute .blocking).Runs posted
      executed)
    (made : executed >>= o.absorb = final) (fed : Fed f (opening ++ posted) f')
    (ready : f.coming = replies.map (·.set) ++ more) (fresh : f.written = [])
    (inRange : o.rowsAffected + (replies.map (·.applied.rows)).sum < totalBound) :
    Achieved o replies (writeBacks (opening ++ posted)) final ∧
      ((∃ o', final = .ok o') → f'.coming = more ∧ f'.written = []) := by
  obtain ⟨_, opened, sent⟩ := Fed.append_iff.mp fed
  obtain rfl := opened.unmoved began.unfed
  rw [writeBacks_append, began.idle.writeBacks_eq_nil, List.nil_append]
  have posted := Batch.execute_runs rfl (by simpa [holding] using filled) run
  rcases posted.judges filled sent ready fresh (by omega) with
    ⟨e, rfl, judged⟩ | ⟨rfl, judged, left, used⟩
  · obtain rfl := made
    refine ⟨.failed judged, ?_⟩
    rintro ⟨_, ⟨⟩⟩
  · have total : (Executed.mk (replies.map (·.applied.command))
        (replies.map (·.applied.rows))).total = (replies.map (·.applied.rows)).sum := rfl
    have absorbed : o.absorb ⟨replies.map (·.applied.command), replies.map (·.applied.rows)⟩ =
        final := made
    simp only [SaveOutcome.absorb, total, if_pos inRange] at absorbed
    obtain rfl := absorbed
    exact ⟨.succeeded _ judged, fun _ => ⟨left, used⟩⟩

/-- The replies of the first group, and those of the others. -/
theorem divided {group : List Command} {groups : List (List Command)} {total : Nat}
    (all : (group :: groups).flatten = replies.map (·.command))
    (ready : f.coming = replies.map (·.set) ++ more)
    (inRange : total + (replies.map (·.applied.rows)).sum < totalBound) :
    ∃ first others : List Reply, replies = first ++ others ∧
      first.map (·.command) = group ∧ groups.flatten = others.map (·.command) ∧
      f.coming = first.map (·.set) ++ (others.map (·.set) ++ more) ∧
      total + (first.map (·.applied.rows)).sum < totalBound ∧
      total + (first.map (·.applied.rows)).sum + (others.map (·.applied.rows)).sum <
        totalBound := by
  obtain ⟨first, others, rfl, here, behind⟩ := List.append_eq_map_iff.mp all
  rw [List.map_append, List.append_assoc] at ready
  rw [List.map_append, List.sum_append] at inRange
  exact ⟨first, others, rfl, here, behind.symm, ready, by omega, by omega⟩

/-- Groups that are sent one after the other. The induction is on the evidence for the others. -/
theorem Delivered.achieves {groups : List (List Command)}
    (delivered : s.Delivered .blocking known o groups trace result)
    (all : groups.flatten = replies.map (·.command)) (filled : ∀ group ∈ groups, group ≠ [])
    (fed : Fed f trace f') (ready : f.coming = replies.map (·.set) ++ more)
    (fresh : f.written = [])
    (inRange : o.rowsAffected + (replies.map (·.applied.rows)).sum < totalBound) :
    Achieved o replies (writeBacks trace) result ∧
      ((∃ o', result = .ok o') → f'.coming = more ∧ f'.written = []) := by
  induction delivered generalizing f replies with
  | done o =>
    obtain rfl : replies = [] := by simpa using all.symm
    cases fed
    exact ⟨.nothing o, fun _ => ⟨ready, fresh⟩⟩
  | failed began run =>
    obtain ⟨first, others, rfl, rfl, -, ready, inRange, -⟩ := divided all ready inRange
    have filled : first ≠ [] := by simpa using filled _ List.mem_cons_self
    exact ⟨(achieves_posted filled began run rfl fed ready fresh inRange).1.early, nofun⟩
  | overflowed began run excess =>
    obtain ⟨first, others, rfl, rfl, -, ready, inRange, -⟩ := divided all ready inRange
    have filled : first ≠ [] := by simpa using filled _ List.mem_cons_self
    exact ⟨(achieves_posted filled began run excess fed ready fresh inRange).1.early, nofun⟩
  | next began run absorbed rest ih =>
    obtain ⟨first, others, rfl, rfl, all, ready, here, behind⟩ := divided all ready inRange
    obtain ⟨between, sent, later⟩ := Fed.append_iff.mp fed
    have nonempty : first ≠ [] := by simpa using filled _ List.mem_cons_self
    obtain ⟨achieved, left⟩ := achieves_posted nonempty began run absorbed sent ready fresh here
    obtain ⟨ready, fresh⟩ := left ⟨_, rfl⟩
    rw [← achieved.counted] at behind
    obtain ⟨others, left⟩ :=
      ih all (List.forall_mem_cons.mp filled).2 later ready fresh behind
    rw [writeBacks_append]
    exact ⟨achieved.append others, left⟩

theorem Sent.achieves (filled : held ≠ [])
    (sent : s.Sent .blocking header (held.map (·.command)) o trace result) (fed : Fed f trace f')
    (ready : f.coming = held.map (·.set) ++ more) (fresh : f.written = [])
    (inRange : o.rowsAffected + (held.map (·.applied.rows)).sum < totalBound) :
    Achieved o held (writeBacks trace) result ∧
      ((∃ o', result = .ok o') → f'.coming = more ∧ f'.written = []) := by
  obtain ⟨rest, rfl, delivered⟩ := sent
  obtain _ | ⟨-, fed⟩ := fed
  exact delivered.achieves (parcels_flatten _ _) (parcels_ne_nil _ (by simpa using filled)) fed
    ready fresh inRange

/-- Limits that answer by what they see, never fail, and let each of the commands have a round trip
of its own. -/
def Admits (s : Save) (commands : List Command) : Prop :=
  ∃ p : Policy, s.limits = .policy p ∧ (∀ view, ∃ fits, p.accepts view = .ok fits) ∧
    ∀ c ∈ commands, p.judge [] c = .ok true

/-- Caps admit the commands that are valid and no larger than the caps. -/
theorem admits_caps_iff {maxCommands maxParameters : Nat} {commands : List Command}
    (capped : s.limits = .caps maxCommands maxParameters) :
    s.Admits commands ↔ ∀ c ∈ commands,
      c.validate = .ok () ∧ 0 < maxCommands ∧ c.parameterCount ≤ maxParameters := by
  constructor
  · rintro ⟨p, policy, -, fits⟩ c member
    exact (Policy.judge_alone_iff (capped.symm.trans policy)).mp (fits c member)
  · intro small
    refine ⟨_, capped, fun view => ⟨_, rfl⟩, fun c member => ?_⟩
    exact (Policy.judge_alone_iff rfl).mpr (small c member)

/-- A policy that never fails and has room for a command on its own does not end a save with it. -/
theorem judge_ne_error {commands : List Command} {c : Command} {e : Error}
    (never : ∀ view, ∃ fits, p.accepts view = .ok fits) (alone : p.judge [] c = .ok true) :
    p.judge commands c ≠ .error e := by
  intro failed
  unfold Policy.judge at alone failed
  split at alone
  next => cases alone
  next valid =>
    rw [valid] at failed
    dsimp only at failed
    split at failed
    · obtain ⟨fits, accepted⟩ := never (viewOf (commands ++ [c]))
      rw [accepted] at failed
      cases failed
    · cases failed

/-- The rest of a save comes to the judgement of its replies. The induction is on the course; the
feed has the sets of the commands held and of those still to be drawn. -/
theorem Course.achieves {drawn : Bool} {commands stream : List Command}
    (pure : s.limits = .policy p) (never : ∀ view, ∃ fits, p.accepts view = .ok fits)
    (fits : ∀ c ∈ stream, p.judge [] c = .ok true)
    (course : s.Course .blocking o header commands drawn stream trace result)
    (filling : commands = held.map (·.command)) (drawing : stream = coming.map (·.command))
    (fed : Fed f trace f') (ready : f.coming = held.map (·.set) ++ coming.map (·.set))
    (fresh : f.written = [])
    (inRange : o.rowsAffected + (held.map (·.applied.rows)).sum +
      (coming.map (·.applied.rows)).sum < totalBound) :
    Achieved o (held ++ coming) (writeBacks trace) result := by
  induction course generalizing f held coming with
  | @finished o header =>
    obtain rfl : held = [] := by simpa using filling.symm
    obtain rfl : coming = [] := by simpa using drawing.symm
    exact .nothing o
  | last filled sent =>
    obtain rfl := filling
    obtain rfl : coming = [] := by simpa using drawing.symm
    obtain _ | ⟨-, fed⟩ := fed
    have achieved := (sent.achieves (by simpa using filled) fed ready fresh (by omega)).1
    rw [List.append_nil]
    exact achieved
  | draw rest ih =>
    obtain _ | ⟨-, fed⟩ := fed
    exact ih fits filling drawing fed ready fresh inRange
  | stopped trial =>
    rw [pure] at trial
    exact absurd trial.judge (judge_ne_error never (fits _ List.mem_cons_self))
  | oversized trial =>
    rw [pure] at trial
    have full := trial.judge
    rw [fits _ List.mem_cons_self] at full
    cases full
  | @added o header header' commands c later trace rest result trial more ih =>
    obtain ⟨x, coming, rfl, rfl, rfl⟩ := List.map_eq_cons_iff.mp drawing.symm
    obtain rfl := filling
    rw [pure] at trial
    obtain ⟨behind, written⟩ := trial.passed fed
    have filling : held.map (·.command) ++ [x.command] = (held ++ [x]).map (·.command) := by
      rw [List.map_append]
      rfl
    have joined := ih (List.forall_mem_cons.mp fits).2 filling rfl behind (by simpa using ready)
      fresh (by simpa [Nat.add_assoc] using inRange)
    rw [written]
    simpa using joined
  | failing filled trial sent =>
    obtain rfl := filling
    rw [pure] at trial
    obtain ⟨sending, written⟩ := trial.passed fed
    have achieved := (sent.achieves (by simpa using filled) sending ready fresh (by omega)).1
    rw [written]
    exact achieved.early
  | closed filled trial sent more ih =>
    obtain rfl := filling
    rw [pure] at trial
    obtain ⟨_, here, behind⟩ := Fed.append_iff.mp fed
    obtain ⟨sending, written⟩ := trial.passed here
    obtain ⟨achieved, left⟩ :=
      sent.achieves (by simpa using filled) sending ready fresh (by omega)
    obtain ⟨ready, fresh⟩ := left ⟨_, rfl⟩
    have empty : ([] : List Command) = ([] : List Reply).map (·.command) := rfl
    have others := ih fits empty drawing behind ready fresh
      (by simpa [achieved.counted] using inRange)
    rw [writeBacks_append, written]
    exact achieved.append others

/-- A save whose store replies to every command comes to the judgement of the replies. -/
theorem run_achieves (admits : s.Admits (replies.map (·.command)))
    (inRange : (replies.map fun x => x.command.affectedIn x.set).sum < totalBound)
    (run : (s.run .blocking (replies.map (·.command))).Runs trace result)
    (fed : Fed { coming := replies.map (·.set) } trace f) :
    Achieved {} replies (writeBacks trace) result := by
  obtain ⟨p, pure, never, fits⟩ := admits
  have rows : (replies.map (·.applied.rows)).sum < totalBound := inRange
  have empty : ([] : List Command) = ([] : List Reply).map (·.command) := rfl
  exact (run_course run).achieves pure never fits empty rfl fed rfl rfl (by simpa using rows)

/-- How a save is cut into batches does not change what it does. The store has a result set for each
command and answers every statement with those of the commands written for it, and neither it nor
the dialect fails. Under any limits that admit the commands, and whichever closed batches are sent
one command at a time, two saves of the same commands write back the same values in the same order.
Both come to the same commands and affected rows, or both fail at the same command in the same way;
they succeed exactly if every result set answers its command. -/
theorem run_however_cut {s s' : Save} {replies : List Reply} {trace trace' : List Exchange}
    {f f' : Feed} {result result' : Except (Abort Error) SaveOutcome}
    (admits : s.Admits (replies.map (·.command))) (admits' : s'.Admits (replies.map (·.command)))
    (inRange : (replies.map fun x => x.command.affectedIn x.set).sum < totalBound)
    (run : (s.run .blocking (replies.map (·.command))).Runs trace result)
    (run' : (s'.run .blocking (replies.map (·.command))).Runs trace' result')
    (fed : Fed { coming := replies.map (·.set) } trace f)
    (fed' : Fed { coming := replies.map (·.set) } trace' f') :
    writeBacks trace = writeBacks trace' ∧ SameResult result result' ∧
      (result.isOk ↔ ∀ x ∈ replies, x.Answers) := by
  have achieved := run_achieves admits inRange run fed
  obtain ⟨written, same⟩ := achieved.agree (run_achieves admits' inRange run' fed')
  exact ⟨written, same, achieved.isOk_iff⟩

/-- The second of three inserts finds its row missing. Sent in one batch it is the second command
there, sent on its own it is the first; the first insert's key is written back all the same. -/
theorem run_however_cut_at_a_conflict :
    let replies : List Reply :=
      [⟨.identityInsert 0, [[.int 40]]⟩, ⟨.identityInsert 1, []⟩, ⟨.identityInsert 2, [[.int 42]]⟩]
    let whole : Save := { limits := .caps 10 9 }
    let single : Save := { limits := .caps 2 9, minBatchSize := 3 }
    let feeding := (Surroundings.scripted (Dialect.plain atPlaceholder)).feeding
    let played := (whole.run .blocking (replies.map (·.command))).play feeding
      ({ coming := replies.map (·.set) }, {})
    let played' := (single.run .blocking (replies.map (·.command))).play feeding
      ({ coming := replies.map (·.set) }, {})
    whole.Admits (replies.map (·.command)) ∧ single.Admits (replies.map (·.command)) ∧
    played.result = .error (.failed (.conflict ⟨1, "users", 1⟩ 1 0)) ∧
    played'.result = .error (.failed (.conflict ⟨0, "users", 1⟩ 1 0)) ∧
    writeBacks played.journal = [(0, "id", .int 40)] ∧
    writeBacks played.journal = writeBacks played'.journal ∧
    SameResult played.result played'.result ∧
    (played.result.isOk ↔ ∀ x ∈ replies, x.Answers) := by
  intro replies whole single feeding played played'
  have admits (s : Save) (maxCommands : Nat) (room : 0 < maxCommands)
      (capped : s.limits = .caps maxCommands 9) : s.Admits (replies.map (·.command)) := by
    refine (admits_caps_iff capped).mpr fun c member => ⟨?_, room, ?_⟩ <;> revert c <;> decide
  have first := admits whole 10 (by decide) rfl
  have second := admits single 2 (by decide) rfl
  refine ⟨first, second, by decide +kernel, by decide +kernel, by decide +kernel, ?_⟩
  exact run_however_cut first second (by decide) (Program.runs_play _ _ _) (Program.runs_play _ _ _)
    (Fed.play _ _ _) (Fed.play _ _ _)

end Save

end BatchedSave
