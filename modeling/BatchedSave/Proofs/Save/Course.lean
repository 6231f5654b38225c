import Mathlib.Algebra.BigOperators.Group.List.Basic
import Mathlib.Algebra.GroupWithZero.Nat
import BatchedSave.Save
import BatchedSave.Proofs.Program.Accounts
import BatchedSave.Proofs.Program.Journal
import BatchedSave.Proofs.RoundTrip.Trip

/-!
# The course of a save

What a save can do from any point on, said once with one constructor for each way to go on: `Trial`
for a command that is tried on the commands held, `Delivered` for a closed batch that is sent in one
round trip or one command at a time, and `Course` for the whole. The commands held have not been
rendered yet, so the batch being filled is known from them and its header; the outcome so far, the
header, the commands held and those still to be drawn are all there is to the state of a save.
`Account` is the rule by which a property of every round trip becomes one of every save.
-/
namespace BatchedSave

/-- A request that involves neither the connection, nor the caller, nor a tracked entry. -/
def Request.Idle : Request → Prop
  | .header | .footer | .fragment _ | .mayAdd .. | .accepts _ | .pull _ | .record _ | .log _ => True
  | .store _ | .await _ | .cancelled | .settings | .fieldCount | .close | .writeBack .. => False

/-- No exchange of the trace involves the connection, the caller or a tracked entry. -/
def Idle (trace : List Exchange) : Prop :=
  ∀ x ∈ trace, x.request.Idle

theorem idle_nil : Idle [] :=
  fun _ member => nomatch member

theorem idle_cons {x : Exchange} {trace : List Exchange} (here : x.request.Idle)
    (rest : Idle trace) : Idle (x :: trace) :=
  List.forall_mem_cons.mpr ⟨here, rest⟩

theorem Idle.append {first second : List Exchange} (here : Idle first) (there : Idle second) :
    Idle (first ++ second) :=
  List.forall_mem_append.mpr ⟨here, there⟩

/-- A request by which a batch is filled or closed. -/
def Request.Fills : Request → Prop
  | .header | .mayAdd .. | .accepts _ | .pull _ | .record (.batchFull _) | .log _ => True
  | _ => False

/-- The exchanges of the trace fill a batch. -/
def Filling (trace : List Exchange) : Prop :=
  ∀ x ∈ trace, x.request.Fills

theorem filling_nil : Filling [] :=
  fun _ member => nomatch member

theorem filling_cons {x : Exchange} {trace : List Exchange} (here : x.request.Fills)
    (rest : Filling trace) : Filling (x :: trace) :=
  List.forall_mem_cons.mpr ⟨here, rest⟩

theorem Filling.append {first second : List Exchange} (here : Filling first)
    (there : Filling second) : Filling (first ++ second) :=
  List.forall_mem_append.mpr ⟨here, there⟩

theorem filling_limits {α : Type} {p : Program α} {trace : List Exchange} {a : α}
    (asked : p.Asks Request.OfLimits) (run : p.Runs trace a) : Filling trace :=
  (asked.imp fun r ofLimits => by cases r <;> trivial).of_mem run

/-- Filling a batch involves neither the connection, nor the caller, nor a tracked entry. -/
theorem Filling.idle {trace : List Exchange} (filling : Filling trace) : Idle trace := by
  intro x member
  have fills := filling x member
  obtain ⟨request, answer⟩ := x
  cases request <;> trivial

theorem Script.Fragmented.idle {commands : List Command} {trace : List Exchange}
    {result : Except Error String} (fragments : Fragmented commands trace result) : Idle trace := by
  intro x member
  have asked := fragments.ofDialect x member
  obtain ⟨request, answer⟩ := x
  cases request <;> trivial

theorem Reconciliation.reports_idle (r : Reconciliation) (e : Error) : Idle (r.reports e) := by
  unfold reports
  split
  case h_4 => exact idle_cons trivial idle_nil
  all_goals exact idle_cons trivial (idle_cons trivial idle_nil)

theorem Reconciliation.Concluded.idle {r : Reconciliation} {read : Except Error Unit}
    {trace : List Exchange} {result : Except (Abort Error) Executed}
    (concluded : r.Concluded read trace result) : Idle trace := by
  cases concluded with
  | executed => exact idle_nil
  | outOfRange => exact idle_nil
  | failed e => exact r.reports_idle e

theorem Idle.writeBacks_eq_nil {trace : List Exchange} (idle : Idle trace) :
    writeBacks trace = [] := by
  refine List.filterMap_eq_nil_iff.mpr fun x member => x.writeBack?_eq_none ?_
  rintro ⟨entry, column, value, same⟩
  have here := idle x member
  rw [same] at here
  exact here

theorem Idle.deliveries_eq_nil {trace : List Exchange} (idle : Idle trace) :
    deliveries trace = [] := by
  refine List.filterMap_eq_nil_iff.mpr fun x member => ?_
  have here := idle x member
  obtain ⟨request, answer⟩ := x
  cases request with
  | store call => exact here.elim
  | await call => exact here.elim
  | _ => rfl

/-- The commands as limits see them. -/
def viewOf (commands : List Command) : BatchView :=
  ⟨commands, (commands.map (·.parameterCount)).sum⟩

namespace Save

/-- The batch of a save that holds commands under a header, none of them rendered yet. -/
def holding (s : Save) (limits : Limits) (header : String) (commands : List Command) : Batch :=
  { s.emptyBatch with
    limits
    commands
    parameterCount := (viewOf commands).parameterCount
    script := { text := header } }

theorem emptyBatch_eq_holding (s : Save) : s.emptyBatch = s.holding s.limits "" [] := rfl

theorem push_holding (s : Save) (limits : Limits) (header : String) (commands : List Command)
    (c : Command) :
    (s.holding limits header commands).push c = s.holding limits header (commands ++ [c]) := by
  simp [Batch.push, holding, viewOf]

/-! ### A command is tried -/

/-- The header that is known already, if one is, or is asked for. -/
inductive Begun : Option String → List Exchange → String → Prop
  | already (header : String) : Begun (some header) [] header
  | anew (header : String) : Begun none [⟨.header, header⟩] header

/-- Commands that are held have been given a header. -/
def begun (header : String) (held : List Command) : Option String :=
  if held.isEmpty then none else some header

/-- What becomes of a command by its own columns and by the limits: an error, whether it fits. -/
inductive Judged (limits : Limits) (held : List Command) (c : Command) :
    List Exchange → Except Error Bool → Prop
  | refused {refusal : Refusal} (invalid : c.validate = .error refusal) :
    Judged limits held c [] (.error refusal.toError)
  | declined {asked : List Exchange} (valid : c.validate = .ok ())
      (answered : (limits.mayAdd (viewOf held) c).Runs asked false) :
    Judged limits held c asked (.ok false)
  | checked {asked checks : List Exchange} {verdict : Except Error Bool}
      (valid : c.validate = .ok ()) (answered : (limits.mayAdd (viewOf held) c).Runs asked true)
      (accepted : (limits.accepts (viewOf (held ++ [c]))).Runs checks verdict) :
    Judged limits held c (asked ++ checks) verdict

/-- How a command is tried on the commands held: with an error, with the header under which it is
held from now on, or without room for it. -/
inductive Trial (s : Save) (limits : Limits) (header : String) (held : List Command) (c : Command) :
    List Exchange → Except Error (Option String) → Prop
  | failed {opening asked : List Exchange} {e : Error}
      (began : opening = [] ∨ ∃ header', Begun (begun header held) opening header')
      (judged : Judged limits held c asked (.error e)) :
    Trial s limits header held c (opening ++ asked) (.error e)
  | added {opening asked : List Exchange} {header' : String}
      (began : Begun (begun header held) opening header')
      (judged : Judged limits held c asked (.ok true)) :
    Trial s limits header held c (opening ++ asked) (.ok (some header'))
  | full {opening asked : List Exchange} {header' : String}
      (began : Begun (begun header held) opening header')
      (judged : Judged limits held c asked (.ok false)) :
    Trial s limits header held c
      (opening ++ asked ++ (s.holding limits header' held).reportFull) (.ok none)

variable {s : Save} {limits : Limits} {manner : Manner} {header : String} {held : List Command}
variable {c : Command} {trace : List Exchange}

theorem readied_holding {ready : Batch}
    (readied : (s.holding limits header held).Readied trace ready) :
    ∃ header', Begun (begun header held) trace header' ∧ ready = s.holding limits header' held := by
  cases readied with
  | opened header' empty =>
    obtain rfl : held = [] := empty
    exact ⟨header', .anew header', rfl⟩
  | kept filled =>
    have filled : held ≠ [] := filled
    refine ⟨header, ?_, rfl⟩
    rw [begun, if_neg (by simpa using filled)]
    exact .already header

/-- A command that is tried is judged; the batch then holds it or is as it was. -/
theorem trial_of_tried {after : Batch} {result : Except Error Admission}
    (tried : (s.holding limits header held).Tried c trace after result) :
    (∃ e, result = .error e ∧ s.Trial limits header held c trace (.error e)) ∨
    (∃ header', result = .ok .added ∧ after = s.holding limits header' (held ++ [c]) ∧
      s.Trial limits header held c trace (.ok (some header'))) ∨
    (result = .ok (.full c) ∧ after.commands = held ∧
      (held ≠ [] → after = s.holding limits header held) ∧
      s.Trial limits header held c trace (.ok none)) := by
  -- a batch that is held on to keeps its header
  have kept {opening : List Exchange} {header' : String}
      (began : Begun (begun header held) opening header') (filled : held ≠ []) :
      s.holding limits header' held = s.holding limits header held := by
    rw [begun, if_neg (by simpa using filled)] at began
    cases began
    rfl
  cases tried with
  | refused invalid => exact .inl ⟨_, rfl, .failed (.inl rfl) (.refused invalid)⟩
  | declined valid readied answered =>
    obtain ⟨header', began, rfl⟩ := readied_holding readied
    exact .inr (.inr ⟨rfl, rfl, kept began, .full began (.declined valid answered)⟩)
  | added valid readied answered accepted =>
    obtain ⟨header', began, rfl⟩ := readied_holding readied
    rw [push_holding] at accepted ⊢
    rw [List.append_assoc]
    exact .inr (.inl ⟨header', rfl, rfl, .added began (.checked valid answered accepted)⟩)
  | rejected valid readied answered accepted =>
    obtain ⟨header', began, rfl⟩ := readied_holding readied
    rw [push_holding] at accepted
    have trial : s.Trial limits header held c _ (.ok none) :=
      .full began (.checked valid answered accepted)
    exact .inr (.inr ⟨rfl, rfl, kept began, by simpa only [List.append_assoc] using trial⟩)
  | failed valid readied answered accepted =>
    obtain ⟨header', began, rfl⟩ := readied_holding readied
    rw [push_holding] at accepted
    rw [List.append_assoc]
    exact .inl ⟨_, rfl, .failed (.inr ⟨header', began⟩) (.checked valid answered accepted)⟩

theorem tryAdd_runs {result : Except (Abort Error) (Batch × Admission)}
    (run : (tryAdd (s.holding limits header held) c).run.Runs trace result) :
    (∃ e, result = .error (.failed e) ∧ s.Trial limits header held c trace (.error e)) ∨
    (∃ header', result = .ok (s.holding limits header' (held ++ [c]), .added) ∧
      s.Trial limits header held c trace (.ok (some header'))) ∨
    (∃ after : Batch, result = .ok (after, .full c) ∧ after.commands = held ∧
      (held ≠ [] → after = s.holding limits header held) ∧
      s.Trial limits header held c trace (.ok none)) := by
  obtain ⟨_, _, ⟨after, admitted⟩, rfl, tried, rest⟩ := Program.runs_lift_bind.mp run
  have trial := trial_of_tried (Batch.tryAdd_runs tried)
  rcases admitted with e | admission
  · obtain ⟨rfl, rfl⟩ := Program.runs_done_iff.mp rest
    rw [List.append_nil]
    rcases trial with ⟨e', same, trial⟩ | ⟨_, ⟨⟩, -⟩ | ⟨⟨⟩, -⟩
    cases same
    exact .inl ⟨e, rfl, trial⟩
  · obtain ⟨rfl, rfl⟩ := Program.runs_done_iff.mp rest
    rw [List.append_nil]
    rcases trial with ⟨_, ⟨⟩, -⟩ | ⟨header', same, rfl, trial⟩ | ⟨same, commands, kept, trial⟩
    · cases same
      exact .inr (.inl ⟨header', rfl, trial⟩)
    · cases same
      exact .inr (.inr ⟨after, rfl, commands, kept, trial⟩)

/-- A command that was accepted somewhere fits a round trip of its own. -/
theorem trial_singular {outcome : Except Error (Option String)} (valid : c.validate = .ok ())
    (trial : s.Trial .singular header [] c trace outcome) :
    ∃ header', trace = [⟨.header, header'⟩] ∧ outcome = .ok (some header') := by
  -- both questions are answered yes without asking anybody
  have fits {asked : List Exchange} {verdict : Except Error Bool}
      (judged : Judged .singular [] c asked verdict) : asked = [] ∧ verdict = .ok true := by
    cases judged with
    | refused invalid =>
      rw [valid] at invalid
      cases invalid
    | declined _ answered =>
      obtain ⟨-, impossible⟩ := Program.runs_done_iff.mp answered
      cases impossible
    | checked _ answered accepted =>
      obtain ⟨rfl, -⟩ := Program.runs_done_iff.mp answered
      exact Program.runs_done_iff.mp accepted
  cases trial with
  | failed _ judged => cases (fits judged).2
  | added began judged =>
    obtain ⟨rfl, -⟩ := fits judged
    cases began
    exact ⟨_, rfl, rfl⟩
  | full _ judged => cases (fits judged).2

/-! ### A batch is sent -/

/-- How groups of commands are sent one after the other, each under a header that is known or asked
for just before, until one of them fails or the rows are too many to count. -/
inductive Delivered (s : Save) (manner : Manner) (known : Option String) :
    SaveOutcome → List (List Command) → List Exchange → Except (Abort Error) SaveOutcome → Prop
  | done (o : SaveOutcome) : Delivered s manner known o [] [] (.ok o)
  | failed {o : SaveOutcome} {group : List Command} {groups : List (List Command)}
      {limits : Limits} {opening posted : List Exchange} {header : String} {abort : Abort Error}
      (began : Begun known opening header)
      (run : ((s.holding limits header group).execute manner).Runs posted (.error abort)) :
    Delivered s manner known o (group :: groups) (opening ++ posted) (.error abort)
  | overflowed {o : SaveOutcome} {group : List Command} {groups : List (List Command)}
      {limits : Limits} {opening posted : List Exchange} {header : String} {executed : Executed}
      {abort : Abort Error} (began : Begun known opening header)
      (run : ((s.holding limits header group).execute manner).Runs posted (.ok executed))
      (excess : o.absorb executed = .error abort) :
    Delivered s manner known o (group :: groups) (opening ++ posted) (.error abort)
  | next {o o' : SaveOutcome} {group : List Command} {groups : List (List Command)}
      {limits : Limits} {opening posted rest : List Exchange} {header : String}
      {executed : Executed} {result : Except (Abort Error) SaveOutcome}
      (began : Begun known opening header)
      (run : ((s.holding limits header group).execute manner).Runs posted (.ok executed))
      (absorbed : o.absorb executed = .ok o')
      (more : Delivered s manner known o' groups rest result) :
    Delivered s manner known o (group :: groups) (opening ++ posted ++ rest) result

/-- The groups in which a closed batch is sent: as a whole, or one command at a time if it holds
fewer than `least` but more than one. -/
def parcels (least : Nat) (held : List Command) : List (List Command) :=
  if 1 < held.length ∧ held.length < least then held.map ([·]) else [held]

/-- The header under which a closed batch is sent, unless each of its commands is given one. -/
def wholeHeader (s : Save) (header : String) (held : List Command) : Option String :=
  if 1 < held.length ∧ held.length < s.minBatchSize then none else some header

/-- How a closed batch is sent. -/
def Sent (s : Save) (manner : Manner) (header : String) (held : List Command) (o : SaveOutcome)
    (trace : List Exchange) (result : Except (Abort Error) SaveOutcome) : Prop :=
  ∃ rest, trace = ⟨.log (.executingBatch held.length (viewOf held).parameterCount), ()⟩ :: rest ∧
    s.Delivered manner (s.wholeHeader header held) o (parcels s.minBatchSize held) rest result

/-- A round trip that was made ends what is sent or goes on with the rest. -/
theorem sendWhole_delivers {known : Option String} {o : SaveOutcome} {group : List Command}
    {opening : List Exchange} {result : Except (Abort Error) SaveOutcome}
    (began : Begun known opening header)
    (run : (sendWhole manner (s.holding limits header group) o).run.Runs trace result) :
    (∃ abort, result = .error abort ∧ ∀ groups,
      s.Delivered manner known o (group :: groups) (opening ++ trace) (.error abort)) ∨
    ∃ o', result = .ok o' ∧ ∀ {groups rest final}, s.Delivered manner known o' groups rest final →
      s.Delivered manner known o (group :: groups) (opening ++ trace ++ rest) final := by
  rcases Program.runs_attempt_bind.mp run with
    ⟨abort, rfl, failed⟩ | ⟨posted, _, executed, rfl, ran, rest⟩
  · exact .inl ⟨abort, rfl, fun _ => .failed began failed⟩
  cases absorbed : o.absorb executed with
  | error abort =>
    rw [absorbed] at rest
    obtain ⟨rfl, rfl⟩ := Program.runs_done_iff.mp rest
    rw [List.append_nil]
    exact .inl ⟨abort, rfl, fun _ => .overflowed began ran absorbed⟩
  | ok o' =>
    rw [absorbed] at rest
    obtain ⟨rfl, rfl⟩ := Program.runs_done_iff.mp rest
    rw [List.append_nil]
    exact .inr ⟨o', rfl, fun more => .next began ran absorbed more⟩

theorem sendSingle_delivers {o : SaveOutcome} {result : Except (Abort Error) SaveOutcome}
    (valid : c.validate = .ok ()) (run : (s.sendSingle manner o c).run.Runs trace result) :
    (∃ abort, result = .error abort ∧ ∀ groups,
      s.Delivered manner none o ([c] :: groups) trace (.error abort)) ∨
    ∃ o', result = .ok o' ∧ ∀ {groups rest final}, s.Delivered manner none o' groups rest final →
      s.Delivered manner none o ([c] :: groups) (trace ++ rest) final := by
  have single : { s.emptyBatch with limits := .singular } = s.holding .singular "" [] := rfl
  rw [sendSingle, single] at run
  rcases Program.runs_attempt_bind.mp run with ⟨_, -, failed⟩ | ⟨_, _, _, rfl, tried, rest⟩
  · rcases tryAdd_runs failed with ⟨_, -, trial⟩ | ⟨_, ⟨⟩, -⟩ | ⟨_, ⟨⟩, -⟩
    obtain ⟨_, -, ⟨⟩⟩ := trial_singular valid trial
  rcases tryAdd_runs tried with ⟨_, ⟨⟩, -⟩ | ⟨header, same, trial⟩ | ⟨_, -, -, -, trial⟩
  · cases same
    obtain ⟨_, rfl, same⟩ := trial_singular valid trial
    cases same
    exact sendWhole_delivers (.anew header) rest
  · obtain ⟨_, -, ⟨⟩⟩ := trial_singular valid trial

theorem sendSingles_delivers {o : SaveOutcome} {commands : List Command}
    {result : Except (Abort Error) SaveOutcome} (valid : ∀ c ∈ commands, c.validate = .ok ())
    (run : (commands.foldlM (s.sendSingle manner) o).run.Runs trace result) :
    s.Delivered manner none o (commands.map ([·])) trace result := by
  induction commands generalizing o trace with
  | nil =>
    obtain ⟨rfl, rfl⟩ := Program.runs_attempt_pure.mp run
    exact .done o
  | cons c rest ih =>
    obtain ⟨here, others⟩ := List.forall_mem_cons.mp valid
    rw [List.foldlM_cons] at run
    rcases Program.runs_attempt_bind.mp run with ⟨_, rfl, failed⟩ | ⟨_, _, _, rfl, first, more⟩
    · rcases sendSingle_delivers here failed with ⟨_, same, ends⟩ | ⟨_, ⟨⟩, -⟩
      cases same
      exact ends _
    · rcases sendSingle_delivers here first with ⟨_, ⟨⟩, -⟩ | ⟨_, same, goesOn⟩
      cases same
      exact goesOn (ih others more)

theorem send_runs {o : SaveOutcome} {result : Except (Abort Error) SaveOutcome}
    (valid : ∀ c ∈ held, c.validate = .ok ())
    (run : (s.send manner (s.holding limits header held) o).run.Runs trace result) :
    s.Sent manner header held o trace result := by
  obtain ⟨_, rest, _, rfl, logged, sent⟩ := Program.runs_lift_bind.mp run
  obtain rfl := Program.runs_request_iff.mp logged
  refine ⟨rest, rfl, ?_⟩
  have splits : s.splits (s.holding limits header held) =
      decide (1 < held.length ∧ held.length < s.minBatchSize) := by
    rw [Bool.decide_and]
    rfl
  rw [splits] at sent
  unfold wholeHeader parcels
  by_cases small : 1 < held.length ∧ held.length < s.minBatchSize
  · rw [if_pos (decide_eq_true small)] at sent
    rw [if_pos small, if_pos small]
    exact sendSingles_delivers valid sent
  · rw [if_neg (by simpa using small)] at sent
    rw [if_neg small, if_neg small]
    rcases sendWhole_delivers (.already header) sent with ⟨_, rfl, ends⟩ | ⟨o', rfl, goesOn⟩
    · exact ends []
    · simpa using goesOn (.done o')

/-! ### The whole save -/

/-- How a save goes on from an outcome, a header, the commands held under it and those that are not
held yet; `drawn` tells whether the first of these has been drawn already. -/
inductive Course (s : Save) (manner : Manner) :
    SaveOutcome → String → List Command → (drawn : Bool) → List Command → List Exchange →
      Except (Abort Error) SaveOutcome → Prop
  | finished {o : SaveOutcome} {header : String} :
    Course s manner o header [] false [] [⟨.pull none, ()⟩] (.ok o)
  | last {o : SaveOutcome} {header : String} {held : List Command} {trace : List Exchange}
      {result : Except (Abort Error) SaveOutcome} (filled : held ≠ [])
      (sent : s.Sent manner header held o trace result) :
    Course s manner o header held false [] (⟨.pull none, ()⟩ :: trace) result
  | draw {o : SaveOutcome} {header : String} {held : List Command} {c : Command}
      {later : List Command} {trace : List Exchange} {result : Except (Abort Error) SaveOutcome}
      (rest : Course s manner o header held true (c :: later) trace result) :
    Course s manner o header held false (c :: later) (⟨.pull (some c), ()⟩ :: trace) result
  | stopped {o : SaveOutcome} {header : String} {held : List Command} {c : Command}
      {later : List Command} {trace : List Exchange} {e : Error}
      (trial : s.Trial s.limits header held c trace (.error e)) :
    Course s manner o header held true (c :: later) trace (.error (.failed e))
  | oversized {o : SaveOutcome} {header : String} {c : Command} {later : List Command}
      {trace : List Exchange} (trial : s.Trial s.limits header [] c trace (.ok none)) :
    Course s manner o header [] true (c :: later) trace (.error (.failed (oversized c)))
  | added {o : SaveOutcome} {header header' : String} {held : List Command} {c : Command}
      {later : List Command} {trace rest : List Exchange}
      {result : Except (Abort Error) SaveOutcome}
      (trial : s.Trial s.limits header held c trace (.ok (some header')))
      (more : Course s manner o header' (held ++ [c]) false later rest result) :
    Course s manner o header held true (c :: later) (trace ++ rest) result
  | failing {o : SaveOutcome} {header : String} {held : List Command} {c : Command}
      {later : List Command} {trace sending : List Exchange} {abort : Abort Error}
      (filled : held ≠ []) (trial : s.Trial s.limits header held c trace (.ok none))
      (sent : s.Sent manner header held o sending (.error abort)) :
    Course s manner o header held true (c :: later) (trace ++ sending) (.error abort)
  | closed {o o' : SaveOutcome} {header : String} {held : List Command} {c : Command}
      {later : List Command} {trace sending rest : List Exchange}
      {result : Except (Abort Error) SaveOutcome} (filled : held ≠ [])
      (trial : s.Trial s.limits header held c trace (.ok none))
      (sent : s.Sent manner header held o sending (.ok o'))
      (more : Course s manner o' "" [] true (c :: later) rest result) :
    Course s manner o header held true (c :: later) (trace ++ sending ++ rest) result

/-- A command that is tried with any outcome but an error is one that was found valid. -/
theorem Trial.valid {outcome : Option String}
    (trial : s.Trial limits header held c trace (.ok outcome)) : c.validate = .ok () := by
  cases trial with
  | added _ judged => cases judged with | checked valid => exact valid
  | full _ judged => cases judged with | declined valid | checked valid => exact valid

/-- Commands that were found valid, with one more that is held after a trial. -/
theorem Trial.valid_held {header' : String}
    (trial : s.Trial limits header held c trace (.ok (some header')))
    (valid : ∀ c ∈ held, c.validate = .ok ()) : ∀ c' ∈ held ++ [c], c'.validate = .ok () := by
  intro c' member
  rcases List.mem_append.mp member with earlier | last
  · exact valid c' earlier
  · obtain rfl := List.mem_singleton.mp last
    exact trial.valid

/-- A command that found no room starts the next batch. -/
theorem startBatch_runs {result : Except (Abort Error) Batch}
    (run : (s.startBatch c).run.Runs trace result) :
    (∃ e, result = .error (.failed e) ∧ s.Trial s.limits "" [] c trace (.error e)) ∨
    (result = .error (.failed (oversized c)) ∧ s.Trial s.limits "" [] c trace (.ok none)) ∨
    ∃ header, result = .ok (s.holding s.limits header [c]) ∧
      s.Trial s.limits "" [] c trace (.ok (some header)) := by
  rw [startBatch, emptyBatch_eq_holding] at run
  rcases Program.runs_attempt_bind.mp run with ⟨_, rfl, failed⟩ | ⟨_, _, _, rfl, tried, rest⟩
  · rcases tryAdd_runs failed with ⟨e, same, trial⟩ | ⟨_, ⟨⟩, -⟩ | ⟨_, ⟨⟩, -⟩
    cases same
    exact .inl ⟨e, rfl, trial⟩
  · rcases tryAdd_runs tried with ⟨_, ⟨⟩, -⟩ | ⟨header, same, trial⟩ | ⟨_, same, -, -, trial⟩
    · cases same
      obtain ⟨rfl, rfl⟩ := Program.runs_done_iff.mp rest
      rw [List.append_nil]
      exact .inr (.inr ⟨header, rfl, trial⟩)
    · cases same
      obtain ⟨rfl, rfl⟩ := Program.runs_done_iff.mp rest
      rw [List.append_nil]
      exact .inr (.inl ⟨rfl, trial⟩)

/-- Filling a batch takes the course of a save. The induction is on the commands still to be drawn;
it carries that the commands held are valid, so that each of them can be sent on its own. -/
theorem fill_runs {o : SaveOutcome} {stream : List Command}
    {result : Except (Abort Error) SaveOutcome} (valid : ∀ c ∈ held, c.validate = .ok ())
    (run : (s.fill manner o (s.holding s.limits header held) stream).run.Runs trace result) :
    s.Course manner o header held false stream trace result := by
  induction stream generalizing o header held trace with
  | nil =>
    obtain ⟨_, _, _, rfl, drawn, rest⟩ := Program.runs_lift_bind.mp run
    obtain rfl := Program.runs_request_iff.mp drawn
    by_cases empty : held = []
    · subst empty
      obtain ⟨rfl, rfl⟩ := Program.runs_attempt_pure.mp rest
      exact .finished
    · rw [if_neg (by simpa [holding] using empty)] at rest
      exact .last empty (send_runs valid rest)
  | cons c later ih =>
    obtain ⟨_, _, _, rfl, drawn, offered⟩ := Program.runs_lift_bind.mp run
    obtain rfl := Program.runs_request_iff.mp drawn
    rw [List.singleton_append]
    refine .draw ?_
    rcases Program.runs_attempt_bind.mp offered with
      ⟨_, rfl, failed⟩ | ⟨trying, rest, _, rfl, tried, more⟩
    · rcases tryAdd_runs failed with ⟨_, same, trial⟩ | ⟨_, ⟨⟩, -⟩ | ⟨_, ⟨⟩, -⟩
      cases same
      exact .stopped trial
    rcases tryAdd_runs tried with
      ⟨_, ⟨⟩, -⟩ | ⟨header', same, trial⟩ | ⟨after, same, commands, kept, trial⟩
    · cases same
      exact .added trial (ih (trial.valid_held valid) more)
    cases same
    by_cases empty : held = []
    · rw [empty] at commands trial
      simp only [commands, List.isEmpty_nil, if_true] at more
      obtain ⟨rfl, rfl⟩ := Program.runs_done_iff.mp more
      rw [List.append_nil, empty]
      exact .oversized trial
    obtain rfl := kept empty
    have filled : (s.holding s.limits header held).commands.isEmpty = false := by
      simpa [holding] using empty
    simp only [filled, Bool.false_eq_true, if_false] at more
    rcases Program.runs_attempt_bind.mp more with
      ⟨_, rfl, failed⟩ | ⟨sending, _, o', rfl, sent, restarted⟩
    · exact .failing empty trial (send_runs valid failed)
    have sent := send_runs valid sent
    rw [← List.append_assoc]
    refine .closed empty trial sent ?_
    rcases Program.runs_attempt_bind.mp restarted with
      ⟨_, rfl, failed⟩ | ⟨_, _, _, rfl, started, more⟩
    · rcases startBatch_runs failed with ⟨_, same, trial⟩ | ⟨same, trial⟩ | ⟨_, ⟨⟩, -⟩
      · cases same
        exact .stopped trial
      · cases same
        exact .oversized trial
    · rcases startBatch_runs started with ⟨_, ⟨⟩, -⟩ | ⟨⟨⟩, -⟩ | ⟨header', same, trial⟩
      cases same
      exact .added trial (ih (trial.valid_held (fun _ member => nomatch member)) more)

/-- A save takes its course from nothing achieved and nothing held. -/
theorem run_course {commands : List Command} {result : Except (Abort Error) SaveOutcome}
    (run : (s.run manner commands).Runs trace result) :
    s.Course manner {} "" [] false commands trace result :=
  fill_runs (fun _ member => nomatch member) run

theorem parcels_ne_nil (least : Nat) {held : List Command} (filled : held ≠ []) :
    ∀ group ∈ parcels least held, group ≠ [] := by
  unfold parcels
  split
  · simp
  · simpa using filled

theorem parcels_flatten (least : Nat) (held : List Command) :
    (parcels least held).flatten = held := by
  unfold parcels
  split
  · rw [← List.flatMap_def, List.flatMap_singleton']
  · exact List.flatten_singleton

/-! ### From round trips to saves -/

theorem Begun.filling {known : Option String} (began : Begun known trace header) :
    Filling trace := by
  cases began with
  | already => exact filling_nil
  | anew => exact filling_cons trivial filling_nil

theorem Begun.idle {known : Option String} (began : Begun known trace header) : Idle trace :=
  began.filling.idle

theorem Judged.filling {verdict : Except Error Bool}
    (judged : Judged limits held c trace verdict) : Filling trace := by
  cases judged with
  | refused => exact filling_nil
  | declined _ answered => exact filling_limits (limits.mayAdd_asks _ _) answered
  | checked _ answered accepted =>
    exact (filling_limits (limits.mayAdd_asks _ _) answered).append
      (filling_limits (limits.accepts_asks _) accepted)

/-- Trying a command only fills a batch. -/
theorem Trial.filling {outcome : Except Error (Option String)}
    (trial : s.Trial limits header held c trace outcome) : Filling trace := by
  cases trial with
  | failed began judged =>
    rcases began with rfl | ⟨_, began⟩
    · exact judged.filling
    · exact began.filling.append judged.filling
  | added began judged => exact began.filling.append judged.filling
  | full began judged =>
    exact (began.filling.append judged.filling).append
      (filling_cons trivial (filling_cons trivial filling_nil))

theorem Trial.idle {outcome : Except Error (Option String)}
    (trial : s.Trial limits header held c trace outcome) : Idle trace :=
  trial.filling.idle

/-- What is needed for a property of traces and early ends to hold of every save. -/
structure Account (s : Save) (manner : Manner)
    (Property : List Exchange → Option (Abort Error) → Prop) : Prop where
  idle : ∀ {trace}, Idle trace → Property trace none
  append : ∀ {first second ended}, Property first none → Property second ended →
    Property (first ++ second) ended
  stopped : ∀ {header held c trace e}, s.Trial s.limits header held c trace (.error e) →
    Property trace (some (.failed e))
  oversized : ∀ {header c trace}, s.Trial s.limits header [] c trace (.ok none) →
    Property trace (some (.failed (oversized c)))
  overflowed : ∀ {trace}, Property trace none → Property trace (some .totalOutOfRange)
  posted : ∀ {limits header group trace result}, group ≠ [] →
    ((s.holding limits header group).execute manner).Runs trace result →
    Property trace (failure result)

/-- A round trip is added to the outcome just if the total stays in range. -/
theorem absorb_ok_iff {o o' : SaveOutcome} {executed : Executed} :
    o.absorb executed = .ok o' ↔ o.rowsAffected + executed.total < totalBound ∧
      o' = ⟨o.commands ++ executed.commands, o.rowsAffected + executed.total, o.batches + 1⟩ := by
  simp only [SaveOutcome.absorb]
  split
  next inRange => simp [inRange, eq_comm]
  next excess => simp [excess]

theorem absorb_error {o : SaveOutcome} {executed : Executed} {abort : Abort Error}
    (excess : o.absorb executed = .error abort) : abort = .totalOutOfRange := by
  simp only [SaveOutcome.absorb] at excess
  split at excess
  · cases excess
  · cases excess
    rfl

namespace Account

variable {Property : List Exchange → Option (Abort Error) → Prop}

theorem of_delivered (account : s.Account manner Property) {known : Option String}
    {o : SaveOutcome} {groups : List (List Command)} {result : Except (Abort Error) SaveOutcome}
    (nonempty : ∀ group ∈ groups, group ≠ [])
    (delivered : s.Delivered manner known o groups trace result) :
    Property trace (failure result) := by
  induction delivered with
  | done => exact account.idle idle_nil
  | failed began run =>
    exact account.append (account.idle began.idle) (account.posted (nonempty _ (by simp)) run)
  | overflowed began run excess =>
    rw [absorb_error excess]
    have posted := account.posted (nonempty _ (by simp)) run
    exact account.append (account.idle began.idle) (account.overflowed posted)
  | next began run _ _ ih =>
    have posted := account.posted (nonempty _ (by simp)) run
    have others := ih fun group member => nonempty group (List.mem_cons_of_mem _ member)
    exact account.append (account.append (account.idle began.idle) posted) others

theorem of_sent (account : s.Account manner Property) {o : SaveOutcome}
    {result : Except (Abort Error) SaveOutcome} (filled : held ≠ [])
    (sent : s.Sent manner header held o trace result) : Property trace (failure result) := by
  obtain ⟨rest, rfl, delivered⟩ := sent
  have logged : Property [⟨.log (.executingBatch held.length (viewOf held).parameterCount), ()⟩]
      none := account.idle (idle_cons trivial idle_nil)
  exact account.append logged (account.of_delivered (parcels_ne_nil _ filled) delivered)

theorem of_course (account : s.Account manner Property) {o : SaveOutcome} {drawn : Bool}
    {stream : List Command} {result : Except (Abort Error) SaveOutcome}
    (course : s.Course manner o header held drawn stream trace result) :
    Property trace (failure result) := by
  have pulled (next : Option Command) : Property [⟨.pull next, ()⟩] none :=
    account.idle (idle_cons trivial idle_nil)
  induction course with
  | finished => exact pulled none
  | last filled sent => exact account.append (pulled none) (account.of_sent filled sent)
  | draw _ ih => exact account.append (pulled _) ih
  | stopped trial => exact account.stopped trial
  | oversized trial => exact account.oversized trial
  | added trial _ ih => exact account.append (account.idle trial.idle) ih
  | failing filled trial sent =>
    exact account.append (account.idle trial.idle) (account.of_sent filled sent)
  | closed filled trial sent _ ih =>
    have before := account.append (account.idle trial.idle) (account.of_sent filled sent)
    exact account.append before ih

/-- A property that is accounted for holds of every run of the save. -/
theorem of_run (account : s.Account manner Property) {commands : List Command}
    {result : Except (Abort Error) SaveOutcome} (run : (s.run manner commands).Runs trace result) :
    Property trace (failure result) :=
  account.of_course (run_course run)

end Account

end Save

end BatchedSave
