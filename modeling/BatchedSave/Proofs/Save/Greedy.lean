import Mathlib
import BatchedSave.Proofs.Save.Sendings

/-!
# A save sends greedy segments

`Policy.cut` is the reference for how a save with limits that answer by what they see cuts its
commands: from left to right, each segment takes commands for as long as the limits accept the next
one, up to a command that ends the save; `cut_greedy` says the same without following the cut.
`Policy.groups` splits the segments that are too small. The main statement, `run_sends_greedily`,
says that what a save sends is a prefix of these groups, and all of them, with all of the commands,
if it succeeds.
-/
namespace BatchedSave

namespace Policy

variable (p : Policy)

/-- Whether a command can join those held, or why the save ends with it. -/
def judge (held : List Command) (c : Command) : Except Error Bool :=
  match c.validate with
  | .error refusal => .error refusal.toError
  | .ok () => if p.mayAdd (viewOf held) c then p.accepts (viewOf (held ++ [c])) else .ok false

/-- The segment that is closed with these commands; there is no segment without commands. -/
def closing (held : List Command) : List (List Command) :=
  if held = [] then [] else [held]

/-- The segments of the commands held and those to come. A command that does not join the commands
held starts the next segment; one that is refused or fits no empty batch ends the cut. -/
def cut (held : List Command) : List Command → List (List Command)
  | [] => closing held
  | c :: later =>
    match p.judge held c with
    | .ok true => cut (held ++ [c]) later
    | .ok false =>
      if held = [] then []
      else held ::
        match p.judge [] c with
        | .ok true => cut [c] later
        | _ => []
    | .error _ => closing held

/-- The groups sent for a stream of commands: the segments of at least `least` commands, and the
commands of the others one at a time. -/
def groups (least : Nat) (commands : List Command) : List (List Command) :=
  (p.cut [] commands).flatMap (Save.parcels least)

variable {p} {held : List Command} {c : Command}

/-- The command ends the segment and is tried anew. -/
theorem cut_closed (filled : held ≠ []) (full : p.judge held c = .ok false)
    (later : List Command) : p.cut held (c :: later) = held :: p.cut [] (c :: later) := by
  rw [cut, full]
  simp only [if_neg filled]
  rw [cut]
  cases p.judge [] c with
  | error e => rfl
  | ok fits => cases fits <;> rfl

theorem cut_added (accepted : p.judge held c = .ok true) (later : List Command) :
    p.cut held (c :: later) = p.cut (held ++ [c]) later := by
  rw [cut, accepted]

theorem closing_flatten (held : List Command) : (closing held).flatten = held := by
  unfold closing
  split
  next empty => rw [empty]; rfl
  next => simp

theorem closing_ne_nil (held : List Command) : ∀ segment ∈ closing held, segment ≠ [] := by
  unfold closing
  split
  next => simp
  next filled => simpa using filled

/-- Each command was accepted on those before it. -/
def Accepted (p : Policy) (segment : List Command) : Prop :=
  ∀ before c after, segment = before ++ c :: after → p.judge before c = .ok true

/-- Segments of a stream from left to right, each extended for as long as the limits accepted the
next command. Behind the last one comes nothing, or a command that ends the save: it fits no empty
batch, or trying it on the last segment fails. -/
structure Greedy (p : Policy) (commands : List Command) (segments : List (List Command)) :
    Prop where
  filled : ∀ segment ∈ segments, segment ≠ []
  accepted : ∀ segment ∈ segments, p.Accepted segment
  full : segments.IsChain fun segment next =>
    ∃ c later, next = c :: later ∧ p.judge segment c = .ok false
  ended : ∃ rest, commands = segments.flatten ++ rest ∧ ∀ c later, rest = c :: later →
    p.judge [] c ≠ .ok true ∨ ∃ e, p.judge (segments.getLastD []) c = .error e

theorem Accepted.extend (accepted : p.Accepted held) (next : p.judge held c = .ok true) :
    p.Accepted (held ++ [c]) := by
  intro before d after same
  rcases List.eq_nil_or_concat' after with rfl | ⟨after, last, rfl⟩
  · obtain ⟨rfl, last⟩ := List.append_inj' same rfl
    cases last
    exact next
  · rw [← List.cons_append, ← List.append_assoc] at same
    obtain ⟨rfl, -⟩ := List.append_inj' same rfl
    exact accepted before d after rfl

theorem accepted_nil (p : Policy) : p.Accepted [] := by
  intro before c after same
  simp at same

/-- The first segment begins with the commands held. -/
theorem cut_begins (filled : held ≠ []) (stream : List Command) :
    ∃ more others, p.cut held stream = (held ++ more) :: others := by
  induction stream generalizing held with
  | nil => exact ⟨[], [], by simp [cut, closing, filled]⟩
  | cons c later ih =>
    rw [cut]
    split
    · have longer : held ++ [c] ≠ [] := by simp
      obtain ⟨more, others, same⟩ := ih longer
      exact ⟨c :: more, others, by rw [same, List.append_assoc, List.singleton_append]⟩
    · exact ⟨[], _, by rw [if_neg filled, List.append_nil]⟩
    · exact ⟨[], [], by simp [closing, filled]⟩

theorem greedy_closing (accepted : p.Accepted held) (rest : List Command)
    (ends : ∀ c later, rest = c :: later →
      p.judge [] c ≠ .ok true ∨ ∃ e, p.judge held c = .error e) :
    p.Greedy (held ++ rest) (closing held) where
  filled := closing_ne_nil held
  accepted segment member := by
    unfold closing at member
    split at member
    · cases member
    · obtain rfl := List.mem_singleton.mp member
      exact accepted
  full := by
    unfold closing
    split <;> simp
  ended := by
    have last : (closing held).getLastD [] = held := by
      unfold closing
      split
      next empty => exact empty.symm
      next => rfl
    exact ⟨rest, by rw [closing_flatten], by rwa [last]⟩

/-- The cut is greedy. The induction is on the commands to come; those held have been accepted. -/
theorem cut_greedy (accepted : p.Accepted held) (stream : List Command) :
    p.Greedy (held ++ stream) (p.cut held stream) := by
  induction stream generalizing held with
  | nil => exact greedy_closing accepted [] nofun
  | cons c later ih =>
    rw [cut]
    split
    next joins => simpa using ih (accepted.extend joins)
    next full =>
      split
      next empty =>
        subst empty
        refine ⟨by simp, by simp, .nil, c :: later, rfl, fun d rest same => ?_⟩
        cases same
        exact .inl (by simp [full])
      next filled =>
        split
        next alone =>
          have begun : p.Accepted [c] := (accepted_nil p).extend alone
          obtain ⟨more, others, same⟩ := cut_begins (p := p) (List.cons_ne_nil c []) later
          have behind := ih begun
          rw [same] at behind ⊢
          obtain ⟨rest, commands, ends⟩ := behind.ended
          refine ⟨List.forall_mem_cons.mpr ⟨filled, behind.filled⟩,
            List.forall_mem_cons.mpr ⟨accepted, behind.accepted⟩,
            List.isChain_cons_cons.mpr ⟨⟨c, more, rfl, full⟩, behind.full⟩, rest, ?_, ends⟩
          rw [List.flatten_cons, List.append_assoc, ← commands]
          rfl
        next other =>
          refine ⟨by simpa using filled, by simpa using accepted, .singleton _, c :: later, by simp,
            fun d rest same => ?_⟩
          cases same
          exact .inl other
    next e failed =>
      refine greedy_closing accepted (c :: later) fun d rest same => ?_
      cases same
      exact .inr ⟨e, failed⟩

end Policy

namespace Save

theorem groups_flatten (p : Policy) (least : Nat) (commands : List Command) :
    (p.groups least commands).flatten = (p.cut [] commands).flatten := by
  unfold Policy.groups
  induction p.cut [] commands with
  | nil => rfl
  | cons segment segments ih =>
    rw [List.flatMap_cons, List.flatten_append, parcels_flatten, ih, List.flatten_cons]

theorem groups_ne_nil (p : Policy) (least : Nat) (commands : List Command) :
    ∀ group ∈ p.groups least commands, group ≠ [] := by
  intro group member
  obtain ⟨segment, cut, parcel⟩ := List.mem_flatMap.mp member
  have filled := (p.cut_greedy p.accepted_nil commands).filled segment cut
  exact parcels_ne_nil least filled group parcel

variable {s : Save} {limits : Limits} {p : Policy} {manner : Manner} {header : String}
variable {held stream : List Command} {c : Command} {trace : List Exchange} {drawn : Bool}
variable {o o' : SaveOutcome} {result : Except (Abort Error) SaveOutcome}

/-- A policy judges by what it sees and asks nobody. -/
theorem Judged.of_policy {verdict : Except Error Bool}
    (judged : Judged (.policy p) held c trace verdict) :
    trace = [] ∧ verdict = p.judge held c := by
  unfold Policy.judge
  cases judged with
  | refused invalid => exact ⟨rfl, by rw [invalid]⟩
  | declined valid answered =>
    obtain ⟨rfl, declines⟩ := Program.runs_done_iff.mp answered
    refine ⟨rfl, ?_⟩
    rw [valid]
    exact (if_neg (by simp [← declines])).symm
  | checked valid answered accepted =>
    obtain ⟨rfl, admits⟩ := Program.runs_done_iff.mp answered
    obtain ⟨rfl, rfl⟩ := Program.runs_done_iff.mp accepted
    refine ⟨rfl, ?_⟩
    rw [valid]
    exact (if_pos admits.symm).symm

/-- A command that is tried is held, handed back or ends the save as the policy judges it. -/
theorem Trial.judge {outcome : Except Error (Option String)}
    (trial : s.Trial (.policy p) header held c trace outcome) :
    p.judge held c = outcome.map Option.isSome := by
  cases trial with
  | failed _ judged => exact judged.of_policy.2.symm
  | added _ judged => exact judged.of_policy.2.symm
  | full _ judged => exact judged.of_policy.2.symm

/-- Whatever course a save takes, it sends groups of the greedy cut from there on. The induction is
on the course; what has been said under the header of the batch being filled is carried along. -/
theorem Course.sends (pure : s.limits = .policy p)
    (course : s.Course manner o header held drawn stream trace result) :
    Sends s o (greeting (Save.begun header held) ++ conversation trace) trace
      ((p.cut held stream).flatMap (parcels s.minBatchSize)) result := by
  induction course with
  | finished => exact .done rfl rfl
  | @last o header held trace result filled sent =>
    have whole : p.cut held [] = [held] := if_neg filled
    rw [whole, List.flatMap_singleton, begun_of_filled header filled]
    have sends := sent.sends filled
    exact .after [] [_] rfl rfl sends
  | draw rest ih => exact .after [] [_] rfl rfl ih
  | stopped trial => exact .none (by simp [queries_greeting, queries_of_idle trial.idle])
  | oversized trial => exact .none (by simp [queries_greeting, queries_of_idle trial.idle])
  | @added o header header' held c later trace rest result trial more ih =>
    rw [pure] at trial
    rw [Policy.cut_added trial.judge, conversation_append, ← List.append_assoc, trial.greets]
    rw [begun_of_filled header' (by simp)] at ih
    exact .after [] _ rfl trial.idle.deliveries_eq_nil ih
  | @failing o header held c later trace sending abort filled trial sent =>
    have quiet := trial.idle.deliveries_eq_nil
    rw [pure] at trial
    rw [Policy.cut_closed filled trial.judge, List.flatMap_cons, begun_of_filled header filled,
      conversation_append, trial.silent filled]
    exact (Sends.after [] trace rfl quiet (sent.sends filled)).early
  | @closed o o' header held c later trace sending rest result filled trial sent more ih =>
    have quiet := trial.idle.deliveries_eq_nil
    rw [pure] at trial
    rw [Policy.cut_closed filled trial.judge, List.flatMap_cons, begun_of_filled header filled,
      conversation_append, conversation_append, trial.silent filled]
    exact (Sends.after [] trace rfl quiet (sent.sends filled)).append ih

/-- A save that succeeds has cut all of its commands. -/
theorem Course.cuts_all (pure : s.limits = .policy p)
    (course : s.Course manner o header held drawn stream trace (.ok o')) :
    (p.cut held stream).flatten = held ++ stream := by
  generalize same : (Except.ok o' : Except (Abort Error) SaveOutcome) = result at course
  induction course with
  | finished => rfl
  | last filled => rw [Policy.cut, Policy.closing_flatten, List.append_nil]
  | draw _ ih => exact ih same
  | stopped | oversized | failing => cases same
  | added trial _ ih =>
    rw [pure] at trial
    rw [Policy.cut_added trial.judge, ih same, List.append_assoc, List.singleton_append]
  | closed filled trial _ _ ih =>
    rw [pure] at trial
    rw [Policy.cut_closed filled trial.judge, List.flatten_cons, ih same, List.nil_append]

/-- What a save sends, in either manner and under every fault of the dialect, the connection and
the reader, are the groups of the greedy cut, in order: for each group a header, the fragments of
its commands and a footer are asked for, and the store is sent the text they make up with the
parameters of the group. No group is empty and no command is in two places. If the save succeeds,
all groups were sent and all commands are in them, each command of the outcome is one of the input
with the row that was read for it, and the round trips and affected rows are those of the groups. -/
theorem run_sends_greedily {commands : List Command} (pure : s.limits = .policy p)
    (run : (s.run manner commands).Runs trace result) :
    ∃ sendings : List Sending, Speaks s sendings (conversation trace) ∧
      queries (conversation trace) = sendings.map (·.command s) ∧
      sendings.map (·.group) <+: p.groups s.minBatchSize commands ∧
      (∀ x ∈ sendings, x.group ≠ []) ∧
      sendings.flatMap (·.group) <+: commands ∧
      ∀ o, result = .ok o →
        sendings.map (·.group) = p.groups s.minBatchSize commands ∧
        sendings.flatMap (·.group) = commands ∧
        ∃ settled : List Settlement, commands = settled.map (·.before) ∧
          deliveries trace = settled.flatMap (·.row.zipIdx) ∧
          o.commands = settled.map (·.after) ∧
          o.rowsAffected = (settled.map fun x => x.before.affectedBy x.row).sum ∧
          o.batches = sendings.length := by
  have course := run_course run
  have sends : Sends s {} (conversation trace) trace (p.groups s.minBatchSize commands) result :=
    course.sends pure
  obtain ⟨sendings, speaks, within, complete⟩ := sends
  have cut : (p.groups s.minBatchSize commands).flatten <+: commands := by
    obtain ⟨rest, same, -⟩ := (p.cut_greedy p.accepted_nil commands).ended
    rw [groups_flatten]
    exact ⟨rest, same.symm⟩
  refine ⟨sendings, speaks, speaks.queries_eq, within, ?_, ?_, ?_⟩
  · intro x member
    exact groups_ne_nil p s.minBatchSize commands _ (within.subset (List.mem_map_of_mem member))
  · obtain ⟨unsent, same⟩ := within
    rw [← same, List.flatten_append] at cut
    rw [List.flatMap_def]
    exact (List.prefix_append _ _).trans cut
  · rintro o rfl
    obtain ⟨all, settled, before, delivered, rfl⟩ := complete o rfl
    have whole : sendings.flatMap (·.group) = commands := by
      rw [List.flatMap_def, all]
      exact (groups_flatten p _ _).trans (course.cuts_all pure)
    refine ⟨all, whole, settled, whole ▸ before, delivered, ?_, ?_, ?_⟩ <;> simp

/-- Of three inserts two fit a batch, and batches of fewer than three are sent one command at a
time: the save makes three round trips. -/
theorem run_sends_three_inserts :
    let p : Policy := { accepts := fun view => .ok (view.commands.length ≤ 2) }
    let save : Save := { limits := .policy p, minBatchSize := 3 }
    let commands : List Command := [.identityInsert 0, .identityInsert 1, .identityInsert 2]
    let played := (save.run .blocking commands).play
      (Surroundings.scripted (Dialect.plain atPlaceholder))
      { responses := [.ok [[[.int 40]]], .ok [[[.int 41]]], .ok [[[.int 42]]]] }
    (save.run .blocking commands).Runs played.journal played.result ∧
    played.result.toOption.map (·.batches) = some 3 ∧
    p.cut [] commands = [[.identityInsert 0, .identityInsert 1], [.identityInsert 2]] ∧
    p.groups 3 commands = [[.identityInsert 0], [.identityInsert 1], [.identityInsert 2]] ∧
    ∃ sendings : List Sending, Speaks save sendings (conversation played.journal) ∧
      queries (conversation played.journal) = sendings.map (·.command save) ∧
      sendings.map (·.group) <+: p.groups 3 commands ∧
      (∀ x ∈ sendings, x.group ≠ []) ∧
      sendings.flatMap (·.group) <+: commands ∧
      ∀ o, played.result = .ok o →
        sendings.map (·.group) = p.groups 3 commands ∧
        sendings.flatMap (·.group) = commands ∧
        ∃ settled : List Settlement, commands = settled.map (·.before) ∧
          deliveries played.journal = settled.flatMap (·.row.zipIdx) ∧
          o.commands = settled.map (·.after) ∧
          o.rowsAffected = (settled.map fun x => x.before.affectedBy x.row).sum ∧
          o.batches = sendings.length :=
  ⟨Program.runs_play _ _ _, by cbv, by cbv, by cbv,
    run_sends_greedily rfl (Program.runs_play _ _ _)⟩

end Save

end BatchedSave
