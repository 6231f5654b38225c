import Mathlib
import BatchedSave.Proofs.Save.Caps
import BatchedSave.Proofs.Save.Postings

/-!
# A save makes as few round trips as possible

Under caps, a `Segmentation` is any way to send the commands in order, in groups within the caps.
The greedy cut is one of them, and none has fewer segments: where the greedy cut closes a segment,
every other segmentation has closed one as well, at the latest just there (`Policy.cut_length_le`).
-/
namespace BatchedSave

/-- A cut of the commands into consecutive segments that are not empty and within the caps. -/
structure Segmentation (maxCommands maxParameters : Nat) (commands : List Command)
    (segments : List (List Command)) : Prop where
  joined : segments.flatten = commands
  filled : ∀ segment ∈ segments, segment ≠ []
  fits : ∀ segment ∈ segments, Fits maxCommands maxParameters segment

/-- The segment an element is in, what is in front of it and what is behind it. -/
theorem segment_of_element {α : Type} {segments : List (List α)} {front back : List α} {a : α}
    (joined : segments.flatten = front ++ a :: back) :
    ∃ earlier x y later, segments = earlier ++ (x ++ a :: y) :: later ∧
      front = earlier.flatten ++ x ∧ back = y ++ later.flatten := by
  induction segments generalizing front with
  | nil => simp at joined
  | cons segment segments ih =>
    rw [List.flatten_cons] at joined
    rcases List.append_eq_append_iff.mp joined with ⟨between, rfl, rest⟩ | ⟨between, rfl, rest⟩
    · obtain ⟨earlier, x, y, later, rfl, rfl, rfl⟩ := ih rest
      exact ⟨segment :: earlier, x, y, later, rfl, by simp, rfl⟩
    · cases between with
      | nil =>
        have begins : segments.flatten = [] ++ a :: back := rest.symm
        obtain ⟨earlier, x, y, later, rfl, empty, rfl⟩ := ih begins
        exact ⟨front :: earlier, x, y, later, by simp, by simp [← empty], rfl⟩
      | cons b between =>
        obtain ⟨rfl, rfl⟩ := List.cons.inj rest
        exact ⟨[], front, between, segments, rfl, rfl, rfl⟩

variable {maxCommands maxParameters : Nat} {p : Policy} {held stream commands : List Command}

namespace Policy

/-- No cut into segments within the caps has fewer segments than the greedy one. The induction is on
the commands to come; the other cut may have begun its current segment before the commands held. -/
theorem cut_length_le (capped : .caps maxCommands maxParameters = Limits.policy p)
    (alone : ∀ c ∈ stream, p.judge [] c = .ok true) {before : List Command}
    {segments : List (List Command)} (joined : segments.flatten = before ++ held ++ stream)
    (fits : ∀ segment ∈ segments, Fits maxCommands maxParameters segment) :
    (p.cut held stream).length ≤ segments.length := by
  induction stream generalizing held before segments with
  | nil =>
    rw [cut, closing]
    split
    · exact Nat.zero_le _
    next filled =>
      have some : segments ≠ [] := by
        rintro rfl
        simp [filled] at joined
      exact List.length_pos_iff.mpr some
  | cons c later ih =>
    obtain ⟨here, others⟩ := List.forall_mem_cons.mp alone
    have judged : p.judge held c = .ok (decide (Fits maxCommands maxParameters (held ++ [c]))) :=
      judge_caps capped (judge_valid here)
    by_cases together : Fits maxCommands maxParameters (held ++ [c])
    · rw [cut_added (by simpa [together] using judged)]
      exact ih others (by simpa using joined) fits
    · have filled : held ≠ [] := by
        rintro rfl
        exact together (fits_of_judge capped here)
      rw [cut_closed filled (by simpa [together] using judged), cut_added here]
      obtain ⟨earlier, x, y, rest, rfl, front, rfl⟩ := segment_of_element joined
      obtain ⟨-, current⟩ := List.forall_mem_append.mp fits
      -- the segment of `c` does not have all of the commands held, so there is one in front of it
      have closed : 0 < earlier.length := by
        refine List.length_pos_iff.mpr fun none => together ?_
        have whole : before ++ held = x := by simpa [none] using front
        refine (current _ List.mem_cons_self).within ⟨before, y, ?_⟩
        simp [← whole]
      have behind : ((x ++ c :: y) :: rest).flatten = x ++ ([] ++ [c]) ++ (y ++ rest.flatten) := by
        simp
      have fewer := ih others behind current
      simp only [List.length_append, List.length_cons] at fewer ⊢
      omega

/-- Commands that each have room in a batch are all in the greedy cut, which keeps the caps. -/
theorem cut_segmentation (capped : .caps maxCommands maxParameters = Limits.policy p)
    (alone : ∀ c ∈ commands, p.judge [] c = .ok true) :
    Segmentation maxCommands maxParameters commands (p.cut [] commands) := by
  have greedy := p.cut_greedy p.accepted_nil commands
  obtain ⟨rest, all, ends⟩ := greedy.ended
  have none : rest = [] := by
    cases rest with
    | nil => rfl
    | cons c later =>
      have room : p.judge [] c = .ok true := alone c (by rw [← List.nil_append commands, all]; simp)
      rcases ends c later rfl with full | ⟨e, failed⟩
      · exact absurd room full
      · rw [judge_caps capped (judge_valid room)] at failed
        cases failed
  refine ⟨?_, greedy.filled, fun segment member => ?_⟩
  · rw [none, List.append_nil] at all
    exact all.symm
  · exact (greedy.accepted segment member).fits capped (greedy.filled segment member)

end Policy

/-! ### The tally of round trips -/

/-- A round trip that is added to an outcome has succeeded and is counted. -/
theorem absorb_ok {o o' : SaveOutcome} {result : Except (Abort Error) Executed}
    (absorbed : result >>= o.absorb = .ok o') : result.isOk ∧ o'.batches = o.batches + 1 := by
  cases result with
  | error abort => cases absorbed
  | ok executed =>
    have added : o.absorb executed = .ok o' := absorbed
    simp only [SaveOutcome.absorb] at added
    split at added
    · cases added
      exact ⟨rfl, rfl⟩
    · cases added

/-- An outcome counts the round trips, all of which have succeeded. -/
theorem tally_ok {o o' : SaveOutcome} {posts : List Posting} (tallied : tally o posts = .ok o') :
    (∀ x ∈ posts, x.result.isOk) ∧ o'.batches = o.batches + posts.length := by
  induction posts generalizing o with
  | nil =>
    cases tallied
    exact ⟨by simp, rfl⟩
  | cons x posts ih =>
    rw [tally_cons] at tallied
    cases absorbed : x.result >>= o.absorb with
    | error abort =>
      rw [absorbed] at tallied
      cases tallied
    | ok next =>
      rw [absorbed] at tallied
      obtain ⟨succeeded, counted⟩ := absorb_ok absorbed
      obtain ⟨others, all⟩ := ih tallied
      refine ⟨List.forall_mem_cons.mpr ⟨succeeded, others⟩, ?_⟩
      rw [all, counted, List.length_cons]
      omega

/-- Round trips that succeed come to an outcome if the total of their rows is in range. -/
theorem tally_total {o : SaveOutcome} {posts : List Posting}
    (succeeded : ∀ x ∈ posts, x.result.isOk)
    (inRange : o.rowsAffected + (posts.map fun x => Batch.rowsOf x.result).sum < totalBound) :
    ∃ o', tally o posts = .ok o' := by
  induction posts generalizing o with
  | nil => exact ⟨o, rfl⟩
  | cons x posts ih =>
    obtain ⟨here, others⟩ := List.forall_mem_cons.mp succeeded
    cases posted : x.result with
    | error abort =>
      rw [posted] at here
      cases here
    | ok executed =>
      have rows : Batch.rowsOf x.result = executed.total := by
        rw [posted]
        rfl
      simp only [List.map_cons, List.sum_cons, rows] at inRange
      let next : SaveOutcome :=
        ⟨o.commands ++ executed.commands, o.rowsAffected + executed.total, o.batches + 1⟩
      have absorbed : x.result >>= o.absorb = .ok next := by
        rw [posted]
        exact if_pos (by omega)
      have behind : next.rowsAffected + (posts.map fun x => Batch.rowsOf x.result).sum <
          totalBound := by
        simpa [next, Nat.add_assoc] using inRange
      rw [tally_cons, absorbed]
      exact ih others behind

namespace Save

variable {s : Save} {manner : Manner} {trace : List Exchange}
variable {result : Except (Abort Error) SaveOutcome}

/-- Where no batch is too small, each segment is sent whole. -/
theorem groups_eq_cut {least : Nat} (small : least ≤ 2) (p : Policy) (commands : List Command) :
    p.groups least commands = p.cut [] commands := by
  have whole : parcels least = fun held => [held] := by
    funext held
    exact if_neg (by omega)
  rw [Policy.groups, whole, List.flatMap_singleton']

/-- Under caps that have room for each of the commands, and where no batch is split, a save whose
round trips all succeed comes to an outcome, as long as the total of the rows is in range. The
round trips are then as many as the least number of segments within the caps into which the commands
can be cut. -/
theorem run_makes_fewest_trips (capped : s.limits = .caps maxCommands maxParameters)
    (room : 1 ≤ maxCommands) (small : s.minBatchSize ≤ 2)
    (valid : ∀ c ∈ commands, c.validate = .ok () ∧ c.parameterCount ≤ maxParameters)
    (run : (s.run manner commands).Runs trace result) :
    ∃ posts, Posts s manner posts trace ∧
      ((∀ x ∈ posts, x.result.isOk) →
        (posts.map fun x => Batch.rowsOf x.result).sum < totalBound → ∃ o, result = .ok o) ∧
      ∀ o, result = .ok o →
        (∀ x ∈ posts, x.result.isOk) ∧ o.batches = posts.length ∧
        IsLeast {n | ∃ segments, Segmentation maxCommands maxParameters commands segments ∧
          segments.length = n} o.batches := by
  obtain ⟨p, policy⟩ : ∃ p, .caps maxCommands maxParameters = Limits.policy p := ⟨_, rfl⟩
  have alone : ∀ c ∈ commands, p.judge [] c = .ok true := fun c member =>
    (Policy.judge_alone_iff policy).mpr ⟨(valid c member).1, room, (valid c member).2⟩
  have cut := Policy.cut_segmentation policy alone
  obtain ⟨posts, made, -, complete, tallied⟩ := (run_course run).makes (capped.trans policy)
  have tallied : tally {} posts = result := tallied.resolve_left fun refused => refused cut.joined
  have groups : (p.cut [] commands).flatMap (parcels s.minBatchSize) = p.cut [] commands :=
    groups_eq_cut small p commands
  refine ⟨posts, made, fun succeeded inRange => ?_, ?_⟩
  · rw [← tallied]
    exact tally_total succeeded (by simpa using inRange)
  · rintro o rfl
    obtain ⟨succeeded, counted⟩ := tally_ok tallied
    have sent := congrArg List.length (complete o rfl)
    rw [groups, List.length_map] at sent
    have batches : o.batches = (p.cut [] commands).length := by
      rw [counted, sent]
      exact Nat.zero_add _
    refine ⟨succeeded, by rw [batches, sent], ⟨_, cut, batches.symm⟩, ?_⟩
    rintro n ⟨segments, other, rfl⟩
    have whole : segments.flatten = [] ++ [] ++ commands := other.joined
    rw [batches]
    exact Policy.cut_length_le policy alone whole other.fits

/-- Three deletes of one parameter each, of which two are within the caps, take two round trips. -/
theorem run_makes_two_trips :
    let save : Save := { limits := .caps 10 2, minBatchSize := 2 }
    let commands : List Command := [.keyDelete 0, .keyDelete 1, .keyDelete 2]
    let played := (save.run .blocking commands).play
      (Surroundings.scripted (Dialect.plain atPlaceholder))
      { responses := [.ok [[[.int 1]], [[.int 1]]], .ok [[[.int 1]]]] }
    (∀ c ∈ commands, c.validate = .ok () ∧ c.parameterCount ≤ 2) ∧
    (save.run .blocking commands).Runs played.journal played.result ∧
    ∃ o posts, played.result = .ok o ∧ Posts save .blocking posts played.journal ∧
      (∀ x ∈ posts, x.result.isOk) ∧ posts.length = 2 ∧
      IsLeast {n | ∃ segments, Segmentation 10 2 commands segments ∧ segments.length = n} 2 := by
  intro save commands played
  have valid : ∀ c ∈ commands, c.validate = .ok () ∧ c.parameterCount ≤ 2 := by decide
  have run : (save.run .blocking commands).Runs played.journal played.result :=
    Program.runs_play _ _ _
  obtain ⟨posts, made, -, least⟩ :=
    run_makes_fewest_trips rfl (by decide) (Nat.le_refl 2) valid run
  have reached {r : Except (Abort Error) SaveOutcome} (two : r.map (·.batches) = .ok 2) :
      ∃ o, r = .ok o ∧ o.batches = 2 := by
    cases r with
    | error abort => cases two
    | ok o => exact ⟨o, rfl, Except.ok.inj two⟩
  obtain ⟨o, outcome, two⟩ : ∃ o, played.result = .ok o ∧ o.batches = 2 := reached (by cbv)
  obtain ⟨succeeded, counted, fewest⟩ := least o outcome
  rw [two] at counted fewest
  exact ⟨valid, run, o, posts, outcome, made, succeeded, counted.symm, fewest⟩

end Save

end BatchedSave
