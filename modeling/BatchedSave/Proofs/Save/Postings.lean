import BatchedSave.Proofs.RoundTrip.Announcement
import BatchedSave.Proofs.Save.Greedy

/-!
# The round trips of a save

A `Posting` is one round trip: the commands it carries and what comes of it. `Posts` divides a trace
into the round trips made in it, and exchanges by which batches are filled in between. The result of
a save is the tally of its round trips, or else the save ended with a command that no batch has room
for: `Course.makes`.
-/
namespace BatchedSave

/-- One round trip: the commands it carries and what comes of it. -/
structure Posting where
  group : List Command
  result : Except (Abort Error) Executed

/-- What comes of round trips that are added to an outcome one after the other. -/
def tally (o : SaveOutcome) (posts : List Posting) : Except (Abort Error) SaveOutcome :=
  posts.foldlM (fun o x => x.result >>= o.absorb) o

theorem tally_cons (o : SaveOutcome) (x : Posting) (posts : List Posting) :
    tally o (x :: posts) = (x.result >>= o.absorb) >>= (tally · posts) :=
  List.foldlM_cons

theorem tally_append {o o' : SaveOutcome} {posts : List Posting} (first : tally o posts = .ok o')
    (more : List Posting) : tally o (posts ++ more) = tally o' more := by
  unfold tally at first ⊢
  rw [List.foldlM_append, first]
  rfl

namespace Save

/-- The round trips made in a trace, one after the other, and how batches are filled before, between
and after them. -/
inductive Posts (s : Save) (manner : Manner) : List Posting → List Exchange → Prop
  | nil : Posts s manner [] []
  | between {x : Exchange} {posts : List Posting} {trace : List Exchange}
      (fills : x.request.Fills) (more : Posts s manner posts trace) :
    Posts s manner posts (x :: trace)
  | posted {x : Posting} {posts : List Posting} {limits : Limits} {header : String}
      {trip rest : List Exchange} (filled : x.group ≠ [])
      (run : ((s.holding limits header x.group).execute manner).Runs trip x.result)
      (more : Posts s manner posts rest) : Posts s manner (x :: posts) (trip ++ rest)

variable {s : Save} {manner : Manner} {trace first second : List Exchange}
variable {xs ys : List Posting}

theorem Posts.append (here : Posts s manner xs first) (there : Posts s manner ys second) :
    Posts s manner (xs ++ ys) (first ++ second) := by
  induction here with
  | nil => exact there
  | between fills _ ih => exact .between fills ih
  | posted filled run _ ih =>
    rw [List.append_assoc]
    exact .posted filled run ih

theorem Posts.of_filling (filling : Filling trace) : Posts s manner [] trace := by
  induction trace with
  | nil => exact .nil
  | cons x trace ih =>
    obtain ⟨here, rest⟩ := List.forall_mem_cons.mp filling
    exact .between here (ih rest)

/-- The round trips that a trace announces are among those made in it. -/
theorem Posts.starts (posts : Posts s manner xs trace) :
    ∀ start ∈ starts trace, ∃ x ∈ xs,
      start = (x.group.length, (viewOf x.group).parameterCount) := by
  induction posts with
  | nil => simp
  | @between x _ _ fills _ ih =>
    have silent : x.start? = none := by
      refine x.start?_eq_none ?_
      rintro ⟨_, _, same⟩
      rw [same] at fills
      exact fills
    simpa [BatchedSave.starts, silent] using ih
  | posted filled run _ ih =>
    intro start member
    rw [starts_append] at member
    rcases List.mem_append.mp member with here | later
    · rcases Batch.execute_starts run with ⟨silent, -⟩ | ⟨-, announced⟩
      · simp [silent] at here
      · rw [announced] at here
        exact ⟨_, List.mem_cons_self, List.mem_singleton.mp here⟩
    · obtain ⟨x, among, same⟩ := ih start later
      exact ⟨x, List.mem_cons_of_mem _ among, same⟩

/-- From the outcome `o` on, the trace makes round trips with the first of the groups, and with all
of them if there is an outcome in the end. Unless a command is `refused`, the result is their
tally. -/
def Makes (s : Save) (manner : Manner) (o : SaveOutcome) (trace : List Exchange)
    (groups : List (List Command)) (refused : Prop)
    (result : Except (Abort Error) SaveOutcome) : Prop :=
  ∃ posts, Posts s manner posts trace ∧ posts.map (·.group) <+: groups ∧
    (∀ o', result = .ok o' → posts.map (·.group) = groups) ∧ (refused ∨ tally o posts = result)

namespace Makes

variable {o o' : SaveOutcome} {groups others : List (List Command)} {refused refused' : Prop}
variable {result : Except (Abort Error) SaveOutcome}

theorem nothing (filling : Filling trace) : Makes s manner o trace [] refused (.ok o) :=
  ⟨[], .of_filling filling, List.nil_prefix, fun _ _ => rfl, .inr rfl⟩

theorem refusal {abort : Abort Error} (filling : Filling trace) (refusal : refused) :
    Makes s manner o trace groups refused (.error abort) :=
  ⟨[], .of_filling filling, List.nil_prefix, nofun, .inl refusal⟩

theorem imp (weaker : refused → refused')
    (here : Makes s manner o trace groups refused result) :
    Makes s manner o trace groups refused' result := by
  obtain ⟨posts, made, within, complete, tallied⟩ := here
  exact ⟨posts, made, within, complete, tallied.imp_left weaker⟩

/-- Round trips with the first groups, then round trips with the others. -/
theorem append (here : Makes s manner o first groups False (.ok o'))
    (there : Makes s manner o' second others refused result) :
    Makes s manner o (first ++ second) (groups ++ others) refused result := by
  obtain ⟨xs, made, -, complete, tallied⟩ := here
  obtain ⟨ys, made', within, complete', tallied'⟩ := there
  obtain rfl := complete o' rfl
  have reached := tallied.resolve_left id
  refine ⟨xs ++ ys, made.append made', ?_, fun o'' same => ?_, ?_⟩
  · rw [List.map_append]
    exact (List.prefix_append_right_inj _).mpr within
  · rw [List.map_append, complete' o'' same]
  · rw [tally_append reached]
    exact tallied'

/-- Where no round trip is made any more, further groups may follow. -/
theorem early {abort : Abort Error}
    (here : Makes s manner o trace groups refused (.error abort)) :
    Makes s manner o trace (groups ++ others) refused (.error abort) := by
  obtain ⟨posts, made, within, -, tallied⟩ := here
  exact ⟨posts, made, within.trans (List.prefix_append _ _), nofun, tallied⟩

/-- What fills a batch makes no difference. -/
theorem after (filling : Filling first)
    (there : Makes s manner o second groups refused result) :
    Makes s manner o (first ++ second) groups refused result :=
  append (nothing filling) there

end Makes

variable {limits : Limits} {p : Policy} {known : Option String} {header : String}
variable {held group stream : List Command} {c : Command} {drawn : Bool}
variable {o : SaveOutcome} {result : Except (Abort Error) SaveOutcome}

/-- One group that is posted. -/
theorem makes_posted {opening posted : List Exchange} {executed : Except (Abort Error) Executed}
    (filled : group ≠ []) (began : Begun known opening header)
    (run : ((s.holding limits header group).execute manner).Runs posted executed)
    (made : executed >>= o.absorb = result) :
    Makes s manner o (opening ++ posted) [group] False result := by
  have single : Posts s manner [⟨group, executed⟩] posted := by
    simpa using Posts.posted filled run .nil
  have tallied : tally o [⟨group, executed⟩] = result := by
    rw [tally_cons, made]
    exact bind_pure result
  exact .after began.filling ⟨_, single, List.prefix_rfl, fun _ _ => rfl, .inr tallied⟩

theorem Delivered.makes {groups : List (List Command)} (filled : ∀ g ∈ groups, g ≠ [])
    (delivered : s.Delivered manner known o groups trace result) :
    Makes s manner o trace groups False result := by
  induction delivered with
  | done o => exact .nothing filling_nil
  | failed began run => exact (makes_posted (filled _ List.mem_cons_self) began run rfl).early
  | overflowed began run excess =>
    exact (makes_posted (filled _ List.mem_cons_self) began run excess).early
  | next began run absorbed _ ih =>
    obtain ⟨here, others⟩ := List.forall_mem_cons.mp filled
    exact (makes_posted here began run absorbed).append (ih others)

theorem Sent.makes (filled : held ≠ []) (sent : s.Sent manner header held o trace result) :
    Makes s manner o trace (parcels s.minBatchSize held) False result := by
  obtain ⟨rest, rfl, delivered⟩ := sent
  have logged : Filling [⟨.log (.executingBatch held.length (viewOf held).parameterCount), ()⟩] :=
    filling_cons trivial filling_nil
  exact .after logged (delivered.makes (parcels_ne_nil s.minBatchSize filled))

/-- Whatever course a save takes, it makes round trips with groups of the greedy cut from there on,
and comes to their tally unless the cut ends before the last command. -/
theorem Course.makes (pure : s.limits = .policy p)
    (course : s.Course manner o header held drawn stream trace result) :
    Makes s manner o trace ((p.cut held stream).flatMap (parcels s.minBatchSize))
      ((p.cut held stream).flatten ≠ held ++ stream) result := by
  have pulled (next : Option Command) : Filling [⟨.pull next, ()⟩] :=
    filling_cons trivial filling_nil
  induction course with
  | finished => exact .nothing (pulled none)
  | @last o header held trace result filled sent =>
    have whole : p.cut held [] = [held] := if_neg filled
    rw [whole, List.flatMap_singleton]
    exact .after (pulled none) ((sent.makes filled).imp False.elim)
  | draw _ ih => exact .after (pulled _) ih
  | @stopped o header held c later trace e trial =>
    have filling := trial.filling
    rw [pure] at trial
    refine .refusal filling ?_
    have failed : p.judge held c = .error e := trial.judge
    rw [Policy.cut, failed]
    simp [Policy.closing_flatten]
  | @oversized o header c later trace trial =>
    have filling := trial.filling
    rw [pure] at trial
    refine .refusal filling ?_
    have full : p.judge [] c = .ok false := trial.judge
    rw [Policy.cut, full]
    simp
  | added trial _ ih =>
    have filling := trial.filling
    rw [pure] at trial
    rw [Policy.cut_added trial.judge]
    exact .after filling (by simpa using ih)
  | failing filled trial sent =>
    have filling := trial.filling
    rw [pure] at trial
    rw [Policy.cut_closed filled trial.judge, List.flatMap_cons]
    exact .after filling ((sent.makes filled).imp False.elim).early
  | closed filled trial sent _ ih =>
    have filling := trial.filling
    rw [pure] at trial
    rw [Policy.cut_closed filled trial.judge, List.flatMap_cons, List.append_assoc]
    exact .after filling ((sent.makes filled).append (ih.imp (by simp)))

end Save

end BatchedSave
