import BatchedSave.Proofs.Program.Feed
import BatchedSave.Proofs.Reconciliation.Acceptance
import BatchedSave.Proofs.Reconciliation.Rejection

/-!
# Commands and what the store replies to them

A `Reply` is a command with the result set the store has for it. What comes of replies depends on
them alone, not on the round trips they arrive in: all of them are applied, or the first that does
not answer its command is rejected and those before it are applied. `Judgement` says so, and
`walk_judges` finds the judgement of the replies of one round trip. Only the index of a rejected
command is one within the round trip; `SameFailure` compares errors up to this index.
-/
namespace BatchedSave

/-- Failures of the same command in the same way, possibly at different places in a round trip. -/
inductive SameFailure : Error → Error → Prop
  | conflict {table : String} {entry expected actual : Nat} (i j : Nat) :
    SameFailure (.conflict ⟨i, table, entry⟩ expected actual)
      (.conflict ⟨j, table, entry⟩ expected actual)
  | violation {message : String} (i j : Nat) :
    SameFailure (.violation i message) (.violation j message)

structure Reply where
  command : Command
  set : ResultSet

namespace Reply

def Answers (x : Reply) : Prop :=
  x.command.AnsweredBy x.set

/-- The command after a reply that answers it, with the rows it affected. -/
def applied (x : Reply) : Applied :=
  x.command.appliedBy x.set

/-- What an answer gives back to the command's entry. -/
def writeBacks (x : Reply) : List WriteBack :=
  x.command.writeBacks (x.set.headD [])

end Reply

/-- What comes of replies: what they write back, and the error by which one of them is rejected. -/
inductive Judgement (replies : List Reply) : List WriteBack → Option Error → Prop
  | applied (answered : ∀ x ∈ replies, x.Answers) :
    Judgement replies (replies.flatMap (·.writeBacks)) none
  | rejected {done later : List Reply} {x : Reply} {index : Nat} {e : Error}
      (place : replies = done ++ x :: later) (answered : ∀ x ∈ done, x.Answers)
      (offence : x.command.Offence index x.set e) :
    Judgement replies (done.flatMap (·.writeBacks)) (some e)

/-! ### A result set is judged in one way -/

/-- Surroundings for what is the same in any. -/
def Surroundings.plain : Surroundings ScriptedStore :=
  .scripted (Dialect.plain atPlaceholder)

namespace Command

variable {c : Command} {set : ResultSet} {i j : Nat} {e e' : Error}

theorem AnsweredBy.not_offence (answered : c.AnsweredBy set) : ¬ c.Offence i set e := by
  intro offence
  obtain ⟨_, -, reads⟩ := reads_of_answered (A := .plain) i answered [] none
  obtain ⟨_, fails⟩ := reads_of_offence (A := .plain) offence [] none
  have both := (reads {}).1.symm.trans (fails {}).1
  cases both

theorem Offence.unique (first : c.Offence i set e) (second : c.Offence i set e') : e = e' := by
  obtain ⟨_, fails⟩ := reads_of_offence (A := .plain) first [] none
  obtain ⟨_, fails'⟩ := reads_of_offence (A := .plain) second [] none
  have both := (fails {}).1.symm.trans (fails' {}).1
  exact Except.error.inj both

/-- An offence is one wherever the command is in its round trip. -/
theorem Offence.moved (offence : c.Offence i set e) (j : Nat) :
    ∃ e', c.Offence j set e' ∧ SameFailure e e' := by
  cases offence with
  | width wrong => exact ⟨_, .width wrong, .violation i j⟩
  | extraRow width => exact ⟨_, .extraRow width, .violation i j⟩
  | notACount counts other => exact ⟨_, .notACount counts other, .violation i j⟩
  | noneAffected counts => exact ⟨_, .noneAffected counts, .conflict i j⟩
  | missingCount counts => exact ⟨_, .missingCount counts, .violation i j⟩
  | missingRow reads => exact ⟨_, .missingRow reads, .conflict i j⟩

theorem Offence.same (first : c.Offence i set e) (second : c.Offence j set e') :
    SameFailure e e' := by
  obtain ⟨e'', moved, same⟩ := first.moved j
  rwa [moved.unique second] at same

theorem Offence.rejection (offence : c.Offence i set e) : Rejection e := by
  cases offence with
  | noneAffected | missingRow => exact c.conflict_rejection i 0
  | _ => exact Violation.rejection _ _

end Command

namespace Judgement

variable {replies first second : List Reply} {written more : List WriteBack}
variable {fault fault' : Option Error} {e : Error}

theorem single {x : Reply} (answers : x.Answers) : Judgement [x] x.writeBacks none := by
  have alone := Judgement.applied (List.forall_mem_singleton.mpr answers)
  rwa [List.flatMap_singleton] at alone

theorem stopped {x : Reply} {later : List Reply} {index : Nat}
    (offence : x.command.Offence index x.set e) : Judgement (x :: later) [] (some e) :=
  .rejected (List.nil_append _).symm (by simp) offence

theorem append (here : Judgement first written none) (there : Judgement second more fault) :
    Judgement (first ++ second) (written ++ more) fault := by
  cases here with
  | applied answered =>
    cases there with
    | applied others =>
      rw [← List.flatMap_append]
      exact .applied (List.forall_mem_append.mpr ⟨answered, others⟩)
    | rejected place others offence =>
      rw [← List.flatMap_append]
      exact .rejected (by rw [place, List.append_assoc])
        (List.forall_mem_append.mpr ⟨answered, others⟩) offence

theorem early (here : Judgement first written (some e)) :
    Judgement (first ++ second) written (some e) := by
  cases here with
  | rejected place answered offence =>
    exact .rejected (by rw [place, List.append_assoc, List.cons_append]) answered offence

theorem isJudged (here : Judgement replies written (some e)) : e.isJudged = true := by
  cases here with
  | rejected _ _ offence => exact offence.rejection.isJudged

/-- There is one first reply that does not answer its command. -/
theorem first_unique {done done' later later' : List Reply} {x x' : Reply}
    (place : done ++ x :: later = done' ++ x' :: later') (answered : ∀ y ∈ done, y.Answers)
    (answered' : ∀ y ∈ done', y.Answers) (fails : ¬ x.Answers) (fails' : ¬ x'.Answers) :
    done = done' ∧ x = x' := by
  induction done generalizing done' with
  | nil =>
    cases done' with
    | nil => exact ⟨rfl, (List.cons.inj place).1⟩
    | cons y done' =>
      obtain ⟨rfl, -⟩ := List.cons.inj place
      exact absurd (List.forall_mem_cons.mp answered').1 fails
  | cons y done ih =>
    obtain ⟨here, others⟩ := List.forall_mem_cons.mp answered
    cases done' with
    | nil =>
      obtain ⟨rfl, -⟩ := List.cons.inj place
      exact absurd here fails'
    | cons y' done' =>
      obtain ⟨rfl, rest⟩ := List.cons.inj place
      obtain ⟨rfl, rfl⟩ := ih rest others (List.forall_mem_cons.mp answered').2
      exact ⟨rfl, rfl⟩

/-- Replies have one judgement, up to the place of a rejected command in its round trip. -/
theorem agree (one : Judgement replies written fault) (other : Judgement replies more fault') :
    written = more ∧ Option.Rel SameFailure fault fault' := by
  have fails {x : Reply} {index : Nat} {e : Error} (offence : x.command.Offence index x.set e) :
      ¬ x.Answers := fun answers => answers.not_offence offence
  cases one with
  | applied answered =>
    cases other with
    | applied => exact ⟨rfl, .none⟩
    | @rejected done later x _ _ place _ offence =>
      exact absurd (answered x (by simp [place])) (fails offence)
  | @rejected done later x _ _ place answered offence =>
    cases other with
    | applied others => exact absurd (others x (by simp [place])) (fails offence)
    | rejected place' answered' offence' =>
      obtain ⟨rfl, rfl⟩ := first_unique (place.symm.trans place') answered answered'
        (fails offence) (fails offence')
      exact ⟨rfl, .some (offence.same offence')⟩

end Judgement

/-! ### The replies of one round trip -/

/-- What is written back for a command is told by the command afterwards. -/
theorem Settlement.writeBacks_of_answers (s : Settlement) {x : Reply} (answers : x.Answers)
    (before : s.before = x.command) (applied : s.applied = x.applied) :
    writeBacks s.exchanges = x.writeBacks := by
  obtain ⟨c, set⟩ := x
  have same : s.after = c.withGenerated (set.headD []) := congrArg Applied.command applied
  rw [s.written, before]
  change c.AnsweredBy set at answers
  cases answers with
  | counted counts =>
    have none : c.readColumns = [] := List.length_eq_zero_iff.mp counts
    simp [Reply.writeBacks, Command.writeBacks, none]
  | @generated row reads width =>
    -- both rows are the values of the read columns afterwards
    have received := (c.received_withGenerated row width).values
    have settled := s.received.values
    have full := s.width
    rw [before, Command.fieldCount_ofCommand, Command.answerWidth, if_neg reads] at full
    rw [before, same, ← full, List.take_length] at settled
    rw [← width, List.take_length] at received
    exact congrArg c.writeBacks (settled.symm.trans received)

namespace Reconciliation

theorem reading_account : Account .blocking fun trace _ => ∀ x ∈ trace, x.request.OfReading where
  nothing _ member := nomatch member
  append here there := List.forall_mem_append.mpr ⟨here, there⟩
  called call trace result run := by
    obtain rfl := Program.runs_request_iff.mp run
    exact List.forall_mem_singleton.mpr trivial
  counted _ := List.forall_mem_singleton.mpr trivial
  effect x isEffect := by
    refine List.forall_mem_singleton.mpr ?_
    obtain ⟨request, answer⟩ := x
    cases request with
    | writeBack _ _ _ | record _ => trivial
    | _ => exact isEffect.elim
  rejected _ _ member := nomatch member

variable {applied : List Applied} {replies : List Reply} {trace : List Exchange} {f f' : Feed}
variable {r : Reconciliation} {result : Except Error Unit} {x : Reply} {rest : List ResultSet}

/-- A command whose reply answers it is applied, and the next command finds its own reply. -/
theorem reconcile_applies {index : Nat} {reconciled : Except Error Applied}
    (run : (x.command.reconcile index).run.Runs trace reconciled)
    (reading : ∀ x ∈ trace, x.request.OfReading) (fed : Fed f trace f')
    (faces : f.cursor.Faces index (x.set :: rest)) (answers : x.Answers) :
    reconciled = .ok x.applied ∧ writeBacks trace = x.writeBacks ∧
      f'.cursor.Faces (index + 1) rest ∧ f'.coming = f.coming ∧ f'.written = f.written := by
  obtain ⟨after, behind, reads⟩ := reconcile_answered (A := .plain) faces answers
  obtain ⟨rfl, rfl⟩ := fed.reads run reading {} reads
  rw [← reconcileIn_blocking] at run
  rcases reconcileIn_settles run with ⟨_, ⟨⟩, -⟩ | ⟨s, same, before, rfl⟩
  have applied : s.applied = x.applied := (Except.ok.inj same).symm
  exact ⟨rfl, s.writeBacks_of_answers answers before applied, behind, rfl, rfl⟩

theorem reconcile_rejects {index : Nat} {e : Error} {reconciled : Except Error Applied}
    (run : (x.command.reconcile index).run.Runs trace reconciled)
    (reading : ∀ x ∈ trace, x.request.OfReading) (fed : Fed f trace f')
    (faces : f.cursor.Faces index (x.set :: rest)) (offence : x.command.Offence index x.set e) :
    reconciled = .error e ∧ writeBacks trace = [] ∧
      f'.coming = f.coming ∧ f'.written = f.written := by
  obtain ⟨after, reads⟩ := reconcile_offence (A := .plain) faces offence
  obtain ⟨rfl, rfl⟩ := fed.reads run reading {} reads
  rw [← reconcileIn_blocking] at run
  rcases reconcileIn_settles run with ⟨_, -, nothing⟩ | ⟨_, ⟨⟩, -⟩
  exact ⟨rfl, nothing, rfl, rfl⟩

/-- A walk over the results of a feed comes to the judgement of the replies. The induction is on the
replies; the cursor faces the sets of those still to be read. -/
theorem walk_judges (run : (walk applied (replies.map (·.command))).Runs trace (r, result))
    (reading : ∀ x ∈ trace, x.request.OfReading) (fed : Fed f trace f')
    (faces : f.cursor.Faces applied.length (replies.map (·.set)))
    (some : applied ≠ [] ∨ replies ≠ []) :
    Judgement replies (writeBacks trace) (failure result) ∧ f'.coming = f.coming ∧
      f'.written = f.written ∧
      (result = .ok () → r.applied = applied ++ replies.map (·.applied) ∧ r.pending = []) := by
  induction replies generalizing applied trace f with
  | nil =>
    obtain ⟨after, ended⟩ := walk_nil (A := .plain) faces (by simpa using some)
    obtain ⟨same, rfl⟩ := fed.reads run reading {} ended
    cases same
    rw [← walkIn_blocking] at run
    obtain ⟨settled, rest, pending, -, exchanges, -, tail⟩ := walkIn_parts run
    obtain rfl : settled = [] := by simpa using pending
    obtain rfl : trace = rest := exchanges
    rw [tail.unwritten]
    exact ⟨.applied (by simp), rfl, rfl, fun _ => ⟨by simp, rfl⟩⟩
  | cons x replies ih =>
    obtain ⟨first, second, reconciled, rfl, head, tail⟩ := Program.runs_bind.mp run
    obtain ⟨between, here, there⟩ := Fed.append_iff.mp fed
    obtain ⟨reading, others⟩ := List.forall_mem_append.mp reading
    rcases x.command.answeredBy_or_offence applied.length x.set with answers | ⟨e, offence⟩
    · obtain ⟨rfl, written, behind, coming, pending⟩ :=
        reconcile_applies head reading here faces answers
      have behind : between.cursor.Faces (applied ++ [x.applied]).length
          (replies.map (·.set)) := by simpa using behind
      obtain ⟨judged, coming', pending', complete⟩ :=
        ih tail others there behind (.inl (by simp))
      rw [writeBacks_append, written]
      refine ⟨(Judgement.single answers).append judged, coming'.trans coming,
        pending'.trans pending, ?_⟩
      intro succeeded
      obtain ⟨all, finished⟩ := complete succeeded
      exact ⟨by simpa using all, finished⟩
    · obtain ⟨rfl, nothing, coming, pending⟩ := reconcile_rejects head reading here faces offence
      obtain ⟨rfl, same⟩ := Program.runs_done_iff.mp tail
      cases same
      obtain _ | _ := there
      rw [List.append_nil, nothing]
      exact ⟨.stopped offence, coming, pending, nofun⟩

end Reconciliation

end BatchedSave
