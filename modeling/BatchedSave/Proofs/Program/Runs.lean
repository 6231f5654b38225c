import BatchedSave.Program.Manner

/-!
# Taking runs apart

What a run of a composed program says about the runs of its parts, for plain programs and for
programs that may fail, and which requests a program can make at all. The laws are equivalences
wherever possible, so that a run is opened by rewriting and never by unfolding the program.
-/
namespace BatchedSave.Program

variable {α β ε : Type}

theorem runs_done_iff {a b : α} {trace : List Exchange} :
    (done a).Runs trace b ↔ trace = [] ∧ b = a := by
  constructor
  · intro run
    cases run
    exact ⟨rfl, rfl⟩
  · rintro ⟨rfl, rfl⟩
    exact .done _

theorem runs_ask_iff {r : Request} {next : r.Answer → Program α} {trace : List Exchange} {a : α} :
    (ask r next).Runs trace a ↔
      ∃ answer rest, trace = ⟨r, answer⟩ :: rest ∧ (next answer).Runs rest a := by
  constructor
  · intro run
    cases run with
    | ask answer rest => exact ⟨answer, _, rfl, rest⟩
  · rintro ⟨answer, rest, rfl, run⟩
    exact .ask answer run

/-- A run by its first exchange. -/
theorem Runs.exchange (x : Exchange) {next : x.request.Answer → Program α} {trace : List Exchange}
    {a : α} (rest : (next x.answer).Runs trace a) :
    (Program.ask x.request next).Runs (x :: trace) a :=
  .ask x.answer rest

/-- The answers decide how a program goes on, so they decide its result. -/
theorem Runs.result_eq {p : Program α} {trace : List Exchange} {a b : α} (run : p.Runs trace a)
    (run' : p.Runs trace b) : a = b := by
  induction run with
  | done a => exact (runs_done_iff.mp run').2.symm
  | ask answer rest ih =>
    obtain ⟨answer', _, same, rest'⟩ := runs_ask_iff.mp run'
    cases same
    exact ih rest'

theorem runs_request_iff {r : Request} {trace : List Exchange} {answer : r.Answer} :
    (request r).Runs trace answer ↔ trace = [⟨r, answer⟩] := by
  simp only [request, runs_ask_iff, runs_done_iff]
  constructor
  · rintro ⟨_, _, rfl, rfl, rfl⟩
    rfl
  · rintro rfl
    exact ⟨answer, [], rfl, rfl, rfl⟩

/-- A request at the head of a program takes the first exchange of its run. -/
theorem runs_request_bind {r : Request} {f : r.Answer → Program β} {trace : List Exchange} {b : β} :
    (request r >>= f).Runs trace b ↔
      ∃ answer rest, trace = ⟨r, answer⟩ :: rest ∧ (f answer).Runs rest b :=
  runs_ask_iff

theorem runs_map {f : α → β} {p : Program α} {trace : List Exchange} {b : β} :
    (f <$> p).Runs trace b ↔ ∃ a, b = f a ∧ p.Runs trace a := by
  rw [← bind_pure_comp, runs_bind]
  constructor
  · rintro ⟨before, after, a, rfl, first, second⟩
    obtain ⟨rfl, rfl⟩ := runs_done_iff.mp second
    exact ⟨a, rfl, by simpa using first⟩
  · rintro ⟨a, rfl, run⟩
    exact ⟨trace, [], a, by simp, run, .done _⟩

/-- An attempt in sequence either fails in its first part or goes on from its result. -/
theorem runs_attempt_bind {x : ExceptT ε Program α} {f : α → ExceptT ε Program β}
    {trace : List Exchange} {result : Except ε β} :
    (x >>= f).run.Runs trace result ↔
      (∃ e, result = .error e ∧ x.run.Runs trace (.error e)) ∨
      ∃ before after a, trace = before ++ after ∧ x.run.Runs before (.ok a) ∧
        (f a).run.Runs after result := by
  rw [ExceptT.run_bind, runs_bind]
  constructor
  · rintro ⟨before, after, outcome, rfl, first, second⟩
    cases outcome with
    | error e =>
      obtain ⟨rfl, rfl⟩ := runs_done_iff.mp second
      exact .inl ⟨e, rfl, by simpa using first⟩
    | ok a => exact .inr ⟨before, after, a, rfl, first, second⟩
  · rintro (⟨e, rfl, first⟩ | ⟨before, after, a, rfl, first, second⟩)
    · exact ⟨trace, [], .error e, by simp, first, .done _⟩
    · exact ⟨before, after, .ok a, rfl, first, second⟩

/-- An attempt in sequence that succeeds goes on from the result of its first part. -/
theorem runs_attempt_bind_ok {x : ExceptT ε Program α} {f : α → ExceptT ε Program β}
    {trace : List Exchange} {b : β} :
    (x >>= f).run.Runs trace (.ok b) ↔
      ∃ before after a, trace = before ++ after ∧ x.run.Runs before (.ok a) ∧
        (f a).run.Runs after (.ok b) := by
  rw [runs_attempt_bind]
  constructor
  · rintro (⟨e, failed, -⟩ | succeeded)
    · cases failed
    · exact succeeded
  · exact .inr

theorem runs_attempt_pure {a : α} {trace : List Exchange} {result : Except ε α} :
    (pure a : ExceptT ε Program α).run.Runs trace result ↔ trace = [] ∧ result = .ok a :=
  runs_done_iff

theorem runs_throw {e : ε} {trace : List Exchange} {result : Except ε α} :
    (throw e : ExceptT ε Program α).run.Runs trace result ↔ trace = [] ∧ result = .error e :=
  runs_done_iff

theorem runs_liftExcept {x : Except Error α} {trace : List Exchange} {result : Except Error α} :
    (liftExcept x : Attempt α).run.Runs trace result ↔ trace = [] ∧ result = x := by
  cases x <;> exact runs_done_iff

/-- A program that cannot fail, run as part of one that may. -/
theorem runs_lift {p : Program α} {trace : List Exchange} {result : Except ε α} :
    (liftM p : ExceptT ε Program α).run.Runs trace result ↔
      ∃ a, result = .ok a ∧ p.Runs trace a :=
  runs_map

/-- A program that cannot fail, in front of one that may. -/
theorem runs_lift_bind {p : Program α} {f : α → ExceptT ε Program β} {trace : List Exchange}
    {result : Except ε β} :
    ((liftM p : ExceptT ε Program α) >>= f).run.Runs trace result ↔
      ∃ before after a, trace = before ++ after ∧ p.Runs before a ∧
        (f a).run.Runs after result := by
  rw [runs_attempt_bind]
  constructor
  · rintro (⟨e, -, failed⟩ | ⟨before, after, a, rfl, first, second⟩)
    · obtain ⟨_, impossible, -⟩ := runs_lift.mp failed
      cases impossible
    · obtain ⟨_, same, run⟩ := runs_lift.mp first
      cases same
      exact ⟨before, after, a, rfl, run, second⟩
  · rintro ⟨before, after, a, rfl, first, second⟩
    exact .inr ⟨before, after, a, rfl, runs_lift.mpr ⟨a, rfl, first⟩, second⟩

/-- A call in either manner is asked for once, after a look at the token if it suspends, or is given
up as cancelled. -/
theorem runs_perform {manner : Manner} {origin : Origin} {call : StoreCall}
    {trace : List Exchange} {result : Except Error call.Result}
    (run : (manner.perform origin call).run.Runs trace result) :
    trace = [⟨.store call, result⟩] ∨
    trace = [⟨.cancelled, false⟩, ⟨.await call, some result⟩] ∨
    (result = .error (.cancelled origin) ∧
      (trace = [⟨.cancelled, true⟩] ∨ trace = [⟨.cancelled, false⟩, ⟨.await call, none⟩])) := by
  cases manner with
  | blocking => exact .inl (runs_request_iff.mp run)
  | suspending =>
    obtain ⟨cancelled, rest, rfl, looked⟩ := runs_request_bind.mp run
    cases cancelled with
    | true =>
      obtain ⟨rfl, rfl⟩ := runs_done_iff.mp looked
      exact .inr (.inr ⟨rfl, .inl rfl⟩)
    | false =>
      obtain ⟨answer, rest, rfl, awaited⟩ := runs_request_bind.mp looked
      cases answer with
      | none =>
        obtain ⟨rfl, rfl⟩ := runs_done_iff.mp awaited
        exact .inr (.inr ⟨rfl, .inr rfl⟩)
      | some answer =>
        obtain ⟨rfl, rfl⟩ := runs_done_iff.mp awaited
        exact .inr (.inl rfl)

/-! ### The requests a program can make -/

/-- Whatever the answers, the program makes only requests that satisfy `P`. -/
def Asks (P : Request → Prop) : Program α → Prop
  | done _ => True
  | ask r next => P r ∧ ∀ answer, (next answer).Asks P

theorem Asks.imp {P Q : Request → Prop} (weaker : ∀ r, P r → Q r) {p : Program α}
    (asked : p.Asks P) : p.Asks Q := by
  induction p with
  | done a => trivial
  | ask r next ih => exact ⟨weaker r asked.1, fun answer => ih answer (asked.2 answer)⟩

theorem asks_request {P : Request → Prop} {r : Request} (allowed : P r) : (request r).Asks P :=
  ⟨allowed, fun _ => trivial⟩

theorem Asks.bind {P : Request → Prop} {p : Program α} {f : α → Program β} (first : p.Asks P)
    (second : ∀ a, (f a).Asks P) : (p >>= f).Asks P := by
  induction p with
  | done a => exact second a
  | ask r next ih => exact ⟨first.1, fun answer => ih answer (first.2 answer)⟩

theorem Asks.attempt_bind {P : Request → Prop} {x : ExceptT ε Program α}
    {f : α → ExceptT ε Program β} (first : x.run.Asks P) (second : ∀ a, (f a).run.Asks P) :
    (x >>= f).run.Asks P := by
  rw [ExceptT.run_bind]
  refine first.bind fun outcome => ?_
  cases outcome with
  | error e => trivial
  | ok a => exact second a

theorem Asks.lift {P : Request → Prop} {p : Program α} (asked : p.Asks P) :
    (liftM p : ExceptT ε Program α).run.Asks P :=
  asked.bind fun _ => trivial

theorem asks_perform {P : Request → Prop} (manner : Manner) (origin : Origin) (call : StoreCall)
    (waits : P (.store call)) (awaits : P (.await call)) (looks : P .cancelled) :
    (manner.perform origin call).run.Asks P := by
  cases manner with
  | blocking => exact ⟨waits, fun _ => trivial⟩
  | suspending =>
    refine ⟨looks, fun cancelled => ?_⟩
    cases cancelled with
    | true => trivial
    | false =>
      refine ⟨awaits, fun answer => ?_⟩
      cases answer <;> trivial

theorem asks_liftExcept {P : Request → Prop} (x : Except Error α) :
    (liftExcept x : Attempt α).run.Asks P := by
  cases x <;> trivial

theorem Asks.forM {P : Request → Prop} {f : α → ExceptT ε Program PUnit} (xs : List α)
    (each : ∀ x, (f x).run.Asks P) : (xs.forM f).run.Asks P := by
  induction xs with
  | nil => trivial
  | cons x xs ih =>
    rw [List.forM_eq_forM, List.forM_cons]
    exact (each x).attempt_bind fun _ => ih

/-- The exchanges of a run are about requests the program can make. -/
theorem Asks.of_mem {P : Request → Prop} {p : Program α} {trace : List Exchange} {a : α}
    (asked : p.Asks P) (run : p.Runs trace a) : ∀ x ∈ trace, P x.request := by
  induction run with
  | done a => simp
  | ask answer _ ih =>
    intro x member
    rcases List.mem_cons.mp member with rfl | later
    · exact asked.1
    · exact ih (asked.2 answer) x later

/-- A reading that says nothing about the requests a program can make finds nothing in its runs. -/
theorem Asks.filterMap_eq_nil {P : Request → Prop} {reading : Exchange → Option β}
    (silent : ∀ x : Exchange, P x.request → reading x = none) {p : Program α}
    {trace : List Exchange} {a : α} (asked : p.Asks P) (run : p.Runs trace a) :
    trace.filterMap reading = [] :=
  List.filterMap_eq_nil_iff.mpr fun x member => silent x (asked.of_mem run x member)

end BatchedSave.Program
