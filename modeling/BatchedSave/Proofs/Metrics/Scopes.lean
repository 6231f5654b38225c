import BatchedSave.Metrics.Meter

/-!
# Scopes nest

The meter remembers one sink only, the one in force; which scopes are open is nowhere written down.
`Routine` is what can be done with a meter: record events, open scopes, panic and catch a panic, in
any order and to any depth. `Routine.course` says with a stack of open scopes whom each event is
meant for. The meter needs no stack: at every moment of a routine (`Routine.Visits`) the sink in
force is the innermost open scope, because whatever a routine does, and however it ends, it leaves
the sink as it found it.
-/
namespace BatchedSave.Metrics

/-- What is done with a meter. A panic comes with a payload; what follows an attempt may look at
how the attempt has ended. -/
inductive Routine (ε : Type) where
  | idle
  | record (event : Event Micros)
  | panic (payload : ε)
  | andThen (first second : Routine ε)
  | scope (label : String) (body : Routine ε)
  | attempt (body : Routine ε) (next : Except ε Unit → Routine ε)

namespace Routine

variable {ε : Type}

def run : Routine ε → Meter → Except ε Unit × Meter
  | idle, m => (.ok (), m)
  | record event, m => (.ok (), m.record event)
  | panic payload, m => (.error payload, m)
  | andThen first second, m =>
    match first.run m with
    | (.ok (), after) => second.run after
    | (.error payload, after) => (.error payload, after)
  | scope label body, m => m.within label body.run
  | attempt body next, m =>
    let (ending, after) := body.run m
    (next ending).run after

/-- The events of a routine, each with the innermost scope that is open when it is recorded, and
how the routine ends. The open scopes stand with the innermost one first. -/
def course : Routine ε → List String → List (Option String × Event Micros) × Except ε Unit
  | idle, _ => ([], .ok ())
  | record event, scopes => ([(scopes.head?, event)], .ok ())
  | panic payload, _ => ([], .error payload)
  | andThen first second, scopes =>
    match first.course scopes with
    | (sent, .ok ()) => (sent ++ (second.course scopes).1, (second.course scopes).2)
    | (sent, .error payload) => (sent, .error payload)
  | scope label body, scopes => body.course (label :: scopes)
  | attempt body next, scopes =>
    let (sent, ending) := body.course scopes
    (sent ++ ((next ending).course scopes).1, ((next ending).course scopes).2)

/-- In the course of a routine another one is begun, with its open scopes and the meter as it then
is. -/
inductive Visits : Routine ε → List String → Meter → Routine ε → List String → Meter → Prop
  | here (routine : Routine ε) (scopes : List String) (m : Meter) :
    Visits routine scopes m routine scopes m
  | first {first part : Routine ε} {scopes inner : List String} {m now : Meter}
    (second : Routine ε) (visits : Visits first scopes m part inner now) :
    Visits (andThen first second) scopes m part inner now
  | second {first second part : Routine ε} {scopes inner : List String} {m now : Meter}
    (done : (first.run m).1 = .ok ())
    (visits : Visits second scopes (first.run m).2 part inner now) :
    Visits (andThen first second) scopes m part inner now
  | inside {label : String} {body part : Routine ε} {scopes inner : List String} {m now : Meter}
    (visits : Visits body (label :: scopes) (m.enter label) part inner now) :
    Visits (scope label body) scopes m part inner now
  | tried {body part : Routine ε} {scopes inner : List String} {m now : Meter}
    (next : Except ε Unit → Routine ε) (visits : Visits body scopes m part inner now) :
    Visits (attempt body next) scopes m part inner now
  | next {body part : Routine ε} {next : Except ε Unit → Routine ε} {scopes inner : List String}
    {m now : Meter} (visits : Visits (next (body.run m).1) scopes (body.run m).2 part inner now) :
    Visits (attempt body next) scopes m part inner now

end Routine

/-! ### What the meter takes -/

/-- The delivery of an event to the sink it is meant for. -/
def delivery? : Option String × Event Micros → Option (String × Event Micros)
  | (some label, event) => some (label, event)
  | (none, _) => none

/-- The event, if it is meant for no sink. -/
def unscoped? : Option String × Event Micros → Option (Event Micros)
  | (some _, _) => none
  | (none, event) => some event

namespace Meter

/-- From one meter to the other each of the events has reached whom it is meant for, once and in
order, and the same sink is in force again. -/
structure Took (m : Meter) (sent : List (Option String × Event Micros)) (after : Meter) : Prop where
  sink : after.sink = m.sink
  delivered : after.delivered = (sent.filterMap delivery?).reverse ++ m.delivered
  counters : after.counters = (sent.filterMap unscoped?).foldl Counters.apply m.counters

namespace Took

variable {m between after : Meter} {sent more : List (Option String × Event Micros)}

theorem nothing (m : Meter) : m.Took [] m :=
  ⟨rfl, rfl, rfl⟩

theorem event (m : Meter) (event : Event Micros) : m.Took [(m.sink, event)] (m.record event) := by
  cases forced : m.sink with
  | none => constructor <;> simp [record, forced, delivery?, unscoped?, List.filterMap_cons]
  | some label => constructor <;> simp [record, forced, delivery?, unscoped?, List.filterMap_cons]

theorem trans (first : m.Took sent between) (second : between.Took more after) :
    m.Took (sent ++ more) after where
  sink := second.sink.trans first.sink
  delivered := by
    rw [second.delivered, first.delivered, List.filterMap_append, List.reverse_append,
      List.append_assoc]
  counters := by
    rw [second.counters, first.counters, List.filterMap_append, List.foldl_append]

/-- A scope takes what its body took, and leaves the sink that was in force before. -/
theorem around {label : String} (inside : (m.enter label).Took sent after) :
    m.Took sent (after.leave m.sink) :=
  ⟨rfl, inside.delivered, inside.counters⟩

end Took

end Meter

/-! ### Routines -/

namespace Routine

variable {ε : Type}

/-- If the innermost open scope is in force, the meter follows the course of the routine. -/
theorem run_follows (routine : Routine ε) (m : Meter) (scopes : List String)
    (innermost : m.sink = scopes.head?) :
    (routine.run m).1 = (routine.course scopes).2 ∧
      m.Took (routine.course scopes).1 (routine.run m).2 := by
  induction routine generalizing m scopes with
  | idle => exact ⟨rfl, .nothing m⟩
  | record event =>
    refine ⟨rfl, ?_⟩
    rw [course, ← innermost]
    exact .event m event
  | panic payload => exact ⟨rfl, .nothing m⟩
  | andThen first second ihFirst ihSecond =>
    obtain ⟨same, took⟩ := ihFirst m scopes innermost
    simp only [run, course]
    generalize first.run m = ran at same took
    generalize first.course scopes = planned at same took
    obtain ⟨ending, between⟩ := ran
    obtain ⟨sent, ending'⟩ := planned
    subst same
    cases ending with
    | error payload => exact ⟨rfl, took⟩
    | ok =>
      obtain ⟨same', took'⟩ := ihSecond between scopes (took.sink.trans innermost)
      exact ⟨same', took.trans took'⟩
  | scope label body ih =>
    obtain ⟨same, took⟩ := ih (m.enter label) (label :: scopes) rfl
    exact ⟨same, took.around⟩
  | attempt body next ihBody ihNext =>
    obtain ⟨same, took⟩ := ihBody m scopes innermost
    obtain ⟨same', took'⟩ :=
      ihNext (body.run m).1 (body.run m).2 scopes (took.sink.trans innermost)
    simp only [run, course]
    rw [← same]
    exact ⟨same', took.trans took'⟩

/-- However a routine ends, it leaves the sink that it found. -/
theorem run_sink (routine : Routine ε) (m : Meter) : (routine.run m).2.sink = m.sink :=
  (routine.run_follows m m.sink.toList Option.head?_toList.symm).2.sink

/-- At every moment of a routine the innermost open scope is in force. -/
theorem Visits.innermost {routine part : Routine ε} {scopes inner : List String} {m now : Meter}
    (visits : Visits routine scopes m part inner now) (innermost : m.sink = scopes.head?) :
    now.sink = inner.head? := by
  induction visits with
  | here => exact innermost
  | first _ _ ih => exact ih innermost
  | second _ _ ih => exact ih ((run_sink _ _).trans innermost)
  | inside _ ih => exact ih rfl
  | tried _ _ ih => exact ih innermost
  | next _ ih => exact ih ((run_sink _ _).trans innermost)

/-! ### What is recorded on the way -/

/-- In the course of a routine the event is recorded, with `owner` the innermost scope open at that
moment. -/
def Records (routine : Routine ε) (scopes : List String) (m : Meter) (owner : Option String)
    (event : Event Micros) : Prop :=
  ∃ inner now, routine.Visits scopes m (.record event) inner now ∧ owner = inner.head?

section Records

variable {scopes : List String} {m : Meter} {owner : Option String} {event : Event Micros}

theorem records_record {recorded : Event Micros} :
    (record recorded : Routine ε).Records scopes m owner event ↔
      owner = scopes.head? ∧ event = recorded := by
  constructor
  · rintro ⟨inner, now, visits, rfl⟩
    cases visits
    exact ⟨rfl, rfl⟩
  · rintro ⟨rfl, rfl⟩
    exact ⟨scopes, m, .here _ scopes m, rfl⟩

theorem records_andThen {first second : Routine ε} :
    (andThen first second).Records scopes m owner event ↔ first.Records scopes m owner event ∨
      ((first.run m).1 = .ok () ∧ second.Records scopes (first.run m).2 owner event) := by
  constructor
  · rintro ⟨inner, now, visits, rfl⟩
    cases visits with
    | first _ visits => exact .inl ⟨inner, now, visits, rfl⟩
    | second done visits => exact .inr ⟨done, inner, now, visits, rfl⟩
  · rintro (⟨inner, now, visits, rfl⟩ | ⟨done, inner, now, visits, rfl⟩)
    · exact ⟨inner, now, .first second visits, rfl⟩
    · exact ⟨inner, now, .second done visits, rfl⟩

theorem records_scope {label : String} {body : Routine ε} :
    (scope label body).Records scopes m owner event ↔
      body.Records (label :: scopes) (m.enter label) owner event := by
  constructor
  · rintro ⟨inner, now, visits, rfl⟩
    cases visits with
    | inside visits => exact ⟨inner, now, visits, rfl⟩
  · rintro ⟨inner, now, visits, rfl⟩
    exact ⟨inner, now, .inside visits, rfl⟩

theorem records_attempt {body : Routine ε} {next : Except ε Unit → Routine ε} :
    (attempt body next).Records scopes m owner event ↔ body.Records scopes m owner event ∨
      (next (body.run m).1).Records scopes (body.run m).2 owner event := by
  constructor
  · rintro ⟨inner, now, visits, rfl⟩
    cases visits with
    | tried _ visits => exact .inl ⟨inner, now, visits, rfl⟩
    | next visits => exact .inr ⟨inner, now, visits, rfl⟩
  · rintro (⟨inner, now, visits, rfl⟩ | ⟨inner, now, visits, rfl⟩)
    · exact ⟨inner, now, .tried next visits, rfl⟩
    · exact ⟨inner, now, .next visits, rfl⟩

end Records

/-- The course lists the events that are recorded on the way. -/
theorem mem_course_iff (routine : Routine ε) (m : Meter) (scopes : List String)
    (innermost : m.sink = scopes.head?) (owner : Option String) (event : Event Micros) :
    (owner, event) ∈ (routine.course scopes).1 ↔ routine.Records scopes m owner event := by
  induction routine generalizing m scopes with
  | idle | panic payload =>
    refine ⟨nofun, ?_⟩
    rintro ⟨inner, now, visits, -⟩
    cases visits
  | record recorded => rw [records_record, course, List.mem_singleton, Prod.mk.injEq]
  | andThen first second ihFirst ihSecond =>
    obtain ⟨same, took⟩ := first.run_follows m scopes innermost
    have behind := ihSecond (first.run m).2 scopes (took.sink.trans innermost)
    rw [records_andThen, ← ihFirst m scopes innermost, ← behind, same, course]
    generalize first.course scopes = planned
    obtain ⟨sent, ending⟩ := planned
    cases ending with
    | error payload => simp
    | ok => simp
  | scope label body ih =>
    rw [records_scope, course]
    exact ih (m.enter label) (label :: scopes) rfl
  | attempt body next ihBody ihNext =>
    obtain ⟨same, took⟩ := body.run_follows m scopes innermost
    have behind := ihNext (body.run m).1 (body.run m).2 scopes (took.sink.trans innermost)
    rw [records_attempt, ← ihBody m scopes innermost, ← behind, same, course, List.mem_append]

/-- The course of a routine lists the events that are recorded on the way, each with the innermost
scope open at that moment. Each of them is delivered once: to that scope or, outside all scopes, to
the counters, which change by nothing else. The routine ends as it would without a meter. All along
the sink in force is the innermost open scope, and whatever is done in between, however it ends,
leaves the sink that was in force when it began. -/
theorem run_delivers (routine : Routine ε) (m : Meter) :
    let scopes := m.sink.toList
    let (ending, after) := routine.run m
    let (sent, ending') := routine.course scopes
    ending = ending' ∧
    (∀ owner event, (owner, event) ∈ sent ↔ routine.Records scopes m owner event) ∧
    after.delivered = (sent.filterMap delivery?).reverse ++ m.delivered ∧
    after.counters = (sent.filterMap unscoped?).foldl Counters.apply m.counters ∧
    after.sink = m.sink ∧
    ∀ part inner now, routine.Visits scopes m part inner now →
      now.sink = inner.head? ∧ (part.run now).2.sink = now.sink := by
  intro scopes
  have innermost : m.sink = scopes.head? := Option.head?_toList.symm
  obtain ⟨same, took⟩ := routine.run_follows m scopes innermost
  refine ⟨same, routine.mem_course_iff m scopes innermost, took.delivered, took.counters,
    took.sink, fun part inner now visits => ?_⟩
  exact ⟨visits.innermost innermost, part.run_sink now⟩

end Routine

end BatchedSave.Metrics
