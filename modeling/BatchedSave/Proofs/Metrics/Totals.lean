import Mathlib.Algebra.BigOperators.Group.List.Basic
import Mathlib.Algebra.GroupWithZero.Nat
import Mathlib.Data.List.Induction
import Mathlib.Data.List.Sort
import BatchedSave.Metrics.Counters
import BatchedSave.Proofs.Program.Events

/-!
# Counters are totals

What the counters show after a sequence of events can be said without going through it: each is the
sum of what the events contribute, cut off at the ceiling once, or the greatest of it, and there is
one entry for each table that some event names. `Counters.Tallies` says so and is kept by every
event. Sums do not depend on the order of their terms, so counters do not depend on the order of
events; and as one event adds one to one counter of one table, the report's own sums stay in range.
-/
namespace BatchedSave.Metrics

/-- The part of a number that a counter shows. -/
def capped (n : Nat) : Nat :=
  min n ceiling

/-- Cutting off on the way makes no difference to what is shown in the end. -/
theorem min_add_min (n amount most : Nat) :
    min (min n most + amount) most = min (n + amount) most := by
  omega

@[simp] theorem plus_capped (n amount : Nat) : plus (capped n) amount = capped (n + amount) :=
  min_add_min n amount ceiling

/-! ### What events contribute -/

namespace Event

/-- What an event contributes to the totals of all operations. -/
def operations : Event Micros → Operations
  | batchStart _ parameters => { batchesStarted := 1, parametersBound := parameters }
  | batchFinish commands rows _ =>
    { batchesFinished := 1, commandsExecuted := commands, rowsAffected := rows }
  | batchFull _ => { batchFull := 1 }
  | commandApplied _ _ generated => { generatedValues := generated }
  | conflict _ => { conflicts := 1 }
  | violation => { violations := 1 }
  | storeFailure => { storeFailures := 1 }
  | cancelled => { cancellations := 1 }

/-- The commands of a round trip that begins. -/
def started? : Event Micros → Option Nat
  | batchStart commands _ => some commands
  | _ => none

/-- The time of a round trip that has ended. -/
def elapsed? : Event Micros → Option Micros
  | batchFinish _ _ elapsed => some elapsed
  | _ => none

/-- The table of a conflict. -/
def conflicted? : Event Micros → Option String
  | conflict table => some table
  | _ => none

/-- The table an event names. -/
def table? : Event Micros → Option String
  | commandApplied table _ _ => some table
  | conflict table => some table
  | _ => none

end Event

/-- The totals of all operations after a sequence of events. -/
def Operations.ofEvents (events : List (Event Micros)) : Operations :=
  let total (counter : Operations → Nat) : Nat :=
    capped (events.map fun event => counter event.operations).sum
  { batchesStarted := total (·.batchesStarted)
    batchesFinished := total (·.batchesFinished)
    batchFull := total (·.batchFull)
    commandsExecuted := total (·.commandsExecuted)
    parametersBound := total (·.parametersBound)
    rowsAffected := total (·.rowsAffected)
    generatedValues := total (·.generatedValues)
    conflicts := total (·.conflicts)
    violations := total (·.violations)
    storeFailures := total (·.storeFailures)
    cancellations := total (·.cancellations) }

/-- The time that all round trips took together and the longest one took, and the most commands of
one that has begun. -/
def Performance.ofEvents (events : List (Event Micros)) : Performance :=
  let times := events.filterMap (·.elapsed?)
  { microsTotal := min times.sum timeCeiling
    microsMax := times.foldl max 0
    commandsMax := (events.filterMap (·.started?)).foldl max 0 }

/-- The counters of a table after a sequence of events. -/
def TableCounters.ofEvents (table : String) (events : List (Event Micros)) : TableCounters :=
  let applied (kind : ChangeKind) : Nat := (events.filterMap (·.applied?)).count (table, kind)
  { inserts := capped (applied .insert)
    updates := capped (applied .update)
    deletes := capped (applied .delete)
    conflicts := capped ((events.filterMap (·.conflicted?)).count table) }

/-! ### Tables -/

namespace Table

variable {α : Type}

/-- The names are in strictly increasing order. -/
def Sorted (t : Table α) : Prop :=
  t.Pairwise fun a b => a.1 < b.1

theorem lookup_entry {name key : String} {value : α} {rest : Table α} :
    List.lookup name ((key, value) :: rest) =
      if name = key then some value else rest.lookup name := by
  rw [List.lookup_cons]
  by_cases same : name = key
  · simp [same]
  · simp [same, beq_eq_false_iff_ne.mpr same]

theorem Sorted.mem_iff_lookup {t : Table α} (sorted : t.Sorted) {name : String} {a : α} :
    (name, a) ∈ t ↔ t.lookup name = some a := by
  induction t with
  | nil => simp
  | cons entry rest ih =>
    obtain ⟨key, value⟩ := entry
    obtain ⟨first, others⟩ := List.pairwise_cons.mp sorted
    rw [List.mem_cons, lookup_entry, ih others]
    by_cases same : name = key
    · subst same
      have absent : rest.lookup name ≠ some a := fun found =>
        absurd (first _ ((ih others).mpr found)) (String.lt_irrefl name)
      simp [absent, eq_comm]
    · simp [same]

/-- A sorted table is known from what it says of each name. -/
theorem Sorted.ext {t t' : Table α} (sorted : t.Sorted) (sorted' : t'.Sorted)
    (same : ∀ name, t.lookup name = t'.lookup name) : t = t' := by
  have irreflexive : Std.Irrefl fun a b : String × α => a.1 < b.1 :=
    ⟨fun a => String.lt_irrefl a.1⟩
  have antisymmetric : Std.Antisymm fun a b : String × α => a.1 < b.1 :=
    ⟨fun _ _ before behind => absurd behind (String.lt_asymm before)⟩
  refine List.Pairwise.eq_of_mem_iff sorted sorted' fun (name, a) => ?_
  rw [sorted.mem_iff_lookup, sorted'.mem_iff_lookup, same]

/-- An entry is changed, or a fresh one is put where it belongs. -/
theorem mem_upsert {fresh : α} {name : String} {change : α → α} {t : Table α} {entry : String × α}
    (member : entry ∈ t.upsert fresh name change) : entry.1 = name ∨ entry ∈ t := by
  induction t with
  | nil => simp_all [upsert]
  | cons head rest ih =>
    simp only [upsert] at member
    split at member
    next same =>
      rcases List.mem_cons.mp member with rfl | later
      · exact .inl same.symm
      · exact .inr (List.mem_cons_of_mem _ later)
    next =>
      split at member
      · rcases List.mem_cons.mp member with rfl | later
        · exact .inl rfl
        · exact .inr later
      · rcases List.mem_cons.mp member with rfl | later
        · exact .inr List.mem_cons_self
        · exact (ih later).imp_right (List.mem_cons_of_mem _)

theorem Sorted.upsert {fresh : α} {name : String} {change : α → α} {t : Table α}
    (sorted : t.Sorted) : (t.upsert fresh name change).Sorted := by
  induction t with
  | nil => exact List.pairwise_singleton _ _
  | cons entry rest ih =>
    obtain ⟨first, others⟩ := List.pairwise_cons.mp sorted
    simp only [Table.upsert]
    split
    next => exact List.pairwise_cons.mpr ⟨first, others⟩
    next different =>
      split
      next before =>
        refine List.pairwise_cons.mpr ⟨List.forall_mem_cons.mpr ⟨before, ?_⟩, sorted⟩
        exact fun other member => String.lt_trans before (first other member)
      next notBefore =>
        refine List.pairwise_cons.mpr ⟨fun other member => ?_, ih others⟩
        rcases mem_upsert member with same | later
        · rw [same]
          exact Std.lt_of_le_of_ne (String.not_lt.mp notBefore) (Ne.symm different)
        · exact first other later

/-- What a sorted table says of names after an entry has been changed. -/
theorem Sorted.lookup_upsert {fresh : α} {name other : String} {change : α → α} {t : Table α}
    (sorted : t.Sorted) : (t.upsert fresh name change).lookup other =
      if other = name then some (change ((t.lookup name).getD fresh)) else t.lookup other := by
  induction t with
  | nil => simp [Table.upsert, lookup_entry]
  | cons entry rest ih =>
    obtain ⟨key, value⟩ := entry
    obtain ⟨first, others⟩ := List.pairwise_cons.mp sorted
    simp only [Table.upsert]
    split
    next same =>
      subst same
      by_cases asked : other = name <;> simp [lookup_entry, asked]
    next different =>
      split
      next before =>
        -- what comes behind is larger still, so the name is new
        have absent : rest.lookup name = none := by
          cases found : rest.lookup name with
          | none => rfl
          | some a =>
            have later := first _ ((Sorted.mem_iff_lookup others).mpr found)
            exact absurd later (String.lt_asymm before)
        simp [lookup_entry, different, absent]
      next =>
        rw [lookup_entry, lookup_entry, lookup_entry, ih others, if_neg different]
        by_cases asked : other = name
        · simp [asked, different]
        · simp [asked]

end Table

/-! ### One event more -/

namespace TableCounters

/-- The counters of a table after an event that names it. -/
def told (c : TableCounters) : Event Micros → TableCounters
  | .commandApplied _ kind _ => c.applied kind
  | .conflict _ => c.conflicted
  | _ => c

theorem ofEvents_append (name : String) (events : List (Event Micros)) (event : Event Micros) :
    ofEvents name (events ++ [event]) =
      if event.table? = some name then (ofEvents name events).told event
      else ofEvents name events := by
  cases event
  case commandApplied table kind generated =>
    by_cases same : table = name
    · cases kind <;>
        simp [ofEvents, told, applied, Event.applied?, Event.conflicted?, Event.table?, same]
    · simp [ofEvents, Event.applied?, Event.conflicted?, Event.table?, same]
  case conflict table =>
    by_cases same : table = name
    · simp [ofEvents, told, conflicted, Event.applied?, Event.conflicted?, Event.table?, same]
    · simp [ofEvents, Event.applied?, Event.conflicted?, Event.table?, same]
  all_goals simp [ofEvents, Event.applied?, Event.conflicted?, Event.table?]

/-- A table that no event names has nothing to show. -/
theorem ofEvents_unnamed {name : String} {events : List (Event Micros)}
    (unnamed : name ∉ events.filterMap (·.table?)) : ofEvents name events = {} := by
  induction events using List.reverseRecOn with
  | nil => rfl
  | append_singleton before event ih =>
    rw [List.filterMap_append, List.mem_append, not_or] at unnamed
    have other : event.table? ≠ some name := fun named => unnamed.2 (by simp [named])
    rw [ofEvents_append, if_neg other, ih unnamed.1]

end TableCounters

namespace Counters

theorem apply_tables (c : Counters) (event : Event Micros) :
    (c.apply event).tables = match event.table? with
      | some name => c.tables.upsert {} name (·.told event)
      | none => c.tables := by
  cases event <;> rfl

/-- The counters show the totals of `events`, which have come in since the moment `since`. -/
structure Tallies (c : Counters) (since : Nat) (events : List (Event Micros)) : Prop where
  operations : c.operations = .ofEvents events
  performance : c.performance = .ofEvents events
  since : c.since = since
  sorted : c.tables.Sorted
  lookup : ∀ name, c.tables.lookup name =
    if name ∈ events.filterMap (·.table?) then some (.ofEvents name events) else none

namespace Tallies

variable {c c' : Counters} {since : Nat} {events events' : List (Event Micros)}

theorem initial (since : Nat) : Tallies { since } since [] where
  operations := rfl
  performance := rfl
  since := rfl
  sorted := List.Pairwise.nil
  lookup := fun _ => rfl

/-- The entry that the next event changes. -/
theorem entry (tallies : c.Tallies since events) (name : String) :
    (c.tables.lookup name).getD {} = .ofEvents name events := by
  rw [tallies.lookup]
  split
  next => rfl
  next unnamed => exact (TableCounters.ofEvents_unnamed unnamed).symm

theorem step (tallies : c.Tallies since events) (event : Event Micros) :
    (c.apply event).Tallies since (events ++ [event]) where
  operations := by
    have total := tallies.operations
    cases event <;> simp [apply, onTable, total, Operations.ofEvents, Event.operations]
  performance := by
    have longest := tallies.performance
    cases event <;> simp [apply, onTable, longest, Performance.ofEvents, Performance.addMicros,
      Event.started?, Event.elapsed?, min_add_min]
  since := by
    have same := tallies.since
    cases event <;> exact same
  sorted := by
    rw [apply_tables]
    split
    · exact tallies.sorted.upsert
    · exact tallies.sorted
  lookup := by
    intro name
    rw [apply_tables, TableCounters.ofEvents_append]
    simp only [List.filterMap_append, List.mem_append]
    cases named : event.table? with
    | none => simp [named, tallies.lookup]
    | some table =>
      simp only [tallies.sorted.lookup_upsert, tallies.entry]
      by_cases same : name = table
      · simp [named, same]
      · simp [named, same, Ne.symm same, tallies.lookup]

theorem run (since : Nat) (events : List (Event Micros)) :
    (events.foldl apply { since }).Tallies since events := by
  induction events using List.reverseRecOn with
  | nil => exact initial since
  | append_singleton before event ih =>
    rw [List.foldl_append]
    exact ih.step event

end Tallies

end Counters

/-! ### Order and size -/

theorem Operations.ofEvents_perm {events events' : List (Event Micros)}
    (reordered : events.Perm events') : ofEvents events = ofEvents events' := by
  have same (counter : Operations → Nat) :
      (events.map fun event => counter event.operations).sum =
        (events'.map fun event => counter event.operations).sum := (reordered.map _).sum_eq
  simp only [ofEvents, same]

theorem Performance.ofEvents_perm {events events' : List (Event Micros)}
    (reordered : events.Perm events') : ofEvents events = ofEvents events' := by
  have greatest {ns ns' : List Nat} (reordered : ns.Perm ns') : ns.foldl max 0 = ns'.foldl max 0 :=
    reordered.foldl_eq' (fun _ _ _ _ _ => Nat.max_right_comm ..) 0
  have times := reordered.filterMap (·.elapsed?)
  simp only [ofEvents, times.sum_eq, greatest times, greatest (reordered.filterMap (·.started?))]

theorem TableCounters.ofEvents_perm {events events' : List (Event Micros)}
    (reordered : events.Perm events') (name : String) :
    ofEvents name events = ofEvents name events' := by
  have applied (kind : ChangeKind) :
      (events.filterMap (·.applied?)).count (name, kind) =
        (events'.filterMap (·.applied?)).count (name, kind) :=
    (reordered.filterMap _).count_eq _
  have conflicted : (events.filterMap (·.conflicted?)).count name =
      (events'.filterMap (·.conflicted?)).count name := (reordered.filterMap _).count_eq _
  simp only [ofEvents, applied, conflicted]

/-- Counters are known from the events they total, in any order. -/
theorem Counters.Tallies.eq_of_perm {c c' : Counters} {since : Nat}
    {events events' : List (Event Micros)} (tallies : c.Tallies since events)
    (tallies' : c'.Tallies since events') (reordered : events.Perm events') : c = c' := by
  have tables : c.tables = c'.tables := by
    refine tallies.sorted.ext tallies'.sorted fun name => ?_
    rw [tallies.lookup, tallies'.lookup, TableCounters.ofEvents_perm reordered]
    exact if_congr (reordered.filterMap _).mem_iff rfl rfl
  have operations : c.operations = c'.operations := by
    rw [tallies.operations, tallies'.operations, Operations.ofEvents_perm reordered]
  have performance : c.performance = c'.performance := by
    rw [tallies.performance, tallies'.performance, Performance.ofEvents_perm reordered]
  have since : c.since = c'.since := tallies.since.trans tallies'.since.symm
  cases c
  cases c'
  simp_all

namespace TableCounters

/-- The commands of a table that were tried. -/
def attempts (c : TableCounters) : Nat :=
  c.inserts + c.updates + c.deletes + c.conflicts

/-- An event adds one to at most one counter of a table. -/
theorem attempts_told_le (c : TableCounters) (event : Event Micros) :
    (c.told event).attempts ≤ c.attempts + 1 := by
  have added (n : Nat) : plus n 1 ≤ n + 1 := Nat.min_le_left ..
  cases event
  case commandApplied table kind generated =>
    cases kind
    case insert =>
      have := added c.inserts
      simp only [told, applied, attempts]
      omega
    case update =>
      have := added c.updates
      simp only [told, applied, attempts]
      omega
    case delete =>
      have := added c.deletes
      simp only [told, applied, attempts]
      omega
  case conflict table =>
    have := added c.conflicts
    simp only [told, conflicted, attempts]
    omega
  all_goals exact Nat.le_succ _

theorem attempts_le_length (name : String) (events : List (Event Micros)) :
    (ofEvents name events).attempts ≤ events.length := by
  induction events using List.reverseRecOn with
  | nil => exact Nat.le_refl 0
  | append_singleton before event ih =>
    rw [ofEvents_append, List.length_append, List.length_singleton]
    split
    · exact (attempts_told_le _ event).trans (Nat.add_le_add_right ih 1)
    · exact ih.trans (Nat.le_succ _)

end TableCounters

namespace Counters.Tallies

variable {c : Counters} {since : Nat} {events : List (Event Micros)}

theorem mem_tables (tallies : c.Tallies since events) {name : String} {t : TableCounters} :
    (name, t) ∈ c.tables ↔ name ∈ events.filterMap (·.table?) ∧ t = .ofEvents name events := by
  rw [tallies.sorted.mem_iff_lookup, tallies.lookup]
  split <;> simp [*, eq_comm]

theorem mem_report (tallies : c.Tallies since events) {line : TableSummary} :
    line ∈ c.report.tables ↔ ∃ name ∈ events.filterMap (·.table?),
      line = (TableCounters.ofEvents name events).summary name := by
  simp only [report, List.mem_map, Prod.exists, tallies.mem_tables]
  constructor
  · rintro ⟨name, t, ⟨named, rfl⟩, rfl⟩
    exact ⟨name, named, rfl⟩
  · rintro ⟨name, named, rfl⟩
    exact ⟨name, _, ⟨named, rfl⟩, rfl⟩

theorem report_names (tallies : c.Tallies since events) :
    (c.report.tables.map (·.table)).Pairwise (· < ·) := by
  rw [report, List.map_map, List.pairwise_map]
  exact tallies.sorted

/-- What the report adds up stays within a word. -/
theorem report_in_range (tallies : c.Tallies since events) (few : events.length < UInt64.size)
    {line : TableSummary} (listed : line ∈ c.report.tables) :
    line.commands < UInt64.size ∧ line.commands + line.conflicts < UInt64.size ∧
      line.conflicts.toUInt64 ≤ (line.commands + line.conflicts).toUInt64 := by
  obtain ⟨name, -, rfl⟩ := tallies.mem_report.mp listed
  have tried : (TableCounters.ofEvents name events).attempts < UInt64.size :=
    Nat.lt_of_le_of_lt (TableCounters.attempts_le_length name events) few
  generalize TableCounters.ofEvents name events = t at tried
  simp only [TableCounters.attempts, TableCounters.summary] at tried ⊢
  refine ⟨by omega, tried, ?_⟩
  rw [UInt64.le_iff_toNat_le]
  simp only [Nat.toUInt64_eq, UInt64.toNat_ofNat', UInt64.size] at tried ⊢
  rw [Nat.mod_eq_of_lt tried, Nat.mod_eq_of_lt (by omega)]
  omega

end Counters.Tallies

/-- Counters show the totals of the events that came in, whatever their order, with one entry for
each table that some event names; the report lists these entries by name, and its own sums stay
within a word as long as fewer events than a word can count have come in. -/
theorem Counters.foldl_apply_eq_totals (since : Nat) (events : List (Event Micros)) :
    let c := events.foldl apply { since }
    let named := events.filterMap (·.table?)
    c.operations = .ofEvents events ∧
    c.performance = .ofEvents events ∧
    c.since = since ∧
    (∀ name t, (name, t) ∈ c.tables ↔ name ∈ named ∧ t = .ofEvents name events) ∧
    (∀ reordered : List (Event Micros), reordered.Perm events →
      reordered.foldl apply { since } = c) ∧
    c.report.counters = some c ∧
    (c.report.tables.map (·.table)).Pairwise (· < ·) ∧
    (∀ line, line ∈ c.report.tables ↔ ∃ name ∈ named,
      let t := TableCounters.ofEvents name events
      line = {
        table := name
        commands := t.inserts + t.updates + t.deletes
        inserts := t.inserts
        updates := t.updates
        deletes := t.deletes
        conflicts := t.conflicts
        conflictRate := conflictRate t.conflicts t.attempts }) ∧
    (events.length < UInt64.size → ∀ line ∈ c.report.tables,
      line.commands < UInt64.size ∧ line.commands + line.conflicts < UInt64.size ∧
      line.conflicts.toUInt64 ≤ (line.commands + line.conflicts).toUInt64) := by
  intro c named
  have tallies : c.Tallies since events := .run since events
  have ordered (reordered : List (Event Micros)) (same : reordered.Perm events) :
      reordered.foldl apply { since } = c := (Tallies.run since reordered).eq_of_perm tallies same
  have ranged (few : events.length < UInt64.size) (line : TableSummary)
      (listed : line ∈ c.report.tables) := tallies.report_in_range few listed
  exact ⟨tallies.operations, tallies.performance, tallies.since, fun _ _ => tallies.mem_tables,
    ordered, rfl, tallies.report_names, fun _ => tallies.mem_report, ranged⟩

/-- Two round trips that take 40 and 90 microseconds. -/
example :
    ([.batchStart 3 7, .batchFinish 3 3 40, .batchStart 1 2, .batchFinish 1 1 90].foldl
      Counters.apply {}).performance =
      { microsTotal := 130, microsMax := 90, commandsMax := 3 } := by
  decide

end BatchedSave.Metrics
