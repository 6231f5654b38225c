import Mathlib.Data.List.Nodup
import BatchedSave.Config.Form
import BatchedSave.Proofs.Json.Rereading

/-!
# Configurations from what their documents state

A document may state some settings of a configuration and leave the others to their defaults. Which
ones it states is up to its author: an `Excerpt` of a document leaves out entries of its records, on
either level, and puts the others in any order. Reading an excerpt of a configuration's document
gives the settings that it states as they are in the configuration and all others as they are by
default (`ofDocument?_excerpt`). On the other hand no key is passed over: a document that has a key
where none is declared, or has a key twice, is `Misnamed` and not read at all.
-/
namespace BatchedSave

/-! ### Excerpts -/

namespace Document

/-- Part of a document: entries of its records, at any level, are left out and put in another
order. -/
inductive Excerpt : Document → Document → Prop
  | whole (d : Document) : Excerpt d d
  | without {entries part : List (Option String × Document)} (e : Option String × Document)
      (rest : Excerpt (.record entries) (.record part)) :
    Excerpt (.record (e :: entries)) (.record part)
  | keeping {entries part : List (Option String × Document)} {d d' : Document}
      (key : Option String) (inner : Excerpt d d')
      (rest : Excerpt (.record entries) (.record part)) :
    Excerpt (.record ((key, d) :: entries)) (.record ((key, d') :: part))
  | reordered {d : Document} {part part' : List (Option String × Document)}
      (rest : Excerpt d (.record part)) (order : part.Perm part') : Excerpt d (.record part')

/-- What a record has under a key. -/
def field? (key : String) : Document → Option Document
  | record entries => (entries.find? (·.1 == some key)).map (·.2)
  | _ => none

/-- The document states a setting: it has an entry for it in the entry for its section. -/
def states (d : Document) (heading setting : String) : Bool :=
  ((d.field? heading).bind (·.field? setting)).isSome

theorem Excerpt.plain {d part : Document} (excerpt : d.Excerpt part) (plain : d.Plain) :
    part.Plain := by
  induction excerpt with
  | whole => exact plain
  | without e rest ih =>
    cases plain with
    | record named each =>
      exact ih (.record (fun e' member => named e' (List.mem_cons_of_mem _ member))
        fun e' member => each e' (List.mem_cons_of_mem _ member))
  | keeping key inner rest innerIh ih =>
    cases plain with
    | record named each =>
      have others := ih (.record (fun e' member => named e' (List.mem_cons_of_mem _ member))
        fun e' member => each e' (List.mem_cons_of_mem _ member))
      cases others with
      | record named' each' =>
        have isSome : key.isSome := named _ List.mem_cons_self
        exact .record (List.forall_mem_cons.mpr ⟨isSome, named'⟩)
          (List.forall_mem_cons.mpr ⟨innerIh (each _ List.mem_cons_self), each'⟩)
  | reordered rest order ih =>
    cases ih plain with
    | record named each =>
      exact .record (fun e member => named e (order.mem_iff.mpr member))
        fun e member => each e (order.mem_iff.mpr member)

/-- An excerpt of a record is one of some of its entries. -/
theorem Excerpt.of_record {entries : List (Option String × Document)} {d : Document}
    (excerpt : Excerpt (.record entries) d) (distinct : (entries.map (·.1)).Nodup) :
    ∃ part, d = .record part ∧ (part.map (·.1)).Nodup ∧
      ∀ e' ∈ part, ∃ e ∈ entries, e'.1 = e.1 ∧ e.2.Excerpt e'.2 := by
  generalize same : Document.record entries = d' at excerpt
  induction excerpt generalizing entries with
  | whole =>
    subst same
    exact ⟨entries, rfl, distinct, fun e member => ⟨e, member, rfl, .whole _⟩⟩
  | @without others part e rest ih =>
    cases same
    rw [List.map_cons, List.nodup_cons] at distinct
    obtain ⟨_, ⟨⟩, distinct', from'⟩ := ih distinct.2 rfl
    refine ⟨part, rfl, distinct', fun e' member => ?_⟩
    obtain ⟨e, member, found⟩ := from' e' member
    exact ⟨e, List.mem_cons_of_mem _ member, found⟩
  | @keeping others part d d' key inner rest _ ih =>
    cases same
    rw [List.map_cons, List.nodup_cons] at distinct
    obtain ⟨_, ⟨⟩, distinct', from'⟩ := ih distinct.2 rfl
    refine ⟨(key, d') :: part, rfl, ?_, fun e' member => ?_⟩
    · rw [List.map_cons, List.nodup_cons]
      refine ⟨fun again => distinct.1 ?_, distinct'⟩
      obtain ⟨e', member, same⟩ := List.mem_map.mp again
      obtain ⟨e, member, key', -⟩ := from' e' member
      exact List.mem_map.mpr ⟨e, member, key'.symm.trans same⟩
    · rcases List.mem_cons.mp member with rfl | later
      · exact ⟨(key, d), List.mem_cons_self, rfl, inner⟩
      · obtain ⟨e, member, found⟩ := from' e' later
        exact ⟨e, List.mem_cons_of_mem _ member, found⟩
  | reordered rest order ih =>
    obtain ⟨part, same, distinct', from'⟩ := ih distinct same
    cases same
    exact ⟨_, rfl, (order.map _).nodup_iff.mp distinct',
      fun e' member => from' e' (order.mem_iff.mpr member)⟩

/-- What is no record has no excerpt but itself. -/
theorem Excerpt.of_value {d part : Document} (excerpt : d.Excerpt part)
    (value : ∀ entries, d ≠ .record entries) : part = d := by
  induction excerpt with
  | whole => rfl
  | without => exact absurd rfl (value _)
  | keeping => exact absurd rfl (value _)
  | reordered rest order ih => exact absurd (ih value).symm (value _)

end Document

/-! ### Slots of a record -/

/-- The slot of a field that a record may have. -/
def Slot.ofEntry : Option Document → Slot
  | some d => .given d
  | none => .omitted

namespace Document

variable {entries : List (Option String × Document)} {names : List String}

/-- The entries under one key. -/
theorem mem_filter_key {name : String} {e : Option String × Document}
    (member : e ∈ entries.filter (·.1 == some name)) : e ∈ entries ∧ e.1 = some name := by
  simpa using List.mem_filter.mp member

theorem slot?_of_distinct (distinct : (entries.map (·.1)).Nodup) (name : String) :
    slot? entries name = some (.ofEntry ((record entries).field? name)) := by
  have first : (record entries).field? name =
      ((entries.filter (·.1 == some name)).head?).map (·.2) := by rw [List.head?_filter, field?]
  rw [first, slot?]
  split
  next none =>
    rw [none]
    rfl
  next d single =>
    rw [single]
    rfl
  next none single =>
    match found : entries.filter (·.1 == some name) with
    | [] => exact absurd found none
    | [(key, d)] => exact absurd found (single key d)
    | first :: second :: others =>
      have twice : ((entries.filter (·.1 == some name)).map (·.1)).Nodup :=
        distinct.sublist (List.filter_sublist.map _)
      have both (e) (member : e ∈ first :: second :: others) : e.1 = some name :=
        (mem_filter_key (found ▸ member)).2
      rw [found, List.map_cons, List.map_cons, both first (by simp), both second (by simp)] at twice
      simp at twice

/-- A record with declared keys, none of them twice, has a slot for each field. -/
theorem slots?_of_distinct (t : Tolerance) (distinct : (entries.map (·.1)).Nodup)
    (known : ∀ e ∈ entries, ∃ name ∈ names, e.1 = some name) :
    (record entries).slots? t names =
      some (names.map fun name => .ofEntry ((record entries).field? name)) := by
  have each : slot? entries = fun name => pure (.ofEntry ((record entries).field? name)) :=
    funext fun name => slot?_of_distinct distinct name
  rw [slots?, if_pos, each, List.mapM_pure]
  · rfl
  · refine List.all_eq_true.mpr fun e member => ?_
    obtain ⟨name, declared, same⟩ := known e member
    simp [same, declared]

/-- An excerpt of a record of fields is read field by field. What it has for a field is an excerpt
of what the record has for it. -/
theorem Excerpt.slots? {fields : List (String × Document)} {d : Document}
    (excerpt : (ofFields fields).Excerpt d) (distinct : (fields.map (·.1)).Nodup) (t : Tolerance) :
    d.slots? t (fields.map (·.1)) =
        some (fields.map fun field => .ofEntry (d.field? field.1)) ∧
      ∀ field ∈ fields, ∀ d' ∈ d.field? field.1, field.2.Excerpt d' := by
  have keyed := distinct.map fun _ _ => Option.some.inj
  obtain ⟨part, rfl, distinct', from'⟩ := Excerpt.of_record excerpt (by
    simpa [Function.comp_def] using keyed)
  have origin (e') (member : e' ∈ part) : ∃ field ∈ fields,
      e'.1 = some field.1 ∧ field.2.Excerpt e'.2 := by
    obtain ⟨e, member, same, inner⟩ := from' e' member
    obtain ⟨field, declared, rfl⟩ := List.mem_map.mp member
    exact ⟨field, declared, same, inner⟩
  constructor
  · rw [slots?_of_distinct t distinct' fun e' member => ?_, List.map_map]
    · rfl
    · obtain ⟨field, declared, same, -⟩ := origin e' member
      exact ⟨field.1, List.mem_map.mpr ⟨field, declared, rfl⟩, same⟩
  · intro field declared d' found
    obtain ⟨e', first, rfl⟩ := Option.map_eq_some_iff.mp found
    obtain ⟨field', declared', same, inner⟩ := origin e' (List.mem_of_find?_eq_some first)
    have key : e'.1 = some field.1 := by simpa using List.find?_some first
    have name : field'.1 = field.1 := Option.some.inj (same.symm.trans key)
    rwa [List.inj_on_of_nodup_map distinct declared' declared name] at inner

/-- An excerpt of a single value is read as the value. -/
theorem Excerpt.reads {α : Type} {value? : Document → Option α} {d : Document} {a : α}
    (reads : value? d = some a) (value : ∀ entries, d ≠ .record entries) {d' : Document}
    (excerpt : d.Excerpt d') : value? d' = some a := by
  rw [excerpt.of_value value, reads]

theorem nat?_ofNat {n bound : Nat} (small : n < bound) : (ofNat n).nat? bound = some n := by
  simp [ofNat, nat?, int?, Numeral.int?, Numeral.ofNat, Numeral.isWhole, small]

theorem word?_ofWord (n : UInt64) : (ofWord n).word? = some n := by
  rw [word?, ofWord, nat?_ofNat n.toNat_lt_size, Option.map_some]
  exact congrArg some n.ofNat_toNat

end Document

/-- A slot is read as what its entry is read as, if there is one. -/
theorem Slot.orElse_ofEntry {α : Type} (default : α) {read : Document → α}
    {value? : Document → Option α} {entry : Option Document}
    (reads : ∀ d ∈ entry, value? d = some (read d)) :
    (Slot.ofEntry entry).orElse default value? = some (entry.elim default read) := by
  cases entry with
  | none => rfl
  | some d => exact reads d rfl

theorem Slot.orElse_kept {α : Type} (default : α) {a : α} {value? : Document → Option α}
    {entry : Option Document} (kept : ∀ d ∈ entry, value? d = some a) :
    (Slot.ofEntry entry).orElse default value? = some (if entry.isSome then a else default) := by
  rw [orElse_ofEntry default kept]
  cases entry <;> rfl

theorem Document.Excerpt.word? {n : UInt64} {d : Document} (excerpt : (ofWord n).Excerpt d) :
    d.word? = some n :=
  excerpt.reads (word?_ofWord n) fun _ => nofun

/-! ### Sections -/

/-- The settings of the batch section that its document states; all others are the default. -/
def BatchSettings.statedIn (s : BatchSettings) (d : Document) : BatchSettings where
  maxBatchSize :=
    if (d.field? "max_batch_size").isSome then s.maxBatchSize else defaultMaxBatchSize
  maxParameters :=
    if (d.field? "max_parameters").isSome then s.maxParameters else defaultMaxParameters
  minBatchSize := if (d.field? "min_batch_size").isSome then s.minBatchSize else 1

theorem BatchSettings.ofDocument?_excerpt (surplus : Bool) (s : BatchSettings) {d : Document}
    (excerpt : s.toDocument.Excerpt d) : ofDocument? surplus d = some (s.statedIn d) := by
  obtain ⟨slots, kept⟩ := excerpt.slots? (by simp) (settingTolerance surplus)
  simp only [List.forall_mem_cons] at kept
  obtain ⟨size, parameters, least, -⟩ := kept
  have size := Slot.orElse_kept defaultMaxBatchSize fun d' found => (size d' found).word?
  have parameters :=
    Slot.orElse_kept defaultMaxParameters fun d' found => (parameters d' found).word?
  have least := Slot.orElse_kept 1 fun d' found => (least d' found).word?
  simp only [List.map_cons, List.map_nil] at slots
  rw [ofDocument?, slots]
  simp [size, parameters, least, statedIn]

/-- The settings of the command section that its document states. -/
def CommandSettings.statedIn (s : CommandSettings) (d : Document) : CommandSettings where
  timeoutSecs := if (d.field? "timeout_secs").isSome then s.timeoutSecs else none

theorem CommandSettings.ofDocument?_excerpt (surplus : Bool) (s : CommandSettings) {d : Document}
    (excerpt : s.toDocument.Excerpt d) : ofDocument? surplus d = some (s.statedIn d) := by
  obtain ⟨slots, kept⟩ := excerpt.slots? (by simp) (settingTolerance surplus)
  simp only [List.forall_mem_cons] at kept
  have optional {d' : Document} (inner : (Document.ofOption .ofWord s.timeoutSecs).Excerpt d') :
      d'.optional? (·.word?) = some s.timeoutSecs := by
    cases timeout : s.timeoutSecs with
    | none =>
      rw [timeout] at inner
      obtain rfl := inner.of_value fun _ => nofun
      rfl
    | some n =>
      rw [timeout] at inner
      obtain rfl := inner.of_value fun _ => nofun
      exact congrArg (·.map some) (Document.word?_ofWord n)
  have timeout := Slot.orElse_kept none fun d' found => optional (kept.1 d' found)
  simp only [List.map_cons, List.map_nil] at slots
  rw [ofDocument?, slots]
  simp [timeout, statedIn]

/-- The settings of the logging section that its document states. -/
def LoggingSettings.statedIn (s : LoggingSettings) (d : Document) : LoggingSettings where
  sensitiveDataLogging :=
    if (d.field? "sensitive_data_logging").isSome then s.sensitiveDataLogging else false

theorem LoggingSettings.ofDocument?_excerpt (surplus : Bool) (s : LoggingSettings) {d : Document}
    (excerpt : s.toDocument.Excerpt d) : ofDocument? surplus d = some (s.statedIn d) := by
  obtain ⟨slots, kept⟩ := excerpt.slots? (by simp) (settingTolerance surplus)
  simp only [List.forall_mem_cons] at kept
  have sensitive := Slot.orElse_kept false fun d' found =>
    (kept.1 d' found).reads (rfl : (Document.bool s.sensitiveDataLogging).bool? = _) fun _ => nofun
  simp only [List.map_cons, List.map_nil] at slots
  rw [ofDocument?, slots]
  simp [sensitive, statedIn]

/-! ### Whole configurations -/

namespace Config

/-- A setting of `c` if the document states it, and else of the default configuration. -/
def stated {α : Type} (c : Config) (d : Document) (heading setting : String) (value : Config → α) :
    α :=
  if d.states heading setting then value c else value {}

/-- The settings of `c` that the document states, and all others of the default configuration. -/
def statedIn (c : Config) (d : Document) : Config where
  batch :=
    { maxBatchSize := c.stated d "batch" "max_batch_size" (·.batch.maxBatchSize)
      maxParameters := c.stated d "batch" "max_parameters" (·.batch.maxParameters)
      minBatchSize := c.stated d "batch" "min_batch_size" (·.batch.minBatchSize) }
  command := { timeoutSecs := c.stated d "command" "timeout_secs" (·.command.timeoutSecs) }
  logging :=
    { sensitiveDataLogging :=
        c.stated d "logging" "sensitive_data_logging" (·.logging.sensitiveDataLogging) }

theorem ofDocument?_excerpt (surplus : Bool) (c : Config) {d : Document}
    (excerpt : c.toDocument.Excerpt d) : ofDocument? surplus d = some (c.statedIn d) := by
  obtain ⟨slots, kept⟩ := excerpt.slots? (by simp) (settingTolerance surplus)
  simp only [List.forall_mem_cons] at kept
  obtain ⟨batch, command, logging, -⟩ := kept
  have batch := Slot.orElse_ofEntry {} fun d' found =>
    c.batch.ofDocument?_excerpt surplus (batch d' found)
  have command := Slot.orElse_ofEntry {} fun d' found =>
    c.command.ofDocument?_excerpt surplus (command d' found)
  have logging := Slot.orElse_ofEntry {} fun d' found =>
    c.logging.ofDocument?_excerpt surplus (logging d' found)
  simp only [List.map_cons, List.map_nil] at slots
  rw [ofDocument?, slots]
  have sections : c.statedIn d = Config.mk ((d.field? "batch").elim {} c.batch.statedIn)
      ((d.field? "command").elim {} c.command.statedIn)
      ((d.field? "logging").elim {} c.logging.statedIn) := by
    unfold statedIn stated Document.states
    congr 1
    · cases d.field? "batch" <;> rfl
    · cases d.field? "command" <;> rfl
    · cases d.field? "logging" <;> rfl
  simp [batch, command, logging, sections]

end Config

/-! ### Keys that are not passed over -/

/-- The keys that a document may have, each with the keys that may stand below it. -/
inductive Schema
  | keys (declared : List (String × Schema))

namespace Schema

/-- A single value has no keys. -/
def value : Schema := .keys []

def declared : Schema → List (String × Schema)
  | keys declared => declared

def names (schema : Schema) : List String :=
  schema.declared.map (·.1)

end Schema

def BatchSettings.schema : Schema :=
  .keys [("max_batch_size", .value), ("max_parameters", .value), ("min_batch_size", .value)]

def CommandSettings.schema : Schema :=
  .keys [("timeout_secs", .value)]

def LoggingSettings.schema : Schema :=
  .keys [("sensitive_data_logging", .value)]

def Config.schema : Schema :=
  .keys [
    ("batch", BatchSettings.schema),
    ("command", CommandSettings.schema),
    ("logging", LoggingSettings.schema)]

namespace Document

/-- Somewhere in the document stands a key that is not declared there, or a record has a key twice.
A list stands for a record whose keys are left out; surplus items have no keys. -/
inductive Misnamed : Schema → Document → Prop
  | undeclared {schema : Schema} {entries : List (Option String × Document)}
      {e : Option String × Document} (member : e ∈ entries)
      (strange : ∀ name ∈ schema.names, e.1 ≠ some name) : Misnamed schema (.record entries)
  | repeated {schema : Schema} {entries : List (Option String × Document)}
      (twice : ¬ (entries.map (·.1)).Nodup) : Misnamed schema (.record entries)
  | entry {schema inner : Schema} {entries : List (Option String × Document)} {name : String}
      {d : Document} (declared : (name, inner) ∈ schema.declared)
      (member : (some name, d) ∈ entries) (below : Misnamed inner d) :
    Misnamed schema (.record entries)
  | item {schema : Schema} {items : List Document} {i : Nat} {d : Document}
      (member : items[i]? = some d)
      (below : Misnamed ((schema.declared[i]?).elim .value (·.2)) d) :
    Misnamed schema (.list items)

theorem getElem?_of_mapM {α β : Type} {f : α → Option β} {l : List α} {r : List β} {i : Nat}
    {a : α} (each : l.mapM f = some r) (place : l[i]? = some a) :
    ∃ b, r[i]? = some b ∧ f a = some b := by
  induction l generalizing r i with
  | nil => cases place
  | cons first l ih =>
    rw [List.mapM_cons] at each
    obtain ⟨b, here, each⟩ := Option.bind_eq_some_iff.mp each
    obtain ⟨others, rest, same⟩ := Option.bind_eq_some_iff.mp each
    obtain rfl := Option.some.inj same
    cases i with
    | zero =>
      cases place
      exact ⟨b, rfl, here⟩
    | succ i =>
      rw [List.getElem?_cons_succ]
      exact ih rest place

/-- A slot that is found is the only one of its key, if there is any. -/
theorem count_of_slot? {name : String} {slot : Slot} (found : slot? entries name = some slot) :
    (entries.map (·.1)).count (some name) ≤ 1 ∧
      ∀ d, (some name, d) ∈ entries → slot = .given d := by
  have counted : (entries.map (·.1)).count (some name) =
      (entries.filter (·.1 == some name)).length := by
    rw [List.count, List.countP_map, List.countP_eq_length_filter]
    rfl
  have kept (d) (member : (some name, d) ∈ entries) :
      (some name, d) ∈ entries.filter (·.1 == some name) :=
    List.mem_filter.mpr ⟨member, beq_self_eq_true _⟩
  rw [counted]
  unfold slot? at found
  split at found
  next none =>
    rw [none] at kept ⊢
    exact ⟨Nat.zero_le 1, fun d member => absurd (kept d member) List.not_mem_nil⟩
  next key d single =>
    rw [single] at kept ⊢
    refine ⟨Nat.le_refl 1, fun d' member => ?_⟩
    obtain ⟨⟩ := List.mem_singleton.mp (kept d' member)
    exact (Option.some.inj found).symm
  next => cases found

theorem slots?_record {t : Tolerance} {slots : List Slot} (strict : t.unknownFields = false)
    (found : (record entries).slots? t names = some slots) :
    (∀ e ∈ entries, ∃ name ∈ names, e.1 = some name) ∧
      names.mapM (slot? entries) = some slots := by
  rw [slots?] at found
  split at found
  next all =>
    refine ⟨fun e member => ?_, found⟩
    have known := List.all_eq_true.mp all e member
    obtain ⟨name, key, declared⟩ := (Option.any_eq_true _ _).mp known
    exact ⟨name, by simpa [strict] using declared, key⟩
  next => cases found

/-- If a misnamed document has slots for its keys at all, then there is something misnamed in one of
them. -/
theorem Misnamed.slots {schema : Schema} {d : Document} {slots : List Slot}
    (misnamed : d.Misnamed schema)
    (found : d.slots? (settingTolerance false) schema.names = some slots) :
    ∃ (i : Nat) (field : String × Schema) (d' : Document), schema.declared[i]? = some field ∧
      slots[i]? = some (.given d') ∧ d'.Misnamed field.2 := by
  cases misnamed with
  | undeclared member strange =>
    obtain ⟨name, declared, same⟩ := (slots?_record rfl found).1 _ member
    exact absurd same (strange name declared)
  | @repeated _ entries twice =>
    obtain ⟨known, each⟩ := slots?_record rfl found
    refine absurd (List.nodup_iff_count_le_one.mpr fun key => ?_) twice
    by_cases present : key ∈ entries.map (·.1)
    · obtain ⟨e, member, rfl⟩ := List.mem_map.mp present
      obtain ⟨name, declared, same⟩ := known e member
      obtain ⟨i, place⟩ := List.mem_iff_getElem?.mp declared
      obtain ⟨slot, -, single⟩ := getElem?_of_mapM each place
      rw [same]
      exact (count_of_slot? single).1
    · rw [List.count_eq_zero_of_not_mem present]
      exact Nat.zero_le 1
  | @entry _ inner entries name d declared member below =>
    obtain ⟨i, place⟩ := List.mem_iff_getElem?.mp declared
    have named : schema.names[i]? = some name := by
      rw [Schema.names, List.getElem?_map, place]
      rfl
    obtain ⟨slot, slotted, single⟩ := getElem?_of_mapM (slots?_record rfl found).2 named
    exact ⟨i, _, d, place, (count_of_slot? single).2 d member ▸ slotted, below⟩
  | @item _ items i d member below =>
    rw [slots?] at found
    split at found
    next fits =>
      obtain ⟨inside, -⟩ := List.getElem?_eq_some_iff.mp member
      have bound : i < schema.declared.length := by
        have : items.length ≤ schema.names.length := by simpa [settingTolerance] using fits
        rw [Schema.names, List.length_map] at this
        omega
      have place := List.getElem?_eq_getElem bound
      rw [place] at below
      refine ⟨i, _, d, place, ?_, below⟩
      cases found
      simp [Schema.names, place, member]
    next => cases found

/-- Whoever does not read what is misnamed in a slot does not read a misnamed document. -/
theorem Misnamed.unread {α : Type} {schema : Schema} {d : Document} {read? : List Slot → Option α}
    (misnamed : d.Misnamed schema)
    (refuses : ∀ (slots : List Slot) (i : Nat) (field : String × Schema) (d' : Document),
      schema.declared[i]? = some field → slots[i]? = some (.given d') → d'.Misnamed field.2 →
        read? slots = none) :
    d.slots? (settingTolerance false) schema.names >>= read? = none := by
  cases found : d.slots? (settingTolerance false) schema.names with
  | none => rfl
  | some slots =>
    obtain ⟨i, field, d', declared, given, below⟩ := misnamed.slots found
    exact refuses slots i field d' declared given below

/-- A value with keys is no single value. -/
theorem Misnamed.no_value {d : Document} (misnamed : d.Misnamed .value) :
    d.word? = none ∧ d.bool? = none ∧ d.optional? (·.word?) = none := by
  cases misnamed <;> exact ⟨rfl, rfl, rfl⟩

end Document

theorem BatchSettings.ofDocument?_misnamed {d : Document} (misnamed : d.Misnamed schema) :
    ofDocument? false d = none := by
  refine misnamed.unread fun slots i field d' declared given below => ?_
  split
  next =>
    rcases i with _ | _ | _ | i
    · cases declared
      cases given
      simp [Slot.orElse, below.no_value]
    · cases declared
      cases given
      simp [Slot.orElse, below.no_value]
    · cases declared
      cases given
      simp [Slot.orElse, below.no_value]
    · cases declared
  next => rfl

theorem CommandSettings.ofDocument?_misnamed {d : Document} (misnamed : d.Misnamed schema) :
    ofDocument? false d = none := by
  refine misnamed.unread fun slots i field d' declared given below => ?_
  split
  next =>
    rcases i with _ | i
    · cases declared
      cases given
      simp [Slot.orElse, below.no_value]
    · cases declared
  next => rfl

theorem LoggingSettings.ofDocument?_misnamed {d : Document} (misnamed : d.Misnamed schema) :
    ofDocument? false d = none := by
  refine misnamed.unread fun slots i field d' declared given below => ?_
  split
  next =>
    rcases i with _ | i
    · cases declared
      cases given
      simp [Slot.orElse, below.no_value]
    · cases declared
  next => rfl

theorem Config.ofDocument?_misnamed {d : Document} (misnamed : d.Misnamed schema) :
    ofDocument? false d = none := by
  refine misnamed.unread fun slots i field d' declared given below => ?_
  split
  next =>
    rcases i with _ | _ | _ | i
    · cases declared
      cases given
      simp [Slot.orElse, BatchSettings.ofDocument?_misnamed below]
    · cases declared
      cases given
      simp [Slot.orElse, CommandSettings.ofDocument?_misnamed below]
    · cases declared
      cases given
      simp [Slot.orElse, LoggingSettings.ofDocument?_misnamed below]
    · cases declared
  next => rfl

/-! ### Configurations written and read -/

theorem Document.Plain.ofFields {fields : List (String × Document)}
    (each : ∀ field ∈ fields, field.2.Plain) : (ofFields fields).Plain := by
  refine .record (fun e member => ?_) fun e member => ?_
  all_goals obtain ⟨field, declared, rfl⟩ := List.mem_map.mp member
  · rfl
  · exact each field declared

namespace Config

theorem plain_toDocument (c : Config) : c.toDocument.Plain := by
  have timeout : (Document.ofOption .ofWord c.command.timeoutSecs).Plain := by
    cases c.command.timeoutSecs with
    | none => exact .null
    | some n => exact .nat n.toNat
  refine .ofFields (List.forall_mem_cons.mpr ⟨.ofFields ?_, List.forall_mem_cons.mpr
    ⟨.ofFields ?_, List.forall_mem_singleton.mpr (.ofFields ?_)⟩⟩)
  · refine List.forall_mem_cons.mpr ⟨.nat _, List.forall_mem_cons.mpr
      ⟨.nat _, List.forall_mem_singleton.mpr (.nat _)⟩⟩
  · exact List.forall_mem_singleton.mpr timeout
  · exact List.forall_mem_singleton.mpr (.bool _)

/-- A configuration is read back from its text. From a text that states some of its settings, in any
order, these are read and all others are the default. A text with a key that is not declared where
it stands, or with a key twice, is not read. -/
theorem stated_or_default (c : Config) :
    Json.parse? (Json.text c) = some c ∧
      (∀ d, c.toDocument.Excerpt d → Json.read? (Json.write d) = some d ∧
        ∀ text, Json.read? text = some d → Json.parse? text = some (c.statedIn d)) ∧
      ∀ text d, Json.read? text = some d → d.Misnamed schema →
        (Json.parse? text : Option Config) = none := by
  have stated (d : Document) (excerpt : c.toDocument.Excerpt d) (text : String)
      (read : Json.read? text = some d) : Json.parse? text = some (c.statedIn d) := by
    rw [Json.parse?, read]
    exact ofDocument?_excerpt false c excerpt
  refine ⟨?_, fun d excerpt => ⟨?_, stated d excerpt⟩, fun text d read misnamed => ?_⟩
  · exact stated c.toDocument (.whole _) (Json.text c) (Json.read?_write c.plain_toDocument)
  · exact Json.read?_write (excerpt.plain c.plain_toDocument)
  · rw [Json.parse?, read]
    exact ofDocument?_misnamed misnamed

/-- The logging section comes first and without its only setting, the batch section leaves out one
setting and puts the others the other way round, and the command section is left out. On the other
hand a setting may not be stated twice. -/
theorem stated_or_default_logging_first :
    Json.parse?
        ("\x7b\"logging\":\x7b\x7d," ++
          "\"batch\":\x7b\"min_batch_size\":3,\"max_batch_size\":7\x7d\x7d") =
        some (⟨⟨7, 2098, 3⟩, ⟨none⟩, ⟨false⟩⟩ : Config) ∧
      (Json.parse? "\x7b\"batch\":\x7b\"min_batch_size\":3,\"min_batch_size\":3\x7d\x7d" :
        Option Config) = none := by
  let c : Config := ⟨⟨7, 9, 3⟩, ⟨some 5⟩, ⟨true⟩⟩
  let part : Document := .ofFields [
    ("logging", .ofFields []),
    ("batch", .ofFields [("min_batch_size", .ofWord 3), ("max_batch_size", .ofWord 7)])]
  let twice : Document := .ofFields [
    ("batch", .ofFields [("min_batch_size", .ofWord 3), ("min_batch_size", .ofWord 3)])]
  have excerpt : c.toDocument.Excerpt part :=
    .reordered
      (.keeping "batch"
        (.reordered (.keeping "max_batch_size" (.whole _) (.without _ (.whole _))) (.swap _ _ _))
        (.without _ (.keeping "logging" (.without _ (.whole _)) (.whole _))))
      (.swap _ _ _)
  have plain : twice.Plain :=
    .ofFields (List.forall_mem_singleton.mpr (.ofFields (List.forall_mem_cons.mpr
      ⟨.nat 3, List.forall_mem_singleton.mpr (.nat 3)⟩)))
  have misnamed : twice.Misnamed schema :=
    .entry List.mem_cons_self List.mem_cons_self (.repeated (by decide))
  obtain ⟨-, stated, refused⟩ := stated_or_default c
  obtain ⟨read, stated⟩ := stated part excerpt
  have written : Json.write part = "\x7b\"logging\":\x7b\x7d," ++
      "\"batch\":\x7b\"min_batch_size\":3,\"max_batch_size\":7\x7d\x7d" := by decide +kernel
  have writtenTwice : Json.write twice =
      "\x7b\"batch\":\x7b\"min_batch_size\":3,\"min_batch_size\":3\x7d\x7d" := by decide +kernel
  rw [← written, ← writtenTwice]
  exact ⟨stated _ read, refused _ twice (Json.read?_write plain) misnamed⟩

end Config

end BatchedSave
