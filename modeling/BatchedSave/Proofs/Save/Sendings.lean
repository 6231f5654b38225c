import BatchedSave.Proofs.RoundTrip.Reporting
import BatchedSave.Proofs.Save.Course

/-!
# What a save sends

The conversation of a trace is what it says to the dialect and to the store. A `Sending` is one
group of commands that reached the store: its header, the fragments of its commands and its footer
are asked for, in a row, and right after them the store is sent the statement they make up. `Speaks`
finds the sendings of a conversation, and `Advances` tells what they have done to the outcome of a
save.
-/
namespace BatchedSave

/-- What is said to the dialect and to the store. A fragment that is not written says nothing. -/
inductive Utterance where
  | header (text : String)
  | fragment (command : Command) (text : String)
  | footer (text : String)
  | query (command : StoreCommand)
  deriving DecidableEq, Repr

def Exchange.utterance? : Exchange → Option Utterance
  | ⟨.header, text⟩ => some (.header text)
  | ⟨.fragment c, written⟩ =>
    if written.failure = none then some (.fragment c written.text) else none
  | ⟨.footer, text⟩ => some (.footer text)
  | ⟨.store (.query command), _⟩ => some (.query command)
  | ⟨.await (.query command), _⟩ => some (.query command)
  | _ => none

def conversation (trace : List Exchange) : List Utterance :=
  trace.filterMap Exchange.utterance?

@[simp] theorem conversation_nil : conversation [] = [] := rfl

@[simp] theorem conversation_append (before after : List Exchange) :
    conversation (before ++ after) = conversation before ++ conversation after :=
  List.filterMap_append

/-- The store commands of a conversation, in order. -/
def queries (said : List Utterance) : List StoreCommand :=
  said.filterMap fun
    | .query command => some command
    | _ => none

@[simp] theorem queries_append (before after : List Utterance) :
    queries (before ++ after) = queries before ++ queries after :=
  List.filterMap_append

/-- A group of commands with the texts they were given, on its way to the store. -/
structure Sending where
  header : String
  parts : List (Command × String)
  footer : String
  settings : Settings

namespace Sending

def group (x : Sending) : List Command :=
  x.parts.map (·.1)

/-- The complete text: the header, the fragments of the commands in order, and the footer. -/
def text (x : Sending) : String :=
  x.header ++ String.join (x.parts.map (·.2)) ++ x.footer

/-- The store command of a group, with the parameters of its commands in order. -/
def command (s : Save) (x : Sending) : StoreCommand where
  text := x.text
  parameters := (x.group.flatMap (·.parameters s.placeholder)).map (·.bind)
  transaction := x.settings.transaction
  timeout := x.settings.timeout.orElse fun _ => s.options.timeout

/-- What is said for a group, in a row. -/
def said (s : Save) (x : Sending) : List Utterance :=
  .header x.header :: x.parts.map (fun (c, text) => .fragment c text) ++
    [.footer x.footer, .query (x.command s)]

end Sending

/-- The sendings of a conversation, one after the other. Whatever else is said is no query. -/
inductive Speaks (s : Save) : List Sending → List Utterance → Prop
  | nil : Speaks s [] []
  | idle {u : Utterance} {xs : List Sending} {rest : List Utterance}
      (other : ∀ command, u ≠ .query command) (more : Speaks s xs rest) : Speaks s xs (u :: rest)
  | sent (x : Sending) {xs : List Sending} {rest : List Utterance} (more : Speaks s xs rest) :
    Speaks s (x :: xs) (x.said s ++ rest)

namespace Speaks

variable {s : Save} {xs ys : List Sending} {first second : List Utterance}

theorem append (here : Speaks s xs first) (there : Speaks s ys second) :
    Speaks s (xs ++ ys) (first ++ second) := by
  induction here with
  | nil => exact there
  | idle other _ ih => exact .idle other ih
  | sent x _ ih =>
    rw [List.append_assoc]
    exact .sent x ih

theorem of_unqueried (none : queries first = []) : Speaks s [] first := by
  induction first with
  | nil => exact .nil
  | cons u rest ih =>
    cases u with
    | query command => cases none
    | header text => exact .idle nofun (ih none)
    | fragment c text => exact .idle nofun (ih none)
    | footer text => exact .idle nofun (ih none)

theorem single (x : Sending) : Speaks s [x] (x.said s) := by
  have alone := Speaks.sent x (.nil (s := s))
  rwa [List.append_nil] at alone

theorem queries_said (x : Sending) (rest : List Utterance) :
    queries (x.said s ++ rest) = x.command s :: queries rest := by
  have fragments : queries (x.parts.map fun (c, text) => .fragment c text) = [] := by
    induction x.parts with
    | nil => rfl
    | cons part parts ih => exact ih
  simp only [queries] at fragments
  simp [queries, Sending.said, fragments]

/-- The store commands are those of the sendings. -/
theorem queries_eq (speaks : Speaks s xs first) : queries first = xs.map (·.command s) := by
  induction speaks with
  | nil => rfl
  | @idle u xs rest other _ ih =>
    cases u with
    | query command => exact absurd rfl (other command)
    | header text => exact ih
    | fragment c text => exact ih
    | footer text => exact ih
  | sent x _ ih => rw [queries_said, ih, List.map_cons]

end Speaks

/-! ### One round trip -/

section RoundTrip

variable {manner : Manner} {trace : List Exchange}

/-- Fragments that were all written are said in order and make up what is added to the text. -/
theorem Script.Fragmented.said {commands : List Command} {added : String}
    (fragments : Fragmented commands trace (.ok added)) :
    ∃ parts : List (Command × String), parts.map (·.1) = commands ∧
      conversation trace = parts.map (fun (c, text) => .fragment c text) ∧
      added = String.join (parts.map (·.2)) := by
  generalize same : (Except.ok added : Except Error String) = result at fragments
  induction fragments generalizing added with
  | nil =>
    cases same
    exact ⟨[], rfl, rfl, rfl⟩
  | failed => cases same
  | @cons c rest trace result text more ih =>
    cases result with
    | error e => cases same
    | ok others =>
      cases same
      obtain ⟨parts, commands, said, joined⟩ := ih rfl
      refine ⟨(c, text) :: parts, by rw [List.map_cons, commands], ?_, ?_⟩
      · rw [List.map_cons, ← said]
        rfl
      · rw [List.map_cons, String.join_cons, joined]

theorem Script.Fragmented.unqueried {commands : List Command} {result : Except Error String}
    (fragments : Fragmented commands trace result) : queries (conversation trace) = [] := by
  induction fragments with
  | nil => rfl
  | failed => rfl
  | cons text _ ih => exact ih

/-- The exchange says something only if it is with the dialect or a query. -/
theorem Exchange.utterance?_eq_none {x : Exchange} (silent : ¬ x.request.OfDialect)
    (other : ∀ command, x.request ≠ .store (.query command) ∧ x.request ≠ .await (.query command)) :
    x.utterance? = none := by
  obtain ⟨request, answer⟩ := x
  cases request with
  | header | footer | fragment c => exact absurd trivial silent
  | store call =>
    cases call with
    | query command => exact absurd rfl (other command).1
    | _ => rfl
  | await call =>
    cases call with
    | query command => exact absurd rfl (other command).2
    | _ => rfl
  | _ => rfl

theorem conversation_of_idle (idle : Idle trace) (silent : Wordless trace) :
    conversation trace = [] := by
  refine List.filterMap_eq_nil_iff.mpr fun x member => ?_
  refine Exchange.utterance?_eq_none (silent x member) fun command => ?_
  have here := idle x member
  constructor <;> intro same <;> rw [same] at here <;> exact here

/-- A call other than a query says nothing. -/
theorem perform_silent {origin : Origin} {call : StoreCall} {result : Except Error call.Result}
    (other : ∀ command, call ≠ .query command)
    (run : (manner.perform origin call).run.Runs trace result) : conversation trace = [] := by
  have store (answer : Except Error call.Result) :
      Exchange.utterance? ⟨.store call, answer⟩ = none :=
    Exchange.utterance?_eq_none id fun command => by simpa using other command
  have await (answer : Option (Except Error call.Result)) :
      Exchange.utterance? ⟨.await call, answer⟩ = none :=
    Exchange.utterance?_eq_none id fun command => by simpa using other command
  have look (given : Bool) : Exchange.utterance? ⟨.cancelled, given⟩ = none := rfl
  rcases Program.runs_perform run with rfl | rfl | ⟨-, rfl | rfl⟩ <;>
    simp [conversation, store, await, look]

theorem perform_query {command : StoreCommand} {result : Except Error Unit}
    (run : (manner.perform .store (.query command)).run.Runs trace result) :
    (conversation trace = [] ∧ ∃ e, result = .error e) ∨
      conversation trace = [.query command] := by
  rcases Program.runs_perform run with rfl | rfl | ⟨rfl, rfl | rfl⟩
  · exact .inr rfl
  · exact .inr rfl
  · exact .inl ⟨rfl, _, rfl⟩
  · exact .inr rfl

theorem Reconciliation.silent_account :
    Account manner fun trace _ => conversation trace = [] where
  nothing := rfl
  append := by
    intro first second _ here there
    rw [conversation_append, here, there]
    rfl
  called call _ _ run := perform_silent (by simp) run
  counted _ := rfl
  effect x isEffect := by
    have other : x.utterance? = none := by
      obtain ⟨request, answer⟩ := x
      cases request with
      | writeBack _ _ _ | record _ => rfl
      | _ => exact isEffect.elim
    simp [conversation, other]
  rejected _ := rfl

/-- A trip says its statement to the store, or fails before. -/
theorem Trip.speaks {statement : Statement} {commands : List Command} {r : Reconciliation}
    {read : Except Error Unit} (trip : Trip manner statement commands trace r read) :
    (conversation trace = [] ∧ ∃ e, read = .error e) ∨
      ∃ settings, conversation trace = [.query (statement.bind settings)] := by
  have close : conversation [⟨.close, ()⟩] = [] := rfl
  have prepared (settings : Settings) : conversation (statement.preparing settings) = [] := rfl
  cases trip with
  | unopened failed =>
    have opening := perform_silent (by simp) failed
    exact .inl ⟨by rw [conversation_append, opening, close]; rfl, _, rfl⟩
  | @unexecuted _ _ settings _ opened failed =>
    have opening := perform_silent (by simp) opened
    simp only [conversation_append, opening, prepared, close, List.nil_append, List.append_nil]
    rcases perform_query failed with ⟨silent, failed⟩ | said
    · exact .inl ⟨silent, _, rfl⟩
    · exact .inr ⟨settings, said⟩
  | @read _ _ _ settings _ _ opened executed walked =>
    have opening := perform_silent (by simp) opened
    have reading := Reconciliation.silent_account.walk walked
    simp only [conversation_append, opening, prepared, reading, close, List.nil_append,
      List.append_nil]
    rcases perform_query executed with ⟨-, -, ⟨⟩⟩ | said
    exact .inr ⟨settings, said⟩

/-- The commands were settled by what the trace delivered, and came to these reconciled ones. -/
def Settles (trace : List Exchange) (commands : List Command) (applied : List Applied) : Prop :=
  ∃ settled : List Settlement, commands = settled.map (·.before) ∧
    applied = settled.map (·.applied) ∧ deliveries trace = settled.flatMap (·.row.zipIdx)

theorem Trip.settles {statement : Statement} {commands : List Command} {r : Reconciliation}
    (trip : Trip manner statement commands trace r (.ok ())) :
    Settles trace commands r.applied ∧ r.pending = [] := by
  obtain ⟨settled, accomplished, complete⟩ := trip.accomplishes
  have all := complete rfl
  have split := accomplished.commands_eq
  rw [all, List.append_nil] at split
  exact ⟨⟨settled, split, accomplished.applied_eq, accomplished.whole all⟩, all⟩

/-- A batch that is sent says its group, or fails before the store hears of it. -/
theorem Batch.Posted.speaks {s : Save} {limits : Limits} {header : String} {group : List Command}
    {result : Except (Abort Error) Executed}
    (posted : (s.holding limits header group).Posted manner trace result) :
    ∃ xs : List Sending, Speaks s xs (.header header :: conversation trace) ∧
      xs.map (·.group) <+: [group] ∧
      ∀ executed, result = .ok executed → xs.map (·.group) = [group] ∧
        ∃ applied, Settles trace group applied ∧ executed.commands = applied.map (·.command) ∧
          executed.rowsAffected = applied.map (·.rows) := by
  cases posted with
  | unwritten failed =>
    have silent : queries (.header header :: conversation trace) = [] := failed.unqueried
    exact ⟨[], .of_unqueried silent, List.nil_prefix, nofun⟩
  | @sent asked travelled concluding added footer r read result written trip concluded =>
    obtain ⟨parts, rfl, said, rfl⟩ := written.said
    have judged := conversation_of_idle concluded.idle concluded.wordless
    have begun (commands parameters : Nat) : conversation [⟨.footer, footer⟩,
        ⟨.record (.batchStart commands parameters), ()⟩] = [.footer footer] := rfl
    have finished (commands rows : Nat) :
        conversation [⟨.record (.batchFinish commands rows ()), ()⟩] = [] := rfl
    simp only [conversation_append, said, begun, judged, finished, List.append_nil]
    rcases trip.speaks with ⟨silent, e, failed⟩ | ⟨settings, asks⟩
    · obtain rfl := failed
      refine ⟨[], .of_unqueried ?_, List.nil_prefix, ?_⟩
      · have unqueried := written.unqueried
        rw [said] at unqueried
        rw [silent, List.append_nil, ← List.cons_append, queries_append]
        exact List.append_eq_nil_iff.mpr ⟨unqueried, rfl⟩
      · rintro executed rfl
        cases concluded
    · let x : Sending := ⟨header, parts, footer, settings⟩
      have whole : .header header :: (x.parts.map (fun (c, text) => .fragment c text) ++
          [.footer footer] ++ conversation travelled) = x.said s := by
        rw [asks, List.append_assoc]
        rfl
      rw [whole]
      refine ⟨[x], .single x, List.prefix_rfl, ?_⟩
      rintro executed rfl
      refine ⟨rfl, ?_⟩
      cases concluded with
      | executed inRange =>
        obtain ⟨⟨settled, before, after, delivered⟩, finished⟩ := trip.settles
        have unread := written.idle.deliveries_eq_nil
        refine ⟨r.applied, ⟨settled, before, after, ?_⟩, ?_, rfl⟩
        · have begun (commands parameters : Nat) : deliveries [⟨.footer, footer⟩,
              ⟨.record (.batchStart commands parameters), ()⟩] = [] := rfl
          have finished (commands rows : Nat) :
              deliveries [⟨.record (.batchFinish commands rows ()), ()⟩] = [] := rfl
          rw [← delivered]
          simp only [deliveries_append, unread, begun, finished, List.nil_append, List.append_nil]
        · simp [Reconciliation.commands, finished]

end RoundTrip

/-! ### Whole batches -/

/-- From the outcome `o` to the outcome `o'` the trace has settled the commands of the sendings, by
what it delivers, in one round trip for each of them. -/
def Advances (trace : List Exchange) (xs : List Sending) (o o' : SaveOutcome) : Prop :=
  ∃ settled : List Settlement, xs.flatMap (·.group) = settled.map (·.before) ∧
    deliveries trace = settled.flatMap (·.row.zipIdx) ∧
    o' = ⟨o.commands ++ settled.map (·.after),
      o.rowsAffected + (settled.map fun x => x.before.affectedBy x.row).sum,
      o.batches + xs.length⟩

namespace Advances

variable {trace first second : List Exchange} {xs ys : List Sending} {o o' o'' : SaveOutcome}

theorem refl (quiet : deliveries trace = []) : Advances trace [] o o :=
  ⟨[], rfl, quiet, by simp⟩

theorem trans (here : Advances first xs o o') (there : Advances second ys o' o'') :
    Advances (first ++ second) (xs ++ ys) o o'' := by
  obtain ⟨settled, group, delivered, rfl⟩ := here
  obtain ⟨settled', group', delivered', rfl⟩ := there
  refine ⟨settled ++ settled', ?_, ?_, ?_⟩
  · rw [List.flatMap_append, group, group', List.map_append]
  · rw [deliveries_append, delivered, delivered', List.flatMap_append]
  · simp [Nat.add_assoc]

theorem of_absorb {x : List Sending} {group : List Command} {applied : List Applied}
    {executed : Executed} (groups : x.map (·.group) = [group])
    (settles : Settles trace group applied) (commands : executed.commands = applied.map (·.command))
    (rows : executed.rowsAffected = applied.map (·.rows)) (absorbed : o.absorb executed = .ok o') :
    Advances trace x o o' := by
  obtain ⟨settled, rfl, rfl, delivered⟩ := settles
  simp only [SaveOutcome.absorb] at absorbed
  split at absorbed
  · cases absorbed
    refine ⟨settled, ?_, delivered, ?_⟩
    · rw [List.flatMap_def, groups, List.flatten_singleton]
    · have single : x.length = 1 := by simpa using congrArg List.length groups
      simp only [commands, Executed.total, rows, single, List.map_map, List.sum]
      rfl
  · cases absorbed

end Advances

/-- How far groups of commands were sent from the outcome `o` on: what is said has sendings of the
first of them, and of all of them if there is an outcome in the end. -/
def Sends (s : Save) (o : SaveOutcome) (said : List Utterance) (trace : List Exchange)
    (groups : List (List Command)) (result : Except (Abort Error) SaveOutcome) : Prop :=
  ∃ xs : List Sending, Speaks s xs said ∧ xs.map (·.group) <+: groups ∧
    ∀ o', result = .ok o' → xs.map (·.group) = groups ∧ Advances trace xs o o'

namespace Sends

variable {s : Save} {o o' : SaveOutcome} {said more : List Utterance}
variable {trace first second : List Exchange} {groups others : List (List Command)}
variable {result : Except (Abort Error) SaveOutcome}

/-- A save that ends early may have sent nothing. -/
theorem none {abort : Abort Error} (unqueried : queries said = []) :
    Sends s o said trace groups (.error abort) :=
  ⟨[], .of_unqueried unqueried, List.nil_prefix, nofun⟩

theorem done (unqueried : queries said = []) (quiet : deliveries trace = []) :
    Sends s o said trace [] (.ok o) := by
  refine ⟨[], .of_unqueried unqueried, List.nil_prefix, ?_⟩
  rintro o' ⟨⟩
  exact ⟨rfl, .refl quiet⟩

/-- Sendings of the first groups, then sendings of the others. -/
theorem append (here : Sends s o said first groups (.ok o'))
    (there : Sends s o' more second others result) :
    Sends s o (said ++ more) (first ++ second) (groups ++ others) result := by
  obtain ⟨xs, speaks, -, complete⟩ := here
  obtain ⟨ys, speaks', within, complete'⟩ := there
  obtain ⟨rfl, advances⟩ := complete o' rfl
  refine ⟨xs ++ ys, speaks.append speaks', ?_, ?_⟩
  · rw [List.map_append]
    exact (List.prefix_append_right_inj _).mpr within
  · rintro o'' rfl
    obtain ⟨rfl, advances'⟩ := complete' o'' rfl
    exact ⟨List.map_append, advances.trans advances'⟩

/-- Where nothing is sent any more, further groups may follow. -/
theorem early {abort : Abort Error} (here : Sends s o said trace groups (.error abort)) :
    Sends s o said trace (groups ++ others) (.error abort) := by
  obtain ⟨xs, speaks, within, -⟩ := here
  exact ⟨xs, speaks, within.trans (List.prefix_append _ _), nofun⟩

/-- What neither asks the store nor hears from it makes no difference. -/
theorem after (said : List Utterance) (first : List Exchange) (unqueried : queries said = [])
    (quiet : deliveries first = []) (there : Sends s o more second groups result) :
    Sends s o (said ++ more) (first ++ second) groups result :=
  append (done unqueried quiet) there

end Sends

namespace Save

variable {s : Save} {manner : Manner} {trace opening posted : List Exchange} {o : SaveOutcome}
variable {known : Option String} {header : String} {group held : List Command} {limits : Limits}

/-- What has been said already under a header that is known. -/
def greeting (known : Option String) : List Utterance :=
  (known.map .header).toList

theorem Begun.greets (began : Begun known opening header) :
    greeting known ++ conversation opening = [.header header] := by
  cases began <;> rfl

/-- A trace that sends the store no query says none. -/
theorem queries_eq_nil (unasked : ∀ x ∈ trace, ∀ command,
    x.request ≠ .store (.query command) ∧ x.request ≠ .await (.query command)) :
    queries (conversation trace) = [] := by
  refine List.filterMap_eq_nil_iff.mpr fun u said => ?_
  obtain ⟨x, member, speaks⟩ := List.mem_filterMap.mp said
  have other := unasked x member
  obtain ⟨request, answer⟩ := x
  cases u with
  | query command =>
    cases request with
    | store call =>
      cases call with
      | query asked => exact absurd rfl (other asked).1
      | _ => cases speaks
    | await call =>
      cases call with
      | query asked => exact absurd rfl (other asked).2
      | _ => cases speaks
    | fragment c =>
      simp only [Exchange.utterance?] at speaks
      split at speaks <;> cases speaks
    | _ => cases speaks
  | _ => rfl

theorem queries_of_idle (idle : Idle trace) : queries (conversation trace) = [] := by
  refine queries_eq_nil fun x member command => ?_
  have here := idle x member
  constructor <;> intro same <;> rw [same] at here <;> exact here

theorem queries_greeting (known : Option String) : queries (greeting known) = [] := by
  cases known <;> rfl

theorem begun_of_filled (header : String) (filled : held ≠ []) :
    Save.begun header held = some header :=
  if_neg (by simpa using filled)

/-- Limits are asked for nothing that is said. -/
theorem Judged.silent {c : Command} {verdict : Except Error Bool}
    (judged : Judged limits held c trace verdict) : conversation trace = [] := by
  have asked {α : Type} {p : Program α} {trace : List Exchange} {a : α}
      (asks : p.Asks Request.OfLimits) (run : p.Runs trace a) : conversation trace = [] := by
    refine asks.filterMap_eq_nil (fun x ofLimits => ?_) run
    obtain ⟨request, answer⟩ := x
    cases request with
    | mayAdd | accepts => rfl
    | _ => exact ofLimits.elim
  cases judged with
  | refused => rfl
  | declined _ answered => exact asked (limits.mayAdd_asks _ _) answered
  | checked _ answered accepted =>
    rw [conversation_append, asked (limits.mayAdd_asks _ _) answered,
      asked (limits.accepts_asks _) accepted, List.append_nil]

/-- A command that joins those held is under the header the batch has begun with. -/
theorem Trial.greets {c : Command} {header' : String}
    (trial : s.Trial limits header held c trace (.ok (some header'))) :
    greeting (begun header held) ++ conversation trace = [.header header'] := by
  cases trial with
  | added began judged =>
    rw [conversation_append, judged.silent, List.append_nil]
    exact began.greets

/-- Handing a command back says nothing to those whose batch has begun. -/
theorem Trial.silent {c : Command} (filled : held ≠ [])
    (trial : s.Trial limits header held c trace (.ok none)) : conversation trace = [] := by
  cases trial with
  | full began judged =>
    rw [begun_of_filled header filled] at began
    cases began
    rw [conversation_append, conversation_append, judged.silent]
    rfl

/-- One group that is sent. -/
theorem sends_posted {result : Except (Abort Error) Executed}
    {final : Except (Abort Error) SaveOutcome} (filled : group ≠ [])
    (began : Begun known opening header)
    (run : ((s.holding limits header group).execute manner).Runs posted result)
    (made : result >>= o.absorb = final) :
    Sends s o (greeting known ++ conversation (opening ++ posted)) (opening ++ posted) [group]
      final := by
  obtain ⟨xs, speaks, within, complete⟩ := (Batch.execute_runs rfl filled run).speaks
  rw [conversation_append, ← List.append_assoc, began.greets]
  refine ⟨xs, speaks, within, ?_⟩
  rintro o' rfl
  cases result with
  | error abort => cases made
  | ok executed =>
    obtain ⟨groups, applied, settles, commands, rows⟩ := complete executed rfl
    refine ⟨groups, ?_⟩
    have unread := began.idle.deliveries_eq_nil
    have advances := Advances.of_absorb groups settles commands rows made
    exact (Advances.refl unread).trans advances

/-- Groups that are sent one after the other. Only a single one can be under a header that is known
already; the induction is on the evidence for the others. -/
theorem Delivered.sends {groups : List (List Command)}
    {result : Except (Abort Error) SaveOutcome}
    (delivered : s.Delivered manner known o groups trace result) (filled : ∀ g ∈ groups, g ≠ [])
    (single : known = none ∨ ∃ group, groups = [group]) :
    Sends s o (greeting known ++ conversation trace) trace groups result := by
  induction delivered with
  | done o => exact .done (by simp [queries_greeting]) rfl
  | failed began run =>
    exact (sends_posted (filled _ List.mem_cons_self) began run rfl).early
  | overflowed began run excess =>
    exact (sends_posted (filled _ List.mem_cons_self) began run excess).early
  | @next o o' group groups _ opening posted rest _ _ _ began run absorbed more ih =>
    obtain ⟨here, others⟩ := List.forall_mem_cons.mp filled
    have sent := sends_posted here began run absorbed
    rcases single with rfl | ⟨_, ⟨⟩⟩
    · rw [conversation_append, ← List.append_assoc]
      exact sent.append (ih others (.inl rfl))
    · cases more
      simpa using sent

theorem Sent.sends {result : Except (Abort Error) SaveOutcome} (filled : held ≠ [])
    (sent : s.Sent manner header held o trace result) :
    Sends s o (.header header :: conversation trace) trace (parcels s.minBatchSize held)
      result := by
  obtain ⟨rest, rfl, delivered⟩ := sent
  have nonempty := parcels_ne_nil s.minBatchSize filled
  unfold wholeHeader at delivered
  split at delivered
  next small =>
    -- each command is given a header of its own; that of the batch is not used
    exact .after [_] [_] rfl rfl (delivered.sends nonempty (.inl rfl))
  next large =>
    have whole : parcels s.minBatchSize held = [held] := if_neg large
    rw [whole] at delivered nonempty ⊢
    exact .after [] [_] rfl rfl (delivered.sends nonempty (.inr ⟨held, rfl⟩))

end Save

end BatchedSave
