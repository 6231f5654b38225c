import Mathlib.Data.List.TakeWhile
import BatchedSave.Proofs.Batch.History
import BatchedSave.Proofs.Program.Surroundings

/-!
# How often a batch is opened and closed

A script is opened with every command that is tried on an empty batch, and its footer is asked for
with the first text that is rendered. `Framed` counts both along a history: the footer is asked for
once, but the header once for every valid command that was turned away before the first one was
accepted, and once more for that one.
-/
namespace BatchedSave

/-- The header of a batch is asked for. -/
def Exchange.isHeader : Exchange → Bool
  | ⟨.header, _⟩ => true
  | _ => false

/-- The footer of a batch is asked for. -/
def Exchange.isFooter : Exchange → Bool
  | ⟨.footer, _⟩ => true
  | _ => false

def headersOf (trace : List Exchange) : Nat :=
  trace.countP (·.isHeader)

def footersOf (trace : List Exchange) : Nat :=
  trace.countP (·.isFooter)

theorem headersOf_append (before after : List Exchange) :
    headersOf (before ++ after) = headersOf before + headersOf after :=
  List.countP_append

theorem footersOf_append (before after : List Exchange) :
    footersOf (before ++ after) = footersOf before + footersOf after :=
  List.countP_append

/-- Neither header nor footer is asked for. -/
structure Frameless (trace : List Exchange) : Prop where
  headers : headersOf trace = 0
  footers : footersOf trace = 0

variable {trace first second : List Exchange}

theorem frameless_nil : Frameless [] :=
  ⟨rfl, rfl⟩

theorem Frameless.append (here : Frameless first) (there : Frameless second) :
    Frameless (first ++ second) where
  headers := by rw [headersOf_append, here.headers, there.headers]
  footers := by rw [footersOf_append, here.footers, there.footers]

theorem frameless_limits {α : Type} {p : Program α} {a : α} (asked : p.Asks Request.OfLimits)
    (run : p.Runs trace a) : Frameless trace := by
  have other (x : Exchange) (member : x ∈ trace) : x.isHeader = false ∧ x.isFooter = false := by
    have ofLimits := asked.of_mem run x member
    obtain ⟨request, answer⟩ := x
    cases request with
    | header | footer => exact ofLimits.elim
    | _ => exact ⟨rfl, rfl⟩
  constructor
  · exact List.countP_eq_zero.mpr fun x member => by simp [(other x member).1]
  · exact List.countP_eq_zero.mpr fun x member => by simp [(other x member).2]

theorem Script.Fragmented.frameless {commands : List Command} {result : Except Error String}
    (fragments : Fragmented commands trace result) : Frameless trace := by
  induction fragments with
  | nil => exact frameless_nil
  | failed junk e => exact ⟨rfl, rfl⟩
  | cons text _ ih => exact ⟨ih.headers, ih.footers⟩

/-- A rendering asks for the footer if it is the first one, and never for the header. -/
theorem Script.Rendered.frames {s after : Script} {commands : List Command}
    {result : Except Error String} (rendered : s.Rendered commands trace after result)
    (placed : s.footerAt.isSome = s.footer.isSome) :
    headersOf trace = 0 ∧
      footersOf trace + (if s.footer.isSome then 1 else 0) =
        (if after.footer.isSome then 1 else 0) ∧
      after.footerAt.isSome = after.footer.isSome ∧
      (result.isOk → after.footer.isSome) := by
  cases rendered with
  | complete _ closed => exact ⟨rfl, Nat.zero_add _, placed, fun _ => placed ▸ closed⟩
  | failed fragments =>
    obtain ⟨headers, footers⟩ := fragments.frameless
    exact ⟨headers, by rw [footers, Nat.zero_add], placed, nofun⟩
  | extended _ fragments closed =>
    obtain ⟨headers, footers⟩ := fragments.frameless
    rw [headersOf_append, footersOf_append, headers, footers]
    unfold closing at closed
    cases known : s.footer with
    | some footer =>
      rw [known] at closed
      obtain ⟨rfl, rfl⟩ := Program.runs_done_iff.mp closed
      exact ⟨rfl, rfl, rfl, fun _ => rfl⟩
    | none =>
      rw [known] at closed
      obtain rfl := Program.runs_request_iff.mp closed
      exact ⟨rfl, rfl, rfl, fun _ => rfl⟩

namespace Batch

/-- The call tries a valid command. -/
def Call.tries : Call → Bool
  | tried c _ => c.validate.isOk
  | finalized _ => false

/-- The valid commands that were tried before any was accepted, and were turned away. -/
def turnedAway (calls : List Call) : Nat :=
  (calls.takeWhile (·.accepted?.isNone)).countP (·.tries)

variable {b ready after : Batch} {c : Command} {calls : List Call}

theorem turnedAway_append (calls : List Call) (next : Call) :
    turnedAway (calls ++ [next]) = turnedAway calls +
      if accepted calls = [] ∧ next.accepted? = none ∧ next.tries then 1 else 0 := by
  have empty_iff : accepted calls = [] ↔ ∀ call ∈ calls, call.accepted?.isNone := by
    simp [accepted, List.filterMap_eq_nil_iff]
  unfold turnedAway
  by_cases none : accepted calls = []
  · have all := empty_iff.mp none
    rw [List.takeWhile_append_of_pos all, List.takeWhile_eq_self_iff.mpr all, List.countP_append]
    cases taken : next.accepted? <;> simp [taken, none, List.countP_singleton]
  · have stops : ¬ (calls.takeWhile (·.accepted?.isNone)).length = calls.length := by
      intro whole
      have same := (List.takeWhile_prefix _).eq_of_length whole
      exact none (empty_iff.mpr (List.takeWhile_eq_self_iff.mp same))
    rw [List.takeWhile_append, if_neg stops, if_neg (fun first => none first.1), Nat.add_zero]

/-- A command that is not refused finds the batch made ready for it; whether it is added then or
not, nothing more is done to the script. -/
theorem Tried.readies {result : Except Error Admission} (tried : b.Tried c trace after result)
    (valid : c.validate = .ok ()) : ∃ opening more ready, trace = opening ++ more ∧
      b.Readied opening ready ∧ after.script = ready.script ∧ Frameless more := by
  have full (held : Batch) : Frameless held.reportFull := ⟨rfl, rfl⟩
  have asked {ready : Batch} {asked : List Exchange} {allowed : Bool}
      (answered : (b.limits.mayAdd ready.view c).Runs asked allowed) : Frameless asked :=
    frameless_limits (b.limits.mayAdd_asks _ _) answered
  have checked {ready : Batch} {checks : List Exchange} {verdict : Except Error Bool}
      (accepted : (b.limits.accepts (ready.push c).view).Runs checks verdict) : Frameless checks :=
    frameless_limits (b.limits.accepts_asks _) accepted
  cases tried with
  | refused invalid =>
    rw [valid] at invalid
    cases invalid
  | declined _ readied answered =>
    exact ⟨_, _, _, List.append_assoc .., readied, rfl, (asked answered).append (full _)⟩
  | added _ readied answered accepted =>
    exact ⟨_, _, _, List.append_assoc .., readied, rfl, (asked answered).append (checked accepted)⟩
  | rejected _ readied answered accepted =>
    have quiet := (asked answered).append ((checked accepted).append (full after))
    exact ⟨_, _, _, by simp only [List.append_assoc], readied, rfl, quiet⟩
  | failed _ readied answered accepted =>
    exact ⟨_, _, _, List.append_assoc .., readied, rfl, (asked answered).append (checked accepted)⟩

/-- An empty batch is opened for each valid command. -/
theorem Tried.frames {result : Except Error Admission} (tried : b.Tried c trace after result) :
    headersOf trace = (if b.commands = [] ∧ c.validate.isOk then 1 else 0) ∧ footersOf trace = 0 ∧
      (after.script = b.script ∨
        b.commands = [] ∧ after.script.footer = none ∧ after.script.footerAt = none) := by
  cases valid : c.validate with
  | error refusal =>
    cases tried with
    | refused => exact ⟨(if_neg (nofun ∘ And.right)).symm, rfl, .inl rfl⟩
    | declined possible | added possible | rejected possible | failed possible =>
      rw [valid] at possible
      cases possible
  | ok _ =>
    obtain ⟨opening, more, ready, rfl, readied, script, quiet⟩ := tried.readies valid
    rw [headersOf_append, footersOf_append, quiet.headers, quiet.footers, script]
    cases readied with
    | opened header empty => exact ⟨(if_pos ⟨empty, rfl⟩).symm, rfl, .inr ⟨empty, rfl, rfl⟩⟩
    | kept filled => exact ⟨(if_neg (filled ∘ And.left)).symm, rfl, .inl rfl⟩

/-- How often header and footer have been asked for along a history. The script has a footer once
the footer has been asked for, and none as long as the batch is empty and may be opened anew. -/
structure Framed (calls : List Call) (trace : List Exchange) (b : Batch) : Prop where
  headers : headersOf trace = turnedAway calls + if accepted calls = [] then 0 else 1
  footers : footersOf trace = if b.script.footer.isSome then 1 else 0
  unclosed : accepted calls = [] → b.script.footer = none
  placed : b.script.footerAt.isSome = b.script.footer.isSome
  closed : ∀ text, .finalized (.ok text) ∈ calls → text ≠ "" → b.script.footer.isSome

/-- A call that accepts a command has tried a valid one. -/
theorem Step.tries {next : Call} (step : b.Step next trace after) (took : next.accepted? ≠ none) :
    next.tries := by
  cases step with
  | finalized => exact absurd rfl took
  | tried run =>
    cases tryAdd_runs run with
    | added valid =>
      rw [Call.tries, valid]
      rfl
    | refused | declined | rejected | failed => exact absurd rfl took

variable {exchanges : List Exchange}

theorem Framed.tried {result : Except Error Admission} (framed : Framed calls trace b)
    (same : b.commands = accepted calls) (run : (b.tryAdd c).Runs exchanges (after, result)) :
    Framed (calls ++ [.tried c result]) (trace ++ exchanges) after := by
  obtain ⟨headers, footers, unclosed, placed, closed⟩ := framed
  obtain ⟨opened, silent, script⟩ := (tryAdd_runs run).frames
  have tries := (Step.tried run).tries
  have more := accepted_append calls (.tried c result)
  constructor
  · rw [headersOf_append, headers, opened, turnedAway_append, more, same]
    by_cases empty : accepted calls = []
    · cases took : (Call.tried c result).accepted? with
      | none => simp [empty, Call.tries]
      | some c' =>
        have valid : c.validate.isOk := tries (by simp [took])
        simp [empty, valid]
    · simp [empty]
  · rw [footersOf_append, footers, silent]
    rcases script with kept | ⟨empty, none, -⟩
    · rw [kept]
      rfl
    · rw [unclosed (same ▸ empty), none]
      rfl
  · intro empty
    rw [more, List.append_eq_nil_iff] at empty
    rcases script with kept | ⟨-, none, -⟩
    · rw [kept, unclosed empty.1]
    · exact none
  · rcases script with kept | ⟨-, none, placed⟩
    · rw [kept, placed]
    · rw [none, placed]
      rfl
  · intro text member filled
    have earlier : Call.finalized (.ok text) ∈ calls := by simpa using member
    have footer := closed text earlier filled
    rcases script with kept | ⟨empty, -, -⟩
    · rwa [kept]
    · rw [unclosed (same ▸ empty)] at footer
      cases footer

theorem Framed.finalized {result : Except Error String} (framed : Framed calls trace b)
    (same : b.commands = accepted calls) (run : b.finalize.Runs exchanges (after, result)) :
    Framed (calls ++ [.finalized result]) (trace ++ exchanges) after := by
  obtain ⟨headers, footers, unclosed, placed, closed⟩ := framed
  have untried : turnedAway (calls ++ [.finalized result]) = turnedAway calls := by
    simp [turnedAway_append, Call.tries]
  have more : accepted (calls ++ [.finalized result]) = accepted calls := by
    simp [accepted_append, Call.accepted?]
  rcases finalize_runs run with ⟨empty, rfl, rfl, rfl⟩ | ⟨filled, script, rfl, rendered⟩
  · rw [List.append_nil]
    refine ⟨by rw [untried, more, headers], footers, more ▸ unclosed, placed, ?_⟩
    intro text member nonempty
    rcases List.mem_append.mp member with earlier | last
    · exact closed text earlier nonempty
    · have returned : text = "" := by simpa using last
      exact absurd returned nonempty
  · obtain ⟨quiet, asked, placedNow, whole⟩ := rendered.frames placed
    constructor
    · rw [headersOf_append, headers, quiet, untried, more, Nat.add_zero]
    · rw [footersOf_append, footers, Nat.add_comm, asked]
    · intro empty
      exact absurd (same.trans (more ▸ empty)) filled
    · exact placedNow
    · intro text member nonempty
      rcases List.mem_append.mp member with earlier | last
      · rw [if_pos (closed text earlier nonempty)] at asked
        by_contra lost
        rw [if_neg lost] at asked
        omega
      · have returned : .ok text = result := by simpa using last
        exact whole (returned ▸ rfl)

/-- Whatever is called on a batch, its footer is asked for at most once. Its header is asked for
with every valid command that is tried until one is accepted: once for each that is turned away
before, and once for the first that is accepted. Once a text has been returned the footer has been
asked for, and the header just once if no valid command was turned away before. -/
theorem header_and_footer_counted {placeholder : String → String} {limits : Limits}
    {options : BatchOptions} (history : History (fresh placeholder limits options) calls trace b) :
    headersOf trace = turnedAway calls + (if accepted calls = [] then 0 else 1) ∧
      footersOf trace ≤ 1 ∧
      ∀ text, .finalized (.ok text) ∈ calls → text ≠ "" →
        headersOf trace = turnedAway calls + 1 ∧ footersOf trace = 1 := by
  have framed : Framed calls trace b := by
    induction history with
    | start => exact ⟨rfl, rfl, fun _ => rfl, rfl, by simp⟩
    | call earlier step ih =>
      have same := earlier.commands_eq rfl
      cases step with
      | tried run => exact ih.tried same run
      | finalized run => exact ih.finalized same run
  obtain ⟨headers, footers, unclosed, -, closed⟩ := framed
  refine ⟨headers, ?_, fun text member filled => ?_⟩
  · rw [footers]
    split <;> simp
  · have footer := closed text member filled
    have some : accepted calls ≠ [] := fun empty => by simp [unclosed empty] at footer
    rw [headers, footers, if_neg some, if_pos footer]
    exact ⟨rfl, rfl⟩

/-- The text of one insert cannot be written at first. When it is asked for again, header and footer
have each been asked for once. -/
theorem header_and_footer_counted_once :
    ∃ (calls : List Call) (trace : List Exchange) (b : Batch) (text : String),
      History (fresh atPlaceholder (.caps 9 9) {}) calls trace b ∧
      .finalized (.ok text) ∈ calls ∧ text ≠ "" ∧ turnedAway calls = 0 ∧
      headersOf trace = turnedAway calls + 1 ∧ footersOf trace = 1 := by
  let first : Batch := fresh atPlaceholder (.caps 9 9) {}
  let begun : Batch := { first with script := { text := "-- batch\n" } }
  let one : Batch := begun.push (.identityInsert 0)
  let body := "-- batch\n" ++ ("INSERT;\n" ++ "")
  let script : Script :=
    { text := body ++ "-- end\n"
      rendered := 1
      footerAt := some body.length
      footer := some "-- end\n" }
  let closed : Batch := { one with script }
  have added : (first.tryAdd (.identityInsert 0)).Runs [⟨.header, "-- batch\n"⟩]
      (one, .ok .added) :=
    .exchange ⟨.header, _⟩ (.done _)
  have failed : one.finalize.Runs
      [⟨.fragment (.identityInsert 0), Rendering.mk "INS" (some (.storeInternal "boom"))⟩]
      (one, .error (.storeInternal "boom")) :=
    .exchange ⟨.fragment _, Rendering.mk "INS" _⟩ (.done _)
  have rendered : one.finalize.Runs
      [⟨.fragment (.identityInsert 0), Rendering.mk "INSERT;\n" none⟩, ⟨.footer, "-- end\n"⟩]
      (closed, .ok script.text) :=
    .exchange ⟨.fragment _, Rendering.mk _ none⟩ (.exchange ⟨.footer, "-- end\n"⟩ (.done _))
  have history : History first _ _ closed :=
    ((History.start.call (.tried added)).call (.finalized failed)).call (.finalized rendered)
  have returned : Call.finalized (.ok script.text) ∈ [Call.tried (.identityInsert 0) (.ok .added),
      .finalized (.error (.storeInternal "boom")), .finalized (.ok script.text)] := by simp
  have filled : script.text ≠ "" := by decide
  obtain ⟨-, -, whole⟩ := header_and_footer_counted history
  exact ⟨_, _, closed, script.text, history, returned, filled, rfl, whole _ returned filled⟩

/-- The caps leave no room for a parameter, so a delete by key is turned away before an insert is
accepted. The text of the batch then has one header, but two were asked for. -/
theorem header_asked_for_twice :
    ∃ (calls : List Call) (trace : List Exchange) (b : Batch) (text : String),
      History (fresh atPlaceholder (.caps 9 0) {}) calls trace b ∧
      .finalized (.ok text) ∈ calls ∧ text = "-- batch\nINSERT;\n-- end\n" ∧
      headersOf trace = 2 := by
  let first : Batch := fresh atPlaceholder (.caps 9 0) {}
  let begun : Batch := { first with script := { text := "-- batch\n" } }
  let one : Batch := begun.push (.identityInsert 1)
  let body := "-- batch\n" ++ ("INSERT;\n" ++ "")
  let script : Script :=
    { text := body ++ "-- end\n"
      rendered := 1
      footerAt := some body.length
      footer := some "-- end\n" }
  let closed : Batch := { one with script }
  have full : (first.tryAdd (.keyDelete 0)).Runs (⟨.header, "-- batch\n"⟩ :: begun.reportFull)
      (begun, .ok (.full (.keyDelete 0))) :=
    .exchange ⟨.header, _⟩ (.exchange ⟨.log _, ()⟩ (.exchange ⟨.record _, ()⟩ (.done _)))
  have added : (begun.tryAdd (.identityInsert 1)).Runs [⟨.header, "-- batch\n"⟩]
      (one, .ok .added) :=
    .exchange ⟨.header, _⟩ (.done _)
  have rendered : one.finalize.Runs
      [⟨.fragment (.identityInsert 1), Rendering.mk "INSERT;\n" none⟩, ⟨.footer, "-- end\n"⟩]
      (closed, .ok script.text) :=
    .exchange ⟨.fragment _, Rendering.mk _ none⟩ (.exchange ⟨.footer, "-- end\n"⟩ (.done _))
  have history : History first _ _ closed :=
    ((History.start.call (.tried full)).call (.tried added)).call (.finalized rendered)
  exact ⟨_, _, closed, script.text, history, by simp, rfl, rfl⟩

end Batch

end BatchedSave
