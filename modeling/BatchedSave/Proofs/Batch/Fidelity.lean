import BatchedSave.Proofs.Batch.History
import BatchedSave.Proofs.Program.Surroundings

/-!
# The kept text is a faithful rendering

The text of a batch is rendered piecemeal, with a watermark, a footer that is cut off and put back,
and fragments that are thrown away when one of them fails. `Script.Holds` ties all of these to the
commands of the batch: the text is that of the commands below the watermark. It is kept by every
call, so at every moment the text is a rendering of a prefix of the accepted commands, and a text
that is returned is a rendering of all of them.
-/
namespace BatchedSave

/-- What a dialect writes unless it fails. -/
structure Wording where
  header : String
  footer : String
  fragment : Command → String

namespace Wording

def body (w : Wording) (commands : List Command) : String :=
  w.header ++ String.join (commands.map w.fragment)

/-- The text of commands. It has a footer once it has a command. -/
def text (w : Wording) (commands : List Command) : String :=
  w.body commands ++ if commands.isEmpty then "" else w.footer

end Wording

namespace Exchange

/-- The dialect keeps to its wording. When it fails it may write anything. -/
def KeepsTo (w : Wording) : Exchange → Prop
  | ⟨.header, text⟩ => text = w.header
  | ⟨.footer, text⟩ => text = w.footer
  | ⟨.fragment c, r⟩ => r.failure = none → r.text = w.fragment c
  | _ => True

/-- The dialect fails to write a command. -/
def FailsToWrite : Exchange → Prop
  | ⟨.fragment _, r⟩ => r.failure ≠ none
  | _ => False

/-- The command whose fragment is asked for. -/
def fragmentOf? : Exchange → Option Command
  | ⟨.fragment c, _⟩ => some c
  | _ => none

end Exchange

/-- The commands whose fragments are asked for in a trace. -/
def fragmentsOf (trace : List Exchange) : List Command :=
  trace.filterMap Exchange.fragmentOf?

@[simp] theorem fragmentsOf_nil : fragmentsOf [] = [] := rfl

@[simp] theorem fragmentsOf_append (before after : List Exchange) :
    fragmentsOf (before ++ after) = fragmentsOf before ++ fragmentsOf after :=
  List.filterMap_append

namespace Script

/-- A script holds the text of the commands below its watermark. -/
structure Holds (s : Script) (w : Wording) (commands : List Command) : Prop where
  watermark : s.rendered ≤ commands.length
  text : s.text = w.text (commands.take s.rendered)
  footerAt : s.footerAt =
    if s.rendered = 0 then none else some (w.body (commands.take s.rendered)).length
  footer : s.footer = if s.rendered = 0 then none else some w.footer

variable {w : Wording} {s after : Script} {commands : List Command} {trace : List Exchange}

theorem holds_started (w : Wording) : Holds { text := w.header } w [] where
  watermark := Nat.le_refl 0
  text := by simp [Wording.text, Wording.body]
  footerAt := rfl
  footer := rfl

/-- What is below the watermark stays below it when a command is added. -/
theorem Holds.push (holds : s.Holds w commands) (c : Command) : s.Holds w (commands ++ [c]) := by
  have below : (commands ++ [c]).take s.rendered = commands.take s.rendered :=
    List.take_append_of_le_length holds.watermark
  obtain ⟨watermark, text, footerAt, footer⟩ := holds
  exact ⟨by simp; omega, by rw [below, text], by rw [below, footerAt], footer⟩

theorem ofList_take_length_append (front back : String) :
    String.ofList ((front ++ back).toList.take front.length) = front := by
  rw [String.toList_append, ← String.length_toList, List.take_left, String.ofList_toList]

/-- Without its footer, the text is the body of the commands below the watermark. -/
theorem Holds.body_eq (holds : s.Holds w commands) :
    s.body = w.body (commands.take s.rendered) := by
  unfold Script.body
  rw [holds.footerAt]
  by_cases none : s.rendered = 0
  · rw [if_pos none, holds.text, none]
    simp [Wording.text]
  · rw [if_neg none, holds.text]
    exact ofList_take_length_append _ _

theorem Holds.closing_runs {footer : String} (holds : s.Holds w commands)
    (run : s.closing.Runs trace footer) (keeps : ∀ x ∈ trace, x.KeepsTo w) :
    footer = w.footer ∧ fragmentsOf trace = [] := by
  unfold closing at run
  rw [holds.footer] at run
  by_cases none : s.rendered = 0
  · rw [if_pos none] at run
    obtain rfl := Program.runs_request_iff.mp run
    exact ⟨keeps _ List.mem_cons_self, rfl⟩
  · rw [if_neg none] at run
    obtain ⟨rfl, rfl⟩ := Program.runs_done_iff.mp run
    exact ⟨rfl, rfl⟩

/-- Fragments that were all written are the wording's, and each was asked for once. -/
theorem Fragmented.written {added : String}
    (fragments : Fragmented commands trace (.ok added)) (keeps : ∀ x ∈ trace, x.KeepsTo w) :
    added = String.join (commands.map w.fragment) ∧ fragmentsOf trace = commands := by
  generalize same : (Except.ok added : Except Error String) = result at fragments
  induction fragments generalizing added with
  | nil =>
    cases same
    exact ⟨rfl, rfl⟩
  | failed => cases same
  | @cons c rest trace result text more ih =>
    cases result with
    | error e => cases same
    | ok others =>
      obtain ⟨here, behind⟩ := List.forall_mem_cons.mp keeps
      obtain ⟨joined, asked⟩ := ih behind rfl
      have written : text = w.fragment c := here rfl
      cases same
      refine ⟨?_, congrArg (c :: ·) asked⟩
      rw [joined, written, List.map_cons, String.join_cons]

theorem Fragmented.fails {e : Error} (fragments : Fragmented commands trace (.error e)) :
    ∃ x ∈ trace, x.FailsToWrite := by
  generalize same : (Except.error e : Except Error String) = result at fragments
  induction fragments with
  | nil => cases same
  | failed junk e => exact ⟨_, List.mem_cons_self, by simp [Exchange.FailsToWrite]⟩
  | @cons c rest trace result text more ih =>
    cases result with
    | ok others => cases same
    | error e' =>
      cases same
      obtain ⟨x, member, fails⟩ := ih rfl
      exact ⟨x, List.mem_cons_of_mem _ member, fails⟩

/-- A rendering keeps the script faithful. It renders everything or changes nothing, and unless a
fragment fails it asks once for each command between the old and the new watermark. -/
theorem Rendered.holds {result : Except Error String}
    (rendered : s.Rendered commands trace after result) (holds : s.Holds w commands)
    (some : commands ≠ []) (keeps : ∀ x ∈ trace, x.KeepsTo w) :
    after.Holds w commands ∧ (∀ text, result = .ok text → text = w.text commands) ∧
      (∀ e, result = .error e → after = s) ∧
      ((∀ x ∈ trace, ¬ x.FailsToWrite) →
        commands.take after.rendered = commands.take s.rendered ++ fragmentsOf trace) := by
  cases rendered with
  | complete all closed =>
    refine ⟨holds, ?_, by simp, by simp⟩
    rintro text same
    cases same
    rw [holds.text, all, List.take_length]
  | failed fragments =>
    refine ⟨holds, by simp, fun _ _ => rfl, fun faultless => ?_⟩
    obtain ⟨x, member, fails⟩ := fragments.fails
    exact absurd fails (faultless x member)
  | @extended asked closing added footer incomplete fragments closed =>
    obtain ⟨first, last⟩ := List.forall_mem_append.mp keeps
    obtain ⟨joined, each⟩ := fragments.written first
    obtain ⟨same, quiet⟩ := holds.closing_runs closed last
    -- the body ends at the watermark, and the fragments go on from there
    have whole : s.body ++ added = w.body commands := by
      rw [holds.body_eq, joined]
      unfold Wording.body
      rw [String.append_assoc, ← String.join_append, ← List.map_append, List.take_append_drop]
    have full : w.text commands = s.body ++ added ++ footer := by
      rw [whole, same, Wording.text, if_neg (by simpa using some)]
    have filled : commands.length ≠ 0 := by simpa using some
    refine ⟨⟨Nat.le_refl _, ?_, ?_, ?_⟩, ?_, by simp, fun _ => ?_⟩
    · rw [List.take_length, full]
    · rw [if_neg filled, List.take_length, whole]
    · rw [if_neg filled, same]
    · rintro text same
      cases same
      exact full.symm
    · rw [fragmentsOf_append, each, quiet, List.append_nil, List.take_length,
        List.take_append_drop]

end Script

namespace Batch

/-- What holds of a batch at every moment of a history. -/
structure Kept (w : Wording) (b : Batch) (trace : List Exchange) : Prop where
  script : b.commands ≠ [] → b.script.Holds w b.commands
  asked : (∀ x ∈ trace, ¬ x.FailsToWrite) →
    fragmentsOf trace = b.commands.take b.script.rendered

variable {w : Wording} {b ready after : Batch} {c : Command} {trace opening : List Exchange}

/-- Limits ask for no fragment. -/
theorem fragmentsOf_limits {α : Type} {p : Program α} {a : α} (asked : p.Asks Request.OfLimits)
    (run : p.Runs trace a) : fragmentsOf trace = [] := by
  refine asked.filterMap_eq_nil (fun x ofLimits => ?_) run
  obtain ⟨request, answer⟩ := x
  cases request
  case fragment => exact ofLimits.elim
  all_goals rfl

/-- Exchanges that ask for no fragment change nothing. -/
theorem Kept.quiet {more : List Exchange} (kept : Kept w b trace)
    (silent : fragmentsOf more = []) : Kept w b (trace ++ more) where
  script := kept.script
  asked faultless := by
    rw [fragmentsOf_append, silent, List.append_nil]
    exact kept.asked fun x member => faultless x (List.mem_append_left _ member)

/-- A batch that has been made ready is faithful even if it is empty. -/
theorem Kept.readied (kept : Kept w b trace) (readied : b.Readied opening ready)
    (keeps : ∀ x ∈ opening, x.KeepsTo w) :
    ready.script.Holds w ready.commands ∧ Kept w ready (trace ++ opening) := by
  cases readied with
  | opened header empty =>
    obtain rfl : header = w.header := keeps _ List.mem_cons_self
    -- nothing has been asked for yet, as there was no command to render
    have begun := Script.holds_started w
    refine ⟨empty ▸ begun, fun _ => empty ▸ begun, fun faultless => ?_⟩
    have asked := kept.asked fun x member => faultless x (List.mem_append_left _ member)
    rw [fragmentsOf_append, asked, empty]
    simp [fragmentsOf, Exchange.fragmentOf?]
  | kept filled =>
    rw [List.append_nil]
    exact ⟨kept.script filled, kept⟩

/-- A command that is added waits above the watermark. -/
theorem Kept.push (kept : Kept w b trace) (holds : b.script.Holds w b.commands) (c : Command) :
    Kept w (b.push c) trace where
  script _ := holds.push c
  asked faultless := by
    rw [kept.asked faultless]
    exact (List.take_append_of_le_length holds.watermark).symm

/-- One call keeps a batch faithful. -/
theorem Kept.step {exchanges : List Exchange} {next : Call} (kept : Kept w b trace)
    (step : b.Step next exchanges after) (keeps : ∀ x ∈ exchanges, x.KeepsTo w) :
    Kept w after (trace ++ exchanges) := by
  cases step with
  | tried run =>
    cases tryAdd_runs run with
    | refused =>
      rw [List.append_nil]
      exact kept
    | declined _ readied answered =>
      simp only [List.forall_mem_append] at keeps
      obtain ⟨-, readied⟩ := kept.readied readied keeps.1.1
      have asked := fragmentsOf_limits (b.limits.mayAdd_asks _ _) answered
      simp only [← List.append_assoc]
      exact (readied.quiet asked).quiet rfl
    | added _ readied answered accepted =>
      simp only [List.forall_mem_append] at keeps
      obtain ⟨holds, readied⟩ := kept.readied readied keeps.1.1
      have asked := fragmentsOf_limits (b.limits.mayAdd_asks _ _) answered
      have checked := fragmentsOf_limits (b.limits.accepts_asks _) accepted
      simp only [← List.append_assoc]
      exact ((readied.push holds _).quiet asked).quiet checked
    | rejected _ readied answered accepted =>
      simp only [List.forall_mem_append] at keeps
      obtain ⟨-, readied⟩ := kept.readied readied keeps.1.1.1
      have asked := fragmentsOf_limits (b.limits.mayAdd_asks _ _) answered
      have checked := fragmentsOf_limits (b.limits.accepts_asks _) accepted
      simp only [← List.append_assoc]
      exact ((readied.quiet asked).quiet checked).quiet rfl
    | failed _ readied answered accepted =>
      simp only [List.forall_mem_append] at keeps
      obtain ⟨-, readied⟩ := kept.readied readied keeps.1.1
      have asked := fragmentsOf_limits (b.limits.mayAdd_asks _ _) answered
      have checked := fragmentsOf_limits (b.limits.accepts_asks _) accepted
      simp only [← List.append_assoc]
      exact (readied.quiet asked).quiet checked
  | finalized run =>
    rcases finalize_runs run with ⟨-, rfl, rfl, -⟩ | ⟨filled, script, rfl, rendered⟩
    · rw [List.append_nil]
      exact kept
    obtain ⟨holds, -, -, each⟩ := rendered.holds (kept.script filled) filled keeps
    refine ⟨fun _ => holds, fun faultless => ?_⟩
    obtain ⟨before, now⟩ := List.forall_mem_append.mp faultless
    rw [fragmentsOf_append, kept.asked before]
    exact (each now).symm

theorem History.kept {placeholder : String → String} {limits : Limits} {options : BatchOptions}
    {calls : List Call} (history : History (fresh placeholder limits options) calls trace b)
    (keeps : ∀ x ∈ trace, x.KeepsTo w) : Kept w b trace := by
  induction history with
  | start => exact ⟨fun filled => absurd rfl filled, fun _ => rfl⟩
  | call _ step ih =>
    obtain ⟨before, now⟩ := List.forall_mem_append.mp keeps
    exact (ih before).step step now

/-- Whatever calls were made on a batch, in whichever order and with whichever failures, its kept
text is a rendering of some of the commands accepted first, with a footer once it has a command. If
no fragment failed, the fragments of these commands have been asked for, in order and once. The text
that is asked for next is either complete or an error that leaves the kept text as it is. -/
theorem text_faithful {placeholder : String → String} {limits : Limits} {options : BatchOptions}
    {calls : List Call} (history : History (fresh placeholder limits options) calls trace b)
    (keeps : ∀ x ∈ trace, x.KeepsTo w) :
    (∃ n, n ≤ (accepted calls).length ∧
      (accepted calls ≠ [] → b.cachedText = w.text ((accepted calls).take n)) ∧
      ((∀ x ∈ trace, ¬ x.FailsToWrite) → fragmentsOf trace = (accepted calls).take n)) ∧
    ∀ {more : List Exchange} {after : Batch} {result : Except Error String},
      b.finalize.Runs more (after, result) → (∀ x ∈ more, x.KeepsTo w) →
        (∀ text, result = .ok text →
          text = if accepted calls = [] then "" else w.body (accepted calls) ++ w.footer) ∧
        (∀ e, result = .error e → after.cachedText = b.cachedText) := by
  have kept := history.kept keeps
  have same := history.commands_eq rfl
  rw [← same]
  constructor
  · by_cases empty : b.commands = []
    · refine ⟨0, Nat.zero_le _, fun filled => absurd empty filled, fun faultless => ?_⟩
      rw [kept.asked faultless, empty, List.take_nil, List.take_nil]
    · have holds := kept.script empty
      exact ⟨b.script.rendered, holds.watermark, fun _ => holds.text, kept.asked⟩
  · intro more after result run keeps
    rcases finalize_runs run with ⟨empty, -, rfl, rfl⟩ | ⟨filled, script, rfl, rendered⟩
    · refine ⟨?_, by simp⟩
      rintro text same
      cases same
      rw [if_pos empty]
    · obtain ⟨-, whole, unchanged, -⟩ := rendered.holds (kept.script filled) filled keeps
      refine ⟨fun text returned => ?_, fun e failed => congrArg Script.text (unchanged e failed)⟩
      rw [whole text returned, if_neg filled, Wording.text, if_neg (by simpa using filled)]

/-- A second command does not fit, and the fragment of the first one fails after some of it has been
written: the text is still the header. -/
theorem text_faithful_after_failure :
    ∃ (calls : List Call) (trace : List Exchange) (b : Batch) (w : Wording),
      History (fresh atPlaceholder (.caps 1 9) {}) calls trace b ∧
      (∀ x ∈ trace, x.KeepsTo w) ∧ accepted calls = [.identityInsert 0] ∧ b.cachedText = w.header ∧
      (∃ n, n ≤ (accepted calls).length ∧
        (accepted calls ≠ [] → b.cachedText = w.text ((accepted calls).take n)) ∧
        ((∀ x ∈ trace, ¬ x.FailsToWrite) → fragmentsOf trace = (accepted calls).take n)) ∧
      ∀ {more : List Exchange} {after : Batch} {result : Except Error String},
        b.finalize.Runs more (after, result) → (∀ x ∈ more, x.KeepsTo w) →
          (∀ text, result = .ok text →
            text = if accepted calls = [] then "" else w.body (accepted calls) ++ w.footer) ∧
          (∀ e, result = .error e → after.cachedText = b.cachedText) := by
  let w : Wording := ⟨"-- batch\n", ";", fun _ => "INSERT"⟩
  let first : Batch := fresh atPlaceholder (.caps 1 9) {}
  let one : Batch := { first with
    commands := [.identityInsert 0]
    script := { text := w.header } }
  have added : (first.tryAdd (.identityInsert 0)).Runs [⟨.header, w.header⟩] (one, .ok .added) :=
    .exchange ⟨.header, w.header⟩ (.done _)
  have failed : one.finalize.Runs
      [⟨.fragment (.identityInsert 0), Rendering.mk "INS" (some (.storeInternal "boom"))⟩]
      (one, .error (.storeInternal "boom")) :=
    .exchange ⟨.fragment _, Rendering.mk "INS" _⟩ (.done _)
  have full : (one.tryAdd (.identityInsert 1)).Runs one.reportFull
      (one, .ok (.full (.identityInsert 1))) :=
    .exchange ⟨.log _, ()⟩ (.exchange ⟨.record _, ()⟩ (.done _))
  have history := ((History.start.call (.tried added)).call (.finalized failed)).call (.tried full)
  have keeps : ∀ x ∈ [] ++ [⟨.header, w.header⟩] ++
      [⟨.fragment (.identityInsert 0), Rendering.mk "INS" (some (.storeInternal "boom"))⟩] ++
      one.reportFull, Exchange.KeepsTo w x := by
    simp [Exchange.KeepsTo, reportFull]
  exact ⟨_, _, one, w, history, keeps, rfl, rfl, text_faithful history keeps⟩

end Batch

end BatchedSave
