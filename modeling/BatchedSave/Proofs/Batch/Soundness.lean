import Mathlib.Algebra.BigOperators.Group.List.Basic
import Mathlib.Algebra.GroupWithZero.Nat
import BatchedSave.Proofs.Batch.History

/-!
# Batches are within their limits

A command is appended before it is checked and taken out again on two different paths. Whatever is
called on a batch, it is `Sound` between the calls: its running count is that of its commands, these
are valid, and a policy accepts them as they are.
-/
namespace BatchedSave.Batch

/-- What a batch was set up with. -/
def setup (b : Batch) : (String → String) × Limits × BatchOptions :=
  (b.placeholder, b.limits, b.options)

/-- The count is that of the commands, which are valid and, if there are any, accepted by limits
that answer by what they see. -/
structure Sound (b : Batch) : Prop where
  counted : b.parameterCount = (b.commands.map (·.parameterCount)).sum
  valid : ∀ c ∈ b.commands, c.validate = .ok ()
  fits : ∀ p, b.limits = .policy p → b.commands ≠ [] → p.accepts b.view = .ok true

variable {b ready after : Batch} {c : Command} {trace : List Exchange}

theorem sound_fresh (placeholder : String → String) (limits : Limits) (options : BatchOptions) :
    (fresh placeholder limits options).Sound where
  counted := rfl
  valid := by simp [fresh]
  fits _ _ filled := absurd rfl filled

theorem Sound.push (sound : b.Sound) (valid : c.validate = .ok ())
    (accepted : ∀ p, b.limits = .policy p → p.accepts (b.push c).view = .ok true) :
    (b.push c).Sound where
  counted := by simp [Batch.push, sound.counted]
  valid c' member := by
    rcases List.mem_append.mp member with earlier | last
    · exact sound.valid c' earlier
    · obtain rfl := List.mem_singleton.mp last
      exact valid
  fits p policy _ := accepted p policy

theorem Readied.setup_eq (readied : b.Readied trace ready) : ready.setup = b.setup := by
  cases readied <;> rfl

theorem Tried.setup_eq {result : Except Error Admission} (tried : b.Tried c trace after result) :
    after.setup = b.setup := by
  cases tried with
  | refused => rfl
  | declined _ readied => exact readied.setup_eq
  | @added _ _ _ ready _ readied =>
    have pushed : (ready.push c).setup = ready.setup := rfl
    exact pushed.trans readied.setup_eq
  | rejected _ readied => exact readied.setup_eq
  | failed _ readied => exact readied.setup_eq

theorem Step.setup_eq {next : Call} (step : b.Step next trace after) : after.setup = b.setup := by
  cases step with
  | tried run => exact (tryAdd_runs run).setup_eq
  | finalized run =>
    rcases finalize_runs run with ⟨-, -, rfl, -⟩ | ⟨-, script, rfl, -⟩ <;> rfl

/-- No call changes what a batch was set up with. -/
theorem History.setup_eq {first : Batch} {calls : List Call}
    (history : History first calls trace b) : b.setup = first.setup := by
  induction history with
  | start => rfl
  | call _ step ih => exact step.setup_eq.trans ih

/-- Making a batch ready changes nothing but its script. -/
theorem Readied.sound (readied : b.Readied trace ready) (sound : b.Sound) : ready.Sound := by
  obtain ⟨counted, valid, fits⟩ := sound
  cases readied with
  | opened header empty => exact ⟨counted, valid, fits⟩
  | kept filled => exact ⟨counted, valid, fits⟩

/-- A command that is tried is added only if it is valid and accepted; otherwise the batch holds
what it held before. -/
theorem Tried.sound {result : Except Error Admission} (tried : b.Tried c trace after result)
    (sound : b.Sound) : after.Sound := by
  cases tried with
  | refused => exact sound
  | declined _ readied => exact readied.sound sound
  | added valid readied _ accepted =>
    refine (readied.sound sound).push valid fun p policy => ?_
    have limits := congrArg (·.2.1) readied.setup_eq
    simp only [setup, policy] at limits
    rw [← limits] at accepted
    exact (Program.runs_done_iff.mp accepted).2.symm
  | rejected _ readied => exact readied.sound sound
  | failed _ readied => exact readied.sound sound

/-- One call keeps a batch sound. -/
theorem Step.sound {next : Call} (step : b.Step next trace after) (sound : b.Sound) :
    after.Sound := by
  cases step with
  | tried run => exact (tryAdd_runs run).sound sound
  | finalized run =>
    rcases finalize_runs run with ⟨-, -, rfl, -⟩ | ⟨-, script, rfl, -⟩
    · exact sound
    · exact ⟨sound.counted, sound.valid, sound.fits⟩

/-- A batch is sound at every moment of a history. -/
theorem History.sound {first : Batch} {calls : List Call} (history : History first calls trace b)
    (sound : first.Sound) : b.Sound := by
  induction history with
  | start => exact sound
  | call _ step ih => exact step.sound ih

end BatchedSave.Batch
