import BatchedSave.Proofs.Save.Greedy

/-!
# Caps on commands and parameters

What the caps ask of a group of commands, and how they judge a valid command: it joins those held
exactly if they are still within the caps together with it.
-/
namespace BatchedSave

/-- The commands and their parameters are within the caps. -/
structure Fits (maxCommands maxParameters : Nat) (group : List Command) : Prop where
  commands : group.length ≤ maxCommands
  parameters : (viewOf group).parameterCount ≤ maxParameters

variable {maxCommands maxParameters : Nat} {p : Policy} {held group : List Command} {c : Command}

theorem fits_iff : Fits maxCommands maxParameters group ↔
    group.length ≤ maxCommands ∧ (group.map (·.parameterCount)).sum ≤ maxParameters :=
  ⟨fun fits => ⟨fits.commands, fits.parameters⟩, fun bounds => ⟨bounds.1, bounds.2⟩⟩

instance : Decidable (Fits maxCommands maxParameters group) :=
  decidable_of_iff _ fits_iff.symm

/-- Consecutive commands of a group that is within the caps are. -/
theorem Fits.within (fits : Fits maxCommands maxParameters group) (part : held <:+: group) :
    Fits maxCommands maxParameters held := by
  obtain ⟨before, after, rfl⟩ := part
  simp only [fits_iff, List.length_append, List.map_append, List.sum_append] at fits ⊢
  omega

theorem fits_singleton_iff :
    Fits maxCommands maxParameters [c] ↔ 0 < maxCommands ∧ c.parameterCount ≤ maxParameters := by
  simp [fits_iff, Nat.succ_le_iff]

namespace Policy

theorem judge_valid (joins : p.judge held c = .ok true) : c.validate = .ok () := by
  unfold judge at joins
  split at joins
  · cases joins
  · assumption

/-- A valid command joins those held if it is within the caps with them. -/
theorem judge_caps (capped : .caps maxCommands maxParameters = Limits.policy p)
    (valid : c.validate = .ok ()) :
    p.judge held c = .ok (decide (Fits maxCommands maxParameters (held ++ [c]))) := by
  obtain rfl := Limits.policy.inj capped
  have together : Fits maxCommands maxParameters (held ++ [c]) ↔ held.length < maxCommands ∧
      (held.map (·.parameterCount)).sum + c.parameterCount ≤ maxParameters := by
    simp [fits_iff]
  by_cases room : held.length < maxCommands
  · simp [judge, valid, viewOf, together, room]
  · simp [judge, valid, viewOf, together, room]

/-- A command joins those held only within the caps. -/
theorem fits_of_judge (capped : .caps maxCommands maxParameters = Limits.policy p)
    (joins : p.judge held c = .ok true) : Fits maxCommands maxParameters (held ++ [c]) := by
  rw [judge_caps capped (judge_valid joins)] at joins
  simpa using joins

/-- A command has room in an empty batch if it is valid and no larger than the caps. -/
theorem judge_alone_iff (capped : .caps maxCommands maxParameters = Limits.policy p) :
    p.judge [] c = .ok true ↔
      c.validate = .ok () ∧ 0 < maxCommands ∧ c.parameterCount ≤ maxParameters := by
  constructor
  · intro joins
    exact ⟨judge_valid joins, fits_singleton_iff.mp (fits_of_judge capped joins)⟩
  · intro ⟨valid, small⟩
    rw [judge_caps capped valid]
    simpa using fits_singleton_iff.mpr small

theorem Accepted.fits (capped : .caps maxCommands maxParameters = Limits.policy p)
    (filled : group ≠ []) (accepted : p.Accepted group) : Fits maxCommands maxParameters group := by
  rcases List.eq_nil_or_concat' group with rfl | ⟨before, last, rfl⟩
  · exact absurd rfl filled
  · exact fits_of_judge capped (accepted before last [] rfl)

/-- All groups that are sent are within the caps, also those that are sent one command at a
time. -/
theorem groups_fit (capped : .caps maxCommands maxParameters = Limits.policy p) (least : Nat)
    (commands : List Command) :
    ∀ group ∈ p.groups least commands, Fits maxCommands maxParameters group := by
  intro group member
  obtain ⟨segment, cut, parcel⟩ := List.mem_flatMap.mp member
  have greedy := p.cut_greedy p.accepted_nil commands
  have fits := (greedy.accepted segment cut).fits capped (greedy.filled segment cut)
  unfold Save.parcels at parcel
  split at parcel
  · obtain ⟨c, among, rfl⟩ := List.mem_map.mp parcel
    obtain ⟨before, after, rfl⟩ := List.append_of_mem among
    exact fits.within ⟨before, after, by simp⟩
  · obtain rfl := List.mem_singleton.mp parcel
    exact fits

end Policy

end BatchedSave
