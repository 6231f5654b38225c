import Mathlib.Tactic.SplitIfs
import BatchedSave.Json.Reading
import BatchedSave.Json.Writing

/-!
# Written documents are read back

The text that is written for a document is read as that document. This holds of documents made of
what JSON has words for: a bare word is written as a text and a text without characters as an empty
one, so these are not read back. The reader takes what it reads off the front, so each statement is
about a text with anything behind it; only behind a number may not stand what would prolong it.
-/
namespace BatchedSave

/-- A document made of what JSON has words for, all of its numbers natural. -/
inductive Document.Plain : Document → Prop
  | null : Plain .null
  | bool (b : Bool) : Plain (.bool b)
  | nat (n : Nat) : Plain (.number (.ofNat n))
  | text (s : String) : Plain (.text (some s))
  | list {items : List Document} (each : ∀ d ∈ items, Plain d) : Plain (.list items)
  | record {entries : List (Option String × Document)} (named : ∀ e ∈ entries, e.1.isSome)
      (each : ∀ e ∈ entries, Plain e.2) : Plain (.record entries)

namespace Json

/-! ### Texts -/

theorem hexValue?_hexDigit {n : Nat} (small : n < 32) :
    hexValue? (hexDigit n) = some (n % 16) := by
  have all : ∀ n < 32, hexValue? (hexDigit n) = some (n % 16) := by decide
  exact all n small

/-- An escape for a control spells its code in hexadecimal digits. -/
theorem unit?_control {n : Nat} (control : n < 32) (rest : List Char) :
    unit? ('0' :: '0' :: hexDigit (n / 16) :: hexDigit n :: rest) = some (n, rest) := by
  have zero : hexValue? '0' = some 0 := rfl
  have high : hexValue? (hexDigit (n / 16)) = some (n / 16 % 16) :=
    hexValue?_hexDigit (by omega)
  have low := hexValue?_hexDigit control
  have spelled : 16 * (n / 16 % 16) + n % 16 = n := by omega
  simp [unit?, zero, high, low, spelled]

/-- A character of a text is read back from the way it is escaped. -/
theorem textTail?_escaped (c : Char) (read : List Char) (fuel : Nat) (rest : List Char) :
    textTail? (some read) (fuel + 1) ((escaped c).toList ++ rest) =
      textTail? (some (c :: read)) fuel rest := by
  unfold escaped
  split
  · subst_vars; rfl
  split
  · subst_vars; rfl
  split
  · subst_vars; rfl
  split
  · subst_vars; rfl
  split
  · subst_vars; rfl
  split
  next backspace =>
    obtain rfl : c = Char.ofNat 8 := by rw [← backspace, Char.ofNat_toNat]
    rfl
  split
  next formFeed =>
    obtain rfl : c = Char.ofNat 12 := by rw [← formFeed, Char.ofNat_toNat]
    rfl
  split
  next control =>
    have leading : isLeading c.toNat = false := by simp [isLeading]; omega
    have trailing : isTrailing c.toNat = false := by simp [isTrailing]; omega
    simp [textTail?, unit?_control control, character?, leading, trailing, extend]
  next quote backslash _ _ _ _ _ control =>
    simp [textTail?, quote, backslash, control, extend]

theorem textTail?_written (s read : List Char) (fuel : Nat) (rest : List Char)
    (enough : s.length < fuel) :
    textTail? (some read) fuel ((s.flatMap fun c => (escaped c).toList) ++ '"' :: rest) =
      some (some (String.ofList (read.reverse ++ s)), rest) := by
  induction s generalizing read fuel with
  | nil =>
    obtain ⟨fuel, rfl⟩ := Nat.exists_eq_succ_of_ne_zero (Nat.ne_of_gt enough)
    simp [textTail?]
  | cons c s ih =>
    obtain ⟨fuel, rfl⟩ := Nat.exists_eq_succ_of_ne_zero (Nat.ne_of_gt (Nat.zero_lt_of_lt enough))
    rw [List.flatMap_cons, List.append_assoc, textTail?_escaped,
      ih (c :: read) fuel (Nat.lt_of_succ_lt_succ enough)]
    simp

theorem toList_quoted (s : String) :
    (quoted s).toList = '"' :: ((s.toList.flatMap fun c => (escaped c).toList) ++ ['"']) := by
  simp [quoted, String.toList_join, List.flatMap_map]

theorem escaped_ne_nil (c : Char) : (escaped c).toList ≠ [] := by
  unfold escaped
  split_ifs <;> simp

theorem text?_quoted (s : String) (rest : List Char) :
    text? ((quoted s).toList ++ rest) = some (some s, rest) := by
  have longer (cs : List Char) : cs.length ≤ (cs.flatMap fun c => (escaped c).toList).length := by
    induction cs with
    | nil => exact Nat.le_refl 0
    | cons c cs ih =>
      have first := List.length_pos_iff.mpr (escaped_ne_nil c)
      rw [List.flatMap_cons, List.length_append, List.length_cons]
      omega
  rw [toList_quoted]
  simp only [List.cons_append, List.append_assoc, List.nil_append, text?]
  rw [textTail?_written]
  · simp
  · have := longer s.toList
    simp only [List.length_append, List.length_cons]
    omega

/-! ### Numbers -/

/-- What would prolong a number does not come first. -/
def EndsNumber (rest : List Char) : Prop :=
  ∀ c ∈ rest.head?, c.isDigit = false ∧ c ≠ '.' ∧ c ≠ 'e' ∧ c ≠ 'E'

theorem endsNumber_nil : EndsNumber [] := nofun

theorem digits_toDigits (n : Nat) {rest : List Char} (ends : EndsNumber rest) :
    digits (Nat.toDigits 10 n ++ rest) = ((Nat.toDigits 10 n).map digit, rest) := by
  have all : ∀ c ∈ Nat.toDigits 10 n, c.isDigit = true :=
    fun c member => Nat.isDigit_of_mem_toDigits (by decide) (by decide) member
  have stops : rest.takeWhile Char.isDigit = [] ∧ rest.dropWhile Char.isDigit = rest := by
    cases rest with
    | nil => exact ⟨rfl, rfl⟩
    | cons c rest => simp [(ends c rfl).1]
  rw [digits, List.takeWhile_append_of_pos all, List.dropWhile_append_of_pos all, stops.1,
    stops.2, List.append_nil]

theorem ofDigits_toDigits (n : Nat) :
    Layout.ofDigits ((Nat.toDigits 10 n).map digit) = n := by
  have read := Nat.ofDigitChars_toDigits (b := 10) (n := n) (by decide) (by decide)
  rw [Nat.ofDigitChars_eq_foldl] at read
  rw [Layout.ofDigits, List.foldl_map]
  exact read

/-- A number starts with a digit, and a zero in front is its only one. -/
theorem toDigits_leading (n : Nat) : ∃ c cs, Nat.toDigits 10 n = c :: cs ∧ c.isDigit = true ∧
    (digit c = 0 → cs = []) := by
  cases written : Nat.toDigits 10 n with
  | nil => exact absurd written Nat.toDigits_ne_nil
  | cons c cs =>
    have isDigit : c.isDigit = true := by
      refine Nat.isDigit_of_mem_toDigits (b := 10) (n := n) (by decide) (by decide) ?_
      rw [written]
      exact List.mem_cons_self
    refine ⟨c, cs, rfl, isDigit, fun zero => ?_⟩
    by_cases small : n < 10
    · rw [Nat.toDigits_of_lt_base small] at written
      exact (List.cons.inj written).2.symm
    · rw [Nat.toDigits_of_base_le (by decide) (Nat.le_of_not_lt small)] at written
      -- the digits in front are those of a number that is not zero
      obtain ⟨c', cs', front, -, alone⟩ := toDigits_leading (n / 10)
      rw [front, List.cons_append] at written
      obtain ⟨rfl, -⟩ := List.cons.inj written
      have whole := ofDigits_toDigits (n / 10)
      rw [front, alone zero] at whole
      have none : n / 10 = 0 := by simpa [Layout.ofDigits, zero, eq_comm] using whole
      omega
termination_by n
decreasing_by omega

theorem whole?_toDigits (n : Nat) {rest : List Char} (ends : EndsNumber rest) :
    whole? (Nat.toDigits 10 n ++ rest) = some (n, rest) := by
  obtain ⟨c, cs, written, -, alone⟩ := toDigits_leading n
  have read := digits_toDigits n ends
  have whole := ofDigits_toDigits n
  rw [written, List.map_cons] at read whole
  have found : someDigits? (Nat.toDigits 10 n ++ rest) = some (digit c :: cs.map digit, rest) := by
    rw [written, someDigits?, read]
  have single : ¬ (digit c = 0 ∧ 0 < cs.length) := by
    rintro ⟨zero, more⟩
    rw [alone zero] at more
    exact absurd more (Nat.lt_irrefl 0)
  simp [whole?, found, whole, single]

theorem fraction?_none {rest : List Char} (ends : EndsNumber rest) :
    fraction? rest = some ([], rest) := by
  unfold fraction?
  split
  next => exact absurd rfl (ends '.' rfl).2.1
  next => rfl

theorem exponent?_none {rest : List Char} (ends : EndsNumber rest) :
    exponent? rest = some (none, rest) := by
  unfold exponent?
  split
  next c cs =>
    obtain ⟨-, -, lower, upper⟩ := ends c rfl
    simp [lower, upper]
  next => rfl

theorem toList_ofNat (n : Nat) : (Numeral.ofNat n).text.toList = Nat.toDigits 10 n := by
  simp [Numeral.text, Numeral.ofNat, Nat.toList_repr]

theorem number?_ofNat (n : Nat) {rest : List Char} (ends : EndsNumber rest) :
    number? ((Numeral.ofNat n).text.toList ++ rest) = some (.ofNat n, rest) := by
  rw [toList_ofNat]
  have whole := whole?_toDigits n ends
  obtain ⟨c, cs, written, isDigit, -⟩ := toDigits_leading n
  rw [written, List.cons_append] at whole ⊢
  have unsigned : c ≠ '-' := by
    rintro rfl
    cases isDigit
  simp [number?, unsigned, whole, fraction?_none ends, exponent?_none ends, Numeral.ofNat]

/-! ### Documents -/

theorem endsNumber_cons {c : Char} (rest : List Char)
    (ends : c.isDigit = false ∧ c ≠ '.' ∧ c ≠ 'e' ∧ c ≠ 'E') : EndsNumber (c :: rest) := by
  rintro c' ⟨⟩
  exact ends

/-- What a list or a record goes on or ends with prolongs no number and is not passed over. -/
theorem endsNumber_mark (rest : List Char) :
    EndsNumber (',' :: rest) ∧ EndsNumber (']' :: rest) ∧ EndsNumber ('\x7d' :: rest) :=
  ⟨endsNumber_cons rest (by decide), endsNumber_cons rest (by decide),
    endsNumber_cons rest (by decide)⟩

/-- The text of the document is read as the document, given fuel for each of its characters. -/
def Reread (d : Document) : Prop :=
  ∀ (fuel : Nat) (rest : List Char), (write d).toList.length ≤ fuel → EndsNumber rest →
    value? (fuel + 1) ((write d).toList ++ rest) = some (d, rest)

theorem isBlank_of_isDigit {c : Char} (isDigit : c.isDigit = true) : isBlank c = false := by
  unfold isBlank
  have none : ¬ (((c = ' ' ∨ c = '\n') ∨ c = '\r') ∨ c = '\t') := by
    rintro (((rfl | rfl) | rfl) | rfl) <;> cases isDigit
  simpa using none

theorem skipBlanks_cons {c : Char} (dark : isBlank c = false) (cs : List Char) :
    skipBlanks (c :: cs) = c :: cs := by
  simp [skipBlanks, dark]

theorem reread_nat (n : Nat) : Reread (.ofNat n) := by
  intro fuel rest _ ends
  have read := number?_ofNat n ends
  obtain ⟨c, cs, digits, isDigit, -⟩ := toDigits_leading n
  rw [toList_ofNat, digits, List.cons_append] at read
  have text : (write (.ofNat n)).toList = c :: cs := (toList_ofNat n).trans digits
  rw [text, List.cons_append, value?, skipBlanks_cons (isBlank_of_isDigit isDigit)]
  split
  case h_7 => simp [read, Document.ofNat]
  all_goals
    next same =>
      obtain ⟨rfl, -⟩ := List.cons.inj same
      cases isDigit

theorem reread_text (s : String) : Reread (.ofText s) := by
  intro fuel rest _ _
  have read := text?_quoted s rest
  have text : (write (.ofText s)).toList = (quoted s).toList := rfl
  rw [toList_quoted, List.cons_append] at read
  rw [text, toList_quoted, List.cons_append, value?, skipBlanks_cons rfl]
  simp only [read, Option.bind_eq_bind, Option.bind_some]
  rfl

theorem toList_list (items : List Document) :
    (write (.list items)).toList =
      '[' :: ((",".intercalate (writeItems items)).toList ++ [']']) := by
  rw [write, String.append_assoc, String.toList_append, String.toList_append]
  rfl

theorem toList_record (entries : List (Option String × Document)) :
    (write (.record entries)).toList =
      '\x7b' :: ((",".intercalate (writeEntries entries)).toList ++ ['\x7d']) := by
  rw [write, String.append_assoc, String.toList_append, String.toList_append]
  rfl

theorem toList_intercalate_cons (first second : String) (others : List String) :
    (",".intercalate (first :: second :: others)).toList =
      first.toList ++ ',' :: (",".intercalate (second :: others)).toList := by
  rw [String.intercalate_cons_cons, String.append_assoc, String.toList_append,
    String.toList_append]
  rfl

theorem toList_intercalate_front (first : String) (others : List String) :
    ∃ more, (",".intercalate (first :: others)).toList = first.toList ++ more := by
  cases others with
  | nil => exact ⟨[], by simp⟩
  | cons second others => exact ⟨_, toList_intercalate_cons first second others⟩

/-- The first character of a text is none that a list or a record could end with. -/
theorem write_leading {d : Document} (plain : d.Plain) :
    ∃ c cs, (write d).toList = c :: cs ∧ isBlank c = false ∧ c ≠ ']' := by
  cases plain with
  | null => exact ⟨_, _, rfl, rfl, by decide⟩
  | bool b => cases b <;> exact ⟨_, _, rfl, rfl, by decide⟩
  | nat n =>
    obtain ⟨c, cs, digits, isDigit, -⟩ := toDigits_leading n
    refine ⟨c, cs, (toList_ofNat n).trans digits, isBlank_of_isDigit isDigit, ?_⟩
    rintro rfl
    cases isDigit
  | text s => exact ⟨_, _, toList_quoted s, rfl, by decide⟩
  | list each => exact ⟨'[', _, toList_list _, rfl, by decide⟩
  | record named each => exact ⟨'\x7b', _, toList_record _, rfl, by decide⟩

theorem items?_write {d : Document} {items : List Document}
    (each : ∀ d' ∈ d :: items, Reread d') (fuel : Nat) (rest : List Char)
    (enough : (",".intercalate (writeItems (d :: items))).toList.length ≤ fuel) :
    items? (fuel + 2) ((",".intercalate (writeItems (d :: items))).toList ++ ']' :: rest) =
      some (d :: items, rest) := by
  induction items generalizing d fuel with
  | nil =>
    have alone : ",".intercalate (writeItems [d]) = write d := String.intercalate_singleton
    rw [alone] at enough ⊢
    have read := each d List.mem_cons_self fuel (']' :: rest) enough (endsNumber_mark rest).2.1
    rw [items?, read]
    rfl
  | cons d' items ih =>
    obtain ⟨here, others⟩ := List.forall_mem_cons.mp each
    rw [writeItems, writeItems, toList_intercalate_cons, ← writeItems] at enough ⊢
    rw [List.length_append, List.length_cons] at enough
    rw [List.append_assoc, List.cons_append]
    have read := here fuel
      (',' :: ((",".intercalate (writeItems (d' :: items))).toList ++ ']' :: rest)) (by omega)
      (endsNumber_mark _).1
    obtain ⟨fuel, rfl⟩ := Nat.exists_eq_succ_of_ne_zero (n := fuel) (by omega)
    have more := ih others fuel (by omega)
    rw [items?, read]
    simp only [Option.bind_eq_bind, Option.bind_some, skipBlanks_cons (c := ',') rfl, more]

theorem toList_writeEntry (name : String) (d : Document) :
    (writeEntry (some name, d)).toList = (quoted name).toList ++ ':' :: (write d).toList := by
  rw [writeEntry, String.append_assoc, String.toList_append, String.toList_append]
  rfl

theorem text?_name (name : String) (rest : List Char) :
    text? (skipBlanks ((quoted name).toList ++ rest)) = some (some name, rest) := by
  rw [← text?_quoted, toList_quoted, List.cons_append, skipBlanks_cons rfl]

theorem entries?_write {name : String} {d : Document} {entries : List (Option String × Document)}
    (named : ∀ e ∈ entries, e.1.isSome) (here : Reread d) (others : ∀ e ∈ entries, Reread e.2)
    (fuel : Nat) (rest : List Char)
    (enough : (",".intercalate (writeEntries ((some name, d) :: entries))).toList.length ≤ fuel) :
    entries? (fuel + 2)
        ((",".intercalate (writeEntries ((some name, d) :: entries))).toList ++ '\x7d' :: rest) =
      some ((some name, d) :: entries, rest) := by
  induction entries generalizing name d fuel with
  | nil =>
    have alone : ",".intercalate (writeEntries [(some name, d)]) = writeEntry (some name, d) :=
      String.intercalate_singleton
    rw [alone, toList_writeEntry, List.length_append, List.length_cons] at enough
    have read := here fuel ('\x7d' :: rest) (by omega) (endsNumber_mark rest).2.2
    rw [alone, toList_writeEntry, List.append_assoc, List.cons_append, entries?, text?_name]
    simp only [Option.bind_eq_bind, Option.bind_some, skipBlanks_cons (c := ':') rfl, read]
    rfl
  | cons e entries ih =>
    obtain ⟨key, d'⟩ := e
    obtain ⟨next, behind⟩ := List.forall_mem_cons.mp others
    obtain ⟨isSome, laterNamed⟩ := List.forall_mem_cons.mp named
    obtain ⟨name', rfl⟩ := Option.isSome_iff_exists.mp isSome
    rw [writeEntries, writeEntries, toList_intercalate_cons, ← writeEntries, toList_writeEntry]
      at enough ⊢
    simp only [List.length_append, List.length_cons] at enough
    have read := here fuel
      (',' :: ((",".intercalate (writeEntries ((some name', d') :: entries))).toList ++
        '\x7d' :: rest)) (by omega) (endsNumber_mark _).1
    obtain ⟨fuel, rfl⟩ := Nat.exists_eq_succ_of_ne_zero (n := fuel) (by omega)
    have more := @ih name' d' laterNamed next behind fuel (by omega)
    rw [List.append_assoc, List.cons_append, List.append_assoc, List.cons_append, entries?,
      text?_name]
    simp only [Option.bind_eq_bind, Option.bind_some, skipBlanks_cons (c := ':') rfl, read,
      skipBlanks_cons (c := ',') rfl, more]

/-- The text of a plain document is read as the document. The induction is on what it is made of. -/
theorem reread {d : Document} (plain : d.Plain) : Reread d := by
  induction plain with
  | null => exact fun _ _ _ _ => rfl
  | bool b => cases b <;> exact fun _ _ _ _ => rfl
  | nat n => exact reread_nat n
  | text s => exact reread_text s
  | @list items each ih =>
    intro fuel rest enough ends
    cases items with
    | nil => rfl
    | cons d items =>
      rw [toList_list, List.length_cons, List.length_append, List.length_singleton] at enough
      obtain ⟨fuel, rfl⟩ := Nat.exists_eq_add_of_le' (Nat.le_trans (Nat.le_add_left 2 _) enough)
      have inside := Nat.le_of_succ_le_succ (Nat.le_of_succ_le_succ enough)
      have read := items?_write ih fuel rest inside
      obtain ⟨c, cs, leading, dark, inner⟩ := write_leading (each d List.mem_cons_self)
      obtain ⟨more, front⟩ := toList_intercalate_front (write d) (writeItems items)
      rw [leading, List.cons_append, ← writeItems] at front
      rw [front, List.cons_append] at read
      rw [toList_list, List.cons_append, List.append_assoc, List.singleton_append, front,
        List.cons_append, value?, skipBlanks_cons rfl]
      simp only [skipBlanks_cons dark]
      split
      next same => exact absurd (List.cons.inj same).1 inner
      next => simp only [read, Option.bind_eq_bind, Option.bind_some]
  | @record entries named each ih =>
    intro fuel rest enough ends
    cases entries with
    | nil => rfl
    | cons e entries =>
      obtain ⟨key, d⟩ := e
      obtain ⟨isSome, laterNamed⟩ := List.forall_mem_cons.mp named
      obtain ⟨name, rfl⟩ := Option.isSome_iff_exists.mp isSome
      obtain ⟨here, others⟩ := List.forall_mem_cons.mp ih
      rw [toList_record, List.length_cons, List.length_append, List.length_singleton] at enough
      obtain ⟨fuel, rfl⟩ := Nat.exists_eq_add_of_le' (Nat.le_trans (Nat.le_add_left 2 _) enough)
      have inside := Nat.le_of_succ_le_succ (Nat.le_of_succ_le_succ enough)
      have read := entries?_write laterNamed here others fuel rest inside
      obtain ⟨more, front⟩ := toList_intercalate_front (writeEntry (some name, d))
        (writeEntries entries)
      rw [toList_writeEntry, toList_quoted, List.cons_append, List.cons_append, ← writeEntries]
        at front
      rw [front, List.cons_append] at read
      rw [toList_record, List.cons_append, List.append_assoc, List.singleton_append, front,
        List.cons_append, value?, skipBlanks_cons rfl]
      simp only [skipBlanks_cons (c := '"') rfl]
      split
      next same => exact absurd (List.cons.inj same).1 (by decide)
      next => simp only [read, Option.bind_eq_bind, Option.bind_some]

theorem read?_write {d : Document} (plain : d.Plain) : read? (write d) = some d := by
  have read := reread plain (write d).toList.length [] (Nat.le_refl _) endsNumber_nil
  rw [List.append_nil] at read
  unfold read?
  simp only [read, Option.bind_eq_bind, Option.bind_some]
  rfl

end Json

end BatchedSave
