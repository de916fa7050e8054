/-
# Substrings by position

A substring is the characters at the positions from its start on and before its end, where
the end is the sum of start and length among all integers, or the end of the text for a
negative length.  Where ranges are rejected, a range that leaves its text fails, for its start
if that lies outside and else for its end.  Where they are clamped, no range fails, and
positions outside the text simply have no characters.

A text that a machine can hold has fewer characters than the greatest word.  In such a text a
sum beyond the words ends where the greatest word does, behind the last character.
-/

import PolicyBuiltins.Proofs.Strings.Contracts
import PolicyBuiltins.Proofs.Strings.WordRange

namespace PolicyBuiltins.Strings

/-! ## Characters by position -/

/-- The characters of a text at the positions from one integer on and before another. -/
def charactersBetween (text : List Char) (first last : ℤ) : List Char :=
  (text.zipIdx.filter fun (_, position) => first ≤ position ∧ position < last).map Prod.fst

/-- Cutting at the front and then at the back leaves the positions between the cuts. -/
theorem map_filter_zipIdx (text : List Char) (offset : ℕ) (first last : ℤ) :
    ((text.zipIdx offset).filter fun (_, position) =>
        first ≤ position ∧ position < last).map Prod.fst =
      (text.drop (first - offset).toNat).take (last - max first offset).toNat := by
  induction text generalizing offset with
  | nil => simp
  | cons c rest ih =>
    rw [List.zipIdx_cons, List.filter_cons]
    have later := ih (offset + 1)
    push_cast at later
    by_cases before : (offset : ℤ) < first
    · -- The character lies in front of the range and is dropped.
      have dropped : (first - offset).toNat = (first - (offset + 1)).toNat + 1 := by omega
      have same : max first (offset : ℤ) = max first ((offset : ℤ) + 1) := by omega
      rw [if_neg (by simp; omega), later, dropped, List.drop_succ_cons, same]
    · have none_dropped : (first - offset).toNat = 0 := by omega
      rw [none_dropped, List.drop_zero]
      rw [show (first - (offset + 1)).toNat = 0 by omega, List.drop_zero,
        max_eq_right (by omega)] at later
      rw [max_eq_right (by omega)]
      by_cases inside : (offset : ℤ) < last
      · have taken : (last - offset).toNat = (last - (offset + 1)).toNat + 1 := by omega
        rw [if_pos (by simp; omega), List.map_cons, later, taken, List.take_succ_cons]
      · rw [if_neg (by simp; omega), later, show (last - offset).toNat = 0 by omega,
          show (last - (offset + 1)).toNat = 0 by omega, List.take_zero, List.take_zero]

theorem charactersBetween_eq_take_drop (text : List Char) (first last : ℤ) :
    charactersBetween text first last =
      (text.drop first.toNat).take (last - max first 0).toNat := by
  have positions := map_filter_zipIdx text 0 first last
  rwa [Nat.cast_zero, sub_zero] at positions

/-- Bringing both bounds into the text takes away no position of the text. -/
theorem clampedSlice_eq_charactersBetween (text : List Char) (start finish : ℤ) :
    clampedSlice text start finish = charactersBetween text start finish := by
  rw [charactersBetween_eq_take_drop, clampedSlice, clamp, clamp]
  by_cases beyond : (text.length : ℤ) < start
  · rw [List.drop_eq_nil_of_le (by omega), List.drop_eq_nil_of_le (by omega), List.take_nil,
      List.take_nil]
  · rw [show max 0 (min start (text.length : ℤ)) = max start 0 by omega,
      show (max start 0).toNat = start.toNat by omega, List.take_eq_take_iff, List.length_drop]
    omega

/-- Positions behind the last character make no difference. -/
theorem charactersBetween_congr {text : List Char} {first last last' : ℤ}
    (same : min last text.length = min last' text.length) :
    charactersBetween text first last = charactersBetween text first last' := by
  rw [charactersBetween, charactersBetween]
  congr 1
  apply List.filter_congr
  intro (c, position) member
  have inside := List.snd_lt_of_mem_zipIdx member
  simp only [decide_eq_decide]
  omega

/-! ## Ends of ranges -/

/-- The end of a range among all integers; a negative length reaches to the end of a text of
`count` characters. -/
def exactEnd (count : ℕ) (start length : ℤ) : ℤ :=
  if length < 0 then count else start + length

theorem rangeEnd_eq_min {count : ℕ} (held : (count : ℤ) < greatestWord) (start length : ℤ) :
    rangeEnd count start length = min (exactEnd count start length) greatestWord := by
  rw [rangeEnd, exactEnd]
  split
  · exact (min_eq_left (le_of_lt held)).symm
  · rfl

/-! ## Outcomes -/

/-- What a call for the characters of a text from a start up to an end comes to. -/
inductive SlicesTo (rule : RangeRule) (text : String) (start finish : ℤ) : Outcome → Prop
  | outside (rejects : rule = .reject) (leaves : start < 0 ∨ text.length < start) :
      SlicesTo rule text start finish
        (.failed
          { cause := .indexOutOfBounds start text.length
            context := some { builtin := some "substring" } })
  | beyond (rejects : rule = .reject) (inside : 0 ≤ start ∧ start ≤ text.length)
      (leaves : text.length < finish) :
      SlicesTo rule text start finish
        (.failed
          { cause := .indexOutOfBounds (min finish greatestWord) text.length
            context := some { builtin := some "substring" } })
  | characters
      (accepted : rule = .clamp ∨ 0 ≤ start ∧ start ≤ text.length ∧ finish ≤ text.length) :
      SlicesTo rule text start finish
        (.defined (.ofChars (charactersBetween text.toList start finish)))

/-- A range lies outside its text in one way at most, or it has its characters. -/
theorem SlicesTo.unique {rule : RangeRule} {text : String} {start finish : ℤ}
    {outcome outcome' : Outcome} (slices : SlicesTo rule text start finish outcome)
    (slices' : SlicesTo rule text start finish outcome') : outcome = outcome' := by
  cases slices with
  | outside rejects leaves =>
    cases slices' with
    | outside => rfl
    | beyond _ inside => omega
    | characters accepted =>
      rcases accepted with clamps | inside
      · cases rejects.symm.trans clamps
      · omega
  | beyond rejects inside leaves =>
    cases slices' with
    | outside _ leaves' => omega
    | beyond => rfl
    | characters accepted =>
      rcases accepted with clamps | inside'
      · cases rejects.symm.trans clamps
      · omega
  | characters accepted =>
    rcases accepted with rfl | inside
    · cases slices' with
      | outside rejects => cases rejects
      | beyond rejects => cases rejects
      | characters => rfl
    · cases slices' with
      | outside _ leaves => omega
      | beyond _ _ leaves => omega
      | characters => rfl

/-- The outcome of a call that cuts out a slice. -/
def sliceOutcome (result : Except Failure (List Char)) : Outcome :=
  (Outcome.ofResult (result.map .ofChars)).mapFailure (·.inBuiltin "substring")

/-- The slice of a text has the characters of its range, or fails for it. -/
theorem slicesTo_slice (rule : RangeRule) {text : String}
    (held : (text.length : ℤ) < greatestWord) (start length : ℤ) :
    SlicesTo rule text start (exactEnd text.length start length)
      (sliceOutcome (slice rule text.toList start length)) := by
  have finish_eq := rangeEnd_eq_min held start length
  have characters_eq : clampedSlice text.toList start (rangeEnd text.length start length) =
      charactersBetween text.toList start (exactEnd text.length start length) := by
    rw [clampedSlice_eq_charactersBetween, finish_eq]
    apply charactersBetween_congr
    rw [String.length_toList]
    omega
  simp only [slice, String.length_toList]
  cases rule with
  | clamp =>
    simp only [characters_eq]
    exact .characters (Or.inl rfl)
  | reject =>
    by_cases leaves : start < 0 ∨ (text.length : ℤ) < start
    · rw [if_pos leaves]
      exact .outside rfl leaves
    · by_cases beyond : (text.length : ℤ) < rangeEnd text.length start length
      · rw [if_neg leaves, if_pos beyond, finish_eq]
        exact .beyond rfl (by omega) (by omega)
      · rw [if_neg leaves, if_neg beyond, characters_eq]
        exact .characters (Or.inr (by omega))

/-! ## Calls -/

/-- A call on a text and two words comes to the slice. -/
theorem call_substring (settings : Settings) (text : String) (start length : Int64) :
    (Catalogue.standard settings).call "substring"
        [.string text, .ofInt start.toInt, .ofInt length.toInt] =
      sliceOutcome (slice settings.ranges text.toList start.toInt length.toInt) := by
  have inside : ⟨"substring", 3, substring⟩ ∈ builtins := by simp [builtins]
  have start_ok : Operand.integer (.ofInt start.toInt) 2 = .ok start.toInt :=
    Operand.integer_eq_ok_iff.2 ⟨isWord_toInt start, rfl⟩
  have length_ok : Operand.integer (.ofInt length.toInt) 3 = .ok length.toInt :=
    Operand.integer_eq_ok_iff.2 ⟨isWord_toInt length, rfl⟩
  refine (Catalogue.call_standard inside rfl).trans ?_
  simp only [substring, Invocation.argument, List.getD_cons_succ, List.getD_cons_zero, start_ok,
    length_ok]
  show (Outcome.ofResult (slice settings.ranges text.toList start.toInt length.toInt >>=
    fun found => pure (.ofChars found))).mapFailure _ = _
  cases slice settings.ranges text.toList start.toInt length.toInt <;> rfl

/-- A substring is the characters at the positions that are asked for.  Only where ranges are
rejected a call fails: for the start if that lies outside the text, and else for an end that
does.  Worked out in words, every step has its result. -/
theorem substring_is_exact_slice (settings : Settings) (text : String) (start length : Int64)
    (held : (text.length : ℤ) < greatestWord) :
    sliceInWords? settings.ranges text.toList start length =
        some (slice settings.ranges text.toList start.toInt length.toInt) ∧
      ∃ draft, Draft.standard? = .ok draft ∧
        ∀ outcome, (draft.withSettings settings).seal.call "substring"
            [.string text, .ofInt start.toInt, .ofInt length.toInt] = outcome ↔
          SlicesTo settings.ranges text start.toInt
            (exactEnd text.length start.toInt length.toInt) outcome := by
  have held_list : (text.toList.length : ℤ) ≤ greatestWord := by
    rw [String.length_toList]
    exact le_of_lt held
  refine ⟨sliceInWords?_eq _ held_list _ _, _, Draft.standard?_eq_ok, fun outcome => ?_⟩
  show (Catalogue.standard settings).call _ _ = outcome ↔ _
  have slices := slicesTo_slice settings.ranges held start.toInt length.toInt
  rw [call_substring]
  constructor
  · rintro rfl
    exact slices
  · intro slices'
    exact slices.unique slices'

/-- A sum beyond the words is reported as the greatest word where ranges are rejected, and
where they are clamped it reaches to the end of the text. -/
theorem substring_is_exact_slice_beyond_words :
    ∃ draft, Draft.standard? = .ok draft ∧ (("héllo".length : ℕ) : ℤ) < greatestWord ∧
      (draft.withSettings .strict).seal.call "substring"
          [.string "héllo", .ofInt 2, .ofInt 0x7FFFFFFFFFFFFFFF] =
        .failed
          { cause := .indexOutOfBounds 0x7FFFFFFFFFFFFFFF 5
            context := some { builtin := some "substring" } } ∧
      (draft.withSettings .lenient).seal.call "substring"
          [.string "héllo", .ofInt 2, .ofInt 0x7FFFFFFFFFFFFFFF] = .defined (.string "llo") := by
  have held : (("héllo".length : ℕ) : ℤ) < greatestWord := by decide
  obtain ⟨-, draft, registered, strict⟩ :=
    substring_is_exact_slice .strict "héllo" 2 0x7FFFFFFFFFFFFFFF held
  obtain ⟨-, draft', registered', lenient⟩ :=
    substring_is_exact_slice .lenient "héllo" 2 0x7FFFFFFFFFFFFFFF held
  obtain rfl : draft = draft' := Except.ok.inj (registered.symm.trans registered')
  refine ⟨draft, registered, held, (strict _).2 ?_, (lenient _).2 ?_⟩
  · exact .beyond rfl (by decide) (by decide)
  · exact .characters (.inl rfl)

end PolicyBuiltins.Strings
