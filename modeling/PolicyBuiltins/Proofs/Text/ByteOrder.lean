/-
# The order of texts is the order of their bytes

Sorted texts are compared by code points.  Their UTF-8 encodings, compared byte by byte as
unsigned numbers, come in the same order: the encodings of two characters differ at a place
that both have, and are ordered there as the characters are.
-/

import Mathlib.Tactic.SplitIfs
import PolicyBuiltins.Text.Sorting

namespace PolicyBuiltins.Text

/-- Two byte strings differ at a place that both have, and the first is less there. -/
def BelowInside : List UInt8 → List UInt8 → Prop
  | low :: lows, high :: highs => low < high ∨ low = high ∧ BelowInside lows highs
  | _, _ => False

/-- What follows the difference does not matter. -/
theorem BelowInside.append_lt {lows highs : List UInt8} (below : BelowInside lows highs)
    (lows' highs' : List UInt8) : lows ++ lows' < highs ++ highs' := by
  induction lows generalizing highs with
  | nil => exact below.elim
  | cons low lows ih =>
    cases highs with
    | nil => exact below.elim
    | cons high highs =>
      rw [List.cons_append, List.cons_append, List.cons_lt_cons_iff]
      exact below.imp_right fun ⟨same, later⟩ => ⟨same, ih later⟩

/-- Two numbers are ordered by their last digits to the base 64 or by what is in front of
these. -/
theorem div_lt_or_mod_lt {low high : Nat} (below : low < high) :
    low / 64 < high / 64 ∨ low / 64 = high / 64 ∧ low % 64 < high % 64 := by
  omega

/-- The encoding of characters keeps the order of their code points.  The length is told by
the first byte; the bytes of encodings of one length are the digits of the code points to
the base 64. -/
theorem belowInside_utf8EncodeChar {c d : Char} (below : c.toNat < d.toNat) :
    BelowInside (String.utf8EncodeChar c) (String.utf8EncodeChar d) := by
  have leading_digit (c : Char) : c.val.toNat / 64 / 64 / 64 < 8 := by
    have valid := c.valid
    simp only [UInt32.isValidChar, Nat.isValidChar] at valid
    omega
  have leading_low := leading_digit c
  have leading_high := leading_digit d
  have two_digits (code : Nat) : code / 4096 = code / 64 / 64 := by omega
  have three_digits (code : Nat) : code / 262144 = code / 64 / 64 / 64 := by omega
  change c.val.toNat < d.val.toNat at below
  have first_place := div_lt_or_mod_lt below
  have second_place := first_place.imp_left div_lt_or_mod_lt
  have third_place := second_place.imp_left (Or.imp_left div_lt_or_mod_lt)
  simp only [String.utf8EncodeChar, two_digits, three_digits]
  generalize c.val.toNat = low at *
  generalize d.val.toNat = high at *
  split_ifs <;>
    simp only [BelowInside, UInt8.lt_iff_toNat_lt, ← UInt8.toNat_inj, UInt8.toNat_ofNat'] <;>
    omega

/-- A text that stands before another one and is not that one is less in its bytes. -/
theorem flatMap_utf8EncodeChar_lt {first second : List Char}
    (before : precedes first second = true) (distinct : first ≠ second) :
    first.flatMap String.utf8EncodeChar < second.flatMap String.utf8EncodeChar := by
  induction first generalizing second with
  | nil =>
    obtain ⟨c, rest, rfl⟩ := List.exists_cons_of_ne_nil distinct.symm
    obtain ⟨byte, bytes, encoded⟩ :=
      List.exists_cons_of_ne_nil (String.utf8EncodeChar_ne_nil (c := c))
    rw [List.flatMap_nil, List.flatMap_cons, encoded, List.cons_append]
    exact List.nil_lt_cons byte _
  | cons c first ih =>
    cases second with
    | nil => exact absurd before Bool.false_ne_true
    | cons d second =>
      rw [List.flatMap_cons, List.flatMap_cons]
      simp only [precedes, Bool.or_eq_true, decide_eq_true_eq, Bool.and_eq_true,
        beq_iff_eq] at before
      rcases before with below | ⟨rfl, before⟩
      · exact (belowInside_utf8EncodeChar below).append_lt _ _
      · have later := ih before fun same => distinct (same ▸ rfl)
        exact List.append_left_lt later

/-- The bytes of a string, in the encoding UTF-8. -/
def bytes (text : String) : List UInt8 :=
  text.toUTF8.data.toList

theorem bytes_eq_flatMap (text : String) :
    bytes text = text.toList.flatMap String.utf8EncodeChar := by
  have written := String.toByteArray_ofList (l := text.toList)
  rw [String.ofList_toList] at written
  rw [bytes, String.toUTF8_eq_toByteArray, written, List.utf8Encode,
    List.toList_data_toByteArray]

theorem bytes_lt_of_precedes {first second : String}
    (before : precedes first.toList second.toList = true) (distinct : first ≠ second) :
    bytes first < bytes second := by
  rw [bytes_eq_flatMap, bytes_eq_flatMap]
  exact flatMap_utf8EncodeChar_lt before fun same => distinct (String.toList_inj.1 same)

/-- The order of texts is the order of their bytes. -/
theorem precedes_iff_not_bytes_lt {first second : String} :
    precedes first.toList second.toList = true ↔ ¬ bytes second < bytes first := by
  apply Iff.intro
  · intro before
    by_cases same : first = second
    · rw [same]
      exact List.lt_irrefl _
    · exact List.lt_asymm (bytes_lt_of_precedes before same)
  · intro not_behind
    rcases Bool.or_eq_true_iff.1 (precedes_total first.toList second.toList) with before | behind
    · exact before
    · by_cases same : second = first
      · rw [same] at behind ⊢
        exact behind
      · exact absurd (bytes_lt_of_precedes behind same) not_behind

end PolicyBuiltins.Text
