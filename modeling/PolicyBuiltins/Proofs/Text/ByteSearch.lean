/-
# Searching the bytes of a text

A text can be searched in its UTF-8 encoding.  No byte inside the encoding of a character
begins an encoding, so a pattern that is not empty is found only where a character begins, and
the first place in the bytes is the first place among the characters.  What stands in front of
it in the bytes is the encoding of what stands in front of it in the text.
-/

import PolicyBuiltins.Proofs.Text.ByteOrder
import PolicyBuiltins.Text.Searching

namespace PolicyBuiltins.Text

/-- The number of bytes in front of the first occurrence of a pattern. -/
def findBytes? (pattern : List UInt8) : List UInt8 → Option Nat
  | [] => if pattern.isEmpty then some 0 else none
  | byte :: rest =>
    if pattern.isPrefixOf (byte :: rest) then some 0
    else (findBytes? pattern rest).map (· + 1)

/-- The number of characters that a number of bytes at the start of a text holds.  There is
none if the bytes end inside a character. -/
def charactersWithin? : Nat → List Char → Option Nat
  | 0, _ => some 0
  | _ + 1, [] => none
  | bytes + 1, c :: rest =>
    if c.utf8Size ≤ bytes + 1 then
      (charactersWithin? (bytes + 1 - c.utf8Size) rest).map (· + 1)
    else none

/-- The bytes of characters. -/
def encode (text : List Char) : List UInt8 :=
  text.flatMap String.utf8EncodeChar

theorem encode_cons (c : Char) (rest : List Char) :
    encode (c :: rest) = String.utf8EncodeChar c ++ encode rest :=
  List.flatMap_cons

theorem encode_eq_nil_iff {text : List Char} : encode text = [] ↔ text = [] := by
  cases text with
  | nil => simp [encode]
  | cons c rest => simp [encode_cons, String.utf8EncodeChar_ne_nil]

/-! ## Where encodings begin -/

/-- Bytes that begin with the encodings of two characters make these the same. -/
theorem eq_of_utf8EncodeChar_append_eq {c d : Char} {back back' : List UInt8}
    (same : String.utf8EncodeChar c ++ back = String.utf8EncodeChar d ++ back') : c = d := by
  have not_less {c d : Char} {back back' : List UInt8}
      (same : String.utf8EncodeChar c ++ back = String.utf8EncodeChar d ++ back') :
      ¬ c.toNat < d.toNat := by
    intro below
    have less := (belowInside_utf8EncodeChar below).append_lt back back'
    rw [same] at less
    exact List.lt_irrefl _ less
  exact Char.toNat_inj.1 (Nat.le_antisymm (Nat.not_lt.1 (not_less same.symm))
    (Nat.not_lt.1 (not_less same)))

theorem encode_isPrefix_iff {pattern text : List Char} :
    encode pattern <+: encode text ↔ pattern <+: text := by
  induction pattern generalizing text with
  | nil => simp [encode]
  | cons c pattern ih =>
    cases text with
    | nil => simp [encode, String.utf8EncodeChar_ne_nil]
    | cons d rest =>
      rw [encode_cons, encode_cons, List.cons_prefix_cons, ← ih]
      constructor
      · rintro ⟨back, split⟩
        rw [List.append_assoc] at split
        have same : c = d := eq_of_utf8EncodeChar_append_eq split
        rw [same] at split
        exact ⟨same, back, List.append_cancel_left split⟩
      · rintro ⟨rfl, back, split⟩
        exact ⟨back, by rw [List.append_assoc, split]⟩

/-- The encoding of a character is a byte that begins an encoding, and bytes that do not. -/
theorem exists_utf8EncodeChar_eq (c : Char) :
    ∃ first inner, String.utf8EncodeChar c = first :: inner ∧ first.IsUTF8FirstByte ∧
      ∀ byte ∈ inner, ¬ byte.IsUTF8FirstByte := by
  obtain ⟨first, inner, encoded⟩ :=
    List.exists_cons_of_ne_nil (String.utf8EncodeChar_ne_nil (c := c))
  have at_index (index : Nat) (inside : index < (String.utf8EncodeChar c).length) :
      (String.utf8EncodeChar c)[index].IsUTF8FirstByte ↔ index = 0 :=
    UInt8.isUTF8FirstByte_getElem_utf8EncodeChar
  simp only [encoded] at at_index
  refine ⟨first, inner, encoded, (at_index 0 (by simp)).2 rfl, ?_⟩
  intro byte member
  obtain ⟨index, inside, rfl⟩ := List.getElem_of_mem member
  exact mt (at_index (index + 1) (by simpa using inside)).1 (Nat.succ_ne_zero index)

/-! ## The search -/

/-- Bytes that no occurrence can begin with are passed over. -/
theorem findBytes?_append {pattern : List UInt8} {first : UInt8}
    (starts : pattern.head? = some first) {inner : List UInt8} (elsewhere : first ∉ inner)
    (rest : List UInt8) :
    findBytes? pattern (inner ++ rest) = (findBytes? pattern rest).map (· + inner.length) := by
  induction inner with
  | nil => simp
  | cons byte inner ih =>
    obtain ⟨differs, elsewhere⟩ := not_or.1 (mt List.mem_cons.2 elsewhere)
    have not_here : ¬ pattern.isPrefixOf (byte :: (inner ++ rest)) = true := by
      intro occurs
      obtain ⟨back, split⟩ := List.isPrefixOf_iff_prefix.1 occurs
      have heads := congrArg List.head? split
      rw [List.head?_append, starts] at heads
      exact differs (Option.some.inj heads)
    rw [List.cons_append, findBytes?, if_neg not_here, ih elsewhere, Option.map_map]
    rfl

/-- Inside the encoding of a character no occurrence begins. -/
theorem findBytes?_encode_cons {pattern rest : List Char} {c : Char}
    (not_here : ¬ pattern <+: c :: rest) :
    findBytes? (encode pattern) (encode (c :: rest)) =
      (findBytes? (encode pattern) (encode rest)).map
        (· + (String.utf8EncodeChar c).length) := by
  obtain ⟨d, others, rfl⟩ : ∃ d others, pattern = d :: others := by
    refine List.exists_cons_of_ne_nil ?_
    rintro rfl
    exact not_here List.nil_prefix
  obtain ⟨first, inner, encoded, -, inner_bytes⟩ := exists_utf8EncodeChar_eq c
  obtain ⟨start, further, start_encoded, start_first, -⟩ := exists_utf8EncodeChar_eq d
  have starts : (encode (d :: others)).head? = some start := by
    rw [encode_cons, start_encoded]
    rfl
  have elsewhere : start ∉ inner := fun member => inner_bytes start member start_first
  have not_in_bytes := mt encode_isPrefix_iff.1 not_here
  rw [encode_cons c, encoded, List.cons_append] at not_in_bytes ⊢
  rw [findBytes?, if_neg (mt List.isPrefixOf_iff_prefix.1 not_in_bytes),
    findBytes?_append starts elsewhere, Option.map_map]
  rfl

/-- The bytes in front of the first occurrence are those of the characters in front of it. -/
theorem findBytes?_encode (pattern text : List Char) :
    findBytes? (encode pattern) (encode text) =
      (cut? pattern text).map fun (before, _) => (encode before).length := by
  induction text with
  | nil =>
    by_cases empty : pattern = []
    · simp [empty, encode, findBytes?, cut?]
    · have some_bytes : encode pattern ≠ [] := mt encode_eq_nil_iff.1 empty
      show findBytes? (encode pattern) [] = _
      simp [findBytes?, cut?, empty, some_bytes]
  | cons c rest ih =>
    by_cases here : pattern <+: c :: rest
    · obtain ⟨first, inner, encoded, -⟩ := exists_utf8EncodeChar_eq c
      have here_in_bytes := encode_isPrefix_iff.2 here
      rw [encode_cons, encoded, List.cons_append] at here_in_bytes ⊢
      rw [findBytes?, if_pos (List.isPrefixOf_iff_prefix.2 here_in_bytes), cut?,
        if_pos (List.isPrefixOf_iff_prefix.2 here)]
      rfl
    · rw [findBytes?_encode_cons here, ih, cut?,
        if_neg (mt List.isPrefixOf_iff_prefix.1 here), Option.map_map, Option.map_map]
      congr 1
      funext parts
      obtain ⟨before, behind⟩ := parts
      simp only [Function.comp_apply, encode_cons, List.length_append]
      exact Nat.add_comm _ _

/-- The bytes of the characters at the start of a text hold these characters. -/
theorem charactersWithin?_encode (before behind : List Char) :
    charactersWithin? (encode before).length (before ++ behind) = some before.length := by
  induction before with
  | nil => simp [encode, charactersWithin?]
  | cons c before ih =>
    have size_pos := c.utf8Size_pos
    obtain ⟨bytes, more⟩ : ∃ bytes, (encode (c :: before)).length = bytes + 1 := by
      refine Nat.exists_eq_add_one_of_ne_zero ?_
      rw [encode_cons, List.length_append, String.length_utf8EncodeChar]
      omega
    have length_eq := more
    rw [encode_cons, List.length_append, String.length_utf8EncodeChar] at length_eq
    rw [more, List.cons_append, charactersWithin?, if_pos (by omega),
      show bytes + 1 - c.utf8Size = (encode before).length by omega, ih]
    rfl

end PolicyBuiltins.Text
