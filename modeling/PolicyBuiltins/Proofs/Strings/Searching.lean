/-
# Searches agree

The built-ins that search a text for a pattern all mean the same occurrence, the first one.
Its position among the characters is what `index_of` gives; a slice from there on is the
pattern; a field ends there; and whether there is one, and whether it is at the start, is what
the predicates answer.

The position can be found without looking at characters: searched in the bytes of the text,
the occurrence begins where a character does, and the position counts the characters up to
there.
-/

import PolicyBuiltins.Proofs.Strings.Settings
import PolicyBuiltins.Proofs.Strings.SplitConcat
import PolicyBuiltins.Proofs.Strings.Substring
import PolicyBuiltins.Proofs.Text.ByteSearch
import PolicyBuiltins.Proofs.Text.Positions

namespace PolicyBuiltins.Strings

open Text (IsFirstOccurrence cut? cut?_eq_some_iff cut?_eq_none_iff_absent)

/-- The position of a pattern as a word, found in bytes.  There is none if the bytes in front
of the pattern end inside a character. -/
def indexInBytes? (pattern text : String) : Option Int64 :=
  match Text.findBytes? (Text.bytes pattern) (Text.bytes text) with
  | none => some (-1)
  | some offset =>
    (Text.charactersWithin? offset text.toList).map fun count => nearestWord count

/-! ## Positions -/

section
variable {text pattern : String} {before behind : List Char}

/-- A call of `index_of` with two strings gives the position of the pattern, or -1. -/
theorem call_indexOf (settings : Settings) (text pattern : String) :
    (Catalogue.standard settings).call "index_of" [.string text, .string pattern] =
      .defined (.ofInt ((Text.indexOf? pattern.toList text.toList).elim (-1) Nat.cast)) := by
  have inside : ⟨"index_of", 2, indexOf⟩ ∈ builtins := by simp [builtins]
  have text_ok : Operand.string (.string text) 1 = .ok text := rfl
  have pattern_ok : Operand.string (.string pattern) 2 = .ok pattern := rfl
  refine (Catalogue.call_standard inside rfl).trans ?_
  simp only [indexOf, textOperand, Invocation.argument, List.getD_cons_succ, List.getD_cons_zero,
    text_ok, pattern_ok, Functor.map, Except.map, bind, Except.bind]
  cases Text.indexOf? pattern.toList text.toList <;> rfl

theorem findBytes?_bytes (pattern text : String) :
    Text.findBytes? (Text.bytes pattern) (Text.bytes text) =
      (cut? pattern.toList text.toList).map fun (before, _) => (Text.encode before).length := by
  rw [Text.bytes_eq_flatMap, Text.bytes_eq_flatMap]
  exact Text.findBytes?_encode pattern.toList text.toList

theorem indexInBytes?_of_found (first : IsFirstOccurrence pattern.toList text.toList before behind)
    : indexInBytes? pattern text = some (nearestWord before.length) := by
  rw [indexInBytes?, findBytes?_bytes, cut?_eq_some_iff.2 first, Option.map_some]
  have counted := Text.charactersWithin?_encode before (pattern.toList ++ behind)
  rw [← List.append_assoc, ← first.text_eq] at counted
  simp only [counted]
  rfl

theorem indexInBytes?_of_missed (missed : cut? pattern.toList text.toList = none) :
    indexInBytes? pattern text = some (-1) := by
  rw [indexInBytes?, findBytes?_bytes, missed]
  rfl

/-! ## Slices and fields -/

/-- A slice at the position of a part and with its length is the part, under both rules. -/
theorem slice_append_append (rule : RangeRule) {before part behind : List Char}
    (held : ((before ++ part ++ behind).length : ℤ) ≤ greatestWord) :
    slice rule (before ++ part ++ behind) before.length part.length = .ok part := by
  have inside : before.length + part.length ≤ (before ++ part ++ behind).length := by
    simp only [List.length_append]
    omega
  have finish_eq : rangeEnd (before ++ part ++ behind).length before.length part.length =
      (before.length + part.length : ℤ) := by
    rw [rangeEnd, if_neg (by omega), min_eq_left (by omega)]
  have characters_eq : clampedSlice (before ++ part ++ behind) before.length
      (before.length + part.length : ℤ) = part := by
    rw [clampedSlice_eq_charactersBetween, charactersBetween_eq_take_drop, Int.toNat_natCast,
      List.append_assoc, List.drop_left, show ((before.length + part.length : ℤ) -
        max (before.length : ℤ) 0).toNat = part.length by omega, List.take_left]
  cases rule with
  | clamp => simp only [slice, finish_eq, characters_eq]
  | reject =>
    simp only [slice, finish_eq, characters_eq]
    rw [if_neg (by omega), if_neg (by omega)]

theorem call_substring_of_first (settings : Settings)
    (first : IsFirstOccurrence pattern.toList text.toList before behind)
    (held : (text.length : ℤ) ≤ greatestWord) :
    (Catalogue.standard settings).call "substring"
        [.string text, .ofInt before.length, .ofInt pattern.length] =
      .defined (.string pattern) := by
  have parts_le : before.length + pattern.length ≤ text.length := by
    rw [← String.length_toList, ← String.length_toList, first.text_eq]
    simp only [List.length_append]
    omega
  have word (count : ℕ) (within : count ≤ text.length) :
      (Int64.ofInt (count : ℤ)).toInt = count := by
    apply toInt_ofInt_of_isWord
    simp only [IsWord, leastWord, greatestWord] at held ⊢
    omega
  have called := call_substring settings text (Int64.ofInt (before.length : ℤ))
    (Int64.ofInt (pattern.length : ℤ))
  rw [word before.length (by omega), word pattern.length (by omega)] at called
  rw [← String.length_toList, first.text_eq] at held
  rw [called, ← String.length_toList (s := pattern), first.text_eq,
    slice_append_append settings.ranges held]
  show Outcome.defined (.string (String.ofList pattern.toList)) = _
  rw [String.ofList_toList]

theorem exists_call_split_of_found (settings : Settings) (nonempty : pattern ≠ "")
    (found : cut? pattern.toList text.toList = some (before, behind)) :
    ∃ (field : String) (others : List String),
      (Catalogue.standard settings).call "split" [.string text, .string pattern] =
        .defined (.array ((field :: others).map Value.string)) ∧
      field.length = before.length := by
  have some_chars : pattern.toList ≠ [] := by simpa using nonempty
  have fields_eq : Text.fields pattern.toList text.toList =
      before :: Text.delimitedFields pattern.toList some_chars behind := by
    rw [Text.fields, dif_pos some_chars, Text.delimitedFields_of_found some_chars found]
  refine ⟨String.ofList before,
    (Text.delimitedFields pattern.toList some_chars behind).map String.ofList, ?_,
    String.length_ofList⟩
  rw [call_split, fields_eq, ← List.map_cons, List.map_map]
  rfl

end

/-! ## Agreement -/

/-- A predicate has an answer exactly where it holds. -/
theorem isDefined_call_iff {builtin : Builtin} (inside : builtin ∈ builtins)
    {relation : List Char → List Char → Prop} (decides : Decides builtin relation)
    (settings : Settings) (text pattern : String) :
    ((Catalogue.standard settings).call builtin.name
        [.string text, .string pattern]).isDefined = true ↔
      relation pattern.toList text.toList := by
  obtain ⟨met, missed⟩ := call_of_decides inside decides settings text pattern
  by_cases holds : relation pattern.toList text.toList
  · exact iff_of_true (by rw [met holds]; rfl) holds
  · exact iff_of_false (by rw [missed holds]; exact Bool.false_ne_true) holds

/-- One position is behind what all searches answer: the least one from which on the text
begins with the pattern, or -1.  Found in bytes and worked out in words it is the same. -/
theorem searches_agree_in_positions (text pattern : String) :
    ∃ draft, Draft.standard? = .ok draft ∧ ∃ index : ℤ,
      ((∃ position : ℕ, index = position ∧
          IsLeast {position : ℕ | pattern.toList <+: text.toList.drop position} position) ∨
        index = -1 ∧ ∀ position : ℕ, ¬ pattern.toList <+: text.toList.drop position) ∧
      ((text.length : ℤ) ≤ greatestWord →
        (indexInBytes? pattern text).map Int64.toInt = some index) ∧
      ∀ settings : Settings,
        let call := (draft.withSettings settings).seal.call
        call "index_of" [.string text, .string pattern] = .defined (.ofInt index) ∧
        ((call "contains" [.string text, .string pattern]).isDefined = true ↔ 0 ≤ index) ∧
        ((call "startswith" [.string text, .string pattern]).isDefined = true ↔ index = 0) ∧
        (0 ≤ index → (text.length : ℤ) ≤ greatestWord →
          call "substring" [.string text, .ofInt index, .ofInt pattern.length] =
            .defined (.string pattern)) ∧
        (0 ≤ index → pattern ≠ "" → ∃ (field : String) (others : List String),
          call "split" [.string text, .string pattern] =
            .defined (.array ((field :: others).map Value.string)) ∧
          field.length = index) := by
  refine ⟨_, Draft.standard?_eq_ok, ?_⟩
  have contains_iff (settings : Settings) :=
    isDefined_call_iff (by simp [builtins]) decides_contains settings text pattern
  have startswith_iff (settings : Settings) :=
    isDefined_call_iff (by simp [builtins]) decides_startswith settings text pattern
  cases found : cut? pattern.toList text.toList with
  | none =>
    have absent := cut?_eq_none_iff_absent.1 found
    have index_missed : Text.indexOf? pattern.toList text.toList = none := by
      rw [Text.indexOf?, found]
      rfl
    refine ⟨-1, Or.inr ⟨rfl, Text.not_isPrefix_drop absent⟩, fun held => ?_, ?_⟩
    · rw [indexInBytes?_of_missed found]
      rfl
    · intro settings call
      refine ⟨?_, ?_, ?_, fun found => ?_, fun found => ?_⟩
      · refine (call_indexOf settings text pattern).trans ?_
        rw [index_missed]
        rfl
      · refine (contains_iff settings).trans ?_
        exact iff_of_false absent (by decide)
      · refine (startswith_iff settings).trans ?_
        exact iff_of_false (fun begins => absent begins.isInfix) (by decide)
      · exact absurd found (by decide)
      · exact absurd found (by decide)
  | some parts =>
    obtain ⟨before, behind⟩ := parts
    have first := cut?_eq_some_iff.1 found
    have index_eq : Text.indexOf? pattern.toList text.toList = some before.length := by
      rw [Text.indexOf?, found]
      rfl
    refine ⟨before.length, Or.inl ⟨before.length, rfl, first.isLeast⟩, fun held => ?_, ?_⟩
    · rw [indexInBytes?_of_found first, Option.map_some, toInt_nearestWord_length]
      rw [← String.length_toList, first.text_eq] at held
      simp only [List.length_append] at held
      omega
    · intro settings call
      refine ⟨?_, ?_, ?_, fun _ held => ?_, fun _ nonempty => ?_⟩
      · refine (call_indexOf settings text pattern).trans ?_
        rw [index_eq]
        rfl
      · refine (contains_iff settings).trans ?_
        exact iff_of_true ⟨before, behind, first.text_eq.symm⟩ (Int.natCast_nonneg _)
      · refine (startswith_iff settings).trans ?_
        rw [Int.natCast_eq_zero, first.length_eq_zero_iff]
      · exact call_substring_of_first settings first held
      · obtain ⟨field, others, split_call, length_eq⟩ :=
          exists_call_split_of_found settings nonempty found
        exact ⟨field, others, split_call, congrArg Nat.cast length_eq⟩

/-- A pattern behind a character of two bytes, which occurs twice. -/
theorem searches_agree_in_positions_two_bytes :
    ∃ draft, Draft.standard? = .ok draft ∧ (("éßaßa".length : ℕ) : ℤ) ≤ greatestWord ∧
      "ßa" ≠ "" ∧ (indexInBytes? "ßa" "éßaßa").map Int64.toInt = some 1 ∧
      let call := (draft.withSettings .strict).seal.call
      call "index_of" [.string "éßaßa", .string "ßa"] = .defined (.ofInt 1) ∧
      (call "contains" [.string "éßaßa", .string "ßa"]).isDefined = true ∧
      call "substring" [.string "éßaßa", .ofInt 1, .ofInt 2] = .defined (.string "ßa") ∧
      ∃ (field : String) (others : List String),
        call "split" [.string "éßaßa", .string "ßa"] =
          .defined (.array ((field :: others).map Value.string)) ∧
        field.length = 1 := by
  have held : (("éßaßa".length : ℕ) : ℤ) ≤ greatestWord := by decide
  have nonempty : "ßa" ≠ "" := by decide
  have first : IsFirstOccurrence "ßa".toList "éßaßa".toList "é".toList "ßa".toList :=
    cut?_eq_some_iff.1 (by decide)
  obtain ⟨draft, registered, index, position, in_bytes, calls⟩ :=
    searches_agree_in_positions "éßaßa" "ßa"
  have index_eq : index = 1 := by
    rcases position with ⟨least, index_eq, isLeast⟩ | ⟨-, absent⟩
    · rw [index_eq, isLeast.unique first.isLeast]
      rfl
    · exact absurd first.isLeast.1 (absent _)
  obtain ⟨index_call, contains_iff, -, substring_call, split_call⟩ := calls .strict
  subst index_eq
  obtain ⟨field, others, fields_call, length_eq⟩ := split_call (by decide) nonempty
  exact ⟨draft, registered, held, nonempty, in_bytes held, index_call,
    contains_iff.2 (by decide), substring_call (by decide) held, field, others, fields_call,
    Int.natCast_inj.1 length_eq⟩

end PolicyBuiltins.Strings
