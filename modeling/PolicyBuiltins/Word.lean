/-
# Signed 64-bit words

Some counts and positions live in signed 64-bit words.  Most of them are kept as
integers here, with the range of a word as a condition on them.  A step of word
arithmetic that may leave the words is the integer of its result, and `word?` of it
the word that holds this integer, if there is one.
-/

namespace PolicyBuiltins

/-- The least signed 64-bit word. -/
def leastWord : Int := -0x8000000000000000

/-- The greatest signed 64-bit word. -/
def greatestWord : Int := 0x7FFFFFFFFFFFFFFF

/-- The integers of a signed 64-bit word. -/
def IsWord (number : Int) : Prop :=
  leastWord ≤ number ∧ number ≤ greatestWord

instance (number : Int) : Decidable (IsWord number) :=
  inferInstanceAs (Decidable (_ ∧ _))

theorem toInt_ofInt_of_isWord {number : Int} (fits : IsWord number) :
    (Int64.ofInt number).toInt = number :=
  Int64.toInt_ofInt_of_le fits.1 (Int.lt_of_le_of_lt fits.2 (by decide))

theorem isWord_toInt (word : Int64) : IsWord word.toInt :=
  ⟨word.le_toInt, Int.le_of_lt_add_one word.toInt_lt⟩

/-- The word that holds an integer, if there is one. -/
def word? (number : Int) : Option Int64 :=
  if IsWord number then some (Int64.ofInt number) else none

theorem word?_of_isWord {number : Int} (fits : IsWord number) :
    word? number = some (Int64.ofInt number) :=
  if_pos fits

theorem word?_eq_none_iff {number : Int} : word? number = none ↔ ¬ IsWord number := by
  unfold word?
  split
  next fits => simp [fits]
  next leaves => simp [leaves]

theorem word?_toInt (word : Int64) : word? word.toInt = some word := by
  rw [word?_of_isWord (isWord_toInt word), Int64.ofInt_toInt]

theorem toInt_of_word?_eq_some {number : Int} {word : Int64} (held : word? number = some word) :
    word.toInt = number := by
  unfold word? at held
  split at held
  next fits => rw [← Option.some.inj held, toInt_ofInt_of_isWord fits]
  next => cases held

end PolicyBuiltins
