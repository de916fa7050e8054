/-
# The casing built-ins

`upper` replaces every character by its full mapping.  `lower` does so too, but for the capital
sigma, whose form hangs on the letters around it.  Either built-in leaves its own result alone.
-/

import PolicyBuiltins.Proofs.Catalogue.Standard
import PolicyBuiltins.Proofs.Text.Casing

namespace PolicyBuiltins.Strings

open Text (Lowers)

theorem call_upper (settings : Settings) (text : String) :
    (Catalogue.standard settings).call "upper" [.string text] =
      .defined (.ofChars (Text.upper text.toList)) :=
  call_unary settings Text.upper (by simp [builtins]) text

theorem call_lower (settings : Settings) (text : String) :
    (Catalogue.standard settings).call "lower" [.string text] =
      .defined (.ofChars (Text.lower text.toList)) :=
  call_unary settings Text.lower (by simp [builtins]) text

/-- Casing is done after the first time.  The upper case of a text is made of the mappings of its
characters, the lower case keeps the rules for a sigma, and each is its own upper or lower case. -/
theorem casing_is_idempotent (settings : Settings) (text : String) :
    ∃ draft, Draft.standard? = .ok draft ∧
      let call := (draft.withSettings settings).seal.call
      ∃ upper lower : String,
        call "upper" [.string text] = .defined (.string upper) ∧
        upper.toList = text.toList.flatMap Unicode.upperCase ∧
        call "upper" [.string upper] = .defined (.string upper) ∧
        call "lower" [.string text] = .defined (.string lower) ∧
        (∀ result, Lowers [] text.toList result ↔ result = lower.toList) ∧
        call "lower" [.string lower] = .defined (.string lower) := by
  refine ⟨_, Draft.standard?_eq_ok, String.ofList (Text.upper text.toList),
    String.ofList (Text.lower text.toList), call_upper settings text, ?_, ?_,
    call_lower settings text, ?_, ?_⟩
  · rw [String.toList_ofList, Text.upper]
  · refine (call_upper settings _).trans ?_
    rw [String.toList_ofList, Text.upper_upper]
    rfl
  · intro result
    rw [String.toList_ofList, Text.lower]
    exact Text.lowers_iff
  · refine (call_lower settings _).trans ?_
    rw [String.toList_ofList, Text.lower_lower]
    rfl

end PolicyBuiltins.Strings
