/-
# Sets of strings in order

Built-ins that take a set of strings get them in the order of their bytes, whatever order the
set is met in, so the outcomes for equal collections are equal.  The canonical rendering of the
same set may write the strings in another order, that of their quoted forms; what decides is
whether quoting keeps the order of every two members.
-/

import PolicyBuiltins.Proofs.Catalogue.Standard
import PolicyBuiltins.Proofs.Operand.RenderingOrder
import PolicyBuiltins.Proofs.Strings.SplitConcat

namespace PolicyBuiltins.Strings

open Operand (Gathers IsLeastUnfit unfitMember)
open Value (Enumerates WritesInOrder)

/-- A call of `concat` looks at its second operand through the strings that it gives. -/
theorem call_concat_eq_of_equal (settings : Settings) (separator : Value) {first second : Value}
    (same : first.equal second = true) :
    (Catalogue.standard settings).call "concat" [separator, first] =
      (Catalogue.standard settings).call "concat" [separator, second] := by
  have inside : ⟨"concat", 2, concat⟩ ∈ builtins := by simp [builtins]
  refine (Catalogue.call_standard inside rfl).trans (.trans ?_
    (Catalogue.call_standard inside rfl).symm)
  simp only [concat, Invocation.argument, List.getD_cons_succ, List.getD_cons_zero,
    Operand.strings_eq_of_equal same]
  rfl

/-- Whatever order a set is met in, the operand gives one result: all strings, each once, in
ascending order of their bytes, or the failure for the member that is rendered first of those
that are no strings.  An array gives its strings in order, or the failure for its first item
that is no string.  Equal collections therefore have equal outcomes. -/
theorem strings_ignore_enumeration (position : ℕ) :
    (∀ (members order : List Value) (result : Except Failure (List String)),
      Enumerates order members →
      (Gathers position order result ↔ Operand.strings (.set members) position = result)) ∧
    (∀ members : List Value, (∀ member ∈ members, member.kind = .string) →
      ∃ texts, Operand.strings (.set members) position = .ok texts ∧
        (texts.Pairwise fun first second => Text.bytes first < Text.bytes second) ∧
        ∀ value, value ∈ members ↔ ∃ text ∈ texts, value = .string text) ∧
    (∀ members : List Value, (∃ member ∈ members, member.kind ≠ .string) →
      ∃ member, IsLeastUnfit member members ∧
        Operand.strings (.set members) position = .error (unfitMember position member)) ∧
    (∀ (items : List Value) (texts : List String),
      Operand.strings (.array items) position = .ok texts ↔ items = texts.map Value.string) ∧
    (∀ (front : List Value) (item : Value) (back : List Value),
      (∀ other ∈ front, other.kind = .string) → item.kind ≠ .string →
      Operand.strings (.array (front ++ item :: back)) position =
        .error { cause := .operandElement position .array item.kind
                   (.index front.length) .string }) ∧
    (∀ first second : Value, first.equal second = true →
      Operand.strings first position = Operand.strings second position) ∧
    ∃ draft, Draft.standard? = .ok draft ∧
      ∀ (settings : Settings) (separator first second : Value), first.equal second = true →
        (draft.withSettings settings).seal.call "concat" [separator, first] =
          (draft.withSettings settings).seal.call "concat" [separator, second] := by
  refine ⟨fun members order result => Operand.gathers_iff,
    fun members => Operand.exists_strings_set, ?_,
    fun items => Operand.stringItems_eq_ok_iff 0 items, ?_,
    fun first second => Operand.strings_eq_of_equal, _, Draft.standard?_eq_ok,
    fun settings separator first second => call_concat_eq_of_equal settings separator⟩
  · intro members unfit
    obtain ⟨member, least⟩ := Operand.exists_isLeastUnfit unfit
    exact ⟨member, least, Operand.stringMembers_eq_error_iff_isLeastUnfit.2 ⟨member, least, rfl⟩⟩
  · intro front item back strings unfit
    refine (Operand.stringItems_eq_error_iff 0 _ _).2 ⟨front, item, back, rfl, strings, unfit, ?_⟩
    rw [Nat.zero_add]

/-- A number and a truth value in a set that is met in two orders, and two listings of one set
of strings. -/
theorem strings_ignore_enumeration_mixed :
    let two : Value := .ofInt 2
    let members : List Value := [.string "a", .bool true, two]
    let order : List Value := [.bool true, two, .string "a"]
    let order' : List Value := [two, .string "a", .bool true]
    let pair : List Value := [.string "b", .string "a", .string "b"]
    let pair' : List Value := [.string "a", .string "b"]
    Enumerates order members ∧ Gathers 2 order (.error (unfitMember 2 two)) ∧
    Operand.strings (.set members) 2 = .error (unfitMember 2 two) ∧
    Enumerates order' members ∧ Gathers 2 order' (.error (unfitMember 2 two)) ∧
    Enumerates pair' pair ∧ Operand.strings (.set pair) 2 = .ok ["a", "b"] ∧
    Value.equal (.set pair') (.set pair) = true ∧
    Operand.strings (.set pair') 2 = .ok ["a", "b"] := by
  intro two members order order' pair pair'
  obtain ⟨gathers_iff, -, -, -, -, same_strings, -⟩ := strings_ignore_enumeration 2
  have enumerates : Enumerates order members :=
    ⟨by decide +kernel, by decide +kernel, by decide +kernel⟩
  have enumerates' : Enumerates order' members :=
    ⟨by decide +kernel, by decide +kernel, by decide +kernel⟩
  have least : IsLeastUnfit two order :=
    ⟨List.mem_cons_of_mem _ List.mem_cons_self, by decide +kernel, by decide +kernel⟩
  have gathers : Gathers 2 order (.error (unfitMember 2 two)) := .unfit least
  have refused := (gathers_iff _ _ _ enumerates).1 gathers
  have pair_enumerates : Enumerates pair' pair :=
    ⟨by decide +kernel, by decide +kernel, by decide +kernel⟩
  have given : Operand.strings (.set pair) 2 = .ok ["a", "b"] :=
    (gathers_iff _ _ _ pair_enumerates).1 (.strings (.refl _) (by decide +kernel))
  have same : Value.equal (.set pair') (.set pair) = true := by decide +kernel
  exact ⟨enumerates, gathers, refused, enumerates', (gathers_iff _ _ _ enumerates').2 refused,
    pair_enumerates, given, same, (same_strings _ _ same).trans given⟩

/-- A set of strings is given in ascending order of the bytes of its members, and its canonical
rendering writes them in ascending order of the bytes of their quoted forms.  The two orders
are one exactly if quoting keeps every two members in order. -/
theorem written_as_given_iff (settings : Settings) (separator : String) (members : List Value)
    (strings : ∀ member ∈ members, member.kind = .string) :
    ∃ draft, Draft.standard? = .ok draft ∧ ∃ texts : List String,
      (∀ position, Operand.strings (.set members) position = .ok texts) ∧
      (draft.withSettings settings).seal.call "concat" [.string separator, .set members] =
        .defined (.ofChars (separator.toList.intercalate (texts.map String.toList))) ∧
      (∀ value, value ∈ members ↔ ∃ text ∈ texts, value = .string text) ∧
      (texts.Pairwise fun first second => Text.bytes first < Text.bytes second) ∧
      (∃ written, WritesInOrder members written ∧ written.Perm texts ∧
        written.Pairwise fun first second =>
          Text.bytes (Text.quotedString first) < Text.bytes (Text.quotedString second)) ∧
      (WritesInOrder members texts ↔
        ∀ first ∈ texts, ∀ second ∈ texts, Text.bytes first < Text.bytes second →
          Text.QuotesInOrder first.toList second.toList) := by
  obtain ⟨texts, given, ascending, inside_iff⟩ := @Operand.exists_strings_set 2 members strings
  have rearranged := (Operand.strings_set_eq_ok given).1
  have given_anywhere (position : ℕ) : Operand.strings (.set members) position = .ok texts :=
    (Operand.gathers_iff (Value.enumerates_distinct members)).1
      (.strings rearranged (ascending.imp List.lt_asymm))
  obtain ⟨written, writes, perm, written_ascending⟩ := Value.exists_writesInOrder rearranged
  refine ⟨_, Draft.standard?_eq_ok, texts, given_anywhere, call_concat_of_strings settings separator given,
    inside_iff, ascending, ⟨written, writes, perm, ?_⟩, ?_⟩
  · have nodup := Operand.nodup_of_perm_enumeration (Value.enumerates_distinct members) rearranged
    exact Operand.pairwise_bytes_quotedString (perm.nodup_iff.2 nodup) written_ascending
  · rw [Value.writesInOrder_iff_pairwise rearranged, Operand.pairwise_quoted_iff ascending]

/-- A string that goes on with a letter where another one ends stands behind it in both
orders. -/
theorem written_as_given_letters :
    let members : List Value := [.string "ab", .string "a", .string "ab"]
    (∀ member ∈ members, member.kind = .string) ∧
    ∃ draft, Draft.standard? = .ok draft ∧
      (draft.withSettings .strict).seal.call "concat" [.string ",", .set members] =
        .defined (.string "a,ab") ∧
      WritesInOrder members ["a", "ab"] := by
  intro members
  have strings : ∀ member ∈ members, member.kind = .string := by
    simp [members, Value.kind]
  obtain ⟨draft, registered, texts, given, concat_call, -, -, -, as_given_iff⟩ :=
    written_as_given_iff .strict "," members strings
  have enumerates : Enumerates [.string "a", .string "ab"] members :=
    ⟨by decide +kernel, by decide +kernel, by decide +kernel⟩
  have gathered : Operand.strings (.set members) 2 = .ok ["a", "ab"] :=
    (Operand.gathers_iff enumerates).1 (.strings (.refl _) (by decide +kernel))
  obtain rfl : ["a", "ab"] = texts := Except.ok.inj (gathered.symm.trans (given 2))
  refine ⟨strings, draft, registered, concat_call, as_given_iff.2 ?_⟩
  simp only [List.forall_mem_cons, List.not_mem_nil, IsEmpty.forall_iff, implies_true, and_true]
  refine ⟨⟨fun below => ?_, fun _ => ?_⟩, fun below => ?_, fun below => ?_⟩
  · exact absurd below (List.lt_irrefl _)
  · exact @Text.QuotesInOrder.continues ['a'] [] 'b' (by decide) (by decide)
  · exact absurd below (by decide +kernel)
  · exact absurd below (List.lt_irrefl _)

/-- A string that goes on with a space stands behind the string that it goes on from, and is
written in front of it, because the closing quote stands behind the space. -/
theorem not_written_as_given :
    let members : List Value := [.string "a", .string "a b"]
    (∀ member ∈ members, member.kind = .string) ∧
    Operand.strings (.set members) 2 = .ok ["a", "a b"] ∧
    toString (Value.set members) = "\x7b\"a b\", \"a\"\x7d" ∧
    ¬ WritesInOrder members ["a", "a b"] := by
  intro members
  have enumerates : Enumerates members members :=
    ⟨by decide +kernel, by decide +kernel, by decide +kernel⟩
  have given : Operand.strings (.set members) 2 = .ok ["a", "a b"] :=
    (Operand.gathers_iff enumerates).1 (.strings (.refl _) (by decide +kernel))
  have rearranged := (Operand.strings_set_eq_ok given).1
  have swapped : (["a b", "a"].map Value.string).Perm (Value.distinct members) :=
    (List.Perm.swap _ _ []).trans rearranged
  have writes : WritesInOrder members ["a b", "a"] :=
    (Value.writesInOrder_iff_pairwise swapped).2 (by decide +kernel)
  refine ⟨by simp [members, Value.kind], given, ?_, ?_⟩
  · cases writes with
    | listed rendered => exact (congrArg String.ofList rendered).trans (by decide +kernel)
  · rw [Value.writesInOrder_iff_pairwise rearranged]
    decide +kernel

end PolicyBuiltins.Strings
