/-
# Case mappings are settled

A case mapping moves the code points of its runs and those that it expands, and no others.  None
of the code points that it moves them to is moved again, so a character that comes out of the
mapping is its own image: `mapCase_of_mem`.

That images and moved code points are apart is a matter of the tables alone.  Each of the two
sets is gathered in one number, a bit for each code point, and the numbers share no bit.
-/

import PolicyBuiltins.Unicode.CaseMapping

namespace PolicyBuiltins.Unicode

/-! ## What a mapping moves -/

/-- The code points of a run. -/
def CaseRun.codes (run : CaseRun) : List Nat :=
  (List.range ((run.last - run.first) / run.step + 1)).map fun index =>
    run.first + index * run.step

/-- The code points that a run moves its own to. -/
def CaseRun.images (run : CaseRun) : List Nat :=
  run.codes.map fun (code : Nat) => (code + run.offset).toNat

/-- The code points that have an expansion or stand in a run. -/
def movedCodes (expansions : List (Nat × List Nat)) (runs : List CaseRun) : List Nat :=
  expansions.map Prod.fst ++ runs.flatMap CaseRun.codes

/-- The code points that those are moved to. -/
def imageCodes (expansions : List (Nat × List Nat)) (runs : List CaseRun) : List Nat :=
  expansions.flatMap Prod.snd ++ runs.flatMap CaseRun.images

theorem CaseRun.mem_codes {run : CaseRun} {code : Nat} (least : run.first ≤ code)
    (greatest : code ≤ run.last) (reached : (code - run.first) % run.step = 0) :
    code ∈ run.codes := by
  refine List.mem_map.2 ⟨(code - run.first) / run.step, ?_, ?_⟩
  · rw [List.mem_range, Nat.lt_succ_iff]
    exact Nat.div_le_div_right (Nat.sub_le_sub_right greatest _)
  · rw [Nat.div_mul_cancel (Nat.dvd_of_mod_eq_zero reached)]
    exact Nat.add_sub_cancel' least

/-- Runs move a code point only if one of them holds it, and then by its distance. -/
theorem caseOffset_eq_zero_or (runs : List CaseRun) (code : Nat) :
    caseOffset runs code = 0 ∨
      ∃ run ∈ runs, code ∈ run.codes ∧ caseOffset runs code = run.offset := by
  induction runs with
  | nil => exact Or.inl rfl
  | cons run later ih =>
    unfold caseOffset
    split
    next => exact Or.inl rfl
    next least =>
      split
      next greatest =>
        split
        next reached =>
          exact Or.inr ⟨run, List.mem_cons_self,
            run.mem_codes (Nat.le_of_not_lt least) greatest reached, rfl⟩
        next => exact Or.inl rfl
      next =>
        rcases ih with unmoved | ⟨other, member, held, moved⟩
        · exact Or.inl unmoved
        · exact Or.inr ⟨other, List.mem_cons_of_mem _ member, held, moved⟩

section
variable {expansions : List (Nat × List Nat)} {runs : List CaseRun}

/-- A character that is not moved is its own image. -/
theorem mapCase_of_not_mem {c : Char} (unmoved : c.toNat ∉ movedCodes expansions runs) :
    mapCase expansions runs c = [c] := by
  obtain ⟨unlisted, outside⟩ := not_or.1 (mt List.mem_append.2 unmoved)
  have unexpanded : expansions.lookup c.toNat = none := by
    rw [List.lookup_eq_none_iff]
    intro entry member
    exact bne_iff_ne.2 fun same => unlisted (same ▸ List.mem_map_of_mem member)
  have stays : caseOffset runs c.toNat = 0 := by
    rcases caseOffset_eq_zero_or runs c.toNat with stays | ⟨run, member, held, -⟩
    · exact stays
    · exact absurd (List.mem_flatMap.2 ⟨run, member, held⟩) outside
  rw [mapCase, unexpanded, stays, Int.add_zero, Int.toNat_natCast,
    Char.ofNat_toNat]

/-- What comes out of a mapping is the character itself, or has an image code. -/
theorem eq_or_exists_of_mem_mapCase {c d : Char} (member : d ∈ mapCase expansions runs c) :
    mapCase expansions runs d = [d] ∨ ∃ code ∈ imageCodes expansions runs, d = Char.ofNat code := by
  rw [mapCase] at member
  cases expanded : expansions.lookup c.toNat with
  | some codes =>
    rw [expanded] at member
    obtain ⟨code, listed, rfl⟩ := List.mem_map.1 member
    obtain ⟨before, behind, rfl, -⟩ := List.lookup_eq_some_iff.1 expanded
    exact Or.inr ⟨code, by simp [imageCodes, listed], rfl⟩
  | none =>
    rw [expanded, List.mem_singleton] at member
    rcases caseOffset_eq_zero_or runs c.toNat with stays | ⟨run, inside, held, moved⟩
    · rw [stays, Int.add_zero, Int.toNat_natCast, Char.ofNat_toNat] at member
      left
      rw [member, mapCase, expanded, stays, Int.add_zero, Int.toNat_natCast, Char.ofNat_toNat]
    · rw [moved] at member
      refine Or.inr ⟨_, List.mem_append_right _ ?_, member⟩
      exact List.mem_flatMap.2 ⟨run, inside, List.mem_map_of_mem held⟩

end

/-! ## Apart -/

/-- Code points as the bits of one number. -/
def bits (codes : List Nat) : Nat :=
  codes.foldr (fun code others => 1 <<< code ||| others) 0

theorem testBit_bits (codes : List Nat) (code : Nat) :
    (bits codes).testBit code = decide (code ∈ codes) := by
  induction codes with
  | nil => simp [bits]
  | cons first codes ih =>
    rw [bits, List.foldr_cons, ← bits, Nat.testBit_or, ih, Nat.one_shiftLeft,
      Nat.testBit_two_pow]
    simp [eq_comm]

/-- Code points without a common bit are apart. -/
theorem not_mem_of_bits {first second : List Nat} (apart : bits first &&& bits second = 0) :
    ∀ code ∈ first, code ∉ second := by
  intro code in_first in_second
  have common : (bits first &&& bits second).testBit code = true := by
    rw [Nat.testBit_and, testBit_bits, testBit_bits, decide_eq_true in_first,
      decide_eq_true in_second]
    rfl
  rw [apart, Nat.zero_testBit] at common
  exact Bool.false_ne_true common

/-- A mapping whose images are characters that it does not move. -/
structure IsSettled (expansions : List (Nat × List Nat)) (runs : List CaseRun) : Prop where
  valid : ∀ code ∈ imageCodes expansions runs, code.isValidChar
  unmoved : ∀ code ∈ imageCodes expansions runs, code ∉ movedCodes expansions runs

theorem toNat_ofNat {code : Nat} (valid : code.isValidChar) : (Char.ofNat code).toNat = code := by
  rw [Char.ofNat, dif_pos valid]
  rfl

/-- What comes out of a settled mapping is its own image. -/
theorem mapCase_of_mem {expansions : List (Nat × List Nat)} {runs : List CaseRun}
    (settled : IsSettled expansions runs) {c d : Char} (member : d ∈ mapCase expansions runs c) :
    mapCase expansions runs d = [d] := by
  rcases eq_or_exists_of_mem_mapCase member with same | ⟨code, image, rfl⟩
  · exact same
  · apply mapCase_of_not_mem
    rw [toNat_ofNat (settled.valid code image)]
    exact settled.unmoved code image

theorem isSettled_upper : IsSettled upperExpansions upperRuns where
  valid := by decide +kernel
  unmoved := not_mem_of_bits (by decide +kernel)

theorem isSettled_lower : IsSettled lowerExpansions lowerRuns where
  valid := by decide +kernel
  unmoved := not_mem_of_bits (by decide +kernel)

end PolicyBuiltins.Unicode
