/-
# Templates side by side

A template that ends outside a directive, with as many arguments as it takes, can be
formatted apart from what follows.  The results are joined, and of two failures the
one of the template in front is the failure of the whole.

No piece sees more than its own argument, therefore, and arguments that are left
over are reported once, behind everything else.
-/

import PolicyBuiltins.Proofs.Template.Parts

namespace PolicyBuiltins.Template

/-- Whether the end of the template cuts a piece off. -/
def Piece.isUnfinished : Piece → Bool
  | .unfinished _ => true
  | _ => false

/-- Every directive among the pieces has its verb. -/
def IsFinished (template : List Piece) : Prop :=
  ∀ piece ∈ template, piece.isUnfinished = false

instance (template : List Piece) : Decidable (IsFinished template) :=
  inferInstanceAs (Decidable (∀ piece ∈ template, piece.isUnfinished = false))

theorem IsFinished.not_mem_unfinished {template : List Piece} (finished : IsFinished template)
    (spec : Spec) : Piece.unfinished spec ∉ template := by
  intro member
  exact Bool.noConfusion (finished _ member)

theorem argumentCount_append (front back : List Piece) :
    argumentCount (front ++ back) = argumentCount front + argumentCount back :=
  List.countP_append

/-- The number of arguments that a single piece takes. -/
theorem argumentCount_singleton (piece : Piece) :
    argumentCount [piece] = if piece.takesArgument then 1 else 0 :=
  List.countP_singleton

/-- Pieces that have as many arguments as they take are rendered apart from the
pieces behind them. -/
theorem renderPieces_append (rule : MismatchRule) {front : List Piece} {early : List Value}
    (served : early.length = argumentCount front) (back : List Piece) (late : List Value) :
    renderPieces rule (front ++ back) (early ++ late) = (do
      let before ← renderPieces rule front early
      let behind ← renderPieces rule back late
      return before ++ behind) := by
  rw [renderPieces_eq_settle, renderPieces_eq_settle, renderPieces_eq_settle,
    parts_append served, settle_append]

/-- Without pieces, the arguments that are left over are reported together. -/
theorem renderPieces_nil (rule : MismatchRule) (arguments : List Value) :
    renderPieces rule [] arguments =
      reportWhen (!arguments.isEmpty) rule (.extra arguments) := by
  cases arguments <;> rfl

/-- Arguments cut at two counts. -/
private theorem exists_cut {arguments : List Value} {first second third : Nat}
    (counted : arguments.length = first + second + third) :
    ∃ early own late, arguments = early ++ (own ++ late) ∧
      early.length = first ∧ own.length = second := by
  refine ⟨arguments.take first, (arguments.drop first).take second,
    (arguments.drop first).drop second, ?_, ?_, ?_⟩
  · rw [List.take_append_drop, List.take_append_drop]
  · rw [List.length_take]
    omega
  · rw [List.length_take, List.length_drop]
    omega

/-- A piece in the middle of others is rendered with its own argument, if it takes
one, and with no other. -/
theorem renderPieces_around (rule : MismatchRule) (front back : List Piece) (piece : Piece)
    {arguments : List Value}
    (served : arguments.length = argumentCount (front ++ piece :: back)) :
    ∃ early own late, arguments = early ++ (own ++ late) ∧
      early.length = argumentCount front ∧
      own.length = (if piece.takesArgument then 1 else 0) ∧
      renderPieces rule (front ++ piece :: back) arguments = (do
        let before ← renderPieces rule front early
        let shown ← renderPieces rule [piece] own
        let behind ← renderPieces rule back late
        return before ++ (shown ++ behind)) := by
  have counted : arguments.length =
      argumentCount front + argumentCount [piece] + argumentCount back := by
    rw [served, List.append_cons, argumentCount_append, argumentCount_append]
  obtain ⟨early, own, late, rfl, early_length, own_length⟩ := exists_cut counted
  refine ⟨early, own, late, rfl, early_length, ?_, ?_⟩
  · rw [own_length, argumentCount_singleton]
  · rw [renderPieces_append rule early_length, ← List.singleton_append,
      renderPieces_append rule own_length]
    simp only [bind_assoc, pure_bind]

/-- Formatting is compositional under either rule.  A finished template with its
arguments can be formatted apart from what follows; within it each piece is rendered
with its own argument alone; and what is left over is reported once, at the end. -/
theorem format_append (rule : MismatchRule) {first : List Char} {early : List Value}
    (finished : IsFinished (pieces first))
    (served : early.length = argumentCount (pieces first)) :
    (∀ second late, format rule (first ++ second) (early ++ late) = (do
      let before ← format rule first early
      let behind ← format rule second late
      return before ++ behind)) ∧
    (∀ front piece back, pieces first = front ++ piece :: back →
      ∃ sooner own later, early = sooner ++ (own ++ later) ∧
        sooner.length = argumentCount front ∧
        own.length = (if piece.takesArgument then 1 else 0) ∧
        format rule first early = (do
          let before ← renderPieces rule front sooner
          let shown ← renderPieces rule [piece] own
          let behind ← renderPieces rule back later
          return before ++ (shown ++ behind))) ∧
    ∀ late, format rule first (early ++ late) = (do
      let before ← format rule first early
      let behind ← reportWhen (!late.isEmpty) rule (.extra late)
      return before ++ behind) := by
  refine ⟨?_, ?_, ?_⟩
  · intro second late
    rw [format, pieces_append finished.not_mem_unfinished, renderPieces_append rule served]
    rfl
  · intro front piece back cut
    rw [format, cut]
    exact renderPieces_around rule front back piece (cut ▸ served)
  · intro late
    have alone := renderPieces_append rule served [] late
    rw [List.append_nil, renderPieces_nil] at alone
    exact alone

/-- Two directives and a percent sign in front of a quoted string and a stray
argument. -/
theorem format_append_mixed :
    IsFinished (pieces "%5d|%.1s%%".toList) ∧
      [Value.ofInt 7, .string "ab"].length = argumentCount (pieces "%5d|%.1s%%".toList) ∧
      format .mark ("%5d|%.1s%%".toList ++ "%q".toList)
          ([.ofInt 7, .string "ab"] ++ [.string "x", .null]) = (do
        let before ← format .mark "%5d|%.1s%%".toList [.ofInt 7, .string "ab"]
        let behind ← format .mark "%q".toList [.string "x", .null]
        return before ++ behind) :=
  have finished : IsFinished (pieces "%5d|%.1s%%".toList) := by decide +kernel
  have served : [Value.ofInt 7, .string "ab"].length =
      argumentCount (pieces "%5d|%.1s%%".toList) := by decide +kernel
  ⟨finished, served, (format_append .mark finished served).1 _ _⟩

end PolicyBuiltins.Template
