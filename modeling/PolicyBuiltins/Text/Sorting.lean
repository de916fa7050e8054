/-
# The order of texts

Texts are ordered by their characters' code points from the left.  This is also
the order of their UTF-8 encodings as byte strings, because that encoding keeps
the order of code points.
-/

namespace PolicyBuiltins.Text

/-- Whether a text stands before another in a sorted list, or equals it.  The first
difference decides, and a text stands before its continuations. -/
def precedes : List Char → List Char → Bool
  | [], _ => true
  | _ :: _, [] => false
  | c :: first, d :: second =>
    c.toNat < d.toNat || c == d && precedes first second

/-- Texts in ascending order. -/
def sorted (texts : List (List Char)) : List (List Char) :=
  texts.mergeSort precedes

/-- Items in ascending order of the text that each is paired with. -/
def sortedByText {α : Type} (items : List (List Char × α)) : List (List Char × α) :=
  items.mergeSort fun first second => precedes first.1 second.1

theorem precedes_total (first second : List Char) :
    precedes first second || precedes second first := by
  induction first generalizing second with
  | nil => simp [precedes]
  | cons c first ih =>
    match second with
    | [] => simp [precedes]
    | d :: second =>
      rcases Nat.lt_trichotomy c.toNat d.toNat with less | same | greater
      · simp [precedes, less]
      · have same : c = d := Char.toNat_inj.1 same
        have either := ih second
        simp_all [precedes]
      · simp [precedes, greater]

theorem precedes_trans {first second third : List Char} (early : precedes first second)
    (late : precedes second third) : precedes first third := by
  induction first generalizing second third with
  | nil => simp [precedes]
  | cons c first ih =>
    match second, third with
    | [], _ => simp [precedes] at early
    | _ :: _, [] => simp [precedes] at late
    | d :: second, e :: third =>
      simp only [precedes, Bool.or_eq_true, decide_eq_true_eq, Bool.and_eq_true,
        beq_iff_eq] at early late ⊢
      rcases early with early | ⟨rfl, early⟩
      · rcases late with late | ⟨rfl, late⟩
        · exact Or.inl (Nat.lt_trans early late)
        · exact Or.inl early
      · rcases late with late | ⟨rfl, late⟩
        · exact Or.inl late
        · exact Or.inr ⟨rfl, ih early late⟩

theorem precedes_antisymm {first second : List Char} (early : precedes first second)
    (late : precedes second first) : first = second := by
  induction first generalizing second with
  | nil =>
    match second with
    | [] => rfl
    | _ :: _ => simp [precedes] at late
  | cons c first ih =>
    match second with
    | [] => simp [precedes] at early
    | d :: second =>
      simp only [precedes, Bool.or_eq_true, decide_eq_true_eq, Bool.and_eq_true,
        beq_iff_eq] at early late
      rcases early with less | ⟨rfl, early⟩
      · rcases late with greater | ⟨rfl, _⟩
        · omega
        · omega
      · rcases late with greater | ⟨_, late⟩
        · omega
        · rw [ih early late]

/-- Sorting only rearranges. -/
theorem sorted_perm (texts : List (List Char)) : (sorted texts).Perm texts :=
  List.mergeSort_perm texts precedes

theorem sorted_pairwise (texts : List (List Char)) :
    (sorted texts).Pairwise fun first second => precedes first second :=
  @List.pairwise_mergeSort _ precedes (fun _ _ _ => precedes_trans) precedes_total texts

/-- Sorting forgets the order that texts were given in. -/
theorem sorted_eq_of_perm {texts others : List (List Char)} (perm : texts.Perm others) :
    sorted texts = sorted others :=
  ((sorted_perm texts).trans (perm.trans (sorted_perm others).symm)).eq_of_pairwise
    (fun _ _ _ _ => precedes_antisymm) (sorted_pairwise texts) (sorted_pairwise others)

theorem sortedByText_perm {α : Type} (items : List (List Char × α)) :
    (sortedByText items).Perm items :=
  List.mergeSort_perm items _

theorem sortedByText_pairwise {α : Type} (items : List (List Char × α)) :
    (sortedByText items).Pairwise fun first second => precedes first.1 second.1 :=
  @List.pairwise_mergeSort _ (fun first second => precedes first.1 second.1)
    (fun _ _ _ => precedes_trans) (fun first second => precedes_total first.1 second.1) items

/-- The first of the sorted items is one of the items, and its text precedes theirs. -/
theorem least_of_sortedByText_eq_cons {α : Type} {items others : List (List Char × α)}
    {least : List Char × α} (listed : sortedByText items = least :: others) :
    least ∈ items ∧ ∀ item ∈ items, precedes least.1 item.1 := by
  have perm := sortedByText_perm items
  have ordered := sortedByText_pairwise items
  rw [listed] at perm ordered
  constructor
  · exact perm.mem_iff.1 List.mem_cons_self
  · intro item inside
    rcases List.mem_cons.1 (perm.mem_iff.2 inside) with rfl | later
    · exact (Bool.or_self _).symm.trans (precedes_total item.1 item.1)
    · exact (List.pairwise_cons.1 ordered).1 item later

end PolicyBuiltins.Text
