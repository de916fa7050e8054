/-
# Renderings can be told apart

The renderings of any two values are separable: in front of a comma, a colon or a
closing bracket they are the same text or cannot be taken for one another.  This is
what makes the notation readable in one way only.  The proof follows the first
value; a collection is taken apart into the renderings of its parts, which are
separable by induction.

The one place where two notations share their brackets is between sets and objects.
There the first text behind the brace decides: a colon follows the key of an entry,
and never a member of a set.
-/

import PolicyBuiltins.Proofs.Decimal.TextReading
import PolicyBuiltins.Proofs.Text.Separable
import PolicyBuiltins.Value.Rendering

namespace PolicyBuiltins.Value

open Text (AtBoundary OpensInside Separable isBoundary)

/-! ## Induction over the parts of a value -/

/-- What holds of every scalar, and of each collection whose parts it holds of, holds
of every value. -/
@[elab_as_elim]
theorem induction_on_parts {motive : Value → Prop} (value : Value)
    (null : motive .null) (bool : ∀ truth, motive (.bool truth))
    (number : ∀ decimal, motive (.number decimal))
    (string : ∀ text, motive (.string text))
    (array : ∀ items, (∀ item ∈ items, motive item) → motive (.array items))
    (object : ∀ entries, (∀ entry ∈ entries, motive entry.1 ∧ motive entry.2) →
      motive (.object entries))
    (set : ∀ members, (∀ member ∈ members, motive member) → motive (.set members)) :
    motive value := by
  refine @Value.rec motive (fun items => ∀ item ∈ items, motive item)
    (fun entries => ∀ entry ∈ entries, motive entry.1 ∧ motive entry.2)
    (fun entry => motive entry.1 ∧ motive entry.2)
    null bool number string array object set ?_ ?_ ?_ ?_ ?_ value
  · intro item member
    cases member
  · intro item items of_item of_items other member
    rcases List.mem_cons.1 member with rfl | member
    · exact of_item
    · exact of_items other member
  · intro entry member
    cases member
  · intro entry entries of_entry of_entries other member
    rcases List.mem_cons.1 member with rfl | member
    · exact of_entry
    · exact of_entries other member
  · intro key value of_key of_value
    exact ⟨of_key, of_value⟩

/-! ## Listings -/

/-- Texts behind a first one, each behind its comma. -/
def continued (texts : List (List Char)) : List Char :=
  texts.flatMap fun text => ',' :: ' ' :: text

theorem continued_cons (text : List Char) (texts : List (List Char)) :
    continued (text :: texts) = ',' :: ' ' :: (text ++ continued texts) := rfl

theorem intercalate_cons (text : List Char) (texts : List (List Char)) :
    [',', ' '].intercalate (text :: texts) = text ++ continued texts := by
  induction texts generalizing text with
  | nil => simp [continued]
  | cons next texts ih =>
    rw [List.intercalate_cons_cons, ih, continued_cons, List.append_assoc]
    rfl

theorem atBoundary_continued {closing : Char} (boundary : isBoundary closing = true)
    (texts : List (List Char)) (rest : List Char) :
    AtBoundary (continued texts ++ closing :: rest) := by
  cases texts with
  | nil => exact Text.atBoundary_cons boundary rest
  | cons text texts => exact Text.atBoundary_cons rfl _

theorem continued_append_inj {closing : Char} (boundary : isBoundary closing = true)
    (no_comma : closing ≠ ',') {texts others : List (List Char)} {rest rest' : List Char}
    (separable : ∀ text ∈ texts, ∀ other ∈ others, Separable text other)
    (same : continued texts ++ closing :: rest = continued others ++ closing :: rest') :
    texts = others ∧ rest = rest' := by
  induction texts generalizing others with
  | nil =>
    cases others with
    | nil => exact ⟨rfl, (List.cons.inj same).2⟩
    | cons other others => exact absurd (List.cons.inj same).1 no_comma
  | cons text texts ih =>
    cases others with
    | nil => exact absurd (List.cons.inj same).1.symm no_comma
    | cons other others =>
      have behind : text ++ (continued texts ++ closing :: rest) =
          other ++ (continued others ++ closing :: rest') := by
        simp only [continued_cons, List.cons_append, List.append_assoc] at same
        exact (List.cons.inj (List.cons.inj same).2).2
      obtain ⟨heads, tails⟩ :=
        (separable text List.mem_cons_self other List.mem_cons_self).cancel
          (atBoundary_continued boundary texts rest)
          (atBoundary_continued boundary others rest') behind
      obtain ⟨rests, ends⟩ := ih
        (fun text member other member' =>
          separable text (List.mem_cons_of_mem _ member) other
            (List.mem_cons_of_mem _ member')) tails
      exact ⟨by rw [heads, rests], ends⟩

theorem enclosed_append (opening closing : Char) (texts : List (List Char))
    (rest : List Char) :
    enclosed opening closing texts ++ rest =
      opening :: ([',', ' '].intercalate texts ++ closing :: rest) := by
  simp [enclosed]

/-- A listing that goes on with a text does not end there. -/
theorem closing_ne_listing {closing : Char} (boundary : isBoundary closing = true)
    {text : List Char} (inside : OpensInside text) (texts : List (List Char))
    (rest rest' : List Char) :
    closing :: rest ≠ [',', ' '].intercalate (text :: texts) ++ rest' := by
  obtain ⟨c, behind, rfl, open_inside⟩ := inside
  rw [intercalate_cons]
  intro same
  rw [(List.cons.inj same).1, open_inside] at boundary
  exact Bool.false_ne_true boundary

/-- Texts of two listings that can be told from each other and from the end of
either listing. -/
structure SeparableListings (texts others : List (List Char)) : Prop where
  opens : ∀ text ∈ texts, OpensInside text
  opens' : ∀ other ∈ others, OpensInside other
  separable : ∀ text ∈ texts, ∀ other ∈ others, Separable text other

/-- Listings of separable texts between the same brackets list the same texts, and
leave the same behind them. -/
theorem enclosed_append_inj {opening closing : Char} (boundary : isBoundary closing = true)
    (no_comma : closing ≠ ',') {texts others : List (List Char)} {rest rest' : List Char}
    (listings : SeparableListings texts others)
    (same : enclosed opening closing texts ++ rest = enclosed opening closing others ++ rest') :
    texts = others ∧ rest = rest' := by
  rw [enclosed_append, enclosed_append] at same
  have inside := (List.cons.inj same).2
  cases texts with
  | nil =>
    cases others with
    | nil => exact ⟨rfl, (List.cons.inj inside).2⟩
    | cons other others =>
      exact absurd inside
        (closing_ne_listing boundary (listings.opens' other List.mem_cons_self) others _ _)
  | cons text texts =>
    cases others with
    | nil =>
      exact absurd inside.symm
        (closing_ne_listing boundary (listings.opens text List.mem_cons_self) texts _ _)
    | cons other others =>
      rw [intercalate_cons, intercalate_cons, List.append_assoc, List.append_assoc] at inside
      obtain ⟨heads, tails⟩ :=
        (listings.separable text List.mem_cons_self other List.mem_cons_self).cancel
          (atBoundary_continued boundary texts rest)
          (atBoundary_continued boundary others rest') inside
      obtain ⟨rests, ends⟩ := continued_append_inj boundary no_comma
        (fun text member other member' =>
          listings.separable text (List.mem_cons_of_mem _ member) other
            (List.mem_cons_of_mem _ member')) tails
      exact ⟨by rw [heads, rests], ends⟩

/-! ## Entries -/

/-- An entry by the renderings of its key and its value. -/
def entryText (key value : List Char) : List Char :=
  key ++ ':' :: ' ' :: value

theorem entryText_append (key value rest : List Char) :
    entryText key value ++ rest = key ++ ':' :: ' ' :: (value ++ rest) := by
  simp [entryText]

theorem separable_entryText {key key' value value' : List Char} (keys : Separable key key')
    (values : Separable value value') :
    Separable (entryText key value) (entryText key' value') := by
  intro rest rest' ends ends' same
  rw [entryText_append, entryText_append] at same
  obtain ⟨rfl, behind⟩ := keys.cancel (Text.atBoundary_cons rfl _) (Text.atBoundary_cons rfl _)
    same
  rw [values rest rest' ends ends' (List.cons.inj (List.cons.inj behind).2).2]

theorem entryText_inj {key key' value value' : List Char} (keys : Separable key key')
    (same : entryText key value = entryText key' value') : key = key' ∧ value = value' := by
  obtain ⟨heads, tails⟩ := keys.cancel (Text.atBoundary_cons rfl _) (Text.atBoundary_cons rfl _)
    same
  exact ⟨heads, (List.cons.inj (List.cons.inj tails).2).2⟩

theorem opensInside_append {text : List Char} (inside : OpensInside text)
    (rest : List Char) : OpensInside (text ++ rest) := by
  obtain ⟨c, behind, rfl, open_inside⟩ := inside
  exact ⟨c, behind ++ rest, rfl, open_inside⟩

/-- A listing that begins with a member is no listing of entries: what stands behind
the first key is a colon. -/
theorem enclosed_members_ne_entries {member : List Char} (members entries : List (List Char))
    (inside : OpensInside member)
    (keyed : ∀ entry ∈ entries, ∃ key value, entry = entryText key value ∧
      Separable member key) (rest rest' : List Char) :
    enclosed '\x7b' '\x7d' (member :: members) ++ rest ≠
      enclosed '\x7b' '\x7d' entries ++ rest' := by
  rw [enclosed_append, enclosed_append]
  intro same
  have listings := (List.cons.inj same).2
  cases entries with
  | nil => exact closing_ne_listing rfl inside members _ _ listings.symm
  | cons entry entries =>
    obtain ⟨key, value, rfl, separable⟩ := keyed entry List.mem_cons_self
    rw [intercalate_cons, intercalate_cons, List.append_assoc, List.append_assoc,
      entryText_append] at listings
    obtain ⟨-, behind⟩ := separable.cancel (atBoundary_continued rfl members rest)
      (Text.atBoundary_cons rfl _) listings
    cases members with
    | nil => exact absurd (List.cons.inj behind).1 (by decide)
    | cons next members => exact absurd (List.cons.inj behind).1 (by decide)

/-! ## Openings -/

/-- The character that opens the rendering of a string or of a collection.  The empty
set is a word and has none. -/
def opening? : Value → Option Char
  | .string _ => some '"'
  | .array _ => some '['
  | .object _ => some '\x7b'
  | .set (_ :: _) => some '\x7b'
  | _ => none

/-- The characters that the notation of strings and collections is made of. -/
def marks : List Char :=
  ['"', '[', ']', '\x7b', '\x7d', ',', ':']

theorem isBoundary_of_not_mark {c : Char} (plain : c ∉ marks) : isBoundary c = false := by
  simp only [marks, List.mem_cons, List.not_mem_nil, or_false, not_or] at plain
  simp [isBoundary, plain]

theorem not_mark_of_mem_text {number : Decimal} {c : Char} (member : c ∈ number.text) :
    c ∉ marks := by
  rcases Decimal.mem_text member with rfl | rfl | digit
  · decide
  · decide
  · intro mark
    have no_digit : ∀ mark ∈ marks, mark.isDigit = false := by simp [marks]
    rw [no_digit c mark] at digit
    cases digit

/-- The first character of a rendering is the opening, and else no mark. -/
theorem exists_head_render (value : Value) :
    ∃ c rest, value.render = c :: rest ∧ isBoundary c = false ∧
      value.opening? = if c ∈ marks then some c else none := by
  have scalar {text : List Char} (nonempty : text ≠ []) (plain : ∀ c ∈ text, c ∉ marks) :
      ∃ c rest, text = c :: rest ∧ isBoundary c = false ∧
        none = if c ∈ marks then some c else none := by
    cases text with
    | nil => exact absurd rfl nonempty
    | cons c rest =>
      have no_mark := plain c List.mem_cons_self
      exact ⟨c, rest, rfl, isBoundary_of_not_mark no_mark, (if_neg no_mark).symm⟩
  cases value with
  | null =>
    rw [render_null]
    exact scalar (by simp) (by simp [marks])
  | bool truth =>
    rw [render_bool]
    cases truth <;> exact scalar (by simp) (by simp [marks])
  | number decimal =>
    rw [render_number]
    exact scalar (Decimal.text_ne_nil decimal) fun c => not_mark_of_mem_text
  | string text => exact ⟨'"', _, render_string text, rfl, (if_pos (by decide)).symm⟩
  | array items => exact ⟨'[', _, rfl, rfl, (if_pos (by decide)).symm⟩
  | object entries => exact ⟨'\x7b', _, rfl, rfl, (if_pos (by decide)).symm⟩
  | set members =>
    cases members with
    | nil =>
      rw [render_empty_set]
      exact scalar (by simp) (by simp [marks])
    | cons member members => exact ⟨'\x7b', _, rfl, rfl, (if_pos (by decide)).symm⟩

theorem opensInside_render (value : Value) : OpensInside value.render := by
  obtain ⟨c, rest, rendered, inside, -⟩ := exists_head_render value
  exact ⟨c, rest, rendered, inside⟩

/-- Values that open differently are written differently. -/
theorem separable_of_opening?_ne {first second : Value}
    (differ : first.opening? ≠ second.opening?) :
    Separable first.render second.render := by
  intro rest rest' _ _ same
  obtain ⟨c, behind, rendered, -, opening⟩ := exists_head_render first
  obtain ⟨d, behind', rendered', -, opening'⟩ := exists_head_render second
  rw [rendered, rendered'] at same
  rw [opening, opening', (List.cons.inj same).1] at differ
  exact absurd rfl differ

/-- Words and numbers are written without boundaries. -/
theorem not_boundary_of_scalar {value : Value} (scalar : value.opening? = none) :
    ∀ c ∈ value.render, isBoundary c = false := by
  cases value with
  | null =>
    rw [render_null]
    simp [isBoundary]
  | bool truth =>
    rw [render_bool]
    cases truth <;> simp [isBoundary]
  | number decimal =>
    rw [render_number]
    exact fun c member => isBoundary_of_not_mark (not_mark_of_mem_text member)
  | string text => cases scalar
  | array items => cases scalar
  | object entries => cases scalar
  | set members =>
    cases members with
    | nil =>
      rw [render_empty_set]
      simp [isBoundary]
    | cons member members => cases scalar

theorem separable_of_scalar {first second : Value} (scalar : first.opening? = none)
    (scalar' : second.opening? = none) : Separable first.render second.render :=
  Text.separable_of_no_boundary (not_boundary_of_scalar scalar) (not_boundary_of_scalar scalar')

/-! ## The texts of sets and objects -/

/-- The renderings that are listed for a set. -/
def memberTexts (members : List Value) : List (List Char) :=
  Text.sorted (keepFlagged (newness members) (renderItems members))

/-- The renderings that are listed for an object. -/
def entryTexts (entries : List (Value × Value)) : List (List Char) :=
  Text.sorted (keepFlagged (finality entries) (renderEntries entries))

theorem render_array (items : List Value) :
    render (.array items) = enclosed '[' ']' (items.map render) := by
  rw [← renderItems_eq_map]
  rfl

theorem render_object (entries : List (Value × Value)) :
    render (.object entries) = enclosed '\x7b' '\x7d' (entryTexts entries) := rfl

theorem render_set {members : List Value} (nonempty : members ≠ []) :
    render (.set members) = enclosed '\x7b' '\x7d' (memberTexts members) := by
  cases members with
  | nil => exact absurd rfl nonempty
  | cons member members => rfl

theorem mem_of_mem_keepFlagged {α : Type} {flags : List Bool} {items : List α} {item : α}
    (member : item ∈ keepFlagged flags items) : item ∈ items := by
  obtain ⟨⟨flag, other⟩, pair, kept⟩ := List.mem_filterMap.1 member
  cases flag with
  | false => cases kept
  | true =>
    rw [← Option.some.inj kept]
    exact (List.of_mem_zip pair).2

theorem exists_of_mem_memberTexts {members : List Value} {text : List Char}
    (listed : text ∈ memberTexts members) : ∃ member ∈ members, text = member.render := by
  have kept := mem_of_mem_keepFlagged ((Text.sorted_perm _).mem_iff.1 listed)
  rw [renderItems_eq_map] at kept
  obtain ⟨member, inside, rendered⟩ := List.mem_map.1 kept
  exact ⟨member, inside, rendered.symm⟩

theorem exists_of_mem_renderEntries {entries : List (Value × Value)} {text : List Char}
    (listed : text ∈ renderEntries entries) :
    ∃ entry ∈ entries, text = entryText entry.1.render entry.2.render := by
  rw [renderEntries_eq_map] at listed
  obtain ⟨entry, inside, rendered⟩ := List.mem_map.1 listed
  exact ⟨entry, inside, rendered.symm⟩

theorem exists_of_mem_entryTexts {entries : List (Value × Value)} {text : List Char}
    (listed : text ∈ entryTexts entries) :
    ∃ entry ∈ entries, text = entryText entry.1.render entry.2.render :=
  exists_of_mem_renderEntries
    (mem_of_mem_keepFlagged ((Text.sorted_perm _).mem_iff.1 listed))

/-- A set that has members lists one of them first. -/
theorem exists_memberTexts_eq_cons {members : List Value} (nonempty : members ≠ []) :
    ∃ member ∈ members, ∃ texts, memberTexts members = member.render :: texts := by
  cases listed : memberTexts members with
  | nil =>
    -- The first member equals none before it, so it is never dropped.
    have none_kept : keepFlagged (newness members) (renderItems members) = [] := by
      have perm := Text.sorted_perm (keepFlagged (newness members) (renderItems members))
      rw [memberTexts] at listed
      rw [listed] at perm
      exact perm.nil_eq.symm
    cases members with
    | nil => exact absurd rfl nonempty
    | cons member others => exact absurd none_kept (List.cons_ne_nil _ _)
  | cons text texts =>
    obtain ⟨member, inside, rfl⟩ :=
      exists_of_mem_memberTexts (listed ▸ List.mem_cons_self : text ∈ memberTexts members)
    exact ⟨member, inside, texts, rfl⟩

/-! ## Unique readability -/

theorem separable_of_enclosed {closing : Char} (opening : Char)
    (boundary : isBoundary closing = true) (no_comma : closing ≠ ',')
    {texts others : List (List Char)} (listings : SeparableListings texts others) :
    Separable (enclosed opening closing texts) (enclosed opening closing others) := by
  intro rest rest' _ _ same
  rw [(enclosed_append_inj boundary no_comma listings same).1]

theorem separableListings_items {items others : List Value}
    (separable : ∀ item ∈ items, ∀ other ∈ others, Separable item.render other.render) :
    SeparableListings (items.map render) (others.map render) where
  opens := List.forall_mem_map.2 fun item _ => opensInside_render item
  opens' := List.forall_mem_map.2 fun other _ => opensInside_render other
  separable := by
    intro text listed other listed'
    obtain ⟨item, inside, rfl⟩ := List.mem_map.1 listed
    obtain ⟨item', inside', rfl⟩ := List.mem_map.1 listed'
    exact separable item inside item' inside'

theorem opensInside_of_mem_memberTexts {members : List Value} {text : List Char}
    (listed : text ∈ memberTexts members) : OpensInside text := by
  obtain ⟨member, -, rfl⟩ := exists_of_mem_memberTexts listed
  exact opensInside_render member

theorem separableListings_members {members others : List Value}
    (separable : ∀ member ∈ members, ∀ other ∈ others,
      Separable member.render other.render) :
    SeparableListings (memberTexts members) (memberTexts others) where
  opens _ := opensInside_of_mem_memberTexts
  opens' _ := opensInside_of_mem_memberTexts
  separable := by
    intro text listed other listed'
    obtain ⟨member, inside, rfl⟩ := exists_of_mem_memberTexts listed
    obtain ⟨member', inside', rfl⟩ := exists_of_mem_memberTexts listed'
    exact separable member inside member' inside'

theorem opensInside_of_mem_entryTexts {entries : List (Value × Value)} {text : List Char}
    (listed : text ∈ entryTexts entries) : OpensInside text := by
  obtain ⟨entry, -, rfl⟩ := exists_of_mem_entryTexts listed
  exact opensInside_append (opensInside_render entry.1) _

theorem separableListings_entries {entries others : List (Value × Value)}
    (keys : ∀ entry ∈ entries, ∀ other ∈ others, Separable entry.1.render other.1.render)
    (values : ∀ entry ∈ entries, ∀ other ∈ others,
      Separable entry.2.render other.2.render) :
    SeparableListings (entryTexts entries) (entryTexts others) where
  opens _ := opensInside_of_mem_entryTexts
  opens' _ := opensInside_of_mem_entryTexts
  separable := by
    intro text listed other listed'
    obtain ⟨entry, inside, rfl⟩ := exists_of_mem_entryTexts listed
    obtain ⟨entry', inside', rfl⟩ := exists_of_mem_entryTexts listed'
    exact separable_entryText (keys entry inside entry' inside')
      (values entry inside entry' inside')

/-- A set that has members cannot be taken for an object. -/
theorem render_set_append_ne_object {members : List Value} (nonempty : members ≠ [])
    {entries : List (Value × Value)}
    (separable : ∀ member ∈ members, ∀ entry ∈ entries,
      Separable member.render entry.1.render) (rest rest' : List Char) :
    render (.set members) ++ rest ≠ render (.object entries) ++ rest' := by
  obtain ⟨member, inside, texts, listed⟩ := exists_memberTexts_eq_cons nonempty
  rw [render_set nonempty, render_object, listed]
  apply enclosed_members_ne_entries texts _ (opensInside_render member)
  intro text entry_listed
  obtain ⟨entry, entry_inside, rfl⟩ := exists_of_mem_entryTexts entry_listed
  exact ⟨_, _, rfl, separable member inside entry entry_inside⟩

theorem separable_set_object {members : List Value} (nonempty : members ≠ [])
    {entries : List (Value × Value)}
    (separable : ∀ member ∈ members, ∀ entry ∈ entries,
      Separable member.render entry.1.render) :
    Separable (render (.set members)) (render (.object entries)) := by
  intro rest rest' _ _ same
  exact absurd same (render_set_append_ne_object nonempty separable rest rest')

theorem separable_set_set {members others : List Value} (nonempty : members ≠ [])
    (nonempty' : others ≠ [])
    (separable : ∀ member ∈ members, ∀ other ∈ others,
      Separable member.render other.render) :
    Separable (render (.set members)) (render (.set others)) := by
  rw [render_set nonempty, render_set nonempty']
  exact separable_of_enclosed _ rfl (by decide) (separableListings_members separable)

theorem separable_object_object {entries others : List (Value × Value)}
    (keys : ∀ entry ∈ entries, ∀ other ∈ others, Separable entry.1.render other.1.render)
    (values : ∀ entry ∈ entries, ∀ other ∈ others,
      Separable entry.2.render other.2.render) :
    Separable (render (.object entries)) (render (.object others)) := by
  rw [render_object, render_object]
  exact separable_of_enclosed _ rfl (by decide) (separableListings_entries keys values)

theorem separable_array_array {items others : List Value}
    (separable : ∀ item ∈ items, ∀ other ∈ others, Separable item.render other.render) :
    Separable (render (.array items)) (render (.array others)) := by
  rw [render_array, render_array]
  exact separable_of_enclosed _ rfl (by decide) (separableListings_items separable)

/-- A scalar is separable from every value. -/
theorem separable_scalar {first : Value} (scalar : first.opening? = none) (second : Value) :
    Separable first.render second.render := by
  by_cases scalar' : second.opening? = none
  · exact separable_of_scalar scalar scalar'
  · apply separable_of_opening?_ne
    rw [scalar]
    exact Ne.symm scalar'

/-- The values whose rendering begins with a brace. -/
theorem of_opening?_eq_brace {value : Value} (opening : value.opening? = some '\x7b') :
    (∃ entries, value = .object entries) ∨ ∃ members, members ≠ [] ∧ value = .set members := by
  cases value with
  | object entries => exact Or.inl ⟨entries, rfl⟩
  | set members =>
    cases members with
    | nil => cases opening
    | cons member members => exact Or.inr ⟨_, List.cons_ne_nil _ _, rfl⟩
  | null => cases opening
  | bool truth => cases opening
  | number decimal => cases opening
  | string text => exact absurd opening (by simp [opening?])
  | array items => exact absurd opening (by simp [opening?])

/-- The renderings of any two values are separable. -/
theorem separable_render (first second : Value) : Separable first.render second.render := by
  induction first using induction_on_parts generalizing second with
  | null => exact separable_scalar rfl second
  | bool truth => exact separable_scalar rfl second
  | number decimal => exact separable_scalar rfl second
  | string text =>
    cases second with
    | string text' =>
      rw [render_string, render_string]
      exact Text.separable_quoted _ _
    | set members =>
      cases members <;> exact separable_of_opening?_ne (by simp [opening?])
    | _ => exact separable_of_opening?_ne (by simp [opening?])
  | array items separable =>
    cases second with
    | array items' =>
      exact separable_array_array fun item inside other _ => separable item inside other
    | set members =>
      cases members <;> exact separable_of_opening?_ne (by simp [opening?])
    | _ => exact separable_of_opening?_ne (by simp [opening?])
  | object entries separable =>
    by_cases brace : second.opening? = some '\x7b'
    · rcases of_opening?_eq_brace brace with ⟨entries', rfl⟩ | ⟨members, nonempty, rfl⟩
      · exact separable_object_object
          (fun entry inside other _ => (separable entry inside).1 other.1)
          (fun entry inside other _ => (separable entry inside).2 other.2)
      · exact (separable_set_object nonempty fun member _ entry inside =>
          ((separable entry inside).1 member).symm).symm
    · exact separable_of_opening?_ne (Ne.symm brace)
  | set members separable =>
    by_cases nonempty : members = []
    · rw [nonempty]
      exact separable_scalar rfl second
    · have own_brace : opening? (.set members) = some '\x7b' := by
        cases members with
        | nil => exact absurd rfl nonempty
        | cons member members => rfl
      by_cases brace : second.opening? = some '\x7b'
      · rcases of_opening?_eq_brace brace with ⟨entries, rfl⟩ | ⟨members', nonempty', rfl⟩
        · exact separable_set_object nonempty fun member inside entry _ =>
            separable member inside entry.1
        · exact separable_set_set nonempty nonempty' fun member inside other _ =>
            separable member inside other
      · apply separable_of_opening?_ne
        rw [own_brace]
        exact Ne.symm brace

end PolicyBuiltins.Value
