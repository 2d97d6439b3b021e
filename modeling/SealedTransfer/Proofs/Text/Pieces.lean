/-
# SealedTransfer.Proofs.Text.Pieces — texts taken apart and put together

Splitting at a separator loses nothing: the pieces have no separator in them, and put together with one
between each two they are the text. Trimming takes white space off both ends and nothing else.
-/
import SealedTransfer.Text.Blank

namespace SealedTransfer.Text

/-! ## Pieces between separators -/

section Pieces

variable {separator : Char}

/-- A piece without the separator is the only one. -/
theorem splitAll_of_not_mem {piece : List Char} (h : separator ∉ piece) :
    splitAll separator piece = [piece] := by
  induction piece with
  | nil => rfl
  | cons c piece ih =>
    rw [List.mem_cons, not_or] at h
    rw [splitAll, if_neg (Ne.symm h.1), ih h.2]

/-- A piece without the separator is cut off at the separator behind it. -/
theorem splitAll_append_cons {piece : List Char} (rest : List Char) (h : separator ∉ piece) :
    splitAll separator (piece ++ separator :: rest) = piece :: splitAll separator rest := by
  induction piece with
  | nil => rw [List.nil_append, splitAll, if_pos rfl]
  | cons c piece ih =>
    rw [List.mem_cons, not_or] at h
    rw [List.cons_append, splitAll, if_neg (Ne.symm h.1), ih h.2]

/-- There is always a piece, and behind it the text ends or the separator stands. -/
theorem exists_piece (separator : Char) (text : List Char) :
    ∃ piece, separator ∉ piece ∧
      (text = piece ∨ ∃ rest, text = piece ++ separator :: rest) := by
  induction text with
  | nil => exact ⟨[], List.not_mem_nil, .inl rfl⟩
  | cons c text ih =>
    by_cases same : c = separator
    · subst same
      exact ⟨[], List.not_mem_nil, .inr ⟨text, rfl⟩⟩
    · obtain ⟨piece, none, shape⟩ := ih
      refine ⟨c :: piece, ?_, ?_⟩
      · rw [List.mem_cons, not_or]
        exact ⟨Ne.symm same, none⟩
      · rcases shape with rfl | ⟨rest, rfl⟩
        · exact .inl rfl
        · exact .inr ⟨rest, rfl⟩

theorem splitAll_ne_nil (separator : Char) (text : List Char) : splitAll separator text ≠ [] := by
  obtain ⟨piece, none, rfl | ⟨rest, rfl⟩⟩ := exists_piece separator text
  · rw [splitAll_of_not_mem none]
    exact List.cons_ne_nil _ _
  · rw [splitAll_append_cons _ none]
    exact List.cons_ne_nil _ _

/-- **A text falls into two pieces** exactly if there is one separator, between the two. -/
theorem splitAll_eq_pair_iff {text before after : List Char} :
    splitAll separator text = [before, after] ↔
      text = before ++ separator :: after ∧ separator ∉ before ∧ separator ∉ after := by
  constructor
  · intro pair
    obtain ⟨first, noneInFirst, rfl | ⟨rest, rfl⟩⟩ := exists_piece separator text
    · rw [splitAll_of_not_mem noneInFirst] at pair
      cases pair
    obtain ⟨second, noneInSecond, rfl | ⟨more, rfl⟩⟩ := exists_piece separator rest
    · rw [splitAll_append_cons _ noneInFirst, splitAll_of_not_mem noneInSecond] at pair
      cases pair
      exact ⟨rfl, noneInFirst, noneInSecond⟩
    · -- two separators leave a third piece
      rw [splitAll_append_cons _ noneInFirst, splitAll_append_cons _ noneInSecond] at pair
      obtain ⟨-, others⟩ := List.cons.inj pair
      exact absurd (List.cons.inj others).2 (splitAll_ne_nil separator more)
  · rintro ⟨rfl, noneBefore, noneAfter⟩
    rw [splitAll_append_cons _ noneBefore, splitAll_of_not_mem noneAfter]

/-- A text with one separator between two pieces has it once. -/
theorem count_separator {before after : List Char} (noneBefore : separator ∉ before)
    (noneAfter : separator ∉ after) : (before ++ separator :: after).count separator = 1 := by
  rw [List.count_append, List.count_cons_self, List.count_eq_zero.mpr noneBefore,
    List.count_eq_zero.mpr noneAfter]

end Pieces

/-! ## White space around a core -/

/-- White space. -/
def AllBlank (text : List Char) : Prop := ∀ c ∈ text, isBlank c = true

theorem AllBlank.reverse {text : List Char} (h : AllBlank text) : AllBlank text.reverse := by
  intro c member
  exact h c (List.mem_reverse.mp member)

/-- White space in front is dropped, and what begins with anything else is left. -/
theorem dropWhile_blank {left core : List Char} (blank : AllBlank left)
    (solid : ∀ c ∈ core, isBlank c = false) (behind : List Char) (some : core ≠ []) :
    (left ++ (core ++ behind)).dropWhile isBlank = core ++ behind := by
  rw [List.dropWhile_append_of_pos blank]
  cases core with
  | nil => exact absurd rfl some
  | cons c core =>
    have first : ¬ isBlank c = true := by
      rw [solid c List.mem_cons_self]
      exact Bool.false_ne_true
    exact List.dropWhile_cons_of_neg first

/-- **Trimming finds the core** that stands in white space, if none is inside. -/
theorem trimBlanks_surrounded {left core right : List Char} (blankLeft : AllBlank left)
    (blankRight : AllBlank right) (solid : ∀ c ∈ core, isBlank c = false) (some : core ≠ []) :
    trimBlanks (left ++ core ++ right) = core := by
  have solidReverse : ∀ c ∈ core.reverse, isBlank c = false := by
    intro c member
    exact solid c (List.mem_reverse.mp member)
  have front : (left ++ core ++ right).dropWhile isBlank = core ++ right := by
    rw [List.append_assoc]
    exact dropWhile_blank blankLeft solid right some
  have back : (core ++ right).reverse.dropWhile isBlank = core.reverse := by
    have dropped := dropWhile_blank blankRight.reverse solidReverse [] (by simpa using some)
    rwa [List.append_nil, ← List.reverse_append] at dropped
  rw [trimBlanks, front, back, List.reverse_reverse]

/-- **Trimming takes off nothing but white space**, in front and behind. -/
theorem exists_surrounding (text : List Char) :
    ∃ left right, AllBlank left ∧ AllBlank right ∧ text = left ++ trimBlanks text ++ right := by
  have taken (part : List Char) : AllBlank (part.takeWhile isBlank) := by
    intro c member
    exact List.all_eq_true.mp List.all_takeWhile c member
  refine ⟨text.takeWhile isBlank, ((text.dropWhile isBlank).reverse.takeWhile isBlank).reverse,
    taken _, (taken _).reverse, ?_⟩
  have behind : trimBlanks text ++ ((text.dropWhile isBlank).reverse.takeWhile isBlank).reverse
      = text.dropWhile isBlank := by
    rw [trimBlanks, ← List.reverse_append, List.takeWhile_append_dropWhile, List.reverse_reverse]
  rw [List.append_assoc, behind, List.takeWhile_append_dropWhile]

end SealedTransfer.Text
