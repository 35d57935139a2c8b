import Mathlib.Data.List.DropRight

/-!
# Trimming a list at both ends

`trim p l` is `l` without its longest initial and its longest final run of elements that satisfy
`p`. With `p` a class of characters it is the trimming of a text.
-/

variable {α : Type} (p : α → Bool)

/-- `l` without the elements that satisfy `p` at its two ends. -/
def trim (l : List α) : List α := (l.dropWhile p).rdropWhile p

variable {p}

/-- Elements that satisfy `p` in front of a list do not show in what trimming leaves. -/
theorem trim_append_left {w : List α} (hw : ∀ x ∈ w, p x = true) (l : List α) :
    trim p (w ++ l) = trim p l := by
  unfold trim
  rw [List.dropWhile_append_of_pos hw]

/-- What trimming leaves does not begin with an element that satisfies `p`. -/
theorem dropWhile_trim (l : List α) : (trim p l).dropWhile p = trim p l := by
  unfold trim
  cases hd : l.dropWhile p with
  | nil => simp
  | cons a m =>
    have ha : ¬ p a = true := by
      have := List.head_dropWhile_not p (l := l) (by simp [hd])
      simpa [hd] using this
    obtain ⟨t, ht⟩ := List.rdropWhile_prefix p (l := a :: m)
    cases hr : (a :: m).rdropWhile p with
    | nil => rfl
    | cons b n =>
      rw [hr, List.cons_append] at ht
      obtain ⟨rfl, -⟩ := List.cons.inj ht
      rw [List.dropWhile_cons_of_neg ha]

@[simp] theorem trim_trim (l : List α) : trim p (trim p l) = trim p l := by
  conv_lhs => rw [trim, dropWhile_trim]
  exact List.rdropWhile_idempotent p _
