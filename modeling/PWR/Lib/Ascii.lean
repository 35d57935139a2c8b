import Mathlib

/-!
# Texts up to the case of their letters

Texts are lists of characters here; the case is that of the ASCII letters.

* `foldCase`: the text in lower case, and `StartsWith`, the prefix order on it. A prefix of a
  prefix is one (`StartsWith.of_append`), and the case of either side does not matter.
* `flatten_splitOn`: splitting a text at a character and joining the parts drops that character.
* `append_inj_of_separate`: a text of one kind of characters followed by one of another kind can be
  cut in one place only.
-/

namespace Ascii

/-! ## Case -/

/-- The text in lower case. -/
def foldCase (s : List Char) : List Char := s.map Char.toLower

/-- `s` starts with `q`, ignoring case. -/
def StartsWith (q s : List Char) : Prop := foldCase q <+: foldCase s

instance (q s : List Char) : Decidable (StartsWith q s) :=
  inferInstanceAs (Decidable (_ <+: _))

theorem foldCase_append (s t : List Char) : foldCase (s ++ t) = foldCase s ++ foldCase t :=
  List.map_append

theorem foldCase_eq_nil {s : List Char} : foldCase s = [] ↔ s = [] := List.map_eq_nil_iff

@[simp] theorem foldCase_foldCase (s : List Char) : foldCase (foldCase s) = foldCase s := by
  unfold foldCase
  rw [List.map_map]
  exact List.map_congr_left fun c _ => Char.toLower_toLower_eq_toLower c

theorem StartsWith.of_append {q t s : List Char} (h : StartsWith (q ++ t) s) : StartsWith q s := by
  unfold StartsWith at h ⊢
  rw [foldCase_append] at h
  exact (List.prefix_append _ _).trans h

/-- A character in lower case is not a new ASCII character. -/
theorem toLower_toNat_lt {c : Char} (h : c.toNat < 128) : c.toLower.toNat < 128 := by
  by_cases hu : c.isUpper = true
  · rw [Char.toLower_eq_of_isUpper hu]
    have hle : c.toNat ≤ 90 := by
      simp only [Char.isUpper, Bool.decide_and, Bool.and_eq_true, decide_eq_true_eq] at hu
      exact hu.2
    rw [Char.toNat_ofNat]
    split <;> omega
  · rwa [Char.toLower_eq_of_not_isUpper hu]

/-! ## Letters and digits -/

theorem toNat_lt_of_isAlpha {c : Char} (h : c.isAlpha = true) : c.toNat < 128 := by
  simp [Char.isAlpha, Char.isUpper, Char.isLower, UInt32.le_iff_toNat_le] at h
  omega

theorem toNat_lt_of_isDigit {c : Char} (h : c.isDigit = true) : c.toNat < 128 := by
  simp [Char.isDigit, UInt32.le_iff_toNat_le] at h
  omega

theorem isAlpha_of_isDigit {c : Char} (h : c.isDigit = true) : c.isAlpha = false := by
  simp [Char.isDigit, Char.isAlpha, Char.isUpper, Char.isLower, UInt32.le_iff_toNat_le] at h ⊢
  omega

/-- A digit has no case. -/
theorem toLower_of_isDigit {c : Char} (h : c.isDigit = true) : c.toLower = c := by
  apply Char.toLower_eq_of_not_isUpper
  intro hu
  have ha := isAlpha_of_isDigit h
  rw [Char.isAlpha, hu, Bool.true_or] at ha
  exact absurd ha (by decide)

/-! ## Parts -/

variable {α : Type}

theorem flatten_splitOn [DecidableEq α] (a : α) (l : List α) :
    (l.splitOn a).flatten = l.filter (· ≠ a) := by
  induction l with
  | nil => rfl
  | cons x l ih =>
    rw [List.splitOn_cons_eq_if_modifyHead]
    obtain ⟨p, ps, hp⟩ := List.exists_cons_of_ne_nil (List.splitOn_ne_nil a l)
    by_cases hx : x = a
    · subst hx
      simp [ih]
    · rw [hp] at ih ⊢
      simp only [beq_iff_eq, hx, if_false, List.modifyHead_cons, List.flatten_cons,
        List.cons_append] at ih ⊢
      rw [ih]
      simp [hx]

/-- Two texts, each of characters that satisfy `p` followed by characters that do not. -/
theorem append_inj_of_separate (p : α → Bool) {s t s' t' : List α} (hs : ∀ a ∈ s, p a = true)
    (ht : ∀ a ∈ t, p a = false) (hs' : ∀ a ∈ s', p a = true) (ht' : ∀ a ∈ t', p a = false)
    (h : s ++ t = s' ++ t') : s = s' ∧ t = t' := by
  have hcut : ∀ {s t : List α}, (∀ a ∈ s, p a = true) → (∀ a ∈ t, p a = false) →
      (s ++ t).filter p = s := by
    intro s t hs ht
    rw [List.filter_append, List.filter_eq_self.mpr hs,
      List.filter_eq_nil_iff.mpr fun a ha => by simp [ht a ha], List.append_nil]
  have he : s = s' := by rw [← hcut hs ht, h, hcut hs' ht']
  subst he
  exact ⟨rfl, List.append_cancel_left h⟩

end Ascii
