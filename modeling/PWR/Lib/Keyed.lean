import Mathlib.Data.List.Nodup
import Mathlib.Data.List.Sort
import Mathlib.Order.Basic

/-!
# Lists whose elements have keys

* `find?_key`: with distinct keys, the first element with the key of `a` is `a`.
* `eq_of_perm_of_keySorted`: with distinct keys, two orders of the same elements that are sorted
  by the key are one list, whatever procedures sorted them.
* `count_flatMap_filter_key`: splitting a list by distinct keys loses and duplicates no element
  that has one of them, and drops the others.
* `getElem?_filter_eq_iff`: filtering a list without duplicates leaves the element of a row where
  it was exactly if it drops no element up to that row.
-/

namespace Keyed

variable {α κ : Type} (key : α → κ)

section Find

variable [DecidableEq κ] {key}

theorem find?_key {l : List α} (hn : (l.map key).Nodup) {a : α} (ha : a ∈ l) :
    l.find? (fun x => key x = key a) = some a := by
  cases h : l.find? (fun x => key x = key a) with
  | none =>
    have := List.find?_eq_none.mp h a ha
    simp at this
  | some b =>
    have hk : key b = key a := by simpa using List.find?_some h
    rw [List.inj_on_of_nodup_map hn (List.mem_of_find?_eq_some h) ha hk]

end Find

section Sorting

variable [LinearOrder κ]

theorem eq_of_perm_of_keySorted {l l' : List α} (hp : l.Perm l') (hn : (l.map key).Nodup)
    (hs : l.Pairwise fun a b => key a ≤ key b) (hs' : l'.Pairwise fun a b => key a ≤ key b) :
    l = l' := by
  refine List.Perm.eq_of_pairwise (fun a b ha hb hab hba => ?_) hs hs' hp
  exact List.inj_on_of_nodup_map hn ha (hp.symm.subset hb) (le_antisymm hab hba)

variable {key}

/-- A list that is sorted by distinct keys is strictly sorted. -/
theorem keySorted_lt {l : List α} (hn : (l.map key).Nodup)
    (hs : l.Pairwise fun a b => key a ≤ key b) : l.Pairwise fun a b => key a < key b := by
  rw [List.Nodup, List.pairwise_map] at hn
  exact (hs.and hn).imp fun ⟨hle, hne⟩ => lt_of_le_of_ne hle hne

end Sorting

section Split

variable [DecidableEq κ] [DecidableEq α]

theorem count_filter_key (l : List α) (k : κ) (a : α) :
    (l.filter fun x => key x = k).count a = if key a = k then l.count a else 0 := by
  split
  · rename_i h
    exact List.count_filter (by simpa using h)
  · rename_i h
    refine List.count_eq_zero.mpr fun hm => h ?_
    simpa using (List.mem_filter.mp hm).2

theorem count_flatMap_filter_key {ks : List κ} (hn : ks.Nodup) (l : List α) (a : α) :
    (ks.flatMap fun k => l.filter fun x => key x = k).count a =
      if key a ∈ ks then l.count a else 0 := by
  induction ks with
  | nil => simp
  | cons k ks ih =>
    obtain ⟨hk, hn⟩ := List.nodup_cons.mp hn
    rw [List.flatMap_cons, List.count_append, ih hn, count_filter_key]
    by_cases he : key a = k
    · simp [he, hk]
    · simp [he]

end Split

section Rows

variable {p : α → Bool}

/-- Filtering does not move an element to a later row. -/
theorem le_of_getElem?_filter {l : List α} (hn : l.Nodup) {i j : Nat} {a : α}
    (hi : (l.filter p)[i]? = some a) (hj : l[j]? = some a) : i ≤ j := by
  induction l generalizing i j with
  | nil => simp at hj
  | cons b l ih =>
    obtain ⟨hb, hn⟩ := List.nodup_cons.mp hn
    by_cases hp : p b = true
    · rw [List.filter_cons_of_pos hp] at hi
      cases i with
      | zero => exact Nat.zero_le _
      | succ i =>
        rw [List.getElem?_cons_succ] at hi
        cases j with
        | zero =>
          obtain rfl : b = a := by simpa using hj
          exact absurd (List.mem_filter.mp (List.mem_of_getElem? hi)).1 hb
        | succ j => exact Nat.succ_le_succ (ih hn hi (by simpa using hj))
    · rw [List.filter_cons_of_neg hp] at hi
      cases j with
      | zero =>
        obtain rfl : b = a := by simpa using hj
        exact absurd (List.mem_filter.mp (List.mem_of_getElem? hi)).1 hb
      | succ j => exact Nat.le_succ_of_le (ih hn hi (by simpa using hj))

theorem getElem?_filter_eq_iff {l : List α} (hn : l.Nodup) {i : Nat}
    (hi : i < (l.filter p).length) :
    (l.filter p)[i]? = l[i]? ↔ ∀ a ∈ l.take (i + 1), p a = true := by
  induction l generalizing i with
  | nil => simp at hi
  | cons b l ih =>
    obtain ⟨hb, hn⟩ := List.nodup_cons.mp hn
    by_cases hp : p b = true
    · rw [List.filter_cons_of_pos hp] at hi ⊢
      cases i with
      | zero => simp [hp]
      | succ i =>
        have := ih hn (i := i) (by simpa using hi)
        simp [hp, this]
    · rw [List.filter_cons_of_neg hp] at hi ⊢
      -- the element of the row has moved up: it would have to be `b`, or above itself
      have hne : (l.filter p)[i]? ≠ (b :: l)[i]? := by
        intro he
        obtain ⟨a, ha⟩ : ∃ a, (l.filter p)[i]? = some a := ⟨_, List.getElem?_eq_getElem hi⟩
        rw [ha] at he
        cases i with
        | zero =>
          obtain rfl : a = b := by simpa using he
          exact hb (List.mem_filter.mp (List.mem_of_getElem? ha)).1
        | succ i =>
          have := le_of_getElem?_filter hn ha (j := i) (by simpa using he.symm)
          omega
      refine ⟨fun he => absurd he hne, fun h => absurd (h b ?_) hp⟩
      simp

end Rows

end Keyed
