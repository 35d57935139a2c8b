import PWR.Basic
import PWR.Lib.Ascii

/-!
# Bills (`Models/Bill.swift`)

`billID` drops the dots of a bill's number, puts it in lower case and adds the number of the
congress. It is the key by which a bill is asked for.

* `toList_billID`: the key in closed form.
* `billID_faithful`: two bill numbers have the same key exactly if they name the same bill. A key
  has no separator between the type and the number; they can be told apart because the one has only
  letters and the other only digits.
-/

namespace PWR

open Ascii

/-- `struct Bill`. -/
structure Bill where
  name : String
  number : String
  lastAction : String
  deriving DecidableEq, Repr

/-- `components(separatedBy:)`, for a separator of one character. -/
def components (s : String) (separator : Char) : List String :=
  (s.toList.splitOn separator).map String.ofList

def Bill.billID (F : Foundation) (bill : Bill) : String :=
  F.lowercased (String.join (components bill.number '.')) ++ "-115"

/-! ## The key in closed form -/

/-- The text without its dots. -/
def dropDots (s : List Char) : List Char := s.filter (· ≠ '.')

theorem dropDots_append (s t : List Char) : dropDots (s ++ t) = dropDots s ++ dropDots t :=
  List.filter_append s t

theorem mem_dropDots {s : List Char} {c : Char} : c ∈ dropDots s ↔ c ∈ s ∧ c ≠ '.' := by
  simp [dropDots]

/-- A character is a dot exactly if it is one in lower case. -/
theorem toLower_eq_dot (c : Char) : c.toLower = '.' ↔ c = '.' := by
  constructor
  · intro h
    by_cases hu : c.isUpper = true
    · have hl := Char.isLower_toLower_eq_isAlpha c
      rw [h, Char.isAlpha, hu, Bool.true_or] at hl
      exact absurd hl (by decide)
    · rwa [Char.toLower_eq_of_not_isUpper hu] at h
  · rintro rfl
    rfl

theorem foldCase_dropDots (s : List Char) : foldCase (dropDots s) = dropDots (foldCase s) := by
  unfold foldCase dropDots
  rw [List.filter_map]
  congr 1
  apply List.filter_congr
  intro c _
  simp [toLower_eq_dot]

theorem toList_join_components (s : String) :
    (String.join (components s '.')).toList = dropDots s.toList := by
  rw [String.toList_join, components, List.flatMap_map]
  simp only [String.toList_ofList, List.flatMap_id']
  exact flatten_splitOn '.' s.toList

theorem isASCII_join_components {s : String} (h : IsASCII s) :
    IsASCII (String.join (components s '.')) := by
  intro c hc
  rw [toList_join_components] at hc
  exact h c (mem_dropDots.mp hc).1

theorem toList_billID (F : Foundation) (bill : Bill) (h : IsASCII bill.number) :
    (bill.billID F).toList = foldCase (dropDots bill.number.toList) ++ "-115".toList := by
  unfold Bill.billID
  rw [F.lowercased_ascii _ (isASCII_join_components h), String.toList_append, String.toLower,
    String.toList_map, toList_join_components]
  rfl

/-! ## Bill numbers -/

/-- A bill's number as it is written: a type of letters and dots, such as `H.J.Res.`, and a number
in decimal digits. -/
structure BillNumber where
  type : String
  digits : String
  type_ne : type ≠ ""
  type_chars : ∀ c ∈ type.toList, c.isAlpha = true ∨ c = '.'
  digits_ne : digits ≠ ""
  digits_chars : ∀ c ∈ digits.toList, c.isDigit = true

namespace BillNumber

def text (n : BillNumber) : String := n.type ++ n.digits

/-- The type without dots, in lower case. -/
def key (n : BillNumber) : List Char := foldCase (dropDots n.type.toList)

/-- The bill of that number. -/
def bill (n : BillNumber) (name lastAction : String) : Bill := ⟨name, n.text, lastAction⟩

variable (n : BillNumber)

/-- The number with one more dot in its type. -/
def insertDot (u v : String) (h : n.type = u ++ v) : BillNumber where
  type := u ++ "." ++ v
  digits := n.digits
  type_ne := by
    intro he
    have := congrArg String.toList he
    simp at this
  type_chars := by
    intro c hc
    have htype := n.type_chars c
    rw [h] at htype
    simp only [String.toList_append, List.mem_append] at hc htype
    rcases hc with (hc | hc) | hc
    · exact htype (.inl hc)
    · exact .inr (by simpa using hc)
    · exact htype (.inr hc)
  digits_ne := n.digits_ne
  digits_chars := n.digits_chars

/-- The number with its type in another case. -/
def recase (t : String) (h : foldCase t.toList = foldCase n.type.toList) : BillNumber where
  type := t
  digits := n.digits
  type_ne := by
    rintro rfl
    apply n.type_ne
    rw [← String.toList_inj]
    exact List.map_eq_nil_iff.mp h.symm
  type_chars := by
    intro c hc
    have hmem : c.toLower ∈ foldCase n.type.toList := h ▸ List.mem_map_of_mem hc
    obtain ⟨d, hd, hdc⟩ := List.mem_map.mp hmem
    rcases n.type_chars d hd with ha | rfl
    · left
      rw [← Char.isAlpha_toLower_eq_isAlpha, ← hdc, Char.isAlpha_toLower_eq_isAlpha]
      exact ha
    · right
      exact (toLower_eq_dot c).mp hdc.symm
  digits_ne := n.digits_ne
  digits_chars := n.digits_chars

theorem key_insertDot (u v : String) (h : n.type = u ++ v) : (n.insertDot u v h).key = n.key := by
  unfold key insertDot
  rw [h]
  simp only [String.toList_append, dropDots_append]
  simp [dropDots]

theorem key_recase (t : String) (h : foldCase t.toList = foldCase n.type.toList) :
    (n.recase t h).key = n.key := by
  unfold key recase
  rw [foldCase_dropDots, foldCase_dropDots, h]

theorem isASCII_text : IsASCII n.text := by
  intro c hc
  rw [text, String.toList_append, List.mem_append] at hc
  rcases hc with hc | hc
  · rcases n.type_chars c hc with h | rfl
    · exact toNat_lt_of_isAlpha h
    · decide
  · exact toNat_lt_of_isDigit (n.digits_chars c hc)

theorem isASCII_number (name lastAction : String) : IsASCII (n.bill name lastAction).number :=
  n.isASCII_text

theorem isAlpha_of_mem_key : ∀ c ∈ n.key, c.isAlpha = true := by
  intro c hc
  obtain ⟨c', hc', rfl⟩ := List.mem_map.mp hc
  obtain ⟨hmem, hne⟩ := mem_dropDots.mp hc'
  rw [Char.isAlpha_toLower_eq_isAlpha]
  exact (n.type_chars c' hmem).resolve_right hne

theorem foldCase_dropDots_digits : foldCase (dropDots n.digits.toList) = n.digits.toList := by
  have hdots : dropDots n.digits.toList = n.digits.toList := by
    apply List.filter_eq_self.mpr
    intro c hc
    have hne : c ≠ '.' := by
      rintro rfl
      exact absurd (n.digits_chars '.' hc) (by decide)
    simpa using hne
  rw [hdots]
  calc n.digits.toList.map Char.toLower
      = n.digits.toList.map id :=
        List.map_congr_left fun c hc => toLower_of_isDigit (n.digits_chars c hc)
    _ = n.digits.toList := List.map_id _

/-- The key is the type's, the digits and the suffix. -/
theorem toList_billID_bill (F : Foundation) (name lastAction : String) :
    ((n.bill name lastAction).billID F).toList = (n.key ++ n.digits.toList) ++ "-115".toList := by
  rw [toList_billID F _ (n.isASCII_number name lastAction), bill, text, String.toList_append,
    dropDots_append, foldCase_append, foldCase_dropDots_digits]
  rfl

end BillNumber

/-! ## Faithful keys -/

variable (F : Foundation)

/-- Neither the name of a bill nor its last action is in its key. -/
theorem billID_bill_inj (a b : BillNumber) (name name' action action' : String) :
    (a.bill name action).billID F = (b.bill name' action').billID F ↔
      a.key = b.key ∧ a.digits = b.digits := by
  rw [← String.toList_inj, a.toList_billID_bill, b.toList_billID_bill, List.append_cancel_right_eq]
  constructor
  · intro h
    have hcut := append_inj_of_separate Char.isAlpha a.isAlpha_of_mem_key
      (fun c hc => isAlpha_of_isDigit (a.digits_chars c hc)) b.isAlpha_of_mem_key
      (fun c hc => isAlpha_of_isDigit (b.digits_chars c hc)) h
    exact ⟨hcut.1, String.toList_inj.mp hcut.2⟩
  · rintro ⟨hk, hd⟩
    rw [hk, hd]

/-- A key has no dot and no letter in upper case. -/
theorem mem_billID_bill (n : BillNumber) (name action : String) :
    ∀ c ∈ ((n.bill name action).billID F).toList, c ≠ '.' ∧ c.isUpper = false := by
  intro c hc
  rw [toList_billID F _ (n.isASCII_number name action), List.mem_append] at hc
  rcases hc with hc | hc
  · obtain ⟨c', hc', rfl⟩ := List.mem_map.mp hc
    have hne := (mem_dropDots.mp hc').2
    exact ⟨fun h => hne ((toLower_eq_dot c').mp h), Char.isUpper_toLower_eq_false c'⟩
  · have hc : c ∈ ['-', '1', '1', '5'] := hc
    simp only [List.mem_cons, List.not_mem_nil, or_false] at hc
    rcases hc with rfl | rfl | rfl | rfl <;> decide

/-- Two bill numbers have the same key exactly if their types agree without dots and case and their
digits are the same. -/
theorem billID_faithful (a b : BillNumber) (name name' action action' : String) :
    ((a.bill name action).billID F = (b.bill name' action').billID F ↔
      foldCase (dropDots a.type.toList) = foldCase (dropDots b.type.toList) ∧
        a.digits = b.digits) ∧
    (∀ (u v : String) (h : a.type = u ++ v),
      ((a.insertDot u v h).bill name' action').billID F = (a.bill name action).billID F) ∧
    (∀ (t : String) (h : foldCase t.toList = foldCase a.type.toList),
      ((a.recase t h).bill name' action').billID F = (a.bill name action).billID F) ∧
    ∀ c ∈ ((a.bill name action).billID F).toList, c ≠ '.' ∧ c.isUpper = false := by
  refine ⟨billID_bill_inj F a b name name' action action', fun u v h => ?_, fun t h => ?_,
    mem_billID_bill F a name action⟩
  · rw [billID_bill_inj]
    exact ⟨a.key_insertDot u v h, rfl⟩
  · rw [billID_bill_inj]
    exact ⟨a.key_recase t h, rfl⟩

example : (Bill.mk "" "H.R.116" "").billID default = "hr116-115" := by decide +kernel

end PWR
