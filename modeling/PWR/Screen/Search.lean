import PWR.Lib.Ascii
import PWR.Screen.Picker

/-!
# The search of the state picker

`Search.items` of `PWR/Screen/Picker.lean` filters with Foundation's `lowercased` and `hasPrefix`,
and lower-cases the text of the search bar twice. For ASCII text it is `found`: the states whose
title or abbreviation starts with that text, ignoring case.

* `isMatch_iff`: the filter of the source and the one of `found` agree on every state.
* `search_path_independent`: what the picker shows after a change of the text depends on the text
  only, shrinks as the text grows and does not depend on its case.
-/

namespace PWR

open Ascii
open StateCollectionViewController (isMatch)

/-! ## The states that a text finds -/

/-- The title or the abbreviation of the state starts with `q`, ignoring case. -/
def Finds (q : String) (s : State) : Prop :=
  StartsWith q.toList s.title.toList ∨ StartsWith q.toList s.abbreviation.toList

instance (q : String) (s : State) : Decidable (Finds q s) := inferInstanceAs (Decidable (_ ∨ _))

/-- The states of the list that `q` finds; all of them for no text. -/
def found (S : List State) (q : String) : List State :=
  if q = "" then S else S.filter (Finds q)

theorem Finds.of_append {q t : String} {s : State} (h : Finds (q ++ t) s) : Finds q s := by
  unfold Finds at h ⊢
  rw [String.toList_append] at h
  exact h.imp StartsWith.of_append StartsWith.of_append

theorem found_sublist (S : List State) (q : String) : (found S q).Sublist S := by
  unfold found
  split
  · exact List.Sublist.refl S
  · exact List.filter_sublist

/-- More text finds fewer states. -/
theorem found_append_sublist (S : List State) {q : String} (hq : q ≠ "") (t : String) :
    (found S (q ++ t)).Sublist (found S q) := by
  have hqt : q ++ t ≠ "" := by
    intro he
    exact hq (String.append_eq_empty_iff.mp he).1
  rw [found, found, if_neg hq, if_neg hqt]
  apply List.monotone_filter_right
  intro s hs
  simp only [decide_eq_true_eq] at hs ⊢
  exact hs.of_append

theorem found_congr (S : List State) {q q' : String}
    (h : foldCase q'.toList = foldCase q.toList) : found S q' = found S q := by
  have hempty : q' = "" ↔ q = "" := by
    rw [← String.toList_eq_nil_iff, ← String.toList_eq_nil_iff, ← foldCase_eq_nil, h,
      foldCase_eq_nil]
  have hfinds : Finds q' = Finds q := by
    funext s
    unfold Finds StartsWith
    rw [h]
  simp only [found, hempty, hfinds]

/-! ## The filter of the source -/

theorem toList_lowercased (F : Foundation) {s : String} (h : IsASCII s) :
    (F.lowercased s).toList = foldCase s.toList := by
  rw [F.lowercased_ascii s h, String.toLower, String.toList_map]
  rfl

theorem isASCII_lowercased (F : Foundation) {s : String} (h : IsASCII s) :
    IsASCII (F.lowercased s) := by
  intro c hc
  rw [toList_lowercased F h] at hc
  obtain ⟨c', hc', rfl⟩ := List.mem_map.mp hc
  exact toLower_toNat_lt (h c' hc')

theorem lowercased_ne_empty (F : Foundation) {s : String} (h : IsASCII s) (hne : s ≠ "") :
    F.lowercased s ≠ "" := by
  rwa [Ne, ← String.toList_eq_nil_iff, toList_lowercased F h, foldCase_eq_nil,
    String.toList_eq_nil_iff]

/-- The lower-case texts of the source and `StartsWith` agree. -/
theorem hasPrefix_lowercased_iff (F : Foundation) {s q : String} (hs : IsASCII s)
    (hr : '\r' ∉ foldCase s.toList) (hq : IsASCII q) (hne : q ≠ "") :
    F.hasPrefix (F.lowercased s) (F.lowercased q) = true ↔ StartsWith q.toList s.toList := by
  rw [F.hasPrefix_ascii _ _ (isASCII_lowercased F hs) (by rwa [toList_lowercased F hs])
    (isASCII_lowercased F hq) (lowercased_ne_empty F hq hne), toList_lowercased F hs,
    toList_lowercased F hq, List.isPrefixOf_iff_prefix]
  rfl

/-- The titles and the abbreviations are ASCII texts on one line. -/
def State.IsPlain (s : State) : Prop :=
  (IsASCII s.title ∧ '\r' ∉ foldCase s.title.toList) ∧
    (IsASCII s.abbreviation ∧ '\r' ∉ foldCase s.abbreviation.toList)

theorem isPlain_of_mem_states {F : Foundation} {b : Bundle} {o : Order} {s : State}
    (h : s ∈ states F b o) : s.IsPlain := by
  have hdict : ∀ entry ∈ stateDictionary,
      (IsASCII entry.2 ∧ '\r' ∉ foldCase entry.2.toList) ∧
        (IsASCII entry.1 ∧ '\r' ∉ foldCase entry.1.toList) := by
    decide +kernel
  obtain ⟨parsed, hl⟩ := exists_states_eq h
  rw [hl] at h
  obtain ⟨entry, he, rfl⟩ := mem_stateList.mp h
  exact hdict entry he

/-- The text of the search bar is in lower case twice when the source filters. -/
theorem isMatch_iff (F : Foundation) {q : String} (hq : IsASCII q) (hne : q ≠ "") {s : State}
    (hs : s.IsPlain) : isMatch F (F.lowercased q) s = true ↔ Finds q s := by
  have hq' := isASCII_lowercased F hq
  have hqne := lowercased_ne_empty F hq hne
  rw [isMatch, Bool.or_eq_true, hasPrefix_lowercased_iff F hs.1.1 hs.1.2 hq' hqne,
    hasPrefix_lowercased_iff F hs.2.1 hs.2.2 hq' hqne, toList_lowercased F hq]
  unfold Finds StartsWith
  rw [foldCase_foldCase]

theorem items_eq_found (F : Foundation) (b : Bundle) (o : Order) {q : String} (hq : IsASCII q) :
    Search.items F (states F b o) { query := q } = found (states F b o) q := by
  unfold Search.items found
  split
  · rfl
  next hne =>
    apply List.filter_congr
    intro s hs
    rw [Bool.eq_iff_iff, isMatch_iff F hq hne (isPlain_of_mem_states hs), decide_eq_true_eq]

/-! ## Histories of the search bar -/

section

variable (F : Foundation) (b : Bundle) (o : Order) (statePickerDelegate : Bool)

/-- The picker after the history `h` and a change of the text to `q`. -/
def afterText (h : List PickerEvent) (q : String) : PickerView :=
  (picker F b o statePickerDelegate).run (h ++ [.textDidChange q])

variable {F b o statePickerDelegate}

/-- The text can change at any time. -/
theorem admits_textDidChange {h : List PickerEvent}
    (ha : (picker F b o statePickerDelegate).Admits h) (q : String) :
    (picker F b o statePickerDelegate).Admits (h ++ [.textDidChange q]) :=
  (Machine.admits_snoc h _).mpr ⟨ha, trivial⟩

/-- The data source and the screen agree with `found` right after a change of the text. -/
theorem afterText_found {h : List PickerEvent} (ha : (picker F b o statePickerDelegate).Admits h)
    {q : String} (hq : IsASCII q) :
    (afterText F b o statePickerDelegate h q).vc.items = found (states F b o) q ∧
      (afterText F b o statePickerDelegate h q).cells =
        (found (states F b o) q).map fun s => some (cellOf s) := by
  have hv := search_holds F b o statePickerDelegate h ha
  have hrun : afterText F b o statePickerDelegate h q =
      ((picker F b o statePickerDelegate).run h).textDidChange F q := by
    rw [afterText, Machine.run_snoc]
    rfl
  have hi : (afterText F b o statePickerDelegate h q).vc.items = found (states F b o) q := by
    rw [hrun, (hv.textDidChange q).vc_items, ← items_eq_found F b o hq]
    rfl
  refine ⟨hi, ?_⟩
  rw [← hi, hrun]
  exact PickerView.reloadSections_cells _

end

/-- **The search does not depend on how its text came about.** After every history of callbacks that
ends with a change of the text to `q`: the data source reads, and the screen shows, the states that
`q` finds, in the order of their titles and each once. So every other history that ends with `q`
shows the same; more text finds a part of them; the case of `q` does not matter; and what was typed
after `q` leaves no trace once it is deleted. -/
theorem search_path_independent (F : Foundation) (b : Bundle) (o : Order)
    (statePickerDelegate : Bool) (h : List PickerEvent)
    (ha : (picker F b o statePickerDelegate).Admits h) (q : String) (hq : IsASCII q) :
    let items := fun h q => (afterText F b o statePickerDelegate h q).vc.items
    items h q = found (states F b o) q ∧
    (afterText F b o statePickerDelegate h q).cells =
      (found (states F b o) q).map (fun s => some (cellOf s)) ∧
    (items h q).Nodup ∧
    (items h q).Pairwise (fun s t => s.title < t.title) ∧
    ∀ h', (picker F b o statePickerDelegate).Admits h' →
      items h' q = items h q ∧
      (∀ q', IsASCII q' → foldCase q'.toList = foldCase q.toList → items h' q' = items h q) ∧
      (∀ s, IsASCII s → q ≠ "" → (items h' (q ++ s)).Sublist (items h q)) ∧
      ∀ s, IsASCII s → items (h' ++ [.textDidChange q, .textDidChange (q ++ s)]) q = items h q := by
  intro items
  have hitems : ∀ h', (picker F b o statePickerDelegate).Admits h' → ∀ q', IsASCII q' →
      items h' q' = found (states F b o) q' := fun h' ha' q' hq' => (afterText_found ha' hq').1
  have hsub := found_sublist (states F b o) q
  have hpair := (states_pairwise F b o).sublist hsub
  rw [hitems h ha q hq]
  refine ⟨rfl, (afterText_found ha hq).2, hpair.imp fun hlt he => ?_, hpair,
    fun h' ha' => ⟨hitems h' ha' q hq, fun q' hq' hc => ?_, fun s hs hne => ?_, fun s _ => ?_⟩⟩
  · rw [he] at hlt
    exact lt_irrefl _ hlt
  · rw [hitems h' ha' q' hq', found_congr _ hc]
  · rw [hitems h' ha' (q ++ s) (hq.append hs)]
    exact found_append_sublist (states F b o) hne s
  · have ha'' := admits_textDidChange (admits_textDidChange ha' q) (q ++ s)
    rw [List.append_assoc] at ha''
    exact hitems _ ha'' q hq

/-- The texts `ne` and `N`, after a search for `a` that was cancelled. -/
theorem search_path_independent_ne :
    (afterText default ⟨some []⟩ default true [.textDidChange "a", .cancelButtonClicked]
      "ne").vc.items.map (·.title) =
        ["Nebraska", "Nevada", "New Hampshire", "New Jersey", "New Mexico", "New York"] ∧
    (afterText default ⟨some []⟩ default true [] ("N" ++ "e")).vc.items.Sublist
      (afterText default ⟨some []⟩ default true [.textDidChange "a", .cancelButtonClicked]
        "N").vc.items := by
  have h := search_path_independent default ⟨some []⟩ default true
    [.textDidChange "a", .cancelButtonClicked] ⟨trivial, trivial, trivial⟩
  obtain ⟨hne, -⟩ := h "ne" (by decide)
  obtain ⟨-, -, -, -, hN⟩ := h "N" (by decide)
  refine ⟨?_, (hN [] trivial).2.2.1 "e" (by decide) (by decide)⟩
  exact (congrArg (List.map State.title) hne).trans (by decide +kernel)

end PWR
