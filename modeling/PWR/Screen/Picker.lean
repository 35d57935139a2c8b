import PWR.Lib.Machine
import PWR.Session.Defaults

/-!
# The state picker (`Controllers/StateCollectionViewController`)

The picker shows the states in a collection view and filters them by the text of a search bar. Its
data source reads `isFiltering` and `filteredStates`, which the callbacks of the search bar
change; the collection view keeps the cells that the data source returned at the last reload of
the section, or when a cell was scrolled in later. Only the `didSet` of `filteredStates` reloads.

`Search` is the abstract side: the text that the search bar holds, and what happened since it was
cancelled. `search_holds` says what the controller holds and what the screen shows after every
history of callbacks.

* `tap_stores_shown_iff`: a tap on a cell stores the state that the cell shows, unless the search
  was cancelled, the cell is one from before and the filter had dropped a state above it.
-/

namespace PWR

open UserDefaultManager

/-- `IndexPath`. -/
structure IndexPath where
  section_ : Nat
  row : Nat
  deriving DecidableEq, Repr

/-- A cell of the collection view: a `StateCollectionViewCell`, or a plain one. -/
inductive CollectionCell where
  | state (stateLabel : String) (pictureView : UIImage)
  | plain
  deriving DecidableEq, Repr

/-- The segues of `Constants` that lead from screen to screen, by their identifiers. -/
inductive Segue where
  | chooseState
  | goHome
  | userSelectedState
  | goToStatePickerFromSettings
  | goToLoginVC
  deriving DecidableEq, Repr

/-- What the picker does outside of itself. -/
inductive PickerEffect where
  | write (w : Write)
  /-- The callback of the `StatePickerDelegate`. -/
  | userDidSelectState
  | performSegue (segue : Segue)

/-- The writes among the effects. -/
def PickerEffect.write? : PickerEffect → Option Write
  | .write w => some w
  | _ => none

/-! ## The controller -/

structure StateCollectionViewController where
  states : List State
  filteredStates : List State := []
  selectedState : Option State := none
  isFiltering : Bool := false
  /-- A `statePickerDelegate` is set. -/
  statePickerDelegate : Bool := false

namespace StateCollectionViewController

variable (vc : StateCollectionViewController)

def numberOfItemsInSection (section_ : Nat) : Nat :=
  if section_ = 1 then
    if vc.isFiltering then vc.filteredStates.length else vc.states.length
  else 0

/-- The cell of an item; `none` where the source indexes out of range. -/
def cellForItemAt (indexPath : IndexPath) : Option CollectionCell :=
  if indexPath.section_ = 1 then
    match vc.isFiltering with
    | true => do
      let state ← vc.filteredStates[indexPath.row]?
      return .state state.title state.pic
    | false => do
      let state ← vc.states[indexPath.row]?
      return .state state.title state.pic
  else some .plain

/-- A tap on an item, with the defaults `d`; `none` where the source indexes out of range. -/
def didSelectItemAt (d : UserDefaults) (indexPath : IndexPath) :
    Option (StateCollectionViewController × List PickerEffect) := do
  let selectedState ←
    match vc.isFiltering with
    | true => vc.filteredStates[indexPath.row]?
    | false => vc.states[indexPath.row]?
  let effects := (setStoredState d selectedState.abbreviation).map .write ++
    (if vc.statePickerDelegate then [.userDidSelectState] else []) ++
    [.performSegue .userSelectedState]
  return ({ vc with selectedState := some selectedState }, effects)

/-- The condition of `filterStatesForSearchText`. -/
def isMatch (F : Foundation) (searchText : String) (state : State) : Bool :=
  F.hasPrefix (F.lowercased state.title) (F.lowercased searchText) ||
    F.hasPrefix (F.lowercased state.abbreviation) (F.lowercased searchText)

/-- The assignment to `filteredStates` reloads the section: see `PickerView.reloadSections`. -/
def filterStatesForSearchText (F : Foundation) (searchText : String) :
    StateCollectionViewController :=
  { vc with filteredStates := vc.states.filter (isMatch F searchText) }

end StateCollectionViewController

/-! ## The controller and its collection view -/

/-- The picker on screen. -/
structure PickerView where
  vc : StateCollectionViewController
  /-- The items of section 1, each with the cell that the data source returned last for it. Which
  of them fit on the screen is left open. -/
  cells : List (Option CollectionCell)

/-- What the search bar and the collection view tell the controller. -/
inductive PickerEvent where
  | textDidChange (searchText : String)
  | cancelButtonClicked
  | searchButtonClicked
  /-- The cell of the row comes back on screen, so the data source is asked for it. -/
  | scrolledIn (row : Nat)
  deriving DecidableEq, Repr

namespace PickerView

variable (v : PickerView)

/-- `collectionView?.reloadSections(IndexSet(integer: 1))`. -/
def reloadSections : PickerView :=
  { v with cells := (List.range (v.vc.numberOfItemsInSection 1)).map fun row =>
      v.vc.cellForItemAt ⟨1, row⟩ }

/-- `isFiltering` is set before the assignment to `filteredStates` reloads. -/
def textDidChange (F : Foundation) (searchText : String) : PickerView :=
  let vc := { v.vc with isFiltering := searchText.length != 0 }
  { v with vc := vc.filterStatesForSearchText F (F.lowercased searchText) }.reloadSections

/-- `searchBarCancelButtonClicked`: no reload. -/
def cancelButtonClicked : PickerView := { v with vc := { v.vc with isFiltering := false } }

def step (F : Foundation) : PickerEvent → PickerView
  | .textDidChange searchText => v.textDidChange F searchText
  | .cancelButtonClicked => v.cancelButtonClicked
  | .searchButtonClicked => v
  | .scrolledIn row => { v with cells := v.cells.set row (v.vc.cellForItemAt ⟨1, row⟩) }

/-- The first display of the states `S`. -/
def load (S : List State) (statePickerDelegate : Bool) : PickerView :=
  reloadSections ⟨{ states := S, statePickerDelegate := statePickerDelegate }, []⟩

end PickerView

/-- The picker, from its first display, with a delegate or without. A cell that is scrolled in is
one of an item that the collection view knows of. -/
def picker (F : Foundation) (b : Bundle) (o : Order) (statePickerDelegate : Bool) :
    Machine PickerView PickerEvent where
  init := PickerView.load (states F b o) statePickerDelegate
  step v e := v.step F e
  enabled v e := match e with
    | .scrolledIn row => row < v.cells.length
    | _ => True

/-! ## The search, abstractly -/

/-- What the search bar was told. -/
structure Search where
  /-- The text of the search bar, at its last change. -/
  query : String := ""
  /-- The search was cancelled since. -/
  cancelled : Bool := false
  /-- The rows that were scrolled in since it was first cancelled. -/
  fresh : List Nat := []

namespace Search

def step (a : Search) : PickerEvent → Search
  | .textDidChange searchText => { query := searchText }
  | .cancelButtonClicked => { a with cancelled := true }
  | .searchButtonClicked => a
  | .scrolledIn row => if a.cancelled then { a with fresh := row :: a.fresh } else a

/-- The cell of the row was made by a search that has been cancelled. -/
def Stale (a : Search) (row : Nat) : Prop := a.query ≠ "" ∧ a.cancelled = true ∧ row ∉ a.fresh

instance (a : Search) (row : Nat) : Decidable (a.Stale row) :=
  inferInstanceAs (Decidable (_ ∧ _ ∧ _))

end Search

/-- The search after the events `h`. -/
def searchOf (h : List PickerEvent) : Search := h.foldl Search.step {}

theorem searchOf_snoc (h : List PickerEvent) (e : PickerEvent) :
    searchOf (h ++ [e]) = (searchOf h).step e := by
  simp [searchOf]

/-! ## What the data source returns -/

/-- The cell of a state. -/
def cellOf (state : State) : CollectionCell := .state state.title state.pic

namespace StateCollectionViewController

variable (vc : StateCollectionViewController)

/-- The list that the methods of the data source and of the delegate read. -/
def items : List State := if vc.isFiltering then vc.filteredStates else vc.states

theorem numberOfItemsInSection_one : vc.numberOfItemsInSection 1 = vc.items.length := by
  unfold numberOfItemsInSection items
  rw [if_pos rfl]
  split <;> rfl

theorem cellForItemAt_one (row : Nat) :
    vc.cellForItemAt ⟨1, row⟩ = vc.items[row]?.map cellOf := by
  unfold cellForItemAt items
  rw [if_pos rfl]
  cases vc.isFiltering with
  | true =>
    show _ = Option.map cellOf vc.filteredStates[row]?
    cases vc.filteredStates[row]? <;> rfl
  | false =>
    show _ = Option.map cellOf vc.states[row]?
    cases vc.states[row]? <;> rfl

/-- A tap selects the state of the list at the row and stores it. -/
theorem didSelectItemAt_eq_some {d : UserDefaults} {row : Nat} {s : State}
    (hs : vc.items[row]? = some s) :
    vc.didSelectItemAt d ⟨1, row⟩ = some ({ vc with selectedState := some s },
      (setStoredState d s.abbreviation).map .write ++
        (if vc.statePickerDelegate then [.userDidSelectState] else []) ++
        [.performSegue .userSelectedState]) := by
  unfold didSelectItemAt
  unfold items at hs
  cases hf : vc.isFiltering with
  | true =>
    rw [hf, if_pos rfl] at hs
    simp only [hs]
    rfl
  | false =>
    rw [hf, if_neg Bool.false_ne_true] at hs
    simp only [hs]
    rfl

theorem didSelectItemAt_eq_none {d : UserDefaults} {row : Nat} (hs : vc.items[row]? = none) :
    vc.didSelectItemAt d ⟨1, row⟩ = none := by
  unfold didSelectItemAt
  unfold items at hs
  cases hf : vc.isFiltering with
  | true =>
    rw [hf, if_pos rfl] at hs
    simp only [hs]
    rfl
  | false =>
    rw [hf, if_neg Bool.false_ne_true] at hs
    simp only [hs]
    rfl

/-- The writes of a tap are those of `setStoredState`. -/
theorem writes_didSelectItemAt (ws : List Write) (delegate : Bool) :
    List.filterMap PickerEffect.write? (ws.map .write ++
      (if delegate then [.userDidSelectState] else []) ++ [.performSegue .userSelectedState]) =
        ws := by
  have hw : (ws.map PickerEffect.write).filterMap PickerEffect.write? = ws := by
    rw [List.filterMap_map]
    exact List.filterMap_some
  rw [List.filterMap_append, List.filterMap_append, hw]
  cases delegate <;> simp [PickerEffect.write?]

/-- The state that a tap selects is the one of the list at the row. -/
theorem items_of_didSelectItemAt {d : UserDefaults} {row : Nat} {s : State}
    {vc' : StateCollectionViewController} {effects : List PickerEffect}
    (ht : vc.didSelectItemAt d ⟨1, row⟩ = some (vc', effects)) (hs : vc'.selectedState = some s) :
    vc.items[row]? = some s := by
  cases hi : vc.items[row]? with
  | none =>
    unfold didSelectItemAt at ht
    unfold items at hi
    cases hf : vc.isFiltering <;> simp_all
  | some s' =>
    rw [vc.didSelectItemAt_eq_some hi] at ht
    obtain ⟨rfl, -⟩ := Prod.mk.inj (Option.some.inj ht)
    exact hs

end StateCollectionViewController

/-- Right after the writes of a tap, with any defaults that have a user id, the state that is stored
is the one of the list at the row. -/
theorem storedState_didSelectItemAt (vc : StateCollectionViewController) {F : Foundation}
    {b : Bundle} {o : Order} {d : UserDefaults} {uid : String} (hu : d.userId = some uid) {row : Nat}
    {s : State} (hi : vc.items[row]? = some s) (hs : s ∈ states F b o) :
    ∃ vc' effects, vc.didSelectItemAt d ⟨1, row⟩ = some (vc', effects) ∧
      effects.filterMap PickerEffect.write? = setStoredState d s.abbreviation ∧
      storedState F b o (d.writes (effects.filterMap PickerEffect.write?)) = some s := by
  have hw := StateCollectionViewController.writes_didSelectItemAt
    (setStoredState d s.abbreviation) vc.statePickerDelegate
  refine ⟨_, _, vc.didSelectItemAt_eq_some hi, hw, ?_⟩
  have hd : d.writes (setStoredState d s.abbreviation) =
      { d with userStateDict := some (.single uid s.abbreviation) } := by
    rw [writes_setStoredState, hu]
  rw [hw, hd]
  exact storedState_of_choice hs rfl hu

theorem PickerView.reloadSections_cells (v : PickerView) :
    v.reloadSections.cells = v.vc.items.map fun s => some (cellOf s) := by
  apply List.ext_getElem?
  intro row
  unfold reloadSections
  rw [List.getElem?_map, List.getElem?_map, v.vc.numberOfItemsInSection_one]
  by_cases hr : row < v.vc.items.length
  · rw [List.getElem?_range hr, List.getElem?_eq_getElem hr, Option.map_some,
      v.vc.cellForItemAt_one, List.getElem?_eq_getElem hr]
    rfl
  · have hr := Nat.le_of_not_lt hr
    rw [List.getElem?_eq_none hr, List.getElem?_eq_none (by simpa using hr)]
    rfl

/-! ## What the screen shows -/

open StateCollectionViewController (isMatch)

namespace Search

variable (F : Foundation) (S : List State) (a : Search)

/-- The states that match the search text. -/
def items : List State :=
  if a.query = "" then S else S.filter (isMatch F (F.lowercased a.query))

/-- The state whose cell the row shows. -/
def shown (row : Nat) : Option State := if row ∈ a.fresh then S[row]? else (a.items F S)[row]?

/-- The picker `v` of the states `S` after the search `a`. -/
structure Holds (v : PickerView) : Prop where
  states : v.vc.states = S
  isFiltering : v.vc.isFiltering = true ↔ a.query ≠ "" ∧ a.cancelled = false
  filteredStates : a.query ≠ "" → v.vc.filteredStates = a.items F S
  fresh : a.cancelled = false → a.fresh = []
  length : v.cells.length = (a.items F S).length
  cells : ∀ row, row < v.cells.length → v.cells[row]? = some ((a.shown F S row).map cellOf)

variable {F S a}

theorem items_sublist : (a.items F S).Sublist S := by
  unfold items
  split
  · exact List.Sublist.refl S
  · exact List.filter_sublist

/-- A tap reads the matching states until the search is cancelled, and all states then. -/
theorem Holds.vc_items {v : PickerView} (h : a.Holds F S v) :
    v.vc.items = if a.cancelled then S else a.items F S := by
  unfold StateCollectionViewController.items
  by_cases hq : a.query = ""
  · have hf : ¬ v.vc.isFiltering = true := fun hf => (h.isFiltering.mp hf).1 hq
    rw [if_neg hf, h.states, items, if_pos hq, ite_self]
  · cases hc : a.cancelled with
    | true =>
      have hf : ¬ v.vc.isFiltering = true := fun hf => by
        have := (h.isFiltering.mp hf).2
        rw [hc] at this
        cases this
      rw [if_neg hf, h.states, if_pos rfl]
    | false =>
      rw [if_pos (h.isFiltering.mpr ⟨hq, hc⟩), h.filteredStates hq]
      rfl

/-- A tap on an item that the collection view knows of finds a state. -/
theorem Holds.exists_items {v : PickerView} (h : a.Holds F S v) {row : Nat}
    (hr : row < v.cells.length) : ∃ s, v.vc.items[row]? = some s ∧ s ∈ S := by
  rw [h.length] at hr
  have hrS : row < S.length := Nat.lt_of_lt_of_le hr items_sublist.length_le
  rw [h.vc_items]
  split
  · exact ⟨S[row], List.getElem?_eq_getElem hrS, List.getElem_mem hrS⟩
  · exact ⟨(a.items F S)[row], List.getElem?_eq_getElem hr,
      items_sublist.subset (List.getElem_mem hr)⟩

theorem Holds.load (statePickerDelegate : Bool) :
    Holds F S {} (PickerView.load S statePickerDelegate) := by
  have hc : (PickerView.load S statePickerDelegate).cells = S.map fun s => some (cellOf s) :=
    PickerView.reloadSections_cells _
  refine ⟨rfl, ?_, ?_, fun _ => rfl, ?_, ?_⟩
  · exact ⟨fun h => Bool.noConfusion h, fun h => absurd rfl h.1⟩
  · exact fun h => absurd rfl h
  · rw [hc, List.length_map]
    rfl
  · intro row hr
    rw [hc, List.length_map] at hr
    rw [hc, List.getElem?_map, List.getElem?_eq_getElem hr]
    have hs : Search.shown F S {} row = S[row]? := rfl
    rw [hs, List.getElem?_eq_getElem hr]
    rfl

/-- A change of the text shows the matching states. -/
theorem Holds.textDidChange {v : PickerView} (h : a.Holds F S v) (q : String) :
    Holds F S { query := q } (v.textDidChange F q) := by
  have hi : (v.textDidChange F q).vc.items = Search.items F S { query := q } := by
    show (if (q.length != 0) = true then v.vc.states.filter _ else v.vc.states) = _
    rw [h.states]
    unfold items
    by_cases hq : q = ""
    · simp [hq]
    · simp [hq]
  have hc : (v.textDidChange F q).cells =
      (Search.items F S { query := q }).map fun s => some (cellOf s) := by
    rw [← hi]
    exact PickerView.reloadSections_cells _
  refine ⟨h.states, ?_, ?_, fun _ => rfl, ?_, ?_⟩
  · show (q.length != 0) = true ↔ _
    simp
  · intro hq
    show v.vc.states.filter _ = _
    rw [h.states, items, if_neg hq]
  · rw [hc, List.length_map]
  · intro row hr
    rw [hc, List.length_map] at hr
    have hs : Search.shown F S { query := q } row = (Search.items F S { query := q })[row]? := rfl
    rw [hc, List.getElem?_map, hs, List.getElem?_eq_getElem hr]
    rfl

/-- A cell that is scrolled in shows what a tap on it selects. -/
theorem Holds.scrolledIn {v : PickerView} (h : a.Holds F S v) {row : Nat}
    (hr : row < v.cells.length) : (a.step (.scrolledIn row)).Holds F S (v.step F (.scrolledIn row)) := by
  have hcell : ∀ row', row' < v.cells.length → (v.step F (.scrolledIn row)).cells[row']? =
      if row = row' then some ((v.vc.items[row']?).map cellOf)
        else some ((a.shown F S row').map cellOf) := by
    intro row' hr'
    show (v.cells.set row _)[row']? = _
    rw [List.getElem?_set, v.vc.cellForItemAt_one]
    by_cases he : row = row'
    · subst he
      simp [hr]
    · rw [if_neg he, if_neg he, h.cells row' hr']
  have hlen : (v.step F (.scrolledIn row)).cells.length = v.cells.length := List.length_set
  cases hc : a.cancelled with
  | true =>
    have ha : a.step (.scrolledIn row) = { a with fresh := row :: a.fresh } := by simp [step, hc]
    rw [ha]
    refine ⟨h.states, h.isFiltering, h.filteredStates, ?_, hlen.trans h.length, ?_⟩
    · intro hn
      rw [hc] at hn
      cases hn
    · intro row' hr'
      rw [hlen] at hr'
      rw [hcell row' hr', h.vc_items, if_pos hc]
      by_cases he : row = row'
      · simp [shown, he]
      · have he' : row' ≠ row := Ne.symm he
        simp [shown, he, he', items]
  | false =>
    have ha : a.step (.scrolledIn row) = a := by simp [step, hc]
    rw [ha]
    refine ⟨h.states, h.isFiltering, h.filteredStates, h.fresh, hlen.trans h.length, ?_⟩
    intro row' hr'
    rw [hlen] at hr'
    rw [hcell row' hr', h.vc_items, hc]
    have hs : a.shown F S row' = (a.items F S)[row']? := by simp [shown, h.fresh hc]
    simp [hs]

theorem Holds.step {v : PickerView} (h : a.Holds F S v) {e : PickerEvent}
    (he : ∀ row, e = .scrolledIn row → row < v.cells.length) :
    (a.step e).Holds F S (v.step F e) := by
  cases e with
  | textDidChange q => exact h.textDidChange q
  | cancelButtonClicked =>
    refine ⟨h.states, ?_, h.filteredStates, fun hn => Bool.noConfusion hn, h.length, h.cells⟩
    exact ⟨fun hf => Bool.noConfusion hf, fun hf => Bool.noConfusion hf.2⟩
  | searchButtonClicked => exact h
  | scrolledIn row => exact h.scrolledIn (he row rfl)

end Search

/-- **The picker after a history of callbacks.** -/
theorem search_holds (F : Foundation) (b : Bundle) (o : Order) (statePickerDelegate : Bool)
    (h : List PickerEvent) (ha : (picker F b o statePickerDelegate).Admits h) :
    (searchOf h).Holds F (states F b o) ((picker F b o statePickerDelegate).run h) := by
  refine Machine.history_induction (M := picker F b o statePickerDelegate)
    (I := fun h v => (searchOf h).Holds F (states F b o) v) (Search.Holds.load _) ?_ h ha
  intro h e _ hv he
  rw [searchOf_snoc]
  refine hv.step fun row hr => ?_
  subst hr
  exact he

/-! ## A tap -/

/-- With the defaults `d`, a tap on the row selects the state that has the title `label` and
stores its abbreviation. -/
def TapStores (S : List State) (d : UserDefaults) (vc : StateCollectionViewController) (row : Nat)
    (label : String) : Prop :=
  ∃ s ∈ S, s.title = label ∧ ∃ vc' effects, vc.didSelectItemAt d ⟨1, row⟩ = some (vc', effects) ∧
    vc'.selectedState = some s ∧
    effects.filterMap PickerEffect.write? = setStoredState d s.abbreviation

/-- A tap on a row stores the state `s` exactly if the list that the tap reads has it there. -/
theorem tapStores_iff {S : List State} (hS : (S.map (·.title)).Nodup) {d : UserDefaults}
    {vc : StateCollectionViewController} {row : Nat} {s : State} (hs : s ∈ S) :
    TapStores S d vc row s.title ↔ vc.items[row]? = some s := by
  constructor
  · rintro ⟨s', hs', ht, vc', effects, hsel, hst, -⟩
    obtain rfl : s' = s := List.inj_on_of_nodup_map hS hs' hs ht
    exact vc.items_of_didSelectItemAt hsel hst
  · intro hi
    exact ⟨s, hs, rfl, _, _, vc.didSelectItemAt_eq_some hi, rfl,
      StateCollectionViewController.writes_didSelectItemAt _ _⟩

/-- **A tap on a cell.** After every history of callbacks, each item of the section has a cell of a
state, and a tap on it selects and stores the state that it shows if and only if this holds: when
the cell was made by a search that has been cancelled since, every state of the full list up to
the row of the cell matches the text of that search. -/
theorem tap_stores_shown_iff (F : Foundation) (b : Bundle) (o : Order) (statePickerDelegate : Bool)
    (d : UserDefaults) (h : List PickerEvent) (ha : (picker F b o statePickerDelegate).Admits h)
    (row : Nat) (hr : row < ((picker F b o statePickerDelegate).run h).cells.length) :
    ∃ label pic,
      ((picker F b o statePickerDelegate).run h).cells[row]? = some (some (.state label pic)) ∧
      (TapStores (states F b o) d ((picker F b o statePickerDelegate).run h).vc row label ↔
        ((searchOf h).Stale row → ∀ s ∈ (states F b o).take (row + 1),
          isMatch F (F.lowercased (searchOf h).query) s = true)) := by
  have hS := states_titles_nodup F b o
  have hv := search_holds F b o statePickerDelegate h ha
  generalize (picker F b o statePickerDelegate).run h = v at hr hv ⊢
  generalize searchOf h = a at hv ⊢
  generalize states F b o = S at hS hv ⊢
  have hi : row < (a.items F S).length := hv.length ▸ hr
  have hiS : row < S.length := Nat.lt_of_lt_of_le hi Search.items_sublist.length_le
  -- the state that the cell shows
  obtain ⟨s, hs, hsS⟩ : ∃ s, a.shown F S row = some s ∧ s ∈ S := by
    unfold Search.shown
    split
    · exact ⟨S[row], List.getElem?_eq_getElem hiS, List.getElem_mem hiS⟩
    · exact ⟨(a.items F S)[row], List.getElem?_eq_getElem hi,
        Search.items_sublist.subset (List.getElem_mem hi)⟩
  refine ⟨s.title, s.pic, ?_, ?_⟩
  · rw [hv.cells row hr, hs]
    rfl
  rw [tapStores_iff hS hsS, hv.vc_items, ← hs]
  unfold Search.shown
  by_cases hst : a.Stale row
  · -- the tap reads all states, the cell is one of the search
    obtain ⟨hq, hc, hf⟩ := id hst
    have hitems : a.items F S = S.filter (isMatch F (F.lowercased a.query)) := if_neg hq
    rw [if_pos hc, if_neg hf, hitems, forall_prop_of_true hst, eq_comm]
    rw [hitems] at hi
    exact Keyed.getElem?_filter_eq_iff (List.Nodup.of_map _ hS) hi
  · -- the tap reads the list that the cell was made from
    refine ⟨fun _ hst' => absurd hst' hst, fun _ => ?_⟩
    cases hc : a.cancelled with
    | false => simp [hv.fresh hc]
    | true =>
      by_cases hf : row ∈ a.fresh
      · simp [hf]
      · have hq : a.query = "" := by
          by_contra hq
          exact hst ⟨hq, hc, hf⟩
        simp [hf, Search.items, hq]

/-- The first state of the list, for a roster without members. -/
theorem getElem?_states_zero : (states default ⟨some []⟩ default)[0]? =
    some (stateOf default [] ("AL", "Alabama")) := by
  rw [states_eq]
  decide +kernel

/-- Alabama is first in the full list and among the states that start with `a`. -/
theorem tap_stores_shown_iff_first :
    ∃ label pic, ((picker default ⟨some []⟩ default true).run
        [.textDidChange "a", .cancelButtonClicked]).cells[0]? = some (some (.state label pic)) ∧
      TapStores (states default ⟨some []⟩ default) { userId := some "u" }
        ((picker default ⟨some []⟩ default true).run [.textDidChange "a", .cancelButtonClicked]).vc 0
        label := by
  have hv := search_holds default ⟨some []⟩ default true [.textDidChange "a", .cancelButtonClicked]
    ⟨trivial, trivial, trivial⟩
  have hfound : stateOf default [] ("AL", "Alabama") ∈ Search.items default
      (states default ⟨some []⟩ default) (searchOf [.textDidChange "a", .cancelButtonClicked]) :=
    List.mem_filter.mpr
      ⟨stateOf_mem_states default [] default (by decide), by decide +kernel⟩
  obtain ⟨label, pic, hc, ht⟩ := tap_stores_shown_iff default ⟨some []⟩ default true
    { userId := some "u" } [.textDidChange "a", .cancelButtonClicked] ⟨trivial, trivial, trivial⟩ 0
    (hv.length ▸ List.length_pos_of_mem hfound)
  refine ⟨label, pic, hc, ht.mpr fun _ s hs => ?_⟩
  rw [List.take_one, List.head?_eq_getElem?, getElem?_states_zero] at hs
  obtain rfl := List.mem_singleton.mp hs
  decide +kernel

/-- The first state that starts with `c` is shown where Alabama is in the full list. -/
theorem not_tap_stores_shown :
    ¬ ∀ (F : Foundation) (b : Bundle) (o : Order) (statePickerDelegate : Bool) (d : UserDefaults)
        (h : List PickerEvent), (picker F b o statePickerDelegate).Admits h → ∀ row label pic,
      ((picker F b o statePickerDelegate).run h).cells[row]? = some (some (.state label pic)) →
        TapStores (states F b o) d ((picker F b o statePickerDelegate).run h).vc row label := by
  intro hall
  have ha : (picker default ⟨some []⟩ default true).Admits
      [.textDidChange "c", .cancelButtonClicked] := ⟨trivial, trivial, trivial⟩
  have hv := search_holds default ⟨some []⟩ default true _ ha
  generalize hrun : (picker default ⟨some []⟩ default true).run
    [.textDidChange "c", .cancelButtonClicked] = v at hv
  -- the cell of the first row shows a state that the search has found
  have hfound : stateOf default [] ("CA", "California") ∈ Search.items default
      (states default ⟨some []⟩ default) (searchOf [.textDidChange "c", .cancelButtonClicked]) :=
    List.mem_filter.mpr
      ⟨stateOf_mem_states default [] default (by decide), by decide +kernel⟩
  have hlen := List.length_pos_of_mem hfound
  obtain ⟨s, hs⟩ : ∃ s, (Search.items default (states default ⟨some []⟩ default)
      (searchOf [.textDidChange "c", .cancelButtonClicked]))[0]? = some s :=
    ⟨_, List.getElem?_eq_getElem hlen⟩
  have hcell : v.cells[0]? = some (some (.state s.title s.pic)) := by
    rw [hv.cells 0 (hv.length ▸ hlen)]
    exact congrArg (fun s => some (Option.map cellOf s)) hs
  have htap := hall default ⟨some []⟩ default true { userId := some "u" } _ ha 0 s.title s.pic
    (by rw [hrun]; exact hcell)
  -- a tap on it reads the full list
  obtain ⟨hmem, hmatch⟩ := List.mem_filter.mp (List.mem_of_getElem? hs)
  rw [hrun, tapStores_iff (states_titles_nodup _ _ _) hmem, hv.vc_items] at htap
  obtain rfl : stateOf default [] ("AL", "Alabama") = s :=
    Option.some.inj (getElem?_states_zero.symm.trans htap)
  exact absurd hmatch (by decide +kernel)

end PWR
