import PWR.Screen.Picker

/-!
# The home and settings screens (`Controllers/HomeViewController`, `Controllers/SettingsViewController`)

Both screens read the stored state when their view is loaded. The home table always announces two
rows, one for each senator; its cells index the list of the senators, so the rows are in range
exactly if the list has at least two entries (`rowsInRange_iff`), and then each row gets a cell,
whatever cell is recycled for it (`rowsInRange_iff_cellForRowAt`). The settings table shows the
title of a state that may be nil. Where the source traps, the functions here return `none`.
-/

namespace PWR

open UserDefaultManager

/-! ## `HomeViewController` -/

/-- What a `BannerView` shows. -/
structure BannerView where
  label : Option String := none
  pic : Option UIImage := none
  deriving DecidableEq, Repr

structure HomeViewController where
  /-- The outlet is nil until the view is loaded. -/
  stateBannerView : Option BannerView := none
  usersState : Option State := none
  senators : List Senator := []
  deriving DecidableEq, Repr

structure CellButton where
  tag : Nat
  positionInTable : Option IndexPath := none
  deriving DecidableEq, Repr

/-- A `HomeTableViewCell` object, as it is recycled. -/
structure HomeCell where
  pic : Option UIImage := none
  name : String
  party : String
  senatorButton : CellButton
  callButton : CellButton
  webButton : CellButton
  /-- A `delegate` is set. -/
  delegate : Bool := false
  deriving DecidableEq, Repr

/-- The cell of `HomeTableViewCell.xib`. -/
def homeCellNib : HomeCell where
  name := "Name"
  party := "Party label"
  senatorButton := { tag := 0 }
  callButton := { tag := 1 }
  webButton := { tag := 2 }

def HomeCell.configureButtons (cell : HomeCell) (indexPath : IndexPath) : HomeCell :=
  { cell with
    senatorButton := { cell.senatorButton with positionInTable := some indexPath }
    callButton := { cell.callButton with positionInTable := some indexPath }
    webButton := { cell.webButton with positionInTable := some indexPath } }

namespace HomeViewController

variable (F : Foundation) (b : Bundle) (o : Order) (d : UserDefaults) (vc : HomeViewController)

def setUpStateLabels (state : State) : HomeViewController :=
  { vc with stateBannerView := some { label := some state.title, pic := some state.pic } }

/-- `viewDidLoad`, which finds the banner of the storyboard with no text and no picture. The bills
that it asks for are not used. The request for them force-unwraps an API key of
`AdditionalInfo.plist` (`retrieveKey(forAPI:)`); the file is taken to be in the bundle, with the
key. -/
def viewDidLoad : HomeViewController :=
  let vc := { vc with stateBannerView := some {} }
  match storedState F b o d with
  | some state => { vc with usersState := some state, senators := state.senators }.setUpStateLabels state
  | none => vc

/-- The callback of the `StatePickerDelegate`. It changes the text of a banner that is nil if the
view was never loaded. -/
def userDidSelectState : Option HomeViewController :=
  match storedState F b o d with
  | none => do
    let stateBannerView ← vc.stateBannerView
    return { vc with
      stateBannerView := some { stateBannerView with label := some "You have not chosen a state" } }
  | some state => some { vc with usersState := some state }

def numberOfRowsInSection (_vc : HomeViewController) (_section : Nat) : Nat := 2

/-- `cellForRowAt` with the cell that it dequeues; `none` where the source indexes out of range. -/
def cellForRowAt (cell : HomeCell) (indexPath : IndexPath) : Option HomeCell := do
  let cell := { cell with delegate := true }.configureButtons indexPath
  let senator ← vc.senators[indexPath.row]?
  return { cell with
    name := "Sen. " ++ senator.lastName
    pic := some ⟨"California"⟩
    party := "Party: " ++ senator.party }

/-- Every row that the data source announces is one of a senator. -/
def RowsInRange : Prop := ∀ row, row < vc.numberOfRowsInSection 0 → row < vc.senators.length

instance : Decidable vc.RowsInRange :=
  inferInstanceAs (Decidable (∀ row, row < vc.numberOfRowsInSection 0 → row < vc.senators.length))

variable {F b o d vc}

theorem rowsInRange_iff : vc.RowsInRange ↔ 2 ≤ vc.senators.length := by
  constructor
  · intro h
    have h1 : 1 < vc.senators.length := h 1 (Nat.lt_succ_self 1)
    omega
  · intro h row hr
    have hr' : row < 2 := hr
    omega

/-- A row gets a cell exactly if there is a senator for it, whatever cell is recycled. -/
theorem cellForRowAt_isSome_iff (cell : HomeCell) (row : Nat) :
    (vc.cellForRowAt cell ⟨0, row⟩).isSome ↔ row < vc.senators.length := by
  unfold cellForRowAt
  cases hs : vc.senators[row]? with
  | none => simpa using List.getElem?_eq_none_iff.mp hs
  | some senator => simpa using (List.getElem?_eq_some_iff.mp hs).1

/-- The rows are in range exactly if the data source has a cell for each of them. -/
theorem rowsInRange_iff_cellForRowAt :
    vc.RowsInRange ↔ ∀ row, row < vc.numberOfRowsInSection 0 →
      ∀ cell, (vc.cellForRowAt cell ⟨0, row⟩).isSome := by
  refine forall₂_congr fun row _ => ?_
  constructor
  · intro hlt cell
    exact (cellForRowAt_isSome_iff cell row).mpr hlt
  · intro h
    exact (cellForRowAt_isSome_iff homeCellNib row).mp (h homeCellNib)

theorem viewDidLoad_senators :
    (vc.viewDidLoad F b o d).senators =
      match storedState F b o d with
      | some state => state.senators
      | none => vc.senators := by
  unfold viewDidLoad
  split <;> rfl

theorem viewDidLoad_usersState (vc : HomeViewController) {s : State}
    (hs : storedState F b o d = some s) : (vc.viewDidLoad F b o d).usersState = some s := by
  simp [viewDidLoad, hs, setUpStateLabels]

/-- The callback does not trap when a state is stored, loaded or not. -/
theorem userDidSelectState_of_storedState {s : State} (hs : storedState F b o d = some s) :
    vc.userDidSelectState F b o d = some { vc with usersState := some s } := by
  simp [userDidSelectState, hs]

end HomeViewController

/-! ## `SettingsViewController` -/

structure SettingsViewController where
  usersState : Option State := none
  deriving DecidableEq, Repr

/-- A cell of the settings table. -/
structure SettingsCell where
  textLabel : String
  detailTextLabel : String
  deriving DecidableEq, Repr

namespace SettingsViewController

def viewDidLoad (F : Foundation) (b : Bundle) (o : Order) (d : UserDefaults)
    (vc : SettingsViewController) : SettingsViewController :=
  { vc with usersState := storedState F b o d }

def numberOfSections (_vc : SettingsViewController) : Nat := 2

def numberOfRowsInSection (_vc : SettingsViewController) (_section : Nat) : Nat := 1

def cellForRowAt (vc : SettingsViewController) (indexPath : IndexPath) : Option SettingsCell := do
  let currentSetting ←
    match indexPath.section_ with
    | 0 => vc.usersState.map (·.title)
    | 1 => some "Daily"
    | _ => some ""
  return { textLabel := currentSetting, detailTextLabel := "Change it?" }

/-- The table renders exactly if the state is not nil. -/
theorem cellForRowAt_isSome_iff (vc : SettingsViewController) :
    (∀ section_, section_ < vc.numberOfSections → ∀ row, row < vc.numberOfRowsInSection section_ →
      (vc.cellForRowAt ⟨section_, row⟩).isSome) ↔ vc.usersState ≠ none := by
  constructor
  · intro h hn
    have h0 := h 0 Nat.two_pos 0 Nat.one_pos
    simp [cellForRowAt, hn] at h0
  · intro hn section_ _ row _
    obtain ⟨s, hs⟩ := Option.ne_none_iff_exists'.mp hn
    unfold cellForRowAt
    split <;> simp [hs]

end SettingsViewController

end PWR
