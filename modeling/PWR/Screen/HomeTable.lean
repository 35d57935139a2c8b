import PWR.Screen.Home
import PWR.Screen.Senator

/-!
# The home table and its buttons (`HomeTableViewCell`, `HomeViewControllerTableDelegateMethods`)

A cell of the home table has three buttons, which keep the position of the row that the cell was
made for and a tag from the xib. The table view recycles cells, so a button's position may be one of
an earlier row until `cellForRowAt` sets it again. `homeTable` is the table view over the
controller: cells are made or taken from the pool, put on screen and given back, in any order.

* `HomeTable.ok_run`: a cell on screen acts on the senator that it displays, in every order.
* `home_table_iff`: the table shows the senators of the stored state, and never indexes out of
  range, exactly if there are two. The number of rows is a constant of the source.
-/

namespace PWR

open UserDefaultManager

/-! ## Cells -/

namespace HomeCell

/-- The buttons have the tags of the xib. -/
def Tagged (cell : HomeCell) : Prop :=
  cell.senatorButton.tag = 0 ∧ cell.callButton.tag = 1 ∧ cell.webButton.tag = 2

/-- The cell displays the senator. -/
def Displays (cell : HomeCell) (senator : Senator) : Prop :=
  cell.name = "Sen. " ++ senator.lastName ∧ cell.party = "Party: " ++ senator.party

end HomeCell

/-! ## The controller -/

/-- What a button does with its senator. -/
inductive ButtonAction where
  /-- The segue to the senator's screen. -/
  | viewSenator (senator : Senator)
  | callSenator (senator : Senator)
  | visitSenatorsWebsite (senator : Senator)
  deriving DecidableEq, Repr

/-- The segues that `HomeViewController.prepare(for:)` tells apart, with the controller that the
segue leads to. -/
inductive HomeSegue where
  | goToSearchController (destination : StateCollectionViewController)
  | goToSenatorVC (destination : SenatorViewController)

namespace HomeViewController

variable (vc : HomeViewController)

/-- What a button does, if anything; `none` where the source indexes out of range. -/
def callSegue (button : CellButton) : Option (Option ButtonAction) :=
  match button.positionInTable with
  | none => some none
  | some indexPath => do
    let selectedSenator ← vc.senators[indexPath.row]?
    return match button.tag with
      | 0 => some (.viewSenator selectedSenator)
      | 1 => some (.callSenator selectedSenator)
      | 2 => some (.visitSenatorsWebsite selectedSenator)
      | _ => none

/-- `HomeTableViewCell.cellButtonWasTapped`, for a cell whose delegate is the controller. -/
def cellButtonWasTapped (cell : HomeCell) (sender : CellButton) : Option (Option ButtonAction) :=
  if cell.delegate then vc.callSegue sender else some none

/-- `prepare(for:sender:)`: the destination with what it is given. -/
def prepare (segue : HomeSegue) (sender : Option Senator) : HomeSegue :=
  match segue with
  | .goToSearchController destination =>
    .goToSearchController { destination with statePickerDelegate := true }
  | .goToSenatorVC destination =>
    match sender with
    | some selectedSenator =>
      .goToSenatorVC
        { destination with senator := some selectedSenator, usersState := vc.usersState }
    | none => .goToSenatorVC destination

/-- The three buttons of the cell act on the senator. -/
def ActsOn (cell : HomeCell) (senator : Senator) : Prop :=
  vc.cellButtonWasTapped cell cell.senatorButton = some (some (.viewSenator senator)) ∧
    vc.cellButtonWasTapped cell cell.callButton = some (some (.callSenator senator)) ∧
    vc.cellButtonWasTapped cell cell.webButton = some (some (.visitSenatorsWebsite senator))

variable {vc}

theorem exists_cellForRowAt (cell : HomeCell) {row : Nat} {s : Senator}
    (h : vc.senators[row]? = some s) :
    ∃ cell', vc.cellForRowAt cell ⟨0, row⟩ = some cell' ∧ cell'.Displays s := by
  unfold cellForRowAt
  rw [h]
  exact ⟨_, rfl, rfl, rfl⟩

/-- **A cell that was just made** displays the senator of its row, and its buttons act on it. -/
theorem acts_of_cellForRowAt {cell cell' : HomeCell} {row : Nat} (ht : cell.Tagged)
    (h : vc.cellForRowAt cell ⟨0, row⟩ = some cell') :
    cell'.Tagged ∧ ∃ s, vc.senators[row]? = some s ∧ cell'.Displays s ∧ vc.ActsOn cell' s := by
  unfold cellForRowAt at h
  obtain ⟨s, hs, h⟩ := Option.bind_eq_some_iff.mp h
  obtain rfl := Option.some.inj h
  obtain ⟨h0, h1, h2⟩ := ht
  refine ⟨⟨h0, h1, h2⟩, s, hs, ⟨rfl, rfl⟩, ?_, ?_, ?_⟩
  · simp [cellButtonWasTapped, callSegue, HomeCell.configureButtons, hs, h0]
  · simp [cellButtonWasTapped, callSegue, HomeCell.configureButtons, hs, h1]
  · simp [cellButtonWasTapped, callSegue, HomeCell.configureButtons, hs, h2]

end HomeViewController

/-! ## The table view -/

/-- The cells of the table view. -/
structure HomeTable where
  /-- The cell that was made last for a row, while the row is on screen. -/
  onScreen : Nat → Option HomeCell := fun _ => none
  /-- The cells that wait to be used again. -/
  pool : List HomeCell := []
  /-- The data source has indexed out of range. -/
  trapped : Bool := false

/-- What the table view does with cells. -/
inductive HomeTableEvent where
  /-- The data source is asked for the cell of a row; it gets a new cell, or one from the pool. -/
  | display (row : Nat) (recycled : Option Nat)
  /-- The row leaves the screen. -/
  | endDisplaying (row : Nat)
  deriving DecidableEq, Repr

namespace HomeTable

/-- `dequeueReusableCell`: the cell, and the pool without it. -/
def dequeue (t : HomeTable) : Option Nat → HomeCell × List HomeCell
  | none => (homeCellNib, t.pool)
  | some i => ((t.pool[i]?).getD homeCellNib, t.pool.eraseIdx i)

/-- The cell comes on screen, and the one that the row had goes to the pool. -/
def put (t : HomeTable) (row : Nat) (cell : Option HomeCell) (pool : List HomeCell) : HomeTable :=
  { t with
    onScreen := fun row' => if row' = row then cell else t.onScreen row'
    pool := (t.onScreen row).toList ++ pool }

def step (vc : HomeViewController) (t : HomeTable) : HomeTableEvent → HomeTable
  | .display row recycled =>
    match vc.cellForRowAt (t.dequeue recycled).1 ⟨0, row⟩ with
    | some cell => t.put row (some cell) (t.dequeue recycled).2
    | none => { t with trapped := true }
  | .endDisplaying row => t.put row none t.pool

/-- The table view asks for the rows that the data source announces, and takes from the pool what
is in it. -/
def Enabled (vc : HomeViewController) (t : HomeTable) : HomeTableEvent → Prop
  | .display row recycled =>
    t.trapped = false ∧ row < vc.numberOfRowsInSection 0 ∧
      ∀ i, recycled = some i → i < t.pool.length
  | .endDisplaying _ => t.trapped = false

end HomeTable

/-- The table view of a controller. -/
def homeTable (vc : HomeViewController) : Machine HomeTable HomeTableEvent where
  init := {}
  step t e := t.step vc e
  enabled t e := t.Enabled vc e

namespace HomeTable

variable {vc : HomeViewController} {t : HomeTable}

/-- The cells on screen display the senators of their rows and act on them; the cells of the pool
still have their tags. -/
structure Ok (vc : HomeViewController) (t : HomeTable) : Prop where
  pool : ∀ cell ∈ t.pool, cell.Tagged
  onScreen : ∀ row cell, t.onScreen row = some cell →
    cell.Tagged ∧ ∃ s, vc.senators[row]? = some s ∧ cell.Displays s ∧ vc.ActsOn cell s

theorem Ok.dequeue (h : Ok vc t) (recycled : Option Nat) :
    (t.dequeue recycled).1.Tagged ∧ ∀ cell ∈ (t.dequeue recycled).2, cell.Tagged := by
  have hnib : homeCellNib.Tagged := ⟨rfl, rfl, rfl⟩
  cases recycled with
  | none => exact ⟨hnib, h.pool⟩
  | some i =>
    refine ⟨?_, fun cell hc => h.pool cell (List.mem_of_mem_eraseIdx hc)⟩
    show ((t.pool[i]?).getD homeCellNib).Tagged
    cases hi : t.pool[i]? with
    | none => exact hnib
    | some cell => exact h.pool cell (List.mem_of_getElem? hi)

/-- A cell that replaces the one of a row. -/
theorem Ok.put (h : Ok vc t) {row : Nat} {new : Option HomeCell} {pool : List HomeCell}
    (hnew : ∀ cell, new = some cell →
      cell.Tagged ∧ ∃ s, vc.senators[row]? = some s ∧ cell.Displays s ∧ vc.ActsOn cell s)
    (hpool : ∀ cell ∈ pool, cell.Tagged) : Ok vc (t.put row new pool) where
  pool := by
    intro cell hc
    rcases List.mem_append.mp hc with hc | hc
    · exact (h.onScreen row cell (Option.mem_toList.mp hc)).1
    · exact hpool cell hc
  onScreen := by
    intro row' cell hc
    by_cases hrow : row' = row
    · subst hrow
      refine hnew cell ?_
      simpa [HomeTable.put] using hc
    · refine h.onScreen row' cell ?_
      simpa [HomeTable.put, hrow] using hc

theorem Ok.step (h : Ok vc t) (e : HomeTableEvent) : Ok vc (t.step vc e) := by
  cases e with
  | endDisplaying row => exact h.put nofun h.pool
  | display row recycled =>
    obtain ⟨htag, hpool⟩ := h.dequeue recycled
    simp only [HomeTable.step]
    cases hcell : vc.cellForRowAt (t.dequeue recycled).1 ⟨0, row⟩ with
    | none => exact ⟨h.pool, h.onScreen⟩
    | some cell =>
      refine h.put ?_ hpool
      rintro _ ⟨rfl⟩
      exact HomeViewController.acts_of_cellForRowAt htag hcell

/-- **Every order of creating and recycling cells.** -/
theorem ok_run (vc : HomeViewController) (h : List HomeTableEvent) (ha : (homeTable vc).Admits h) :
    Ok vc ((homeTable vc).run h) := by
  refine Machine.invariant (I := Ok vc) (M := homeTable vc) ⟨nofun, nofun⟩ ?_ h ha
  intro t e ht _
  exact ht.step e

/-- With all rows in range, the data source never traps. -/
theorem not_trapped_run (hr : vc.RowsInRange) (h : List HomeTableEvent)
    (ha : (homeTable vc).Admits h) : ((homeTable vc).run h).trapped = false := by
  refine Machine.invariant (I := fun t => t.trapped = false) (M := homeTable vc) rfl ?_ h ha
  intro t e ht he
  cases e with
  | endDisplaying row => exact ht
  | display row recycled =>
    obtain ⟨cell, hcell, -⟩ := HomeViewController.exists_cellForRowAt
      (t.dequeue recycled).1 (List.getElem?_eq_getElem (hr row he.2.1))
    show (t.step vc (.display row recycled)).trapped = false
    simp only [HomeTable.step, hcell]
    exact ht

end HomeTable

/-! ## The senators of the stored state -/

/-- The cells of all rows, made from the recycled `cells`. -/
def HomeViewController.rendered (vc : HomeViewController) (cells : Nat → HomeCell) :
    List (Option HomeCell) :=
  (List.range (vc.numberOfRowsInSection 0)).map fun row =>
    vc.cellForRowAt (cells row) ⟨0, row⟩

/-- The home table of a state with the `senators`. -/
structure HomeTableOk (vc : HomeViewController) (senators : List Senator) : Prop where
  /-- The data source never indexes out of range. -/
  inRange : ∀ h, (homeTable vc).Admits h → ((homeTable vc).run h).trapped = false
  /-- There is a row for each senator, in order. -/
  rows : ∀ cells, List.Forall₂ (fun cell s => ∃ c, cell = some c ∧ c.Displays s)
    (vc.rendered cells) senators
  /-- The buttons of the cell that was made last for a row act on the senator that it displays. -/
  taps : ∀ h, (homeTable vc).Admits h → ∀ row cell,
    ((homeTable vc).run h).onScreen row = some cell →
      ∃ s, senators[row]? = some s ∧ cell.Displays s ∧ vc.ActsOn cell s

/-- The table is right for the senators of its controller exactly if there are two. -/
theorem homeTableOk_iff (vc : HomeViewController) :
    HomeTableOk vc vc.senators ↔ vc.senators.length = 2 := by
  constructor
  · intro h
    have hlen := (h.rows fun _ => homeCellNib).length_eq
    rw [HomeViewController.rendered, List.length_map, List.length_range] at hlen
    exact hlen.symm
  · intro hlen
    refine ⟨HomeTable.not_trapped_run ?_, fun cells => ?_, fun h ha row cell hc => ?_⟩
    · rw [HomeViewController.rowsInRange_iff]
      omega
    · obtain ⟨s₀, s₁, hs⟩ := List.length_eq_two.mp hlen
      have h₀ : vc.senators[0]? = some s₀ := by rw [hs]; rfl
      have h₁ : vc.senators[1]? = some s₁ := by rw [hs]; rfl
      rw [hs]
      exact .cons (HomeViewController.exists_cellForRowAt (cells 0) h₀)
        (.cons (HomeViewController.exists_cellForRowAt (cells 1) h₁) .nil)
    · exact ((HomeTable.ok_run vc h ha).onScreen row cell hc).2

/-- **The home table.** For every roster, every stored state and every order in which cells are
created and recycled: after `viewDidLoad` the table shows one row for each senator of the state, in
the order of the roster, never indexes out of range, and its buttons act on the senators that their
cells display, if and only if the roster has exactly two senators of that state. -/
theorem home_table_iff (F : Foundation) (url : List Event) (o : Order) (d : UserDefaults)
    (vc : HomeViewController) (state : State) (hs : storedState F ⟨some url⟩ o d = some state) :
    HomeTableOk (vc.viewDidLoad F ⟨some url⟩ o d)
        ((ParserDelegate.parse F url).filter (·.state = state.abbreviation)) ↔
      ((ParserDelegate.parse F url).filter (·.state = state.abbreviation)).length = 2 := by
  have hm := mem_states_of_storedState hs
  rw [states_eq] at hm
  have hsenators : (vc.viewDidLoad F ⟨some url⟩ o d).senators =
      (ParserDelegate.parse F url).filter (·.state = state.abbreviation) := by
    rw [HomeViewController.viewDidLoad_senators, hs]
    exact senators_of_mem_stateList hm
  rw [← hsenators]
  exact homeTableOk_iff _

/-- Somebody who chose New York. -/
def newYorker : UserDefaults := { userId := some "u", userStateDict := some (.single "u" "NY") }

theorem storedState_newYorker (F : Foundation) (url : List Event) (o : Order) :
    storedState F ⟨some url⟩ o newYorker =
      some (stateOf F (ParserDelegate.parse F url) ("NY", "New York")) :=
  storedState_of_choice (stateOf_mem_states F url o (by decide)) rfl rfl

/-- A roster with `n` members of New York. -/
def newYorkRoster (n : Nat) : List Event := sampleEvents (List.replicate n "NY")

/-- The senators of New York in that roster. -/
def newYorkSenators (n : Nat) : List Senator :=
  (ParserDelegate.parse default (newYorkRoster n)).filter (·.state = "NY")

/-- A roster with both seats of New York. -/
theorem home_table_iff_two :
    HomeTableOk (HomeViewController.viewDidLoad default ⟨some (newYorkRoster 2)⟩ default newYorker {})
      (newYorkSenators 2) := by
  have hlen : (newYorkSenators 2).length = 2 := by decide +kernel
  have h := home_table_iff default (newYorkRoster 2) default newYorker {} _
    (storedState_newYorker default (newYorkRoster 2) default)
  exact h.mpr hlen

/-- A roster with one seat of New York vacant: the second row is out of range. -/
theorem not_home_table :
    (HomeViewController.viewDidLoad default ⟨some (newYorkRoster 1)⟩ default newYorker
      {}).cellForRowAt homeCellNib ⟨0, 1⟩ = none ∧
    ¬ HomeTableOk
      (HomeViewController.viewDidLoad default ⟨some (newYorkRoster 1)⟩ default newYorker {})
      (newYorkSenators 1) := by
  have hlen : (newYorkSenators 1).length = 1 := by decide +kernel
  have hsenators : (HomeViewController.viewDidLoad default ⟨some (newYorkRoster 1)⟩ default newYorker
      {}).senators = newYorkSenators 1 := by
    rw [HomeViewController.viewDidLoad_senators, storedState_newYorker]
    rfl
  constructor
  · unfold HomeViewController.cellForRowAt
    rw [hsenators, List.getElem?_eq_none (Nat.le_of_eq hlen)]
    rfl
  · intro h
    have hrows := (h.rows fun _ => homeCellNib).length_eq
    rw [hlen] at hrows
    cases hrows

end PWR
