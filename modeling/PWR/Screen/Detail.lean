import PWR.Screen.HomeTable

/-!
# The screens behind the senator's screen

The committee list, the list of co-sponsored bills and the bill detail, and the navigation stack
that leads to them from the home screen. Each segue copies texts into the controller of the next
screen, and `viewWillAppear` shows them, on the way forth and again on the way back. A bill detail
without a bill, or a senator's screen without a senator, would trap there.

* `Stack`: what the controllers on the stack hold. It has one case for each stack that can come up,
  and there are no others.
* `navigation_ok`: no screen traps, all of them are about one senator of the state, and the lists
  are complete, in every order of taps and returns and whatever the recycled cells hold.
* `bill_opened_is_shown`: the bill detail opens with the bill whose name the tapped row shows.

The lists that `SenatorViewController.viewDidLoad` fills in are dummy data. The results here are for
any function in its place that leaves the senator and the state alone.
-/

namespace PWR

/-! ## The controllers -/

/-- What a screen shows above its table. -/
structure Titles where
  bannerView : Option String
  /-- The bill detail has no such label. -/
  nameLabel : Option String
  deriving DecidableEq, Repr

/-- `tableView(_:numberOfRowsInSection:)` of the two lists. -/
def listNumberOfRows {α : Type} (cellItems : Option (List α)) : Nat :=
  (cellItems.map (·.length)).getD 0

/-- `tableView(_:cellForRowAt:)` of the two lists: the dequeued cell with another text. It traps
where the list is nil or has no such row. -/
def listCell {α : Type} (cellItems : Option (List α)) (text : α → String) (cell : UITableViewCell)
    (indexPath : IndexPath) : Option UITableViewCell := do
  let cellItems ← cellItems
  let item ← cellItems[indexPath.row]?
  return { cell with text := some (text item) }

structure CommiteeViewController where
  senatorName : Option String := none
  stateName : Option String := none
  cellItems : Option (List String) := none

namespace CommiteeViewController

variable (vc : CommiteeViewController)

def viewWillAppear : Titles := { bannerView := vc.stateName, nameLabel := vc.senatorName }

def numberOfSections (_vc : CommiteeViewController) : Nat := 1

def numberOfRowsInSection (_section : Nat) : Nat := listNumberOfRows vc.cellItems

def cellForRowAt (cell : UITableViewCell) (indexPath : IndexPath) : Option UITableViewCell :=
  listCell vc.cellItems id cell indexPath

end CommiteeViewController

structure BillDetailViewController where
  bill : Option Bill := none

/-- `none` where the source unwraps a nil. The text below the banner is the same for all bills. -/
def BillDetailViewController.viewWillAppear (vc : BillDetailViewController) : Option Titles := do
  let bill ← vc.bill
  return { bannerView := some bill.name, nameLabel := none }

structure CoSponsershipViewController where
  senatorName : Option String := none
  stateName : Option String := none
  cellItems : Option (List Bill) := none

namespace CoSponsershipViewController

variable (vc : CoSponsershipViewController)

def viewWillAppear : Titles := { bannerView := vc.stateName, nameLabel := vc.senatorName }

def numberOfSections (_vc : CoSponsershipViewController) : Nat := 1

def numberOfRowsInSection (_section : Nat) : Nat := listNumberOfRows vc.cellItems

def cellForRowAt (cell : UITableViewCell) (indexPath : IndexPath) : Option UITableViewCell :=
  listCell vc.cellItems Bill.name cell indexPath

/-- The sender of the segue to the bill detail; `none` where the source traps. -/
def didSelectRowAt (indexPath : IndexPath) : Option Sender := do
  let cellItems ← vc.cellItems
  let bill ← cellItems[indexPath.row]?
  return .bill (some bill)

/-- `prepare(for:sender:)` for the segue to the bill detail. -/
def prepare (_vc : CoSponsershipViewController) (destination : BillDetailViewController)
    (sender : Sender) : BillDetailViewController :=
  match sender with
  | .bill (some bill) => { destination with bill := some bill }
  | _ => destination

end CoSponsershipViewController

/-- `none` where the source unwraps a nil. -/
def SenatorViewController.viewWillAppear (vc : SenatorViewController) : Option Titles := do
  let usersState ← vc.usersState
  let senator ← vc.senator
  return { bannerView := some usersState.title
           nameLabel := some (senator.firstName ++ " " ++ senator.lastName) }

/-! ## The navigation stack -/

/-- A screen over the home screen. -/
inductive Page where
  | senator (vc : SenatorViewController)
  | commitee (vc : CommiteeViewController)
  | coSponsership (vc : CoSponsershipViewController)
  | billDetail (vc : BillDetailViewController)

def Page.viewWillAppear : Page → Option Titles
  | .senator vc => vc.viewWillAppear
  | .commitee vc => some vc.viewWillAppear
  | .coSponsership vc => some vc.viewWillAppear
  | .billDetail vc => vc.viewWillAppear

/-- The screen that a segue of the senator's screen leads to. -/
def Destination.page : Destination → Page
  | .commitee cellItems senatorName stateName =>
    .commitee { senatorName := some senatorName, stateName := some stateName, cellItems := cellItems }
  | .coSponsership cellItems senatorName stateName =>
    .coSponsership
      { senatorName := some senatorName, stateName := some stateName, cellItems := cellItems }
  | .billDetail bill => .billDetail { bill := some bill }
  | .billDetailUnset => .billDetail {}

/-- The screens over the home screen, the one that is shown first. -/
structure Navigation where
  pages : List Page := []
  /-- The process has ended in a trap. -/
  trapped : Bool := false

inductive NavigationEvent where
  /-- A tap on the senator button in the home table's cell of the row. -/
  | viewSenator (row : Nat)
  /-- A tap on a row of the senator's table. The cell on screen was made from `recycled`, and the
  tap dequeues the cell `dequeued`. -/
  | tapRow (section_ row : Nat) (recycled dequeued : UITableViewCell)
  /-- A tap on a row of the co-sponsored bills. -/
  | tapBill (row : Nat)
  | back

namespace Navigation

variable (load : SenatorViewController → SenatorViewController) (home : HomeViewController)
  (s : Navigation)

def trap : Navigation := { s with trapped := true }

/-- The screen on top appears. -/
def appear : Navigation :=
  match s.pages with
  | [] => s
  | page :: _ => if page.viewWillAppear.isSome then s else s.trap

def push (page : Page) : Navigation := appear { s with pages := page :: s.pages }

/-- The segue to the senator's screen, which loads its view before it appears. -/
def viewSenator (row : Nat) : Navigation :=
  match home.callSegue { tag := 0, positionInTable := some ⟨0, row⟩ } with
  | none => s.trap
  | some (some (.viewSenator senator)) =>
    match home.prepare (.goToSenatorVC {}) (some senator) with
    | .goToSenatorVC destination => s.push (.senator (load destination))
    | .goToSearchController _ => s
  | some _ => s

def tapRow (vc : SenatorViewController) (dequeued : UITableViewCell) (indexPath : IndexPath) :
    Navigation :=
  match vc.didSelectRowAt dequeued indexPath with
  | none => s.trap
  | some none => s
  | some (some (segue, sender)) =>
    match vc.prepare segue sender with
    | none => s.trap
    | some destination => s.push destination.page

def tapBill (vc : CoSponsershipViewController) (row : Nat) : Navigation :=
  match vc.didSelectRowAt ⟨0, row⟩ with
  | none => s.trap
  | some sender => s.push (.billDetail (vc.prepare {} sender))

def step (e : NavigationEvent) : Navigation :=
  match e, s.pages with
  | .viewSenator row, [] => s.viewSenator load home row
  | .tapRow section_ row _ dequeued, .senator vc :: _ => s.tapRow vc dequeued ⟨section_, row⟩
  | .tapBill row, .coSponsership vc :: _ => s.tapBill vc row
  | .back, _ :: pages => appear { s with pages := pages }
  | _, _ => s

/-- The rows that a table shows can be tapped, if their cell allows it. -/
def Enabled (e : NavigationEvent) : Prop :=
  match e, s.pages with
  | .viewSenator row, [] => row < home.numberOfRowsInSection 0
  | .tapRow section_ row recycled _, .senator vc :: _ =>
    row < vc.numberOfRowsInSection section_ ∧
      ∃ cell, vc.cellForRowAt recycled ⟨section_, row⟩ = some cell ∧
        cell.isUserInteractionEnabled = true
  | .tapBill row, .coSponsership vc :: _ => row < vc.numberOfRowsInSection 0
  | .back, _ :: _ => True
  | _, _ => False

end Navigation

/-- The screens over the home screen `home`, with `load` for `SenatorViewController.viewDidLoad`. -/
def navigation (load : SenatorViewController → SenatorViewController) (home : HomeViewController) :
    Machine Navigation NavigationEvent where
  init := {}
  step s e := s.step load home e
  enabled s e := s.Enabled home e

/-! ## The two lists -/

section Lists

variable {α : Type} {cellItems : Option (List α)} {text : α → String}

theorem exists_of_lt_listNumberOfRows {row : Nat} (h : row < listNumberOfRows cellItems) :
    ∃ items item, cellItems = some items ∧ items[row]? = some item := by
  cases cellItems with
  | none => exact absurd h (Nat.not_lt_zero row)
  | some items => exact ⟨items, items[row], rfl, List.getElem?_eq_getElem h⟩

theorem listCell_eq {items : List α} {item : α} {row : Nat} (hc : cellItems = some items)
    (hi : items[row]? = some item) (cell : UITableViewCell) :
    listCell cellItems text cell ⟨0, row⟩ = some { cell with text := some (text item) } := by
  simp [listCell, hc, hi]

/-- The texts of the rows from top to bottom, in cells made from the recycled `cells`. -/
def listTexts (cellItems : Option (List α)) (text : α → String) (cells : Nat → UITableViewCell) :
    List (Option String) :=
  (List.range (listNumberOfRows cellItems)).map fun row =>
    (listCell cellItems text (cells row) ⟨0, row⟩).bind (·.text)

/-- A list shows all of its items, whatever the recycled cells hold. -/
theorem listTexts_eq (cells : Nat → UITableViewCell) :
    listTexts cellItems text cells = (cellItems.getD []).map fun item => some (text item) := by
  cases cellItems with
  | none => rfl
  | some items =>
    apply List.ext_getElem?
    intro row
    rw [listTexts, List.getElem?_map, Option.getD_some, List.getElem?_map]
    by_cases hr : row < items.length
    · have hi : items[row]? = some items[row] := List.getElem?_eq_getElem hr
      rw [List.getElem?_range (by exact hr), Option.map_some, listCell_eq rfl hi, hi]
      rfl
    · have hr := Nat.le_of_not_lt hr
      rw [List.getElem?_eq_none hr, List.getElem?_eq_none (by simpa [listNumberOfRows] using hr)]
      rfl

end Lists

/-- The texts of the rows, from top to bottom. -/
def CommiteeViewController.texts (vc : CommiteeViewController) (cells : Nat → UITableViewCell) :
    List (Option String) :=
  (List.range (vc.numberOfRowsInSection 0)).map fun row =>
    (vc.cellForRowAt (cells row) ⟨0, row⟩).bind (·.text)

def CoSponsershipViewController.texts (vc : CoSponsershipViewController)
    (cells : Nat → UITableViewCell) : List (Option String) :=
  (List.range (vc.numberOfRowsInSection 0)).map fun row =>
    (vc.cellForRowAt (cells row) ⟨0, row⟩).bind (·.text)

/-! ## Taps in the senator's table -/

/-- The bills that the senator's screen has. -/
def SenatorViewController.bills (vc : SenatorViewController) : List Bill :=
  vc.cosponsorships.getD [] ++ (vc.votingRecord.getD []).map (·.1)

namespace SenatorViewController

variable {vc : SenatorViewController} {row : Nat} {recycled cell : UITableViewCell}

/-- The row of a cell that can be tapped. -/
theorem exists_row_of_enabled {section_ : Nat} (hr : row < vc.numberOfRowsInSection section_)
    (hc : vc.cellForRowAt recycled ⟨section_, row⟩ = some cell)
    (he : cell.isUserInteractionEnabled = true) :
    ∃ r, (vc.rows section_)[row]? = some r ∧ r.enabled = true ∧ cell.text = some r.title := by
  rw [cellForRowAt_eq recycled hr] at hc
  obtain ⟨r, hrow, rfl⟩ := Option.map_eq_some_iff.mp hc
  refine ⟨r, hrow, ?_, r.render_text recycled⟩
  rw [Row.render_eq] at he
  exact he

/-- A vote whose row can be tapped. -/
theorem exists_vote (hr : row < vc.numberOfRowsInSection 2)
    (hc : vc.cellForRowAt recycled ⟨2, row⟩ = some cell)
    (he : cell.isUserInteractionEnabled = true) :
    ∃ votes vote, vc.votingRecord = some votes ∧ votes[row]? = some vote ∧
      cell.text = some vote.1.name := by
  obtain ⟨r, hrow, hen, htext⟩ := exists_row_of_enabled hr hc he
  unfold rows at hrow
  cases hv : vc.votingRecord with
  | none =>
    simp only [hv] at hrow
    obtain rfl := List.mem_singleton.mp (List.mem_of_getElem? hrow)
    cases hen
  | some votes =>
    simp only [hv, List.getElem?_map] at hrow
    obtain ⟨vote, hvote, rfl⟩ := Option.map_eq_some_iff.mp hrow
    exact ⟨votes, vote, rfl, hvote, htext⟩

/-- A co-sponsored bill for a row that can be tapped, also if the row says `See more...`. -/
theorem exists_cosponsorship (hr : row < vc.numberOfRowsInSection 1)
    (hc : vc.cellForRowAt recycled ⟨1, row⟩ = some cell)
    (he : cell.isUserInteractionEnabled = true) :
    ∃ bills bill, vc.cosponsorships = some bills ∧ bills[row]? = some bill := by
  obtain ⟨r, hrow, hen, -⟩ := exists_row_of_enabled hr hc he
  rw [numberOfRowsInSection_eq] at hr
  unfold rows at hrow hr
  cases hb : vc.cosponsorships with
  | none =>
    simp only [hb] at hrow
    obtain rfl := List.mem_singleton.mp (List.mem_of_getElem? hrow)
    cases hen
  | some bills =>
    simp only [hb] at hr
    have hlt : row < bills.length := by simpa using lt_length_of_lt_firstThree hr
    exact ⟨bills, bills[row], rfl, List.getElem?_eq_getElem hlt⟩

/-- **What a tap does.** It leads to one of the lists, or to a bill of the senator. -/
theorem didSelectRowAt_cases (dequeued : UITableViewCell) {section_ : Nat}
    (hr : row < vc.numberOfRowsInSection section_)
    (hc : vc.cellForRowAt recycled ⟨section_, row⟩ = some cell)
    (he : cell.isUserInteractionEnabled = true) :
    vc.didSelectRowAt dequeued ⟨section_, row⟩ = some (some (.goToCommitteeVC, .controller)) ∨
    vc.didSelectRowAt dequeued ⟨section_, row⟩ = some (some (.goToCoSponshipVC, .controller)) ∨
    ∃ bill ∈ vc.bills, vc.didSelectRowAt dequeued ⟨section_, row⟩ =
      some (some (.goToBillDetailVC, .bill (some bill))) := by
  match section_ with
  | 0 => exact .inl rfl
  | 1 =>
    obtain ⟨bills, bill, hb, hi⟩ := exists_cosponsorship hr hc he
    by_cases htext : dequeued.text = some "See more..."
    · exact .inr (.inl (by simp [didSelectRowAt, htext]))
    · refine .inr (.inr ⟨bill, ?_, by simp [didSelectRowAt, htext, hb, hi]⟩)
      refine List.mem_append_left _ ?_
      rw [hb]
      exact List.mem_of_getElem? hi
  | 2 =>
    obtain ⟨votes, vote, hv, hi, -⟩ := exists_vote hr hc he
    refine .inr (.inr ⟨vote.1, ?_, by simp [didSelectRowAt, hv, hi]⟩)
    refine List.mem_append_right _ (List.mem_map_of_mem ?_)
    rw [hv]
    exact List.mem_of_getElem? hi
  | section_ + 3 => exact absurd hr (Nat.not_lt_zero row)

end SenatorViewController

/-! ## The stacks -/

/-- The name on the senator's screen. -/
def Senator.fullName (senator : Senator) : String := senator.firstName ++ " " ++ senator.lastName

/-- The stacks over the home screen, for the senator's screen `vc` with its name and state. -/
inductive Stack (vc : SenatorViewController) (name state : String) : List Page → Prop
  | senator : Stack vc name state [.senator vc]
  | commitee : Stack vc name state [.commitee ⟨some name, some state, vc.commitees⟩, .senator vc]
  | coSponsership :
    Stack vc name state [.coSponsership ⟨some name, some state, vc.cosponsorships⟩, .senator vc]
  | bill (bill : Bill) (h : bill ∈ vc.bills) :
    Stack vc name state [.billDetail ⟨some bill⟩, .senator vc]
  | coSponsored (bill : Bill) (h : bill ∈ vc.cosponsorships.getD []) :
    Stack vc name state [.billDetail ⟨some bill⟩,
      .coSponsership ⟨some name, some state, vc.cosponsorships⟩, .senator vc]

/-- `viewDidLoad` leaves what the home screen has given. -/
def KeepsSenator (load : SenatorViewController → SenatorViewController) : Prop :=
  ∀ vc, (load vc).senator = vc.senator ∧ (load vc).usersState = vc.usersState

theorem keepsSenator_viewDidLoad : KeepsSenator SenatorViewController.viewDidLoad :=
  fun _ => ⟨rfl, rfl⟩

section Stacks

variable {load : SenatorViewController → SenatorViewController} {home : HomeViewController}
  {st : State}

/-- The senator's screen of a senator, with its view loaded. -/
def senatorScreen (load : SenatorViewController → SenatorViewController) (st : State)
    (senator : Senator) : SenatorViewController :=
  load { senator := some senator, usersState := some st }

theorem viewWillAppear_senatorScreen (hload : KeepsSenator load) (senator : Senator) :
    (senatorScreen load st senator).viewWillAppear =
      some ⟨some st.title, some senator.fullName⟩ := by
  obtain ⟨hs, hu⟩ := hload { senator := some senator, usersState := some st }
  unfold SenatorViewController.viewWillAppear senatorScreen
  rw [hs, hu]
  rfl

/-- The segue to a list passes the name and the state on. -/
theorem prepare_senatorScreen (hload : KeepsSenator load) (st : State) (senator : Senator) :
    (senatorScreen load st senator).prepare .goToCommitteeVC .controller =
        some (.commitee (senatorScreen load st senator).commitees senator.fullName st.title) ∧
      (senatorScreen load st senator).prepare .goToCoSponshipVC .controller =
        some (.coSponsership (senatorScreen load st senator).cosponsorships senator.fullName
          st.title) := by
  obtain ⟨hs, hu⟩ := hload { senator := some senator, usersState := some st }
  unfold SenatorViewController.prepare
  rw [show (senatorScreen load st senator).senator = some senator from hs,
    show (senatorScreen load st senator).usersState = some st from hu]
  exact ⟨rfl, rfl⟩

/-- Every screen of a stack can appear. -/
theorem Stack.appear (hload : KeepsSenator load) {senator : Senator} {pages : List Page}
    (h : Stack (senatorScreen load st senator) senator.fullName st.title pages) :
    Navigation.appear { pages := pages } = { pages := pages } := by
  cases h with
  | senator =>
    unfold Navigation.appear
    have hsome : (Page.senator (senatorScreen load st senator)).viewWillAppear.isSome = true := by
      show (senatorScreen load st senator).viewWillAppear.isSome = true
      rw [viewWillAppear_senatorScreen hload]
      rfl
    exact if_pos hsome
  | _ => rfl

variable (load st) in
/-- The screens over the home screen of the state `st`. -/
structure Navigation.Ok (s : Navigation) : Prop where
  running : s.trapped = false
  pages : s.pages = [] ∨
    ∃ senator ∈ st.senators, Stack (senatorScreen load st senator) senator.fullName st.title s.pages

/-- A stack that can appear is fine. -/
theorem Stack.ok (hload : KeepsSenator load) {senator : Senator} (hs : senator ∈ st.senators)
    {pages : List Page}
    (h : Stack (senatorScreen load st senator) senator.fullName st.title pages) :
    (Navigation.appear { pages := pages }).Ok load st := by
  rw [h.appear hload]
  exact ⟨rfl, .inr ⟨senator, hs, h⟩⟩

namespace Navigation.Ok

theorem viewSenator (hload : KeepsSenator load) (hstate : home.usersState = some st)
    (hsenators : home.senators = st.senators) {row : Nat} (hr : row < home.senators.length) :
    (Navigation.viewSenator load home {} row).Ok load st := by
  have hi : home.senators[row]? = some home.senators[row] := List.getElem?_eq_getElem hr
  have hmem : home.senators[row] ∈ st.senators := hsenators ▸ List.getElem_mem hr
  unfold Navigation.viewSenator
  simp only [HomeViewController.callSegue, hi, Option.bind_eq_bind, Option.bind_some,
    HomeViewController.prepare, hstate]
  exact Stack.ok hload hmem .senator

/-- A tap on a row of the senator's table. -/
theorem tapRow (hload : KeepsSenator load) {senator : Senator} (hs : senator ∈ st.senators)
    {section_ row : Nat} {recycled dequeued cell : UITableViewCell}
    (hr : row < (senatorScreen load st senator).numberOfRowsInSection section_)
    (hc : (senatorScreen load st senator).cellForRowAt recycled ⟨section_, row⟩ = some cell)
    (he : cell.isUserInteractionEnabled = true) :
    (Navigation.tapRow { pages := [.senator (senatorScreen load st senator)] }
      (senatorScreen load st senator) dequeued ⟨section_, row⟩).Ok load st := by
  obtain ⟨hcommitee, hcosponsor⟩ := prepare_senatorScreen hload st senator
  unfold Navigation.tapRow
  rcases SenatorViewController.didSelectRowAt_cases dequeued hr hc he with
    hsel | hsel | ⟨bill, hbill, hsel⟩
  · simp only [hsel, hcommitee]
    exact Stack.ok hload hs .commitee
  · simp only [hsel, hcosponsor]
    exact Stack.ok hload hs .coSponsership
  · simp only [hsel, SenatorViewController.prepare]
    exact Stack.ok hload hs (.bill bill hbill)

theorem tapBill (hload : KeepsSenator load) {senator : Senator} (hs : senator ∈ st.senators)
    {row : Nat} {vc : CoSponsershipViewController}
    (hvc : vc = ⟨some senator.fullName, some st.title,
      (senatorScreen load st senator).cosponsorships⟩)
    (hr : row < vc.numberOfRowsInSection 0) :
    (Navigation.tapBill
      { pages := [.coSponsership vc, .senator (senatorScreen load st senator)] } vc row).Ok
        load st := by
  subst hvc
  obtain ⟨bills, bill, hb, hi⟩ := exists_of_lt_listNumberOfRows hr
  have hb : (senatorScreen load st senator).cosponsorships = some bills := hb
  unfold Navigation.tapBill CoSponsershipViewController.didSelectRowAt
  simp only [hb, hi, Option.bind_eq_bind, Option.bind_some]
  rw [← hb]
  refine Stack.ok hload hs (.coSponsored bill ?_)
  rw [hb]
  exact List.mem_of_getElem? hi

/-- **One event.** -/
theorem step (hload : KeepsSenator load) (hstate : home.usersState = some st)
    (hsenators : home.senators = st.senators) (hrows : home.RowsInRange) {s : Navigation}
    (h : s.Ok load st) {e : NavigationEvent} (he : s.Enabled home e) :
    (s.step load home e).Ok load st := by
  obtain ⟨pages, trapped⟩ := s
  obtain ⟨rfl, rfl | ⟨senator, hs, hstack⟩⟩ := h
  · cases e with
    | viewSenator row => exact viewSenator hload hstate hsenators (hrows row he)
    | _ => exact he.elim
  · cases e with
    | viewSenator row => cases hstack <;> exact he.elim
    | tapRow section_ row recycled dequeued =>
      cases hstack with
      | senator =>
        obtain ⟨hr, cell, hc, hen⟩ := he
        exact tapRow hload hs hr hc hen
      | _ => exact he.elim
    | tapBill row =>
      cases hstack with
      | coSponsership => exact tapBill hload hs rfl he
      | _ => exact he.elim
    | back =>
      cases hstack with
      | senator => exact ⟨rfl, .inl rfl⟩
      | commitee => exact Stack.ok hload hs .senator
      | coSponsership => exact Stack.ok hload hs .senator
      | bill bill hb => exact Stack.ok hload hs .senator
      | coSponsored bill hb => exact Stack.ok hload hs .coSponsership

end Navigation.Ok

/-! ## What the screens show -/

/-- The screen is about the senator whose screen is `vc`, with the name and the state: it can
appear, it shows them, and a list shows all of the senator's entries. -/
def Page.About (vc : SenatorViewController) (name state : String) : Page → Prop
  | .senator vc' => vc' = vc ∧ vc'.viewWillAppear = some ⟨some state, some name⟩
  | .commitee list =>
    list.viewWillAppear = ⟨some state, some name⟩ ∧
      ∀ cells, list.texts cells = (vc.commitees.getD []).map some
  | .coSponsership list =>
    list.viewWillAppear = ⟨some state, some name⟩ ∧
      ∀ cells, list.texts cells = (vc.cosponsorships.getD []).map fun bill => some bill.name
  | .billDetail detail =>
    ∃ bill ∈ vc.bills, detail.viewWillAppear = some ⟨some bill.name, none⟩

/-- Every screen of a stack is about its senator. -/
theorem Stack.about (hload : KeepsSenator load) {senator : Senator} {pages : List Page}
    (h : Stack (senatorScreen load st senator) senator.fullName st.title pages) :
    pages.length ≤ 3 ∧
      ∀ page ∈ pages, page.About (senatorScreen load st senator) senator.fullName st.title := by
  have hsenator : (Page.senator (senatorScreen load st senator)).About
      (senatorScreen load st senator) senator.fullName st.title :=
    ⟨rfl, viewWillAppear_senatorScreen hload senator⟩
  have hlist : (Page.coSponsership ⟨some senator.fullName, some st.title,
      (senatorScreen load st senator).cosponsorships⟩).About
        (senatorScreen load st senator) senator.fullName st.title :=
    ⟨rfl, fun cells => listTexts_eq cells⟩
  cases h with
  | senator => simpa using hsenator
  | commitee => simpa [hsenator] using ⟨rfl, fun cells => listTexts_eq cells⟩
  | coSponsership => simpa [hsenator] using hlist
  | bill bill hb => simpa [hsenator] using ⟨bill, hb, rfl⟩
  | coSponsored bill hb =>
    simpa [hsenator, hlist] using ⟨bill, List.mem_append_left _ hb, rfl⟩

/-- The screens over a home screen that holds the state `st` and its senators. -/
theorem about_run (hload : KeepsSenator load) (hstate : home.usersState = some st)
    (hsenators : home.senators = st.senators) (hrows : home.RowsInRange) (h : List NavigationEvent)
    (ha : (navigation load home).Admits h) :
    ((navigation load home).run h).trapped = false ∧
      ((navigation load home).run h).pages.length ≤ 3 ∧
      ∃ senator ∈ st.senators, ∀ page ∈ ((navigation load home).run h).pages,
        page.About (senatorScreen load st senator) senator.fullName st.title := by
  have hok := Machine.invariant (M := navigation load home) (I := Navigation.Ok load st)
    ⟨rfl, .inl rfl⟩ (fun s e hs he => hs.step hload hstate hsenators hrows he) h ha
  refine ⟨hok.running, ?_⟩
  rcases hok.pages with hnil | ⟨senator, hs, hstack⟩
  · rw [HomeViewController.rowsInRange_iff, hsenators] at hrows
    rw [hnil]
    exact ⟨Nat.zero_le 3, st.senators[0], List.getElem_mem (by omega), nofun⟩
  · exact ⟨(hstack.about hload).1, senator, hs, (hstack.about hload).2⟩

end Stacks

open UserDefaultManager

/-- The home screen of somebody who chose New York. -/
def newYorkHome : HomeViewController :=
  HomeViewController.viewDidLoad default ⟨some (newYorkRoster 2)⟩ default newYorker {}

/-- A cell that was one of `See more...` before. -/
def seeMoreCell : UITableViewCell := { votingOrCommitee with text := some "See more..." }

/-- From the second senator to the co-sponsored bills, and to the last of them. -/
def billPath : List NavigationEvent :=
  [.viewSenator 1, .tapRow 1 3 votingOrCommitee seeMoreCell, .tapBill 3]

theorem admits_billPath {home : HomeViewController} {st : State} {senator : Senator}
    (hstate : home.usersState = some st) (hi : home.senators[1]? = some senator) :
    (navigation SenatorViewController.viewDidLoad home).Admits billPath := by
  have hstep : (navigation SenatorViewController.viewDidLoad home).step {} (.viewSenator 1) =
      { pages := [.senator (senatorScreen SenatorViewController.viewDidLoad st senator)] } := by
    show Navigation.viewSenator SenatorViewController.viewDidLoad home {} 1 = _
    unfold Navigation.viewSenator
    simp only [HomeViewController.callSegue, hi, Option.bind_eq_bind, Option.bind_some,
      HomeViewController.prepare, hstate]
    rfl
  refine ⟨Nat.one_lt_two, ?_⟩
  show (navigation SenatorViewController.viewDidLoad home).AdmitsFrom
    ((navigation SenatorViewController.viewDidLoad home).step {} (.viewSenator 1)) _
  rw [hstep]
  exact ⟨⟨Nat.lt_succ_self 3, _, rfl, rfl⟩, Nat.lt_succ_self 3, trivial⟩

/-- The tap is on a row of a bill, in the voting record or in the list of co-sponsored bills, and
the row shows the cell. -/
def Navigation.TapsBill (s : Navigation) (e : NavigationEvent) (cell : UITableViewCell) : Prop :=
  match e, s.pages with
  | .tapRow 2 row recycled _, .senator vc :: _ => vc.cellForRowAt recycled ⟨2, row⟩ = some cell
  | .tapBill row, .coSponsership vc :: _ =>
    ∃ recycled, vc.cellForRowAt recycled ⟨0, row⟩ = some cell
  | _, _ => False

/-- The two kinds of rows. -/
theorem Navigation.TapsBill.cases {s : Navigation} {e : NavigationEvent} {cell : UITableViewCell}
    (h : s.TapsBill e cell) :
    (∃ row recycled dequeued vc pages, e = .tapRow 2 row recycled dequeued ∧
        s.pages = .senator vc :: pages ∧ vc.cellForRowAt recycled ⟨2, row⟩ = some cell) ∨
      ∃ row recycled vc pages, e = .tapBill row ∧ s.pages = .coSponsership vc :: pages ∧
        vc.cellForRowAt recycled ⟨0, row⟩ = some cell := by
  unfold Navigation.TapsBill at h
  split at h
  · rename_i row recycled dequeued vc pages hpages
    exact .inl ⟨row, recycled, dequeued, vc, pages, rfl, hpages, h⟩
  · rename_i row vc pages hpages
    obtain ⟨recycled, hc⟩ := h
    exact .inr ⟨row, recycled, vc, pages, rfl, hpages, hc⟩
  · exact h.elim

/-- A tap on a vote. -/
theorem Navigation.tapRow_vote {s : Navigation} {vc : SenatorViewController}
    {recycled dequeued cell : UITableViewCell} {row : Nat} (hr : row < vc.numberOfRowsInSection 2)
    (hc : vc.cellForRowAt recycled ⟨2, row⟩ = some cell)
    (hen : cell.isUserInteractionEnabled = true) :
    ∃ bill : Bill, some bill.name = cell.text ∧
      (s.tapRow vc dequeued ⟨2, row⟩).pages = .billDetail ⟨some bill⟩ :: s.pages := by
  obtain ⟨votes, vote, hv, hi, htext⟩ := SenatorViewController.exists_vote hr hc hen
  have hsel : vc.didSelectRowAt dequeued ⟨2, row⟩ =
      some (some (.goToBillDetailVC, .bill (some vote.1))) := by
    simp [SenatorViewController.didSelectRowAt, hv, hi]
  refine ⟨vote.1, htext.symm, ?_⟩
  simp only [Navigation.tapRow, hsel, SenatorViewController.prepare]
  rfl

/-- A tap on a co-sponsored bill. -/
theorem Navigation.tapBill_bill {s : Navigation} {vc : CoSponsershipViewController}
    {recycled cell : UITableViewCell} {row : Nat} (hr : row < vc.numberOfRowsInSection 0)
    (hc : vc.cellForRowAt recycled ⟨0, row⟩ = some cell) :
    ∃ bill : Bill, some bill.name = cell.text ∧
      (s.tapBill vc row).pages = .billDetail ⟨some bill⟩ :: s.pages := by
  obtain ⟨bills, bill, hb, hi⟩ := exists_of_lt_listNumberOfRows hr
  have hcell : vc.cellForRowAt recycled ⟨0, row⟩ =
      some { recycled with text := some bill.name } := listCell_eq hb hi recycled
  obtain rfl := Option.some.inj (hc.symm.trans hcell)
  have hsel : vc.didSelectRowAt ⟨0, row⟩ = some (.bill (some bill)) := by
    simp [CoSponsershipViewController.didSelectRowAt, hb, hi]
  refine ⟨bill, rfl, ?_⟩
  simp only [Navigation.tapBill, hsel]
  rfl

/-- **The bill that opens is the one that the row shows.** After every run, a tap on a row of the
voting record or of the list of co-sponsored bills puts a bill detail on the stack, and its banner
has the text of the row. -/
theorem bill_opened_is_shown (load : SenatorViewController → SenatorViewController)
    (home : HomeViewController) (h : List NavigationEvent) (e : NavigationEvent)
    (ha : (navigation load home).Admits (h ++ [e])) (cell : UITableViewCell)
    (ht : ((navigation load home).run h).TapsBill e cell) :
    ∃ page, ((navigation load home).run (h ++ [e])).pages =
        page :: ((navigation load home).run h).pages ∧
      page.viewWillAppear = some ⟨cell.text, none⟩ := by
  obtain ⟨-, he⟩ := (Machine.admits_snoc _ _).mp ha
  rw [Machine.run_snoc]
  generalize (navigation load home).run h = s at he ht ⊢
  obtain ⟨pages, trapped⟩ := s
  obtain ⟨row, recycled, dequeued, vc, pages', rfl, hpages, hc⟩ |
    ⟨row, recycled, vc, pages', rfl, hpages, hc⟩ := ht.cases
  · obtain rfl : pages = .senator vc :: pages' := hpages
    obtain ⟨hr, cell', hc', hen⟩ := he
    obtain rfl : cell = cell' := Option.some.inj (hc.symm.trans hc')
    obtain ⟨bill, htext, hstep⟩ := Navigation.tapRow_vote hr hc hen
    exact ⟨.billDetail ⟨some bill⟩, hstep, by rw [← htext]; rfl⟩
  · obtain rfl : pages = .coSponsership vc :: pages' := hpages
    obtain ⟨bill, htext, hstep⟩ := Navigation.tapBill_bill he hc
    exact ⟨.billDetail ⟨some bill⟩, hstep, by rw [← htext]; rfl⟩

/-- The second of the two votes. -/
theorem bill_opened_is_shown_vote :
    ∃ page, ((navigation SenatorViewController.viewDidLoad newYorkHome).run
        ([.viewSenator 0] ++ [.tapRow 2 1 votingOrCommitee votingOrCommitee])).pages =
          page :: ((navigation SenatorViewController.viewDidLoad newYorkHome).run
            [.viewSenator 0]).pages ∧
      page.viewWillAppear = some ⟨some "A", none⟩ :=
  bill_opened_is_shown SenatorViewController.viewDidLoad newYorkHome [.viewSenator 0]
    (.tapRow 2 1 votingOrCommitee votingOrCommitee)
    ⟨Nat.two_pos, ⟨by decide +kernel, _, rfl, rfl⟩, trivial⟩
    { votingOrCommitee with text := some "A", detailText := some "NO" } rfl

end PWR
