import PWR.Bill
import PWR.Screen.Picker

/-!
# The senator's screen (`Controllers/SenatorViewController`)

A table with three sections: the senator's committees, the bills that the senator co-sponsored and
the voting record. The first two show three rows and `See more...` when there are more. All rows
use cells of one prototype, which the table view recycles: `cellForRowAt` is given a cell with what
an earlier row left in it, and changes a part of it.

`Row` is the abstract side: what the data says about a row. `cellForRowAt_eq` says that a cell is
its row's contents written over the recycled cell, and it is where all branches of the source are
compared with the lists.

* `senator_table`: no index is out of range, and the rows read as the lists say.
* `tap_follows_iff`: where a tap on a co-sponsored bill goes. The source reads the text of a cell
  that it dequeues at the tap, which is not the cell on screen.
* `same_cell_iff`: when two recycled cells end up the same. The detail text is written for
  the votes only.
-/

namespace PWR

/-! ## Cells -/

structure UIColor where
  name : String
  deriving DecidableEq, Repr

structure UIFont where
  name : String
  size : Nat
  deriving DecidableEq, Repr

/-- What a `UITableViewCell` with a text and a detail label shows and allows. -/
structure UITableViewCell where
  text : Option String
  detailText : Option String
  textColor : UIColor
  font : UIFont
  isUserInteractionEnabled : Bool
  deriving DecidableEq, Repr

/-- The `votingOrCommitee` prototype of `Home.storyboard`. -/
def votingOrCommitee : UITableViewCell where
  text := some "Title"
  detailText := some ""
  textColor := ⟨"black"⟩
  font := ⟨"Avenir-Roman", 20⟩
  isUserInteractionEnabled := true

/-! ## The controller -/

/-- The segues of the controller, its `allowedSegues`. -/
inductive SenatorSegue where
  | goToCoSponshipVC
  | goToCommitteeVC
  | goToBillDetailVC
  deriving DecidableEq, Repr

/-- The sender of a segue. -/
inductive Sender where
  | controller
  | bill (bill : Option Bill)
  deriving DecidableEq, Repr

/-- What a segue gives to the controller of the next screen. -/
inductive Destination where
  | commitee (cellItems : Option (List String)) (senatorName stateName : String)
  | coSponsership (cellItems : Option (List Bill)) (senatorName stateName : String)
  | billDetail (bill : Bill)
  /-- A bill detail screen that got no bill. -/
  | billDetailUnset
  deriving DecidableEq, Repr

structure SenatorViewController where
  senator : Option Senator := none
  usersState : Option State := none
  votingRecord : Option (List (Bill × Bool)) := none
  commitees : Option (List String) := none
  cosponsorships : Option (List Bill) := none

namespace SenatorViewController

variable (vc : SenatorViewController)

/-- The source fills in dummy data. -/
def viewDidLoad : SenatorViewController :=
  let law : Bill := { name := "A", number := "", lastAction := "" }
  { vc with
    commitees := some ["A", "B", "C", "D"]
    cosponsorships := some [law, law, law, law]
    votingRecord := some [(law, true), (law, false)] }

def numberOfRowsInSection (section_ : Nat) : Nat :=
  match section_ with
  | 0 =>
    match vc.commitees with
    | none => 1
    | some sitsOnCommitee => if sitsOnCommitee.length ≤ 3 then sitsOnCommitee.length else 4
  | 1 =>
    match vc.cosponsorships with
    | none => 1
    | some cosponsoredABill => if cosponsoredABill.length ≤ 3 then cosponsoredABill.length else 4
  | 2 => (vc.votingRecord.map (·.length)).getD 1
  | _ => 0

/-- Section 0 of `cellForRowAt`: the text, and the cell with what the section sets itself. -/
def commiteeCell (cell : UITableViewCell) (row : Nat) : Option (String × UITableViewCell) :=
  match vc.commitees with
  | none => some ("No commitees", { cell with isUserInteractionEnabled := false })
  | some sitsOnCommitee =>
    if row < 3 then do
      let cellText ← sitsOnCommitee[row]?
      return (cellText, { cell with isUserInteractionEnabled := false })
    else if row = 3 then
      some ("See more...", { cell with isUserInteractionEnabled := true })
    else some ("", cell)

/-- Section 1. -/
def cosponsorshipCell (cell : UITableViewCell) (row : Nat) : Option (String × UITableViewCell) :=
  match vc.cosponsorships with
  | none => some ("No co-sponsored bills", { cell with isUserInteractionEnabled := false })
  | some cosponsoredABill => do
    let cellText ←
      if row < 3 then cosponsoredABill[row]?.map (·.name)
      else if row = 3 then some "See more..."
      else some ""
    return (cellText, { cell with isUserInteractionEnabled := true })

/-- Section 2. -/
def votingCell (cell : UITableViewCell) (row : Nat) : Option (String × UITableViewCell) :=
  match vc.votingRecord with
  | none => some ("No bills voted on yet", { cell with isUserInteractionEnabled := false })
  | some votedOnABill => do
    let (bill, votedInFavor) ← votedOnABill[row]?
    return (bill.name, { cell with
      isUserInteractionEnabled := true
      detailText := some (if votedInFavor then "YES" else "NO") })

/-- The end of `cellForRowAt`: the text, and the look that goes with it. -/
def setText (cellText : String) (cell : UITableViewCell) : UITableViewCell :=
  let cell := { cell with text := some cellText }
  if cell.text = some "See more..." then
    { cell with textColor := ⟨"PWRred"⟩, font := ⟨"Avenir-LightOblique", 20⟩ }
  else
    { cell with textColor := ⟨"black"⟩, font := ⟨"Avenir-Roman", 20⟩ }

/-- The cell of a row, made from the dequeued `cell`; `none` where the source indexes out of
range. -/
def cellForRowAt (cell : UITableViewCell) (indexPath : IndexPath) : Option UITableViewCell := do
  let (cellText, cell) ←
    match indexPath.section_ with
    | 0 => vc.commiteeCell cell indexPath.row
    | 1 => vc.cosponsorshipCell cell indexPath.row
    | 2 => vc.votingCell cell indexPath.row
    | _ => some ("", cell)
  return setText cellText cell

/-- The segue that a tap performs, if any; `none` where the source indexes out of range. The `cell`
is the one that the tap dequeues. -/
def didSelectRowAt (cell : UITableViewCell) (indexPath : IndexPath) :
    Option (Option (SenatorSegue × Sender)) :=
  match indexPath.section_ with
  | 0 => some (some (.goToCommitteeVC, .controller))
  | 1 =>
    if cell.text = some "See more..." then some (some (.goToCoSponshipVC, .controller))
    else
      match vc.cosponsorships with
      | none => some (some (.goToBillDetailVC, .bill none))
      | some cosponsorships => do
        let bill ← cosponsorships[indexPath.row]?
        return some (.goToBillDetailVC, .bill (some bill))
  | 2 =>
    match vc.votingRecord with
    | none => some none
    | some votingRecord => do
      let record ← votingRecord[indexPath.row]?
      return some (.goToBillDetailVC, .bill (some record.1))
  | _ => some none

/-- `prepare(for:sender:)`; `none` where the source unwraps a nil. -/
def prepare (segue : SenatorSegue) (sender : Sender) : Option Destination :=
  match segue with
  | .goToCommitteeVC => do
    let senator ← vc.senator
    let usersState ← vc.usersState
    return .commitee vc.commitees (senator.firstName ++ " " ++ senator.lastName) usersState.title
  | .goToCoSponshipVC => do
    let senator ← vc.senator
    let usersState ← vc.usersState
    return .coSponsership vc.cosponsorships (senator.firstName ++ " " ++ senator.lastName)
      usersState.title
  | .goToBillDetailVC =>
    match sender with
    | .bill (some bill) => some (.billDetail bill)
    | _ => some .billDetailUnset

end SenatorViewController

/-! ## Rows -/

section FirstThree

variable {α β : Type}

/-- The list, or its first three elements and `more` if it is longer. -/
def firstThree (l : List α) (more : α) : List α := if l.length ≤ 3 then l else l.take 3 ++ [more]

theorem length_firstThree (l : List α) (more : α) :
    (firstThree l more).length = if l.length ≤ 3 then l.length else 4 := by
  unfold firstThree
  split
  · rfl
  · rw [List.length_append, List.length_take, List.length_singleton]
    omega

theorem map_firstThree (f : α → β) (l : List α) (more : α) :
    (firstThree l more).map f = firstThree (l.map f) (f more) := by
  unfold firstThree
  rw [List.length_map]
  split
  · rfl
  · rw [List.map_append, List.map_take, List.map_singleton]

theorem eq_three_of_lt_length {l : List α} {more : α} {row : Nat}
    (h : row < (firstThree l more).length) (hr : ¬ row < 3) : row = 3 := by
  rw [length_firstThree] at h
  split at h <;> omega

theorem getElem?_firstThree {l : List α} {more : α} {row : Nat}
    (h : row < (firstThree l more).length) :
    (firstThree l more)[row]? = if row < 3 then l[row]? else some more := by
  have hthree := eq_three_of_lt_length h
  rw [length_firstThree] at h
  unfold firstThree
  by_cases hl : l.length ≤ 3
  · rw [if_pos hl] at h ⊢
    rw [if_pos (by omega)]
  · rw [if_neg hl]
    have hlen : (l.take 3).length = 3 := by
      rw [List.length_take]
      omega
    by_cases hr : row < 3
    · rw [if_pos hr, List.getElem?_append_left (by omega), List.getElem?_take_of_lt hr]
    · obtain rfl := hthree hr
      rw [if_neg hr, List.getElem?_append_right (by omega), hlen]
      rfl

theorem lt_length_of_lt_firstThree {l : List α} {more : α} {row : Nat}
    (h : row < (firstThree l more).length) : row < l.length := by
  rw [length_firstThree] at h
  split at h <;> omega

theorem mem_of_mem_firstThree {l : List α} {more x : α} (h : x ∈ firstThree l more) :
    x ∈ l ∨ x = more := by
  unfold firstThree at h
  split at h
  · exact .inl h
  · rcases List.mem_append.mp h with hx | hx
    · exact .inl (List.mem_of_mem_take hx)
    · exact .inr (List.mem_singleton.mp hx)

end FirstThree

/-- What the data says about a row. -/
structure Row where
  title : String
  /-- The detail text, where the row has one. -/
  detail : Option String
  enabled : Bool
  deriving DecidableEq, Repr

namespace Row

/-- The row written over a recycled cell. -/
def render (r : Row) (cell : UITableViewCell) : UITableViewCell :=
  SenatorViewController.setText r.title
    { cell with detailText := r.detail.or cell.detailText, isUserInteractionEnabled := r.enabled }

/-- Only the detail text can be left over from the recycled cell. -/
theorem render_eq (r : Row) (cell : UITableViewCell) :
    r.render cell = ⟨some r.title, r.detail.or cell.detailText,
      if r.title = "See more..." then ⟨"PWRred"⟩ else ⟨"black"⟩,
      if r.title = "See more..." then ⟨"Avenir-LightOblique", 20⟩ else ⟨"Avenir-Roman", 20⟩,
      r.enabled⟩ := by
  unfold render SenatorViewController.setText
  by_cases h : r.title = "See more..." <;> simp [h]

@[simp] theorem render_text (r : Row) (cell : UITableViewCell) :
    (r.render cell).text = some r.title := by
  rw [render_eq]

@[simp] theorem render_detailText (r : Row) (cell : UITableViewCell) :
    (r.render cell).detailText = r.detail.or cell.detailText := by
  rw [render_eq]

end Row

def seeMore : Row := ⟨"See more...", none, true⟩

namespace SenatorViewController

variable (vc : SenatorViewController)

/-- The rows of a section. -/
def rows (section_ : Nat) : List Row :=
  match section_ with
  | 0 =>
    match vc.commitees with
    | none => [⟨"No commitees", none, false⟩]
    | some names => firstThree (names.map fun name => ⟨name, none, false⟩) seeMore
  | 1 =>
    match vc.cosponsorships with
    | none => [⟨"No co-sponsored bills", none, false⟩]
    | some bills => firstThree (bills.map fun bill => ⟨bill.name, none, true⟩) seeMore
  | 2 =>
    match vc.votingRecord with
    | none => [⟨"No bills voted on yet", none, false⟩]
    | some votes =>
      votes.map fun vote => ⟨vote.1.name, some (if vote.2 then "YES" else "NO"), true⟩
  | _ => []

theorem numberOfRowsInSection_eq (section_ : Nat) :
    vc.numberOfRowsInSection section_ = (vc.rows section_).length := by
  unfold numberOfRowsInSection rows
  split
  · split <;> simp [length_firstThree]
  · split <;> simp [length_firstThree]
  · cases vc.votingRecord <;> simp
  · rfl

variable {vc}

theorem commiteeCell_eq (cell : UITableViewCell) {row : Nat} (h : row < (vc.rows 0).length) :
    (vc.commiteeCell cell row).map (fun c => setText c.1 c.2) =
      (vc.rows 0)[row]?.map (·.render cell) := by
  simp only [rows, commiteeCell] at h ⊢
  cases hc : vc.commitees with
  | none =>
    simp only [hc, List.length_singleton, Nat.lt_one_iff] at h
    subst h
    rfl
  | some names =>
    simp only [hc] at h ⊢
    rw [getElem?_firstThree h, List.getElem?_map]
    by_cases hr : row < 3
    · rw [if_pos hr, if_pos hr]
      cases names[row]? <;> rfl
    · obtain rfl := eq_three_of_lt_length h hr
      rfl

theorem cosponsorshipCell_eq (cell : UITableViewCell) {row : Nat} (h : row < (vc.rows 1).length) :
    (vc.cosponsorshipCell cell row).map (fun c => setText c.1 c.2) =
      (vc.rows 1)[row]?.map (·.render cell) := by
  simp only [rows, cosponsorshipCell] at h ⊢
  cases hc : vc.cosponsorships with
  | none =>
    simp only [hc, List.length_singleton, Nat.lt_one_iff] at h
    subst h
    rfl
  | some bills =>
    simp only [hc] at h ⊢
    rw [getElem?_firstThree h, List.getElem?_map]
    by_cases hr : row < 3
    · rw [if_pos hr, if_pos hr]
      cases bills[row]? <;> rfl
    · obtain rfl := eq_three_of_lt_length h hr
      rfl

theorem votingCell_eq (cell : UITableViewCell) {row : Nat} (h : row < (vc.rows 2).length) :
    (vc.votingCell cell row).map (fun c => setText c.1 c.2) =
      (vc.rows 2)[row]?.map (·.render cell) := by
  simp only [rows, votingCell] at h ⊢
  cases hc : vc.votingRecord with
  | none =>
    simp only [hc, List.length_singleton, Nat.lt_one_iff] at h
    subst h
    rfl
  | some votes =>
    simp only [List.getElem?_map]
    cases votes[row]? <;> rfl

/-- **A cell is its row's contents over the recycled cell.** -/
theorem cellForRowAt_eq (cell : UITableViewCell) {section_ row : Nat}
    (h : row < vc.numberOfRowsInSection section_) :
    vc.cellForRowAt cell ⟨section_, row⟩ = (vc.rows section_)[row]?.map (·.render cell) := by
  rw [numberOfRowsInSection_eq] at h
  simp only [cellForRowAt, bind_pure_comp, Option.map_eq_map]
  match section_ with
  | 0 => exact commiteeCell_eq cell h
  | 1 => exact cosponsorshipCell_eq cell h
  | 2 => exact votingCell_eq cell h
  | section_ + 3 => exact absurd h (Nat.not_lt_zero _)

/-- A tap on a row that is shown finds its bill. -/
theorem isSome_didSelectRowAt (cell : UITableViewCell) {section_ row : Nat}
    (h : row < vc.numberOfRowsInSection section_) :
    (vc.didSelectRowAt cell ⟨section_, row⟩).isSome = true := by
  rw [numberOfRowsInSection_eq] at h
  match section_ with
  | 0 => rfl
  | 1 =>
    simp only [didSelectRowAt, rows] at h ⊢
    split
    · rfl
    · cases hc : vc.cosponsorships with
      | none => rfl
      | some bills =>
        simp only [hc] at h ⊢
        have hr : row < bills.length := by
          simpa using lt_length_of_lt_firstThree h
        rw [List.getElem?_eq_getElem hr]
        rfl
  | 2 =>
    simp only [didSelectRowAt, rows] at h ⊢
    cases hv : vc.votingRecord with
    | none => rfl
    | some votes =>
      simp only [hv, List.length_map] at h ⊢
      rw [List.getElem?_eq_getElem h]
      rfl
  | section_ + 3 => exact absurd h (Nat.not_lt_zero _)

/-! ## What the table shows -/

/-- The cells of a section from top to bottom, made from the recycled `cells`. -/
def shown (vc : SenatorViewController) (cells : IndexPath → UITableViewCell) (section_ : Nat) :
    List (Option UITableViewCell) :=
  (List.range (vc.numberOfRowsInSection section_)).map fun row =>
    vc.cellForRowAt (cells ⟨section_, row⟩) ⟨section_, row⟩

/-- What can be read off the rows of a section can be read off its cells. -/
theorem map_shown {α : Type} (cells : IndexPath → UITableViewCell) {section_ : Nat}
    {read : UITableViewCell → Option α} {f : Row → α}
    (h : ∀ r ∈ vc.rows section_, ∀ cell, read (r.render cell) = some (f r)) :
    (vc.shown cells section_).map (·.bind read) = (vc.rows section_).map fun r => some (f r) := by
  apply List.ext_getElem?
  intro row
  rw [shown, List.getElem?_map, List.getElem?_map, List.getElem?_map]
  by_cases hr : row < vc.numberOfRowsInSection section_
  · rw [List.getElem?_range hr, Option.map_some, Option.map_some, cellForRowAt_eq _ hr]
    rw [numberOfRowsInSection_eq] at hr
    rw [List.getElem?_eq_getElem hr, Option.map_some, Option.map_some, Option.bind_some,
      h _ (List.getElem_mem hr)]
  · rw [List.getElem?_eq_none (by simpa using hr)]
    rw [numberOfRowsInSection_eq] at hr
    rw [List.getElem?_eq_none (Nat.le_of_not_lt hr)]
    rfl

/-- The titles of a section. -/
def titles (vc : SenatorViewController) (cells : IndexPath → UITableViewCell) (section_ : Nat) :
    List (Option String) :=
  (vc.shown cells section_).map (·.bind (·.text))

/-- The detail texts of a section. -/
def details (vc : SenatorViewController) (cells : IndexPath → UITableViewCell) (section_ : Nat) :
    List (Option String) :=
  (vc.shown cells section_).map (·.bind (·.detailText))

theorem titles_eq (cells : IndexPath → UITableViewCell) (section_ : Nat) :
    vc.titles cells section_ = ((vc.rows section_).map (·.title)).map some := by
  rw [titles, map_shown cells (f := (·.title)) fun r _ cell => r.render_text cell, List.map_map]
  rfl

/-- **The senator's table.** For all lists, whatever the recycled cells hold: no row that the table
has is out of range, neither when its cell is made nor at a tap; the rows read as the lists say. -/
theorem senator_table (vc : SenatorViewController) (cells : IndexPath → UITableViewCell) :
    (∀ section_ row, row < vc.numberOfRowsInSection section_ → ∀ cell,
      (vc.cellForRowAt cell ⟨section_, row⟩).isSome = true ∧
        (vc.didSelectRowAt cell ⟨section_, row⟩).isSome = true) ∧
    vc.titles cells 0 =
      (match vc.commitees with
        | none => ["No commitees"]
        | some names => if names.length ≤ 3 then names else names.take 3 ++ ["See more..."]).map
        some ∧
    vc.titles cells 1 =
      (match vc.cosponsorships with
        | none => ["No co-sponsored bills"]
        | some bills =>
          if bills.length ≤ 3 then bills.map Bill.name
          else (bills.take 3).map Bill.name ++ ["See more..."]).map some ∧
    vc.titles cells 2 =
      (match vc.votingRecord with
        | none => ["No bills voted on yet"]
        | some votes => votes.map (Bill.name ∘ Prod.fst)).map some ∧
    ∀ votes, vc.votingRecord = some votes →
      vc.details cells 2 = votes.map fun vote => some (if vote.2 then "YES" else "NO") := by
  refine ⟨fun section_ row hr cell => ⟨?_, isSome_didSelectRowAt cell hr⟩, ?_, ?_, ?_, ?_⟩
  · rw [cellForRowAt_eq cell hr]
    rw [numberOfRowsInSection_eq] at hr
    rw [List.getElem?_eq_getElem hr]
    rfl
  · rw [titles_eq, rows]
    congr 1
    cases vc.commitees with
    | none => rfl
    | some names =>
      have hnames : names.map (Row.title ∘ fun name => ⟨name, none, false⟩) = names :=
        List.map_id names
      rw [map_firstThree, List.map_map, hnames]
      rfl
  · rw [titles_eq, rows]
    congr 1
    cases vc.cosponsorships with
    | none => rfl
    | some bills =>
      rw [map_firstThree, List.map_map, firstThree, List.length_map, ← List.map_take]
      rfl
  · rw [titles_eq, rows]
    congr 1
    cases vc.votingRecord with
    | none => rfl
    | some votes => exact List.map_map
  · intro votes hv
    have hrows : vc.rows 2 = votes.map fun vote =>
        ⟨vote.1.name, some (if vote.2 then "YES" else "NO"), true⟩ := by
      simp only [rows, hv]
    have hread : ∀ r ∈ vc.rows 2, ∀ cell : UITableViewCell,
        (r.render cell).detailText = some (r.detail.getD "") := by
      intro r hr cell
      rw [hrows] at hr
      obtain ⟨vote, -, rfl⟩ := List.mem_map.mp hr
      rw [Row.render_detailText]
      rfl
    rw [details, map_shown cells hread, hrows, List.map_map]
    rfl

/-! ## A tap on a co-sponsored bill -/

/-- `dequeueReusableCell` returns a new cell of the prototype or a cell from the pool. -/
def Dequeues (pool : List UITableViewCell) (cell : UITableViewCell) : Prop :=
  cell = votingOrCommitee ∨ cell ∈ pool

/-- With the cell `onScreen` on the row, a tap that dequeues `cell` goes where the row says: from
`See more...` to all co-sponsored bills, from another row to the bill whose name it shows. -/
def TapFollows (vc : SenatorViewController) (row : Nat) (onScreen cell : UITableViewCell) : Prop :=
  if onScreen.text = some "See more..." then
    vc.didSelectRowAt cell ⟨1, row⟩ = some (some (.goToCoSponshipVC, .controller))
  else
    ∃ bill sender, vc.cosponsorships.bind (·[row]?) = some bill ∧ onScreen.text = some bill.name ∧
      vc.didSelectRowAt cell ⟨1, row⟩ = some (some (.goToBillDetailVC, sender)) ∧
      vc.prepare .goToBillDetailVC sender = some (.billDetail bill)

/-- The source goes by the text of the cell that it dequeues. -/
theorem didSelectRowAt_one {bills : List Bill} (hb : vc.cosponsorships = some bills) {row : Nat}
    {bill : Bill} (hbill : bills[row]? = some bill) (cell : UITableViewCell) :
    vc.didSelectRowAt cell ⟨1, row⟩ =
      if cell.text = some "See more..." then some (some (.goToCoSponshipVC, .controller))
      else some (some (.goToBillDetailVC, .bill (some bill))) := by
  simp only [didSelectRowAt, hb, hbill]
  rfl

/-- The cell on screen of a co-sponsored bill: it reads `See more...` in row 3 only. -/
theorem text_cellForRowAt_one {bills : List Bill} (hb : vc.cosponsorships = some bills)
    (hn : ∀ bill ∈ bills, bill.name ≠ "See more...") {row : Nat}
    (hr : row < vc.numberOfRowsInSection 1) (recycled : UITableViewCell) :
    ∃ onScreen bill, vc.cellForRowAt recycled ⟨1, row⟩ = some onScreen ∧
      bills[row]? = some bill ∧ (onScreen.text = some "See more..." ↔ row = 3) ∧
      (row ≠ 3 → onScreen.text = some bill.name) := by
  have hrows : vc.rows 1 = firstThree (bills.map fun bill => ⟨bill.name, none, true⟩) seeMore := by
    simp only [rows, hb]
  have hcell := cellForRowAt_eq recycled hr
  rw [numberOfRowsInSection_eq, hrows] at hr
  rw [hrows, getElem?_firstThree hr, List.getElem?_map] at hcell
  have hlt : row < bills.length := by
    simpa using lt_length_of_lt_firstThree hr
  rw [List.getElem?_eq_getElem hlt] at hcell ⊢
  by_cases h3 : row < 3
  · rw [if_pos h3] at hcell
    refine ⟨_, _, hcell, rfl, ?_, fun _ => Row.render_text _ _⟩
    rw [Row.render_text]
    have hname := hn _ (List.getElem_mem hlt)
    constructor
    · intro h
      exact absurd (Option.some.inj h) hname
    · intro h
      omega
  · rw [if_neg h3] at hcell
    have h3 := eq_three_of_lt_length hr h3
    exact ⟨_, _, hcell, rfl, ⟨fun _ => h3, fun _ => Row.render_text _ _⟩, fun h => absurd h3 h⟩

/-- **A tap on a co-sponsored bill.** For every list without a bill of that name, every row and
every pool: a tap goes where its row says if and only if the cell that it dequeues reads `See more...`
exactly when the row does. So it does whatever cell it gets if and only if the row is not
`See more...` and no cell of the pool reads so. -/
theorem tap_follows_iff (vc : SenatorViewController) (bills : List Bill)
    (hb : vc.cosponsorships = some bills) (hn : ∀ bill ∈ bills, bill.name ≠ "See more...")
    (row : Nat) (hr : row < vc.numberOfRowsInSection 1) (recycled : UITableViewCell)
    (pool : List UITableViewCell) :
    ∃ onScreen, vc.cellForRowAt recycled ⟨1, row⟩ = some onScreen ∧
      (∀ cell, Dequeues pool cell →
        (vc.TapFollows row onScreen cell ↔ (cell.text = some "See more..." ↔ row = 3))) ∧
      ((∀ cell, Dequeues pool cell → vc.TapFollows row onScreen cell) ↔
        row ≠ 3 ∧ ∀ cell ∈ pool, cell.text ≠ some "See more...") := by
  obtain ⟨onScreen, bill, hcell, hbill, hsee, hname⟩ := text_cellForRowAt_one hb hn hr recycled
  have hiff : ∀ cell, vc.TapFollows row onScreen cell ↔
      (cell.text = some "See more..." ↔ row = 3) := by
    intro cell
    unfold TapFollows
    rw [didSelectRowAt_one hb hbill cell]
    by_cases h3 : row = 3
    · rw [if_pos (hsee.mpr h3)]
      by_cases hc : cell.text = some "See more..."
      · simp [hc, h3]
      · simp [hc, h3]
    · rw [if_neg (mt hsee.mp h3)]
      by_cases hc : cell.text = some "See more..."
      · simp [hc, h3]
      · have hbill' : vc.cosponsorships.bind (·[row]?) = some bill := by
          rw [hb]
          exact hbill
        simp only [hc, h3, if_false, iff_true]
        exact ⟨bill, _, hbill', hname h3, rfl, rfl⟩
  refine ⟨onScreen, hcell, fun cell _ => hiff cell, ?_⟩
  constructor
  · intro hall
    -- a new cell of the prototype reads `Title`
    have h3 : row ≠ 3 := by
      intro h3
      have hnew := ((hiff votingOrCommitee).mp (hall _ (.inl rfl))).mpr h3
      exact absurd hnew (by decide)
    refine ⟨h3, fun cell hc ht => ?_⟩
    exact h3 (((hiff cell).mp (hall cell (.inr hc))).mp ht)
  · rintro ⟨h3, hpool⟩ cell hc
    rw [hiff]
    refine ⟨fun ht => absurd ht ?_, fun h => absurd h h3⟩
    rcases hc with rfl | hc
    · decide
    · exact hpool cell hc

/-- The controller with the dummy data of the source. -/
def dummySenatorVC : SenatorViewController := SenatorViewController.viewDidLoad {}

/-- The first of the four dummy bills, with a cell in the pool that was used for one of them. -/
theorem tap_follows_iff_dummy :
    ∃ onScreen, dummySenatorVC.cellForRowAt votingOrCommitee ⟨1, 0⟩ = some onScreen ∧
      ∀ cell, Dequeues [{ votingOrCommitee with text := some "A" }] cell →
        dummySenatorVC.TapFollows 0 onScreen cell := by
  obtain ⟨onScreen, hcell, -, hall⟩ := tap_follows_iff dummySenatorVC _ rfl (by decide) 0
    (by decide) votingOrCommitee [{ votingOrCommitee with text := some "A" }]
  exact ⟨onScreen, hcell, hall.mpr (by decide)⟩

/-- `See more...` of the four dummy bills, tapped with an empty pool: the bill's screen opens. -/
theorem not_tap_follows :
    ∃ onScreen, dummySenatorVC.cellForRowAt votingOrCommitee ⟨1, 3⟩ = some onScreen ∧
      onScreen.text = some "See more..." ∧ Dequeues [] votingOrCommitee ∧
      dummySenatorVC.didSelectRowAt votingOrCommitee ⟨1, 3⟩ =
        some (some (.goToBillDetailVC, .bill (some ⟨"A", "", ""⟩))) ∧
      ¬ dummySenatorVC.TapFollows 3 onScreen votingOrCommitee := by
  refine ⟨_, rfl, rfl, .inl rfl, rfl, ?_⟩
  intro h
  have hsegue : dummySenatorVC.didSelectRowAt votingOrCommitee ⟨1, 3⟩ =
      some (some (.goToCoSponshipVC, .controller)) := h
  exact absurd hsegue (by decide)

/-! ## Two recycled cells -/

theorem detail_of_mem_firstThree {α : Type} {l : List α} {f : α → Row}
    (hf : ∀ a, (f a).detail = none) {r : Row} (hr : r ∈ firstThree (l.map f) seeMore) :
    r.detail = none := by
  rcases mem_of_mem_firstThree hr with hr | rfl
  · obtain ⟨a, -, rfl⟩ := List.mem_map.mp hr
    exact hf a
  · rfl

/-- Only the rows of a voting record have a detail text. -/
theorem detail_ne_none_iff {section_ : Nat} {r : Row} (hr : r ∈ vc.rows section_) :
    r.detail ≠ none ↔ section_ = 2 ∧ vc.votingRecord ≠ none := by
  match section_ with
  | 0 =>
    have hd : r.detail = none := by
      simp only [rows] at hr
      split at hr
      · rw [List.mem_singleton.mp hr]
      · exact detail_of_mem_firstThree (fun _ => rfl) hr
    simp [hd]
  | 1 =>
    have hd : r.detail = none := by
      simp only [rows] at hr
      split at hr
      · rw [List.mem_singleton.mp hr]
      · exact detail_of_mem_firstThree (fun _ => rfl) hr
    simp [hd]
  | 2 =>
    simp only [rows] at hr
    split at hr
    next hv =>
      rw [List.mem_singleton.mp hr]
      simp [hv]
    next votes hv =>
      obtain ⟨_, -, rfl⟩ := List.mem_map.mp hr
      simp [hv]
  | section_ + 3 => exact absurd hr List.not_mem_nil

/-- **Two recycled cells.** For all lists and every row of the table: two cells, whatever they were
used for before, end up the same if and only if the row is one of a voting record or they had the
same detail text. -/
theorem same_cell_iff (vc : SenatorViewController) (cell cell' : UITableViewCell)
    (indexPath : IndexPath) (hr : indexPath.row < vc.numberOfRowsInSection indexPath.section_) :
    vc.cellForRowAt cell indexPath = vc.cellForRowAt cell' indexPath ↔
      (indexPath.section_ = 2 ∧ vc.votingRecord ≠ none) ∨ cell.detailText = cell'.detailText := by
  obtain ⟨section_, row⟩ := indexPath
  rw [cellForRowAt_eq cell hr, cellForRowAt_eq cell' hr]
  rw [numberOfRowsInSection_eq] at hr
  have hmem := List.getElem_mem hr
  rw [List.getElem?_eq_getElem hr, ← detail_ne_none_iff hmem]
  generalize (vc.rows section_)[row] = r
  rw [Option.map_some, Option.map_some, Option.some_inj, Row.render_eq, Row.render_eq]
  cases hd : r.detail with
  | none => simp
  | some detail => simp

/-- The first of the dummy votes shows the same in a cell that was used for the second. -/
theorem same_cell_iff_vote :
    dummySenatorVC.cellForRowAt votingOrCommitee ⟨2, 0⟩ =
      dummySenatorVC.cellForRowAt
        { votingOrCommitee with text := some "A", detailText := some "NO" } ⟨2, 0⟩ :=
  (same_cell_iff dummySenatorVC votingOrCommitee
    { votingOrCommitee with text := some "A", detailText := some "NO" } ⟨2, 0⟩ (by decide)).mpr
    (.inl (by decide))

/-- The first of the dummy committees shows a vote in a cell that was used for one. -/
theorem not_same_cell :
    dummySenatorVC.cellForRowAt votingOrCommitee ⟨0, 0⟩ ≠
      (dummySenatorVC.cellForRowAt votingOrCommitee ⟨2, 0⟩).bind fun cell =>
        dummySenatorVC.cellForRowAt cell ⟨0, 0⟩ := by
  decide +kernel

end SenatorViewController

end PWR
