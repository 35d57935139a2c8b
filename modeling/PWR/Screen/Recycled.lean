import PWR.Lib.Machine
import PWR.Screen.Senator

/-!
# The recycled cells of the senator's table

`cellForRowAt` writes a row over what a recycled cell holds (`cellForRowAt_eq`). Over time a cell is
given to many rows, in any order, so what it shows depends on its history. `CellHistory` keeps of
that history what counts: the row that the cell was given to last, and the last vote.

* `recycled_cells_eq`: after every history each cell shows the title, the look and the interaction
  of the row that it was given to last, and the detail text of the last vote that it was given to,
  in whichever row that was.
-/

namespace PWR

/-! ## The cells -/

inductive SenatorTableEvent where
  /-- The table view makes a new cell from the prototype. -/
  | make
  /-- The data source is given a cell for a row. -/
  | display (cell section_ row : Nat)
  deriving DecidableEq, Repr

/-- The cells of the table, each at the place where it was made. -/
def senatorTable (vc : SenatorViewController) : Machine (List UITableViewCell) SenatorTableEvent where
  init := []
  step cells
    | .make => cells ++ [votingOrCommitee]
    | .display cell section_ row =>
      match cells[cell]? with
      | none => cells
      | some recycled =>
        match vc.cellForRowAt recycled ⟨section_, row⟩ with
        | none => cells
        | some shown => cells.set cell shown
  enabled cells
    | .make => True
    | .display cell section_ row =>
      cell < cells.length ∧ row < vc.numberOfRowsInSection section_

/-! ## Their histories -/

/-- What counts of the history of a cell. -/
structure CellHistory where
  /-- The row that the cell was given to last. -/
  row : Option Row := none
  /-- The detail text of the last vote that it was given to. -/
  vote : Option String := none
  deriving DecidableEq, Repr

namespace CellHistory

/-- The cell is given to a row. -/
def display (c : CellHistory) (r : Row) : CellHistory where
  row := some r
  vote := r.detail.or c.vote

/-- What a cell with that history shows. -/
def cell (c : CellHistory) : UITableViewCell :=
  match c.row with
  | none => votingOrCommitee
  | some r =>
    { text := some r.title
      detailText := c.vote.or (some "")
      textColor := if r.title = "See more..." then ⟨"PWRred"⟩ else ⟨"black"⟩
      font := if r.title = "See more..." then ⟨"Avenir-LightOblique", 20⟩ else ⟨"Avenir-Roman", 20⟩
      isUserInteractionEnabled := r.enabled }

/-- The histories of the cells, read off the events and the rows. -/
def step (vc : SenatorViewController) (cs : List CellHistory) : SenatorTableEvent → List CellHistory
  | .make => cs ++ [{}]
  | .display cell section_ row =>
    match cs[cell]?, (vc.rows section_)[row]? with
    | some c, some r => cs.set cell (c.display r)
    | _, _ => cs

/-- Only a cell that was given to a row has a vote. -/
def Ok (c : CellHistory) : Prop := c.row = none → c.vote = none

theorem Ok.detailText {c : CellHistory} (h : c.Ok) : c.cell.detailText = c.vote.or (some "") := by
  unfold CellHistory.cell
  cases hr : c.row with
  | none =>
    rw [h hr]
    rfl
  | some r => rfl

/-- A row written over a cell. -/
theorem Ok.render {c : CellHistory} (h : c.Ok) (r : Row) : r.render c.cell = (c.display r).cell := by
  rw [Row.render_eq, h.detailText, ← Option.or_assoc]
  rfl

end CellHistory

/-- The histories after the events `h`. -/
def historiesOf (vc : SenatorViewController) (h : List SenatorTableEvent) : List CellHistory :=
  h.foldl (CellHistory.step vc) []

theorem historiesOf_snoc (vc : SenatorViewController) (h : List SenatorTableEvent)
    (e : SenatorTableEvent) : historiesOf vc (h ++ [e]) = CellHistory.step vc (historiesOf vc h) e := by
  simp [historiesOf]

/-- The cells `cells` with the histories `cs`. -/
structure Recycled (cells : List UITableViewCell) (cs : List CellHistory) : Prop where
  cells : cells = cs.map CellHistory.cell
  ok : ∀ c ∈ cs, c.Ok

/-- A new cell, or a cell that is given to a row of the table. -/
theorem Recycled.step {vc : SenatorViewController} {cells : List UITableViewCell}
    {cs : List CellHistory} (h : Recycled cells cs) {e : SenatorTableEvent}
    (he : (senatorTable vc).enabled cells e) :
    Recycled ((senatorTable vc).step cells e) (CellHistory.step vc cs e) := by
  obtain ⟨rfl, hok⟩ := h
  cases e with
  | make =>
    refine ⟨by simp [senatorTable, CellHistory.step, CellHistory.cell], fun c hc => ?_⟩
    rcases List.mem_append.mp hc with hc | hc
    · exact hok c hc
    · rw [List.mem_singleton.mp hc]
      exact fun _ => rfl
  | display cell section_ row =>
    obtain ⟨hcell, hrow⟩ := he
    have hcell : cell < cs.length := by simpa using hcell
    have hc : cs[cell]? = some cs[cell] := List.getElem?_eq_getElem hcell
    have hshown := SenatorViewController.cellForRowAt_eq cs[cell].cell hrow
    rw [SenatorViewController.numberOfRowsInSection_eq] at hrow
    have hr : (vc.rows section_)[row]? = some (vc.rows section_)[row] :=
      List.getElem?_eq_getElem hrow
    rw [hr, Option.map_some, (hok _ (List.getElem_mem hcell)).render] at hshown
    have hstep : (senatorTable vc).step (cs.map CellHistory.cell) (.display cell section_ row) =
        (cs.map CellHistory.cell).set cell (cs[cell].display (vc.rows section_)[row]).cell := by
      simp only [senatorTable, List.getElem?_map, hc, Option.map_some, hshown]
    have hhistory : CellHistory.step vc cs (.display cell section_ row) =
        cs.set cell (cs[cell].display (vc.rows section_)[row]) := by
      simp only [CellHistory.step, hc, hr]
    rw [hstep, hhistory]
    refine ⟨List.map_set.symm, fun c hmem => ?_⟩
    rcases List.mem_or_eq_of_mem_set hmem with hmem | rfl
    · exact hok c hmem
    · intro hnone
      cases hnone

/-- **What a recycled cell shows.** For all lists and every order in which cells are made and given
to rows: each cell shows the title, the colour, the font and the interaction of the row that it was
given to last, and the detail text of the last vote that it was given to, or none. -/
theorem recycled_cells_eq (vc : SenatorViewController) (h : List SenatorTableEvent)
    (ha : (senatorTable vc).Admits h) :
    (senatorTable vc).run h = (historiesOf vc h).map CellHistory.cell := by
  have hrecycled : Recycled ((senatorTable vc).run h) (historiesOf vc h) := by
    refine Machine.history_induction (M := senatorTable vc)
      (I := fun h cells => Recycled cells (historiesOf vc h)) ⟨rfl, nofun⟩ ?_ h ha
    intro h e _ hi he
    rw [historiesOf_snoc]
    exact hi.step he
  exact hrecycled.cells

/-- A cell shows the second dummy vote and then the first committee: its detail text stays. -/
theorem recycled_cells_eq_vote :
    (senatorTable SenatorViewController.dummySenatorVC).run [.make, .display 0 2 1, .display 0 0 0] =
      [⟨some "A", some "NO", ⟨"black"⟩, ⟨"Avenir-Roman", 20⟩, false⟩] :=
  (recycled_cells_eq SenatorViewController.dummySenatorVC [.make, .display 0 2 1, .display 0 0 0]
    ⟨trivial, ⟨by decide, by decide⟩, ⟨by decide, by decide⟩, trivial⟩).trans (by decide)

end PWR
