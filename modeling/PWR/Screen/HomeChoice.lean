import PWR.Screen.HomeTable

/-!
# Choices that reach a loaded home screen

A home controller whose view is loaded can be the delegate of a picker: the picker stores a choice
and then calls `userDidSelectState`. One choice is in four places: the defaults, `usersState`,
`senators` and the banner. `viewDidLoad` sets the last three from the first, and the callback sets
`usersState` alone.

* `InStep`: the four places agree, which is the invariant as long as no choice changes the state.
* `home_consistent_iff`: the controller is consistent in every state of a run exactly if no choice
  of the run changes the stored state.
-/

namespace PWR

open UserDefaultManager

/-! ## The screen -/

/-- A home controller and the defaults. -/
structure HomeScreen where
  defaults : UserDefaults
  vc : HomeViewController

/-- What happens to a loaded home controller. -/
inductive HomeEvent where
  | viewDidLoad
  /-- A tap in a picker whose delegate is the controller. -/
  | pick (picker : StateCollectionViewController) (row : Nat)
  /-- A tap on a button of a cell. -/
  | tap (cell : HomeCell) (sender : CellButton)

namespace HomeScreen

variable (F : Foundation) (b : Bundle) (o : Order) (s : HomeScreen)

/-- An effect of a tap in the picker. The segue leads to a new home screen. -/
def perform : PickerEffect → HomeScreen
  | .write w => { s with defaults := s.defaults.write w }
  | .userDidSelectState =>
    match s.vc.userDidSelectState F b o s.defaults with
    | some vc => { s with vc := vc }
    | none => s
  | .performSegue _ => s

def step : HomeEvent → HomeScreen
  | .viewDidLoad => { s with vc := s.vc.viewDidLoad F b o s.defaults }
  | .pick picker row =>
    match picker.didSelectItemAt s.defaults ⟨1, row⟩ with
    | some (_, effects) => effects.foldl (perform F b o) s
    | none => s
  -- a button opens another screen at most
  | .tap _ _ => s

end HomeScreen

/-- The picker has the controller as its delegate, and the row is one of a state. Every picker on
screen has its rows so: see `Search.Holds.exists_items`. -/
def HomeEvent.Enabled (F : Foundation) (b : Bundle) (o : Order) : HomeEvent → Prop
  | .pick picker row =>
    picker.statePickerDelegate = true ∧ ∃ st ∈ states F b o, picker.items[row]? = some st
  | _ => True

/-- A home controller from its first `viewDidLoad`, with the defaults `d₀`. -/
def home (F : Foundation) (b : Bundle) (o : Order) (d₀ : UserDefaults) :
    Machine HomeScreen HomeEvent where
  init := ⟨d₀, HomeViewController.viewDidLoad F b o d₀ {}⟩
  step s e := s.step F b o e
  enabled _ e := e.Enabled F b o

/-! ## What should hold -/

/-- A button of the controller can open the senator's screen `sv`. -/
def HomeViewController.Opens (vc : HomeViewController) (sv : SenatorViewController) : Prop :=
  ∃ cell sender senator destination,
    vc.cellButtonWasTapped cell sender = some (some (.viewSenator senator)) ∧
      vc.prepare (.goToSenatorVC destination) (some senator) = .goToSenatorVC sv

/-- The controller shows one state. -/
structure HomeViewController.Consistent (vc : HomeViewController) : Prop where
  senators : vc.senators = (vc.usersState.map (·.senators)).getD []
  banner : ∀ st, vc.usersState = some st →
    ∃ bannerView, vc.stateBannerView = some bannerView ∧ bannerView.label = some st.title
  opens : ∀ sv, vc.Opens sv → ∃ senator st, sv.senator = some senator ∧ sv.usersState = some st ∧
    senator.state = st.abbreviation

/-- The event does not change the stored state: a choice without a user id is not stored, and
another one is of the state that is stored. -/
def HomeScreen.KeepsStored (F : Foundation) (b : Bundle) (o : Order) (s : HomeScreen) :
    HomeEvent → Prop
  | .pick picker row =>
    s.defaults.userId ≠ none → picker.items[row]? = storedState F b o s.defaults
  | _ => True

/-! ## What a button and a choice do -/

/-- A button views one of the controller's senators, and `prepare(for:)` passes it on together with
`usersState`. -/
theorem HomeViewController.Opens.exists_senator {vc : HomeViewController}
    {sv : SenatorViewController} (h : vc.Opens sv) :
    ∃ senator ∈ vc.senators, sv.senator = some senator ∧ sv.usersState = vc.usersState := by
  obtain ⟨cell, sender, senator, destination, htap, hprep⟩ := h
  have hmem : senator ∈ vc.senators := by
    unfold HomeViewController.cellButtonWasTapped HomeViewController.callSegue at htap
    split at htap
    · split at htap
      · cases htap
      · obtain ⟨selected, hsel, htap⟩ := Option.bind_eq_some_iff.mp htap
        have htap := Option.some.inj htap
        split at htap <;> cases htap
        exact List.mem_of_getElem? hsel
    · cases htap
  obtain rfl := HomeSegue.goToSenatorVC.inj hprep
  exact ⟨senator, hmem, rfl, rfl⟩

namespace HomeScreen

variable {F : Foundation} {b : Bundle} {o : Order} {s : HomeScreen}

theorem foldl_perform_write (ws : List Write) :
    (ws.map PickerEffect.write).foldl (perform F b o) s =
      { s with defaults := s.defaults.writes ws } := by
  induction ws generalizing s with
  | nil => rfl
  | cons w ws ih =>
    rw [List.map_cons, List.foldl_cons, ih]
    rfl

/-- A choice is stored, and then the callback is called. -/
theorem step_pick {picker : StateCollectionViewController} {row : Nat} {st : State}
    (hd : picker.statePickerDelegate = true) (hst : picker.items[row]? = some st) :
    s.step F b o (.pick picker row) =
      perform F b o { s with
        defaults := s.defaults.writes (setStoredState s.defaults st.abbreviation) }
        .userDidSelectState := by
  simp only [step, picker.didSelectItemAt_eq_some hst, hd, if_true, List.foldl_append,
    foldl_perform_write, List.foldl_cons, List.foldl_nil]
  rfl

/-- A choice of somebody with a user id sets `usersState` and nothing else of the controller. -/
theorem step_pick_of_userId {picker : StateCollectionViewController} {row : Nat} {st : State}
    (hd : picker.statePickerDelegate = true) (hst : picker.items[row]? = some st)
    (hm : st ∈ states F b o) {uid : String} (hu : s.defaults.userId = some uid) :
    s.step F b o (.pick picker row) =
      { defaults := { s.defaults with userStateDict := some (.single uid st.abbreviation) }
        vc := { s.vc with usersState := some st } } ∧
    storedState F b o (s.step F b o (.pick picker row)).defaults = some st := by
  have hw : s.defaults.writes (setStoredState s.defaults st.abbreviation) =
      { s.defaults with userStateDict := some (.single uid st.abbreviation) } := by
    simp only [writes_setStoredState, hu]
  have hstored : storedState F b o
      { s.defaults with userStateDict := some (.single uid st.abbreviation) } = some st :=
    storedState_of_choice hm rfl hu
  have hstep : s.step F b o (.pick picker row) =
      { defaults := { s.defaults with userStateDict := some (.single uid st.abbreviation) }
        vc := { s.vc with usersState := some st } } := by
    rw [step_pick hd hst, hw]
    simp only [perform, HomeViewController.userDidSelectState_of_storedState hstored]
  refine ⟨hstep, ?_⟩
  rw [hstep]
  exact hstored

/-- A choice of somebody without a user id is not stored, and the banner says so. -/
theorem step_pick_of_userId_none {picker : StateCollectionViewController} {row : Nat} {st : State}
    (hd : picker.statePickerDelegate = true) (hst : picker.items[row]? = some st)
    (hu : s.defaults.userId = none) {bannerView : BannerView}
    (hb : s.vc.stateBannerView = some bannerView) :
    s.step F b o (.pick picker row) = { s with vc := { s.vc with
      stateBannerView := some { bannerView with label := some "You have not chosen a state" } } } := by
  have hw : s.defaults.writes (setStoredState s.defaults st.abbreviation) = s.defaults := by
    rw [writes_setStoredState, hu]
  rw [step_pick hd hst, hw]
  simp only [perform, HomeViewController.userDidSelectState, storedState_of_userId_none hu, hb]
  rfl

end HomeScreen

/-! ## The invariant -/

/-- The defaults, `usersState`, the senators and the banner agree. -/
structure InStep (F : Foundation) (b : Bundle) (o : Order) (s : HomeScreen) : Prop where
  usersState : s.vc.usersState = storedState F b o s.defaults
  senators : s.vc.senators = (s.vc.usersState.map (·.senators)).getD []
  loaded : ∃ bannerView, s.vc.stateBannerView = some bannerView ∧
    (∀ st, s.vc.usersState = some st → bannerView.label = some st.title) ∧
    (s.vc.usersState = none → s.defaults.userId ≠ none → bannerView.label = none)

namespace InStep

variable {F : Foundation} {b : Bundle} {o : Order} {s : HomeScreen}

theorem consistent (h : InStep F b o s) : s.vc.Consistent where
  senators := h.senators
  banner := by
    intro st hst
    obtain ⟨bannerView, hb, hlabel, -⟩ := h.loaded
    exact ⟨bannerView, hb, hlabel st hst⟩
  opens := by
    intro sv hsv
    obtain ⟨senator, hmem, hsenator, hstate⟩ := hsv.exists_senator
    rw [h.senators] at hmem
    cases hu : s.vc.usersState with
    | none =>
      rw [hu] at hmem
      exact absurd hmem List.not_mem_nil
    | some st =>
      rw [hu] at hmem hstate
      have hstored := h.usersState.symm.trans hu
      exact ⟨senator, st, hsenator, hstate,
        state_of_mem_senators (mem_states_of_storedState hstored) hmem⟩

/-- `viewDidLoad` restores all places, also on a controller that has nothing yet. -/
theorem viewDidLoad {d : UserDefaults} {vc : HomeViewController}
    (h : storedState F b o d = none → vc.usersState = none ∧ vc.senators = []) :
    InStep F b o ⟨d, vc.viewDidLoad F b o d⟩ := by
  cases hs : storedState F b o d with
  | none =>
    obtain ⟨hu, hsen⟩ := h hs
    have hvc : vc.viewDidLoad F b o d = { vc with stateBannerView := some {} } := by
      simp only [HomeViewController.viewDidLoad, hs]
    rw [hvc]
    refine ⟨hu.trans hs.symm, ?_, {}, rfl, ?_, fun _ _ => rfl⟩
    · rw [hu]
      exact hsen
    · intro st hst
      rw [hu] at hst
      cases hst
  | some st =>
    have hvc : vc.viewDidLoad F b o d =
        { usersState := some st, senators := st.senators,
          stateBannerView := some { label := some st.title, pic := some st.pic } } := by
      simp only [HomeViewController.viewDidLoad, hs, HomeViewController.setUpStateLabels]
    rw [hvc]
    refine ⟨hs.symm, rfl, _, rfl, ?_, fun hn => absurd hn (Option.some_ne_none st)⟩
    rintro _ ⟨rfl⟩
    rfl

/-- An event that does not change the stored state keeps the places in step. -/
theorem step (h : InStep F b o s) {e : HomeEvent} (he : e.Enabled F b o)
    (hk : s.KeepsStored F b o e) : InStep F b o (s.step F b o e) := by
  cases e with
  | tap cell sender => exact h
  | viewDidLoad =>
    refine viewDidLoad fun hs => ?_
    have hu := h.usersState.trans hs
    exact ⟨hu, by rw [h.senators, hu]; rfl⟩
  | pick picker row =>
    obtain ⟨hd, st, hm, hst⟩ := he
    obtain ⟨bannerView, hb, hlabel, hnone⟩ := h.loaded
    cases hu : s.defaults.userId with
    | none =>
      have hstored : storedState F b o s.defaults = none := storedState_of_userId_none hu
      have hus := h.usersState.trans hstored
      rw [HomeScreen.step_pick_of_userId_none hd hst hu hb]
      refine ⟨h.usersState, h.senators, _, rfl, ?_, fun _ hn => absurd hu hn⟩
      intro st' hst'
      rw [hus] at hst'
      cases hst'
    | some uid =>
      -- the choice is the state that is stored and shown
      have hstored : some st = storedState F b o s.defaults := by
        rw [← hst]
        exact hk (by rw [hu]; exact Option.some_ne_none uid)
      have hus : s.vc.usersState = some st := h.usersState.trans hstored.symm
      obtain ⟨hstep, hnew⟩ := HomeScreen.step_pick_of_userId hd hst hm hu
      refine ⟨?_, ?_, bannerView, ?_, ?_, ?_⟩
      · rw [hnew, hstep]
      · rw [hstep, h.senators, hus]
      · rw [hstep]
        exact hb
      · rw [hstep, ← hus]
        exact hlabel
      · rw [hstep]
        exact nofun

/-- A choice that changes the stored state leaves the old state in the banner. -/
theorem not_consistent_pick (h : InStep F b o s) {picker : StateCollectionViewController}
    {row : Nat} (he : HomeEvent.Enabled F b o (.pick picker row))
    (hk : ¬ s.KeepsStored F b o (.pick picker row)) :
    ¬ (s.step F b o (.pick picker row)).vc.Consistent := by
  intro hc
  obtain ⟨hd, st, hm, hst⟩ := he
  obtain ⟨hne, hchange⟩ := Classical.not_imp.mp hk
  obtain ⟨uid, hu⟩ := Option.ne_none_iff_exists'.mp hne
  obtain ⟨bannerView, hb, hlabel, hnone⟩ := h.loaded
  obtain ⟨hstep, -⟩ := HomeScreen.step_pick_of_userId hd hst hm hu
  rw [hstep] at hc
  obtain ⟨bannerView', hb', hl⟩ := hc.banner st rfl
  obtain rfl : bannerView = bannerView' := Option.some.inj (hb.symm.trans hb')
  cases hus : s.vc.usersState with
  | none =>
    rw [hnone hus hne] at hl
    cases hl
  | some old =>
    -- both states are in the list, where titles are distinct
    have hstored := h.usersState.symm.trans hus
    have htitle : old.title = st.title := Option.some.inj ((hlabel old hus).symm.trans hl)
    have heq : old = st := List.inj_on_of_nodup_map (states_titles_nodup F b o)
      (mem_states_of_storedState hstored) hm htitle
    exact hchange (by rw [hst, hstored, heq])

end InStep

/-! ## Every run -/

/-- **When a loaded home controller stays consistent.** From every persisted session and in every
run of loads, choices with the callback, and taps on buttons: in every state of the run the senators
and the banner are those of `usersState`, and every senator's screen that a button can open gets a
senator of the state that it gets, if and only if no choice of the run changes the stored state. -/
theorem home_consistent_iff (F : Foundation) (b : Bundle) (o : Order) (d₀ : UserDefaults)
    (h : List HomeEvent) (ha : (home F b o d₀).Admits h) :
    (home F b o d₀).Always (fun s => s.vc.Consistent) h ↔
      Machine.Along (fun h' e => ((home F b o d₀).run h').KeepsStored F b o e) h := by
  refine Machine.always_iff_along (M := home F b o d₀) (I := fun _ s => InStep F b o s) ?_ ?_ ?_ ?_
    h ha
  · exact InStep.viewDidLoad fun _ => ⟨rfl, rfl⟩
  · intro _ s hs
    exact hs.consistent
  · intro h e hs he hk
    exact hs.step he hk
  · intro h e hs he hk
    cases e with
    | viewDidLoad => exact absurd trivial hk
    | tap cell sender => exact absurd trivial hk
    | pick picker row => exact hs.not_consistent_pick he hk

/-- The state of an entry, with two members of New York in the roster. -/
def sampleState (entry : String × String) : State :=
  stateOf default (ParserDelegate.parse default (newYorkRoster 2)) entry

/-- A picker whose search has left one state. -/
def searchedPicker (st : State) : StateCollectionViewController where
  states := states default ⟨some (newYorkRoster 2)⟩ default
  filteredStates := [st]
  isFiltering := true
  statePickerDelegate := true

theorem enabled_searchedPicker (entry : String × String) (h : entry ∈ stateDictionary) :
    HomeEvent.Enabled default ⟨some (newYorkRoster 2)⟩ default
      (.pick (searchedPicker (sampleState entry)) 0) := by
  exact ⟨rfl, sampleState entry, stateOf_mem_states default (newYorkRoster 2) default h, rfl⟩

/-- Somebody who chose New York chooses it again. -/
theorem home_consistent_iff_again :
    (home default ⟨some (newYorkRoster 2)⟩ default newYorker).Always (fun s => s.vc.Consistent)
      [.pick (searchedPicker (sampleState ("NY", "New York"))) 0] := by
  refine (home_consistent_iff default ⟨some (newYorkRoster 2)⟩ default newYorker
    [.pick (searchedPicker (sampleState ("NY", "New York"))) 0]
    ⟨enabled_searchedPicker ("NY", "New York") (by decide), trivial⟩).mpr ?_
  refine Machine.along_snoc.mpr ⟨Machine.along_nil, fun _ => ?_⟩
  exact (storedState_newYorker default (newYorkRoster 2) default).symm

/-- Somebody who chose New York chooses California. -/
theorem not_home_consistent :
    (home default ⟨some (newYorkRoster 2)⟩ default newYorker).Admits
        [.pick (searchedPicker (sampleState ("CA", "California"))) 0] ∧
      ¬ (home default ⟨some (newYorkRoster 2)⟩ default newYorker).Always (fun s => s.vc.Consistent)
        [.pick (searchedPicker (sampleState ("CA", "California"))) 0] := by
  have he := enabled_searchedPicker ("CA", "California") (by decide)
  refine ⟨⟨he, trivial⟩, fun hall => ?_⟩
  have hinit : InStep default ⟨some (newYorkRoster 2)⟩ default
      (home default ⟨some (newYorkRoster 2)⟩ default newYorker).init :=
    InStep.viewDidLoad fun _ => ⟨rfl, rfl⟩
  refine hinit.not_consistent_pick he (fun hk => ?_) (hall _ List.prefix_rfl)
  have hstored := hk (Option.some_ne_none "u")
  have hnew := storedState_newYorker default (newYorkRoster 2) default
  have heq := Option.some.inj (hstored.trans hnew)
  exact absurd (congrArg State.title heq) (by decide)

end PWR
