import Mathlib.Data.List.Infix
import PWR.Screen.Home
import PWR.Session.Auth
import PWR.Session.Choice

/-!
# From screen to screen

The screens as one machine: a launch shows the home screen or the login screen, a sign-in leads
to the home screen or to the picker, a tap in the picker to the home screen, the settings screen
leads back, to the picker or through a logout to the login screen. The process may be killed between
any two handlers; the defaults persist.

The machine has one sign-in at a time: it completes while the login screen waits for it. A completion
that comes later, when the app is at another screen, and the logout button of the login screen
(`loginButtonDidLogOut`) are not among its events; `PWR/Session/Logout.lean` and
`PWR/Screen/Login.lean` have both. What later modules say of the app is said of the runs of this
machine.

`Setup` is the abstract side: who is signed in, and who chose a state last. It is read off the
events alone.

* `Sound`: the defaults are those of a run of the session store (`PWR/Session/Choice.lean`), and
  each screen finds what it needs.
* `shown_safely_iff`: the home screen never indexes out of range and the settings screen always has
  a state, exactly as long as no launch happens between the sign-in of a user and the choice of a
  state that the sign-in led to. The launch tests only whether somebody is signed in, where the
  login screen also tests for a stored state.
* `App.renders_iff`: the home and settings screens are safe exactly if their tables get a cell for
  each row.
-/

namespace PWR

open UserDefaultManager

/-! ## The app -/

/-- What is on screen. -/
inductive Screen where
  | notRunning
  | login
  /-- The login screen, with the block that `goToHome` or `goToStatePicker` put on the main
  queue. -/
  | loginSegue (segue : Segue)
  | picker (v : PickerView)
  | home (vc : HomeViewController)
  /-- The settings screen, over the home screen that it was opened from. -/
  | settings (vc : SettingsViewController) (home : HomeViewController)

/-- The app: the persisted defaults and the screen. -/
structure App where
  defaults : UserDefaults
  screen : Screen

/-- What happens to the app. -/
inductive AppEvent where
  | launch
  /-- The sign-in that was started on the login screen completes, while the screen waits for it. -/
  | signIn (outcome : SignIn)
  /-- The block on the main queue runs. -/
  | segue
  /-- A callback of the search bar, or a cell of the picker that is scrolled in. -/
  | search (e : PickerEvent)
  | tap (row : Nat)
  | openSettings
  | back
  /-- A tap on the first row of the settings. -/
  | changeState
  /-- The logout of the settings screen. -/
  | logOutUser (signOut : SignOut)
  | kill
  deriving DecidableEq

/-- `LoginViewController.userLoggedIn`: the segue of the block that it puts on the main queue. -/
def userLoggedIn (F : Foundation) (b : Bundle) (o : Order) (d : UserDefaults) : Segue :=
  match storedState F b o d with
  | some _ => .goHome
  | none => .chooseState

namespace App

variable (F : Foundation) (b : Bundle) (o : Order) (s : App)

/-- A new home screen, with its view loaded. -/
def goToHomeVC : App := { s with screen := .home (HomeViewController.viewDidLoad F b o s.defaults {}) }

/-- `application(_:didFinishLaunchingWithOptions:)`. -/
def didFinishLaunching : App :=
  if userIsSignedIn s.defaults then s.goToHomeVC F b o else { s with screen := .login }

/-- A segue shows its destination. The picker has a delegate only when it comes from the login
screen. -/
def performSegue : Segue → App
  | .goHome => s.goToHomeVC F b o
  | .userSelectedState => s.goToHomeVC F b o
  | .chooseState => { s with screen := .picker (.load (states F b o) true) }
  | .goToStatePickerFromSettings => { s with screen := .picker (.load (states F b o) false) }
  | .goToLoginVC => { s with screen := .login }

/-- An effect of a login or logout handler. -/
def perform : Effect → App
  | .write w => { s with defaults := s.defaults.write w }
  | .userLoggedIn => { s with screen := .loginSegue (userLoggedIn F b o s.defaults) }
  | .signedOut => s
  | .closure _ => s

/-- An effect of a tap in the picker. The delegate is a home controller with no view; a process
that has trapped does no more. -/
def performTap (e : PickerEffect) : App :=
  match s.screen with
  | .notRunning => s
  | _ => match e with
    | .write w => { s with defaults := s.defaults.write w }
    | .userDidSelectState =>
      match HomeViewController.userDidSelectState F b o s.defaults {} with
      | some _ => s
      | none => { s with screen := .notRunning }
    | .performSegue segue => s.performSegue F b o segue

/-- A tap on a row of the picker. -/
def didSelectItemAt (v : PickerView) (row : Nat) : App :=
  match v.vc.didSelectItemAt s.defaults ⟨1, row⟩ with
  | some (_, effects) => effects.foldl (performTap F b o) s
  | none => { s with screen := .notRunning }

/-- What an event does. An event that does not belong to the screen does nothing. -/
def step (e : AppEvent) : App :=
  match e, s.screen with
  | .launch, .notRunning => s.didFinishLaunching F b o
  | .signIn outcome, .login => (Handler.effects s.defaults (.signIn outcome)).foldl (perform F b o) s
  | .segue, .loginSegue segue => s.performSegue F b o segue
  | .search e, .picker v => { s with screen := .picker (v.step F e) }
  | .tap row, .picker v => s.didSelectItemAt F b o v row
  | .openSettings, .home vc =>
    { s with screen := .settings (SettingsViewController.viewDidLoad F b o s.defaults {}) vc }
  | .back, .settings _ home => { s with screen := .home home }
  | .changeState, .settings _ _ => s.performSegue F b o .goToStatePickerFromSettings
  | .logOutUser signOut, .settings _ _ =>
    ((prepareForLogout signOut).foldl (perform F b o) s).performSegue F b o .goToLoginVC
  | .kill, _ => { s with screen := .notRunning }
  | _, _ => s

/-- The events that the screen can deliver. On a home or settings screen whose table traps, the
process ends and nothing else happens: see `Enabled.renders`. -/
def Enabled (e : AppEvent) : Prop :=
  match e, s.screen with
  | .launch, .notRunning => True
  | .signIn _, .login => True
  | .segue, .loginSegue _ => True
  | .search (.scrolledIn row), .picker v => row < v.cells.length
  | .search _, .picker _ => True
  | .tap row, .picker v => row < v.cells.length
  | .openSettings, .home vc => vc.RowsInRange
  | .back, .settings vc _ => vc.usersState ≠ none
  | .changeState, .settings vc _ => vc.usersState ≠ none
  | .logOutUser _, .settings vc _ => vc.usersState ≠ none
  | .kill, .notRunning => False
  | .kill, _ => True
  | _, _ => False

instance (e : AppEvent) : Decidable (s.Enabled e) := by
  unfold Enabled
  split <;> infer_instance

/-- The home screen, when shown, announces no row that it has no senator for, and the settings
screen, when shown, has a state. -/
def ShownSafely : Prop :=
  match s.screen with
  | .home vc => ∀ row, row < vc.numberOfRowsInSection 0 → row < vc.senators.length
  | .settings vc _ => vc.usersState ≠ none
  | _ => True

/-- The table on screen gets a cell for each row that its data source announces. -/
def Renders : Prop :=
  match s.screen with
  | .home vc => ∀ row, row < vc.numberOfRowsInSection 0 →
    ∀ cell, (vc.cellForRowAt cell ⟨0, row⟩).isSome
  | .settings vc _ => ∀ section_, section_ < vc.numberOfSections →
    ∀ row, row < vc.numberOfRowsInSection section_ → (vc.cellForRowAt ⟨section_, row⟩).isSome
  | _ => True

theorem renders_iff : s.Renders ↔ s.ShownSafely := by
  obtain ⟨d, screen⟩ := s
  cases screen with
  | home vc => exact HomeViewController.rowsInRange_iff_cellForRowAt.symm
  | settings vc home => exact vc.cellForRowAt_isSome_iff
  | _ => exact Iff.rfl

/-- On a screen whose table does not render, nothing happens but the end of the process. -/
theorem Enabled.renders {s : App} {e : AppEvent} (he : s.Enabled e) (hk : e ≠ .kill) :
    s.Renders := by
  rw [renders_iff]
  obtain ⟨d, screen⟩ := s
  cases screen with
  | home vc =>
    cases e with
    | openSettings => exact he
    | kill => exact absurd rfl hk
    | search e => cases e <;> exact he.elim
    | _ => exact he.elim
  | settings vc home =>
    cases e with
    | back => exact he
    | changeState => exact he
    | logOutUser signOut => exact he
    | kill => exact absurd rfl hk
    | search e => cases e <;> exact he.elim
    | _ => exact he.elim
  | _ => trivial

end App

/-- The app, from its installation, with one sign-in at a time and the logout of the settings. -/
def app (F : Foundation) (b : Bundle) (o : Order) : Machine App AppEvent where
  init := ⟨{}, .notRunning⟩
  step s e := s.step F b o e
  enabled s e := s.Enabled e

instance (F : Foundation) (b : Bundle) (o : Order) (s : App) (e : AppEvent) :
    Decidable ((app F b o).enabled s e) :=
  inferInstanceAs (Decidable (s.Enabled e))

/-! ## Who chose last -/

/-- Who is signed in, and who chose a state last. -/
structure Setup where
  user : Option String := none
  chooser : Option String := none
  deriving DecidableEq, Repr

namespace Setup

def step (a : Setup) : AppEvent → Setup
  | .signIn (.ok user) => { a with user := some user.uid }
  | .tap _ => { a with chooser := a.user }
  | .logOutUser _ => { a with user := none }
  | _ => a

/-- A user is signed in and has not chosen a state since somebody else did, or ever. -/
def Choosing (a : Setup) : Prop := a.user ≠ none ∧ a.chooser ≠ a.user

instance (a : Setup) : Decidable a.Choosing := inferInstanceAs (Decidable (_ ∧ _))

end Setup

/-- The setup after the events `h`. -/
def setupOf (h : List AppEvent) : Setup := h.foldl Setup.step {}

theorem setupOf_snoc (h : List AppEvent) (e : AppEvent) :
    setupOf (h ++ [e]) = (setupOf h).step e := by
  simp [setupOf]

/-! ## The defaults of the app -/

/-- The defaults `d` are those of a run of the session store with the setup `a`. -/
def Recorded (d : UserDefaults) (a : Setup) : Prop :=
  ∃ ops, (∀ op ∈ ops, op.Known) ∧ d = session.run ops ∧ signedInUser ops = a.user ∧
    lastChooser ops = a.chooser

namespace Recorded

variable {d : UserDefaults} {a : Setup}

theorem init : Recorded {} {} := ⟨[], nofun, rfl, rfl, rfl⟩

theorem userId (h : Recorded d a) : d.userId = a.user := by
  obtain ⟨ops, -, rfl, hu, -⟩ := h
  rw [userId_run, hu]

theorem userIsSignedIn (h : Recorded d a) : UserDefaultManager.userIsSignedIn d = a.user.isSome := by
  obtain ⟨ops, -, rfl, hu, -⟩ := h
  rw [(session_stores ops).flag, ← hu]
  rfl

/-- One more operation of the session store. -/
theorem snoc {ops : List SessionOp} (hk : ∀ op ∈ ops, op.Known) (op : SessionOp) (hop : op.Known)
    {d' : UserDefaults} {a' : Setup} (hd : session.step (session.run ops) op = d')
    (hu : ((accounts.run ops).step op).user = a'.user)
    (hc : (((accounts.run ops).step op).choices.map (·.1)).getLast? = a'.chooser) :
    Recorded d' a' := by
  refine ⟨ops ++ [op], ?_, ?_, ?_, ?_⟩
  · intro op' hm
    rw [List.mem_append, List.mem_singleton] at hm
    rcases hm with hm | rfl
    · exact hk op' hm
    · exact hop
  · rw [Machine.run_snoc]
    exact hd.symm
  · rw [signedInUser, Machine.run_snoc]
    exact hu
  · rw [lastChooser, Machine.run_snoc]
    exact hc

theorem signIn (h : Recorded d a) (uid : String) :
    Recorded { d with userId := some uid, isLoggedIn := some true } { a with user := some uid } := by
  obtain ⟨ops, hk, rfl, -, hc⟩ := h
  exact snoc hk (.signIn uid) trivial rfl rfl hc

theorem logout (h : Recorded d a) :
    Recorded { d with userId := none, isLoggedIn := some false } { a with user := none } := by
  obtain ⟨ops, hk, rfl, -, hc⟩ := h
  exact snoc hk .logout trivial rfl rfl hc

theorem choose (h : Recorded d a) {uid k : String} (hu : a.user = some uid) (hk : k ∈ stateKeys) :
    Recorded { d with userStateDict := some (.single uid k) } { a with chooser := a.user } := by
  have hd := h.userId.trans hu
  obtain ⟨ops, hops, rfl, hs, -⟩ := h
  have hs' : (accounts.run ops).user = some uid := hs.trans hu
  refine snoc hops (.choose k) hk ?_ ?_ ?_
  · show (session.run ops).writes (setStoredState (session.run ops) k) = _
    rw [writes_setStoredState, hd]
  · rw [Account.step_choose hs']
    exact hs
  · rw [Account.step_choose hs']
    simp [hu]

/-- A state is stored for the signed-in user unless the user has still to choose one. -/
theorem exists_storedState_iff (h : Recorded d a) (F : Foundation) (url : List Event) (o : Order) :
    (∃ s, storedState F ⟨some url⟩ o d = some s) ↔ a.user ≠ none ∧ ¬ a.Choosing := by
  obtain ⟨ops, hk, rfl, hu, hc⟩ := h
  rw [PWR.exists_storedState_iff hk, hu, hc]
  unfold Setup.Choosing
  cases a.user <;> simp

end Recorded

/-! ## What each screen finds -/

/-- Every state has at least two senators in the roster. -/
def TwoSenators (F : Foundation) (url : List Event) : Prop :=
  ∀ k ∈ stateKeys, 2 ≤ (senatorsOf (ParserDelegate.parse F url) k).length

instance (F : Foundation) (url : List Event) : Decidable (TwoSenators F url) :=
  List.decidableBAll _ stateKeys

section Screens

variable {F : Foundation} {url : List Event} {o : Order}

theorem TwoSenators.storedState (hroster : TwoSenators F url) {d : UserDefaults} {st : State}
    (h : storedState F ⟨some url⟩ o d = some st) : 2 ≤ st.senators.length := by
  have hm := mem_states_of_storedState h
  rw [states_eq] at hm
  rw [senators_of_mem_stateList hm]
  exact hroster _ (abbreviation_mem_stateKeys hm)

/-- A home screen that loads its view has its rows in range exactly if a state is stored. -/
theorem rowsInRange_viewDidLoad (hroster : TwoSenators F url) (d : UserDefaults) :
    (HomeViewController.viewDidLoad F ⟨some url⟩ o d {}).RowsInRange ↔
      ∃ st, storedState F ⟨some url⟩ o d = some st := by
  rw [HomeViewController.rowsInRange_iff, HomeViewController.viewDidLoad_senators]
  cases hs : storedState F ⟨some url⟩ o d with
  | none => simp
  | some st =>
    have := hroster.storedState hs
    simpa using this

variable (F url o) in
/-- What a screen relies on, when the setup is `a`. -/
def ScreenOk (a : Setup) : Screen → Prop
  | .notRunning => True
  | .login => True
  | .loginSegue segue =>
    a.user ≠ none ∧ (segue = .chooseState ∨ segue = .goHome ∧ ¬ a.Choosing)
  | .picker v => a.user ≠ none ∧ ∃ search : Search, search.Holds F (states F ⟨some url⟩ o) v
  | .home vc => a.user ≠ none ∧ ¬ a.Choosing ∧ vc.RowsInRange
  | .settings vc home => a.user ≠ none ∧ ¬ a.Choosing ∧ home.RowsInRange ∧ vc.usersState ≠ none

variable (F url o) in
/-- The invariant of the app, as long as no launch finds a user who has still to choose. -/
structure Sound (s : App) (a : Setup) : Prop where
  recorded : Recorded s.defaults a
  screen : ScreenOk F url o a s.screen

theorem Sound.shownSafely {s : App} {a : Setup} (h : Sound F url o s a) : s.ShownSafely := by
  obtain ⟨d, screen⟩ := s
  cases screen with
  | home vc => exact h.screen.2.2
  | settings vc home => exact h.screen.2.2.2
  | _ => trivial

/-! ## The steps of the app -/

/-- A new home screen of a user who has chosen a state. -/
theorem Sound.goToHomeVC (hroster : TwoSenators F url) {s : App} {a : Setup}
    (h : Recorded s.defaults a) (hu : a.user ≠ none) (hc : ¬ a.Choosing) :
    Sound F url o (s.goToHomeVC F ⟨some url⟩ o) a := by
  refine ⟨h, hu, hc, ?_⟩
  rw [rowsInRange_viewDidLoad hroster]
  exact (h.exists_storedState_iff F url o).mpr ⟨hu, hc⟩

theorem Sound.launch (hroster : TwoSenators F url) {s : App} {a : Setup} (h : Sound F url o s a)
    (hc : ¬ a.Choosing) : Sound F url o (s.didFinishLaunching F ⟨some url⟩ o) a := by
  unfold App.didFinishLaunching
  split
  · rename_i hs
    refine goToHomeVC hroster h.recorded ?_ hc
    rw [h.recorded.userIsSignedIn] at hs
    intro hn
    rw [hn] at hs
    cases hs
  · exact ⟨h.recorded, trivial⟩

/-- A launch that finds a user who has still to choose shows a home screen with no senators. -/
theorem Sound.not_shownSafely_launch (hroster : TwoSenators F url) {s : App} {a : Setup}
    (h : Sound F url o s a) (hc : a.Choosing) :
    ¬ (s.didFinishLaunching F ⟨some url⟩ o).ShownSafely := by
  have hs : UserDefaultManager.userIsSignedIn s.defaults = true := by
    rw [h.recorded.userIsSignedIn]
    exact Option.isSome_iff_ne_none.mpr hc.1
  unfold App.didFinishLaunching
  rw [if_pos hs]
  intro hsafe
  obtain ⟨st, hst⟩ := (rowsInRange_viewDidLoad (o := o) hroster s.defaults).mp hsafe
  exact ((h.recorded.exists_storedState_iff F url o).mp ⟨st, hst⟩).2 hc

/-- The completion of a sign-in stores the user before the login screen is told. -/
theorem foldl_perform_signIn (b : Bundle) (s : App) (user : User) :
    (Handler.effects s.defaults (.signIn (.ok user))).foldl (App.perform F b o) s =
      ⟨{ s.defaults with userId := some user.uid, isLoggedIn := some true },
        .loginSegue (userLoggedIn F b o
          { s.defaults with userId := some user.uid, isLoggedIn := some true })⟩ := rfl

theorem foldl_perform_logout (b : Bundle) (s : App) (signOut : SignOut) :
    (prepareForLogout signOut).foldl (App.perform F b o) s =
      { s with defaults := { s.defaults with userId := none, isLoggedIn := some false } } := by
  cases signOut <;> rfl

/-- The login screen asks for a state only if none is stored. -/
theorem Sound.signIn {s : App} {a : Setup} (h : Sound F url o s a) (user : User) :
    Sound F url o ((Handler.effects s.defaults (.signIn (.ok user))).foldl
      (App.perform F ⟨some url⟩ o) s) { a with user := some user.uid } := by
  have hr := h.recorded.signIn user.uid
  rw [foldl_perform_signIn]
  refine ⟨hr, Option.some_ne_none _, ?_⟩
  unfold userLoggedIn
  split
  · rename_i st hst
    exact .inr ⟨rfl, ((hr.exists_storedState_iff F url o).mp ⟨st, hst⟩).2⟩
  · exact .inl rfl

theorem Sound.segue (hroster : TwoSenators F url) {d : UserDefaults} {segue : Segue} {a : Setup}
    (h : Sound F url o ⟨d, .loginSegue segue⟩ a) :
    Sound F url o (App.performSegue F ⟨some url⟩ o ⟨d, .loginSegue segue⟩ segue) a := by
  obtain ⟨hr, hu, rfl | ⟨rfl, hc⟩⟩ := h
  · exact ⟨hr, hu, {}, Search.Holds.load true⟩
  · exact goToHomeVC hroster hr hu hc

/-- The effects of a tap on a row of the list that the tap reads. -/
theorem didSelectItemAt_eq {d : UserDefaults} {v : PickerView} {row : Nat} {st : State} {a : Setup}
    (h : Recorded d a) {uid : String} (hu : a.user = some uid) (hi : v.vc.items[row]? = some st)
    (hst : st ∈ states F ⟨some url⟩ o) :
    Recorded { d with userStateDict := some (.single uid st.abbreviation) }
        { a with chooser := a.user } ∧
      App.didSelectItemAt F ⟨some url⟩ o ⟨d, .picker v⟩ v row =
        App.goToHomeVC F ⟨some url⟩ o
          ⟨{ d with userStateDict := some (.single uid st.abbreviation) }, .picker v⟩ := by
  have hk : st.abbreviation ∈ stateKeys := by
    rw [states_eq] at hst
    exact abbreviation_mem_stateKeys hst
  have hr := h.choose hu hk
  refine ⟨hr, ?_⟩
  -- the callback of the delegate finds the state that was just stored
  obtain ⟨st', hst'⟩ := (hr.exists_storedState_iff F url o).mpr
    ⟨by simp [hu], by simp [Setup.Choosing]⟩
  have hd : storedUserId d = some uid := h.userId.trans hu
  have hcall : HomeViewController.userDidSelectState F ⟨some url⟩ o
      { d with userStateDict := some (.single uid st.abbreviation) } {} =
        some { usersState := some st' } :=
    HomeViewController.userDidSelectState_of_storedState hst'
  unfold App.didSelectItemAt
  rw [v.vc.didSelectItemAt_eq_some hi]
  simp only [setStoredState, hd]
  cases v.vc.statePickerDelegate with
  | true => simp [App.performTap, App.performSegue, hcall, UserDefaults.write]
  | false => simp [App.performTap, App.performSegue, UserDefaults.write]

/-- A tap in the picker sets the user up. -/
theorem Sound.tap (hroster : TwoSenators F url) {d : UserDefaults} {v : PickerView} {row : Nat}
    {a : Setup} (h : Sound F url o ⟨d, .picker v⟩ a) (hr : row < v.cells.length) :
    Sound F url o (App.didSelectItemAt F ⟨some url⟩ o ⟨d, .picker v⟩ v row)
      { a with chooser := a.user } := by
  obtain ⟨hrec, hu, search, hv⟩ := h
  obtain ⟨uid, huid⟩ := Option.ne_none_iff_exists'.mp hu
  obtain ⟨st, hi, hst⟩ := hv.exists_items hr
  obtain ⟨hrec', heq⟩ := didSelectItemAt_eq hrec huid hi hst
  rw [heq]
  exact goToHomeVC hroster hrec' hu fun hc => hc.2 rfl

/-- One event, unless it is a launch that finds a user who has still to choose. -/
theorem Sound.step (hroster : TwoSenators F url) {s : App} {a : Setup} (h : Sound F url o s a)
    {e : AppEvent} (he : s.Enabled e) (hc : e = .launch → ¬ a.Choosing) :
    Sound F url o (s.step F ⟨some url⟩ o e) (a.step e) := by
  obtain ⟨d, screen⟩ := s
  cases e with
  | launch =>
    cases screen with
    | notRunning => exact h.launch hroster (hc rfl)
    | _ => exact he.elim
  | signIn outcome =>
    cases screen with
    | login =>
      cases outcome with
      | ok user => exact h.signIn user
      | error error => exact h
    | _ => exact he.elim
  | segue =>
    cases screen with
    | loginSegue segue => exact h.segue hroster
    | _ => exact he.elim
  | search e =>
    cases screen with
    | picker v =>
      obtain ⟨hrec, hu, search, hv⟩ := h
      refine ⟨hrec, hu, search.step e, hv.step fun row hr => ?_⟩
      subst hr
      exact he
    | _ => cases e <;> exact he.elim
  | tap row =>
    cases screen with
    | picker v => exact h.tap hroster he
    | _ => exact he.elim
  | openSettings =>
    cases screen with
    | home vc =>
      obtain ⟨hrec, hu, hch, hrows⟩ := h
      refine ⟨hrec, hu, hch, hrows, ?_⟩
      obtain ⟨st, hst⟩ := (hrec.exists_storedState_iff F url o).mpr ⟨hu, hch⟩
      show storedState F ⟨some url⟩ o d ≠ none
      rw [hst]
      exact Option.some_ne_none st
    | _ => exact he.elim
  | back =>
    cases screen with
    | settings vc home =>
      obtain ⟨hrec, hu, hch, hrows, -⟩ := h
      exact ⟨hrec, hu, hch, hrows⟩
    | _ => exact he.elim
  | changeState =>
    cases screen with
    | settings vc home => exact ⟨h.recorded, h.screen.1, {}, Search.Holds.load false⟩
    | _ => exact he.elim
  | logOutUser signOut =>
    cases screen with
    | settings vc home =>
      show Sound F url o (((prepareForLogout signOut).foldl (App.perform F ⟨some url⟩ o) _).performSegue
        F ⟨some url⟩ o .goToLoginVC) _
      rw [foldl_perform_logout]
      exact ⟨h.recorded.logout, trivial⟩
    | _ => exact he.elim
  | kill => exact ⟨h.recorded, trivial⟩

end Screens

/-- **When the home and settings screens are safe.** With at least two senators for each state in
the roster, in every run of the app: each time the home screen is shown, its rows are in range, and
each time the settings screen is shown, it has a state, if and only if no launch of the run finds
a user who is signed in and has not chosen a state since somebody else did, or ever. -/
theorem shown_safely_iff (F : Foundation) (url : List Event) (o : Order)
    (hroster : TwoSenators F url) (h : List AppEvent) (ha : (app F ⟨some url⟩ o).Admits h) :
    (app F ⟨some url⟩ o).Always App.ShownSafely h ↔
      ∀ h', h' ++ [.launch] <+: h → ¬ (setupOf h').Choosing := by
  have hiff := Machine.always_iff_along (M := app F ⟨some url⟩ o)
    (I := fun h s => Sound F url o s (setupOf h))
    (C := fun h e => e = .launch → ¬ (setupOf h).Choosing) (P := App.ShownSafely)
    ⟨Recorded.init, trivial⟩ (fun _ _ hs => hs.shownSafely) ?_ ?_ h ha
  · rw [hiff]
    constructor
    · intro hc h' hp
      exact hc h' .launch hp rfl
    · rintro hc h' e hp rfl
      exact hc h' hp
  · intro h e hs he hc
    rw [setupOf_snoc]
    exact hs.step hroster he hc
  · intro h e hs he hc
    obtain ⟨rfl, hnot⟩ := Classical.not_imp.mp hc
    have hch : (setupOf h).Choosing := Classical.not_not.mp hnot
    have hlaunch : (app F ⟨some url⟩ o).step ((app F ⟨some url⟩ o).run h) .launch =
        ((app F ⟨some url⟩ o).run h).didFinishLaunching F ⟨some url⟩ o := by
      generalize (app F ⟨some url⟩ o).run h = s at he
      obtain ⟨d, screen⟩ := s
      cases screen with
      | notRunning => rfl
      | _ => exact he.elim
    rw [hlaunch]
    exact hs.not_shownSafely_launch hroster hch

/-- A roster with two members for each state. -/
def sampleRoster : List Event := sampleEvents (stateKeys.flatMap fun k => [k, k])

theorem twoSenators_sampleRoster : TwoSenators default sampleRoster := by decide +kernel

/-- A user who has chosen a state may kill the app and launch it again. -/
theorem shown_safely_iff_relaunch :
    (app default ⟨some sampleRoster⟩ default).Always App.ShownSafely
      [.launch, .signIn (.ok ⟨"u"⟩), .segue, .tap 0, .kill, .launch] := by
  have hcells :
      0 < (PickerView.load (states default ⟨some sampleRoster⟩ default) true).cells.length := by
    decide +kernel
  refine (shown_safely_iff default sampleRoster default twoSenators_sampleRoster
    [.launch, .signIn (.ok ⟨"u"⟩), .segue, .tap 0, .kill, .launch]
    ⟨trivial, trivial, trivial, hcells, trivial, trivial, trivial⟩).mpr fun h' hp => ?_
  have hall : ∀ l ∈ List.inits [AppEvent.launch, .signIn (.ok ⟨"u"⟩), .segue, .tap 0, .kill,
      .launch], l.getLast? = some .launch → ¬ (setupOf l.dropLast).Choosing := by
    decide
  have hl := hall _ ((List.mem_inits _ _).mpr hp) List.getLast?_concat
  rwa [List.dropLast_concat] at hl

/-- A user who signs in for the first time kills the app at the picker and launches it again. -/
theorem not_always_shown_safely :
    ¬ ∀ (F : Foundation) (url : List Event) (o : Order), TwoSenators F url →
      ∀ h, (app F ⟨some url⟩ o).Admits h → (app F ⟨some url⟩ o).Always App.ShownSafely h := by
  intro hall
  have h := hall default sampleRoster default twoSenators_sampleRoster
    [.launch, .signIn (.ok ⟨"u"⟩), .segue, .kill, .launch]
    ⟨trivial, trivial, trivial, trivial, trivial, trivial⟩ _ List.prefix_rfl
  have h0 : 0 < ([] : List Senator).length := h 0 Nat.two_pos
  cases h0

end PWR
