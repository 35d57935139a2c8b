import PWR.Lib.Simulation
import PWR.Roster.Stream
import PWR.Screen.Flow

/-!
# The app as an account

The app (`PWR/Screen/Flow.lean`) is one machine with screens, handlers and persisted defaults. Here
it is compared with two simpler ones of `PWR/Session/Choice.lean`: the session store, and the
account that knows only who is signed in and who chose what. `App.ops` says which operation an event
of the app stands for; most events stand for none. A tap stands for the choice of the state that it
stores, which need not be the one that its cell shows: see `tap_stores_shown_iff`.

* `app_defaults_eq`: the defaults of the app are those of the session store, in every run.
* `app_shows_account`: the screen shows what the account says, in every run. No screen is behind
  the defaults: they are written only by events that leave the screen that has read them. This needs
  the one sign-in at a time of `app`; a completion that comes while the home screen is shown would
  write them behind it.
* `Tracks.moves`: from which screen to which screen an event leads, said once for later modules.

Neither needs a condition on the roster or on the launches. Where the account has no state for the
user, the home screen is one without a state: see `shown_safely_iff`.
-/

namespace PWR

open UserDefaultManager

/-! ## What the account says -/

/-- The choice that counts for the signed-in user: the last one, if it is the user's own. -/
def Account.current (a : Account) : Option String := do
  let user ← a.user
  let choice ← a.choices.getLast?
  if choice.1 = user then some choice.2 else none

/-- The state that the account has for the signed-in user. -/
def accountState (F : Foundation) (b : Bundle) (o : Order) (a : Account) : Option State := do
  let abbreviation ← a.current
  (states F b o).find? fun s => s.abbreviation = abbreviation

/-- The home screen shows the state, or none. -/
def HomeViewController.Presents (vc : HomeViewController) (state : Option State) : Prop :=
  vc = { stateBannerView := some { label := state.map (·.title), pic := state.map (·.pic) }
         usersState := state
         senators := (state.map (·.senators)).getD [] }

/-- What a screen shows when the account is `a`. -/
def Screen.Shows (F : Foundation) (b : Bundle) (o : Order) (a : Account) : Screen → Prop
  | .notRunning => True
  | .login => a.user = none
  | .loginSegue segue =>
    a.user ≠ none ∧ segue = if (accountState F b o a).isSome then .goHome else .chooseState
  | .picker v => a.user ≠ none ∧ ∃ search : Search, search.Holds F (states F b o) v
  | .home vc => a.user ≠ none ∧ vc.Presents (accountState F b o a)
  | .settings vc homeVC =>
    a.user ≠ none ∧ ∃ state, accountState F b o a = some state ∧ vc.usersState = some state ∧
      homeVC.Presents (some state)

/-- A screen that shows only while a user is signed in. -/
def Screen.NeedsUser : Screen → Prop
  | .notRunning => False
  | .login => False
  | _ => True

/-- The operations of the session store that an event stands for. The choice of a tap is the state
that the tap stores, the one at the row of the list that `didSelectItemAt` reads. -/
def App.ops (s : App) (e : AppEvent) : List SessionOp :=
  match e, s.screen with
  | .signIn (.ok user), .login => [.signIn user.uid]
  | .tap row, .picker v => (v.vc.items[row]?).toList.map fun st => .choose st.abbreviation
  | .logOutUser _, .settings _ _ => [.logout]
  | _, _ => []

section Account

variable {F : Foundation} {url : List Event} {o : Order}

/-- What is stored for the user after a run is the state of the account. -/
theorem storedState_session (ops : List SessionOp) :
    storedState F ⟨some url⟩ o (session.run ops) =
      accountState F ⟨some url⟩ o (accounts.run ops) := by
  unfold accountState Account.current
  cases hu : (accounts.run ops).user with
  | none =>
    rw [storedState_of_userId_none ((userId_run ops).trans hu)]
    rfl
  | some u =>
    cases hl : (accounts.run ops).choices.getLast? with
    | none =>
      rw [storedState_run_nil hl]
      rfl
    | some c =>
      rw [storedState_run hu hl]
      by_cases he : u = c.1
      · simp [he]
      · simp [he, Ne.symm he]

theorem presents_viewDidLoad (b : Bundle) (d : UserDefaults) :
    (HomeViewController.viewDidLoad F b o d {}).Presents (storedState F b o d) := by
  unfold HomeViewController.Presents HomeViewController.viewDidLoad
  cases storedState F b o d <;> rfl

theorem HomeViewController.Presents.usersState {vc : HomeViewController} {state : Option State}
    (h : vc.Presents state) : vc.usersState = state := by
  rw [h]

theorem HomeViewController.Presents.exists_state {vc : HomeViewController} {state : Option State}
    (h : vc.Presents state) (hrows : vc.RowsInRange) : ∃ st, state = some st := by
  rw [HomeViewController.rowsInRange_iff, h] at hrows
  cases state with
  | none => simp at hrows
  | some st => exact ⟨st, rfl⟩

variable (F url o) in
/-- A picker that was just opened has cells. -/
theorem cells_pos_load (statePickerDelegate : Bool) :
    0 < (PickerView.load (states F ⟨some url⟩ o) statePickerDelegate).cells.length := by
  have hitems : Search.items F (states F ⟨some url⟩ o) {} = states F ⟨some url⟩ o := if_pos rfl
  have hmem : stateOf F (ParserDelegate.parse F url) ("NY", "New York") ∈ states F ⟨some url⟩ o :=
    stateOf_mem_states F url o (by decide)
  rw [(Search.Holds.load (F := F) statePickerDelegate).length, hitems]
  exact List.length_pos_of_mem hmem

/-! ## One event -/

/-- From which screen to which screen an event leads. -/
inductive Moves (F : Foundation) (b : Bundle) (o : Order) : Screen → AppEvent → Screen → Prop
  | launchHome (vc : HomeViewController) : Moves F b o .notRunning .launch (.home vc)
  | launchLogin : Moves F b o .notRunning .launch .login
  | signIn (user : User) (segue : Segue) :
    Moves F b o .login (.signIn (.ok user)) (.loginSegue segue)
  | signInError (error : NSError) : Moves F b o .login (.signIn (.error error)) .login
  | goHome (vc : HomeViewController) : Moves F b o (.loginSegue .goHome) .segue (.home vc)
  | chooseState :
    Moves F b o (.loginSegue .chooseState) .segue (.picker (.load (states F b o) true))
  | search (v : PickerView) (e : PickerEvent)
    (he : ∀ row, e = .scrolledIn row → row < v.cells.length) :
    Moves F b o (.picker v) (.search e) (.picker (v.step F e))
  | tap (v : PickerView) (row : Nat) (vc : HomeViewController) :
    Moves F b o (.picker v) (.tap row) (.home vc)
  | openSettings (vc : SettingsViewController) (homeVC : HomeViewController) :
    Moves F b o (.home homeVC) .openSettings (.settings vc homeVC)
  | back (vc : SettingsViewController) (homeVC : HomeViewController) :
    Moves F b o (.settings vc homeVC) .back (.home homeVC)
  | changeState (vc : SettingsViewController) (homeVC : HomeViewController) :
    Moves F b o (.settings vc homeVC) .changeState (.picker (.load (states F b o) false))
  | logOutUser (vc : SettingsViewController) (homeVC : HomeViewController) (signOut : SignOut) :
    Moves F b o (.settings vc homeVC) (.logOutUser signOut) .login
  | kill (screen : Screen) : Moves F b o screen .kill .notRunning

/-- A tap leads from a picker to a home screen. -/
theorem Moves.of_tap {b : Bundle} {screen screen' : Screen} {row : Nat}
    (h : Moves F b o screen (.tap row) screen') :
    (∃ v, screen = .picker v) ∧ ∃ vc, screen' = .home vc := by
  cases h with
  | tap v row vc => exact ⟨⟨v, rfl⟩, vc, rfl⟩

/-- The settings are opened over a home screen. -/
theorem Moves.of_openSettings {b : Bundle} {screen screen' : Screen}
    (h : Moves F b o screen .openSettings screen') :
    ∃ vc homeVC, screen = .home homeVC ∧ screen' = .settings vc homeVC := by
  cases h with
  | openSettings vc homeVC => exact ⟨vc, homeVC, rfl, rfl⟩

variable (F url o) in
/-- The app `s` after events that stand for the operations `ops`. -/
structure Tracks (s : App) (ops : List SessionOp) : Prop where
  known : ∀ op ∈ ops, op.Known
  defaults : s.defaults = session.run ops
  screen : s.screen.Shows F ⟨some url⟩ o (accounts.run ops)

namespace Tracks

variable {s : App} {ops : List SessionOp}

theorem recorded (h : Tracks F url o s ops) :
    Recorded s.defaults ⟨signedInUser ops, lastChooser ops⟩ :=
  ⟨ops, h.known, h.defaults, rfl, rfl⟩

theorem userIsSignedIn (h : Tracks F url o s ops) :
    UserDefaultManager.userIsSignedIn s.defaults = (accounts.run ops).user.isSome :=
  h.recorded.userIsSignedIn

theorem signedIn (h : Tracks F url o s ops) (hs : s.screen.NeedsUser) :
    UserDefaultManager.userIsSignedIn s.defaults = true := by
  rw [h.userIsSignedIn, Option.isSome_iff_ne_none]
  obtain ⟨d, screen⟩ := s
  have hscreen := h.screen
  cases screen with
  | notRunning => exact hs.elim
  | login => exact hs.elim
  | loginSegue segue => exact hscreen.1
  | picker v => exact hscreen.1
  | home vc => exact hscreen.1
  | settings vc home => exact hscreen.1

theorem not_signedIn (h : Tracks F url o s ops) (hs : s.screen = .login) :
    UserDefaultManager.userIsSignedIn s.defaults = false := by
  have hscreen := h.screen
  rw [hs] at hscreen
  rw [h.userIsSignedIn, show (accounts.run ops).user = none from hscreen]
  rfl

/-- A home screen shows the state of the account. -/
theorem presents (h : Tracks F url o s ops) {vc : HomeViewController} (hs : s.screen = .home vc) :
    vc.Presents (accountState F ⟨some url⟩ o (accounts.run ops)) := by
  have hshows := h.screen
  rw [hs] at hshows
  exact hshows.2

/-- An event that stands for nothing keeps the defaults. -/
theorem nop (h : Tracks F url o s ops) (screen : Screen)
    (hs : screen.Shows F ⟨some url⟩ o (accounts.run ops)) :
    Tracks F url o ⟨s.defaults, screen⟩ (ops ++ []) := by
  rw [List.append_nil]
  exact ⟨h.known, h.defaults, hs⟩

/-- An event that stands for one operation. -/
theorem op (h : Tracks F url o s ops) (op : SessionOp) (hop : op.Known) {s' : App}
    (hd : s'.defaults = session.step s.defaults op)
    (hs : s'.screen.Shows F ⟨some url⟩ o (accounts.run (ops ++ [op]))) :
    Tracks F url o s' (ops ++ [op]) := by
  refine ⟨?_, ?_, hs⟩
  · intro op' hm
    rcases List.mem_append.mp hm with hm | hm
    · exact h.known op' hm
    · rwa [List.mem_singleton.mp hm]
  · rw [hd, h.defaults, Machine.run_snoc]

/-- A new home screen shows what is stored. -/
theorem goToHomeVC (hd : s.defaults = session.run ops) (hu : (accounts.run ops).user ≠ none) :
    (s.goToHomeVC F ⟨some url⟩ o).screen.Shows F ⟨some url⟩ o (accounts.run ops) := by
  refine ⟨hu, ?_⟩
  rw [← storedState_session, ← hd]
  exact presents_viewDidLoad ⟨some url⟩ s.defaults

theorem launch (h : Tracks F url o s ops) :
    Tracks F url o (s.didFinishLaunching F ⟨some url⟩ o) (ops ++ []) := by
  have hf := h.userIsSignedIn
  unfold App.didFinishLaunching
  split
  · rename_i hs
    refine h.nop _ (goToHomeVC h.defaults ?_)
    rw [hs] at hf
    exact Option.isSome_iff_ne_none.mp hf.symm
  · rename_i hs
    refine h.nop .login ?_
    rw [Bool.not_eq_true] at hs
    rw [hs] at hf
    exact Option.isNone_iff_eq_none.mp (by rw [← Option.not_isSome, ← hf]; rfl)

theorem signIn (h : Tracks F url o s ops) (user : User) :
    Tracks F url o ((Handler.effects s.defaults (.signIn (.ok user))).foldl
      (App.perform F ⟨some url⟩ o) s) (ops ++ [.signIn user.uid]) := by
  have hd : ({ s.defaults with userId := some user.uid, isLoggedIn := some true } : UserDefaults) =
      session.run (ops ++ [.signIn user.uid]) := by
    rw [Machine.run_snoc, ← h.defaults]
    rfl
  rw [foldl_perform_signIn]
  refine h.op (.signIn user.uid) trivial rfl ⟨?_, ?_⟩
  · rw [Machine.run_snoc]
    exact Option.some_ne_none _
  · -- the login screen asks for what was just stored
    rw [← storedState_session, ← hd]
    unfold userLoggedIn
    split <;> simp_all

theorem segue {segue : Segue} {d : UserDefaults} (h : Tracks F url o ⟨d, .loginSegue segue⟩ ops) :
    Tracks F url o (App.performSegue F ⟨some url⟩ o ⟨d, .loginSegue segue⟩ segue) (ops ++ []) := by
  obtain ⟨hu, hs⟩ := h.screen
  split at hs
  · subst hs
    exact h.nop _ (goToHomeVC h.defaults hu)
  · subst hs
    exact h.nop (.picker (.load (states F ⟨some url⟩ o) true))
      ⟨hu, {}, Search.Holds.load true⟩

/-- A tap stores the state of its row for the signed-in user and leads to a new home screen. -/
theorem exists_tap {d : UserDefaults} {v : PickerView} {row : Nat}
    (h : Tracks F url o ⟨d, .picker v⟩ ops) (hr : row < v.cells.length) :
    ∃ st ∈ states F ⟨some url⟩ o, v.vc.items[row]? = some st ∧
      storedState F ⟨some url⟩ o (session.step d (.choose st.abbreviation)) = some st ∧
      App.didSelectItemAt F ⟨some url⟩ o ⟨d, .picker v⟩ v row =
        App.goToHomeVC F ⟨some url⟩ o ⟨session.step d (.choose st.abbreviation), .picker v⟩ := by
  obtain ⟨hu, search, hv⟩ := h.screen
  obtain ⟨uid, huid⟩ := Option.ne_none_iff_exists'.mp hu
  obtain ⟨st, hi, hst⟩ := hv.exists_items hr
  obtain ⟨-, heq⟩ := didSelectItemAt_eq h.recorded huid hi hst
  have hid : d.userId = some uid := h.recorded.userId.trans huid
  have hd : session.step d (.choose st.abbreviation) =
      { d with userStateDict := some (.single uid st.abbreviation) } := by
    show d.writes (setStoredState d st.abbreviation) = _
    rw [writes_setStoredState, hid]
  obtain ⟨-, effects, -, hw, hstored⟩ := storedState_didSelectItemAt v.vc hid hi hst
  rw [hw] at hstored
  exact ⟨st, hst, hi, hstored, hd ▸ heq⟩

theorem tap {d : UserDefaults} {v : PickerView} {row : Nat}
    (h : Tracks F url o ⟨d, .picker v⟩ ops) (hr : row < v.cells.length) :
    Tracks F url o (App.didSelectItemAt F ⟨some url⟩ o ⟨d, .picker v⟩ v row)
      (ops ++ (v.vc.items[row]?).toList.map fun st => .choose st.abbreviation) := by
  obtain ⟨st, hst, hi, -, heq⟩ := h.exists_tap hr
  obtain ⟨uid, hu⟩ := Option.ne_none_iff_exists'.mp h.screen.1
  have hk : st.abbreviation ∈ stateKeys := by
    rw [states_eq] at hst
    exact abbreviation_mem_stateKeys hst
  rw [heq, hi]
  refine h.op (.choose st.abbreviation) hk rfl (goToHomeVC ?_ ?_)
  · rw [Machine.run_snoc, ← h.defaults]
  · rw [Machine.run_snoc, accounts_step, Account.step_choose hu]
    exact h.screen.1

theorem logOutUser {d : UserDefaults} {vc : SettingsViewController} {home : HomeViewController}
    (h : Tracks F url o ⟨d, .settings vc home⟩ ops) (signOut : SignOut) :
    Tracks F url o (((prepareForLogout signOut).foldl (App.perform F ⟨some url⟩ o)
      ⟨d, .settings vc home⟩).performSegue F ⟨some url⟩ o .goToLoginVC) (ops ++ [.logout]) := by
  rw [foldl_perform_logout]
  refine h.op .logout trivial rfl ?_
  show (accounts.run (ops ++ [.logout])).user = none
  rw [Machine.run_snoc]
  rfl

/-- One event of the app and the operations that it stands for. -/
theorem step (h : Tracks F url o s ops) {e : AppEvent} (he : s.Enabled e) :
    Tracks F url o (s.step F ⟨some url⟩ o e) (ops ++ s.ops e) := by
  obtain ⟨d, screen⟩ := s
  cases e with
  | launch =>
    cases screen with
    | notRunning => exact h.launch
    | _ => exact he.elim
  | signIn outcome =>
    cases screen with
    | login =>
      cases outcome with
      | ok user => exact h.signIn user
      | error error => exact h.nop _ h.screen
    | _ => exact he.elim
  | segue =>
    cases screen with
    | loginSegue segue => exact h.segue
    | _ => exact he.elim
  | search e =>
    cases screen with
    | picker v =>
      obtain ⟨hu, search, hv⟩ := h.screen
      refine h.nop (.picker (v.step F e)) ⟨hu, search.step e, hv.step fun row hr => ?_⟩
      subst hr
      exact he
    | _ => cases e <;> exact he.elim
  | tap row =>
    cases screen with
    | picker v => exact h.tap he
    | _ => exact he.elim
  | openSettings =>
    cases screen with
    | home vc =>
      obtain ⟨hu, hp⟩ := h.screen
      -- a home screen without a state has no rows to show
      obtain ⟨state, hstate⟩ := hp.exists_state he
      refine h.nop (.settings _ vc) ⟨hu, state, hstate, ?_, hstate ▸ hp⟩
      show storedState F ⟨some url⟩ o d = some state
      rw [← hstate, ← storedState_session, ← h.defaults]
    | _ => exact he.elim
  | back =>
    cases screen with
    | settings vc home =>
      obtain ⟨hu, state, hstate, -, hp⟩ := h.screen
      exact h.nop (.home home) ⟨hu, hstate ▸ hp⟩
    | _ => exact he.elim
  | changeState =>
    cases screen with
    | settings vc home =>
      exact h.nop (.picker (.load (states F ⟨some url⟩ o) false))
        ⟨h.screen.1, {}, Search.Holds.load false⟩
    | _ => exact he.elim
  | logOutUser signOut =>
    cases screen with
    | settings vc home => exact h.logOutUser signOut
    | _ => exact he.elim
  | kill => exact h.nop .notRunning trivial

/-- The screen that an enabled event leads to. -/
theorem moves (h : Tracks F url o s ops) {e : AppEvent} (he : s.Enabled e) :
    Moves F ⟨some url⟩ o s.screen e (s.step F ⟨some url⟩ o e).screen := by
  obtain ⟨d, screen⟩ := s
  cases screen with
  | notRunning =>
    cases e with
    | launch =>
      show Moves F ⟨some url⟩ o .notRunning .launch
        (App.didFinishLaunching F ⟨some url⟩ o ⟨d, .notRunning⟩).screen
      unfold App.didFinishLaunching
      split
      · exact .launchHome _
      · exact .launchLogin
    | search e => cases e <;> exact he.elim
    | _ => exact he.elim
  | login =>
    cases e with
    | signIn outcome =>
      cases outcome with
      | ok user => exact .signIn user _
      | error error => exact .signInError error
    | kill => exact .kill _
    | search e => cases e <;> exact he.elim
    | _ => exact he.elim
  | loginSegue segue =>
    cases e with
    | segue =>
      obtain ⟨-, hsegue⟩ := h.screen
      split at hsegue
      · subst hsegue
        exact .goHome _
      · subst hsegue
        exact .chooseState
    | kill => exact .kill _
    | search e => cases e <;> exact he.elim
    | _ => exact he.elim
  | picker v =>
    cases e with
    | search e => exact .search v e fun row hr => by subst hr; exact he
    | tap row =>
      obtain ⟨st, -, -, -, heq⟩ := h.exists_tap he
      show Moves F ⟨some url⟩ o (.picker v) (.tap row)
        (App.didSelectItemAt F ⟨some url⟩ o ⟨d, .picker v⟩ v row).screen
      rw [heq]
      exact .tap v row _
    | kill => exact .kill _
    | _ => exact he.elim
  | home vc =>
    cases e with
    | openSettings => exact .openSettings _ vc
    | kill => exact .kill _
    | search e => cases e <;> exact he.elim
    | _ => exact he.elim
  | settings vc homeVC =>
    cases e with
    | back => exact .back vc homeVC
    | changeState => exact .changeState vc homeVC
    | logOutUser signOut => exact .logOutUser vc homeVC signOut
    | kill => exact .kill _
    | search e => cases e <;> exact he.elim
    | _ => exact he.elim

end Tracks

/-- A run of `app` and the operations that its events stand for. -/
theorem tracks_run (h : List AppEvent) (ha : (app F ⟨some url⟩ o).Admits h) :
    Tracks F url o ((app F ⟨some url⟩ o).run h) ((app F ⟨some url⟩ o).translate App.ops h) := by
  refine Machine.history_induction (M := app F ⟨some url⟩ o)
    (I := fun h s => Tracks F url o s ((app F ⟨some url⟩ o).translate App.ops h))
    ⟨nofun, rfl, trivial⟩ ?_ h ha
  intro h e _ hs he
  rw [Machine.translate_snoc]
  exact hs.step he

end Account

/-! ## Every run -/

/-- **The app is a session store.** In every run of `app` the defaults are those of the session
store after the sign-ins, the logouts and the choices that the events of the run stand for, in their
order; each choice is one of a key of `States.stateDictionary`. -/
theorem app_defaults_eq (F : Foundation) (url : List Event) (o : Order) (h : List AppEvent)
    (ha : (app F ⟨some url⟩ o).Admits h) :
    ((app F ⟨some url⟩ o).run h).defaults =
        session.run ((app F ⟨some url⟩ o).translate App.ops h) ∧
      ∀ op ∈ (app F ⟨some url⟩ o).translate App.ops h, op.Known :=
  ⟨(tracks_run h ha).defaults, (tracks_run h ha).known⟩

/-- A user searches, chooses Alabama and logs out in the settings; another one signs in and
searches. -/
def twoVisits : List AppEvent :=
  [.launch, .signIn (.ok ⟨"u"⟩), .segue, .search (.textDidChange "al"), .tap 0, .openSettings,
    .logOutUser (.ok ()), .signIn (.ok ⟨"v"⟩), .segue, .search (.textDidChange "ala")]

/-- The second user taps the first state found and opens the settings. -/
theorem admits_twoVisits : (app default ⟨some alabamaRoster.events⟩ default).Admits
    (twoVisits ++ [.tap 0] ++ [.openSettings]) := by
  decide +kernel

/-- The operations that the two visits stand for. -/
theorem app_defaults_eq_twoVisits :
    ((app default ⟨some alabamaRoster.events⟩ default).run
      (twoVisits ++ [.tap 0] ++ [.openSettings])).defaults =
        session.run [.signIn "u", .choose "AL", .logout, .signIn "v", .choose "AL"] := by
  have hops : (app default ⟨some alabamaRoster.events⟩ default).translate App.ops
      (twoVisits ++ [.tap 0] ++ [.openSettings]) =
        [.signIn "u", .choose "AL", .logout, .signIn "v", .choose "AL"] := by
    decide +kernel
  rw [← hops]
  exact (app_defaults_eq default alabamaRoster.events default _ admits_twoVisits).1

/-- **Every screen shows the account.** In every run of `app`, whoever signs in and wherever it is
killed: the login screen waits only when nobody is signed in, and the other screens show only when
somebody is; the login screen leads to the home screen exactly if the account has a state for the
user; the home screen has the banner, the state and the senators of that state, or of none, and the
settings screen always has a state, the same one, so that its table gets all its cells. The state of
the account is the one that the user's tap stored, if nobody else has tapped since. -/
theorem app_shows_account (F : Foundation) (url : List Event) (o : Order) (h : List AppEvent)
    (ha : (app F ⟨some url⟩ o).Admits h) :
    ((app F ⟨some url⟩ o).run h).screen.Shows F ⟨some url⟩ o
        (accounts.run ((app F ⟨some url⟩ o).translate App.ops h)) ∧
      ∀ vc homeVC, ((app F ⟨some url⟩ o).run h).screen = .settings vc homeVC →
        ((app F ⟨some url⟩ o).run h).Renders := by
  have ht := tracks_run h ha
  refine ⟨ht.screen, fun vc homeVC hs => ?_⟩
  have hshows := ht.screen
  rw [hs] at hshows
  obtain ⟨-, state, -, hvc, -⟩ := hshows
  rw [App.renders_iff, App.ShownSafely, hs]
  show vc.usersState ≠ none
  rw [hvc]
  exact Option.some_ne_none state

/-- The settings of the second user. -/
theorem app_shows_account_twoVisits :
    ((app default ⟨some alabamaRoster.events⟩ default).run
        (twoVisits ++ [.tap 0] ++ [.openSettings])).screen.Shows default
          ⟨some alabamaRoster.events⟩ default
          (accounts.run ((app default ⟨some alabamaRoster.events⟩ default).translate App.ops
            (twoVisits ++ [.tap 0] ++ [.openSettings]))) ∧
      ((app default ⟨some alabamaRoster.events⟩ default).run
        (twoVisits ++ [.tap 0] ++ [.openSettings])).Renders := by
  obtain ⟨hshows, hrenders⟩ := app_shows_account default alabamaRoster.events default
    (twoVisits ++ [.tap 0] ++ [.openSettings]) admits_twoVisits
  obtain ⟨ha, he⟩ := (Machine.admits_snoc _ _).mp admits_twoVisits
  obtain ⟨vc, homeVC, -, hs⟩ := ((tracks_run _ ha).moves he).of_openSettings
  refine ⟨hshows, hrenders vc homeVC ?_⟩
  rw [Machine.run_snoc]
  exact hs

end PWR
