import PWR.Roster.Stream
import PWR.Screen.Account

/-!
# Whether the home screen can be reached

`shown_safely_iff` says when the home screen traps. Here it is asked what becomes of the user then,
for any roster. A launch tests only whether somebody is signed in; a user without a stored state, or
with one that has less than two senators, gets a home screen that traps, and the next launch does the
same. The way to the picker leads through the login screen or through the settings, and there is none
to either of them. The events are those of `app`: one sign-in at a time, and the logout of the
settings.

* `home_reachable_iff`: from which states of the app some events lead to a home screen that renders
  (`App.Open`). From the others none of these events do, launches and kills included.
* `truncated_document`: a document that is cut off, wherever it is, has no senators at all. Then
  there is no such home screen, and the settings are never shown.
-/

namespace PWR

open UserDefaultManager

/-- The home screen is shown, and its table gets a cell for each row. -/
def App.HomeReady (s : App) : Prop := (∃ vc, s.screen = .home vc) ∧ s.Renders

/-- A state with two senators or more is stored for the user. -/
def App.Served (F : Foundation) (b : Bundle) (o : Order) (s : App) : Prop :=
  ∃ st, storedState F b o s.defaults = some st ∧ 2 ≤ st.senators.length

/-- Some state has two senators or more. -/
def SomeServed (F : Foundation) (b : Bundle) (o : Order) : Prop :=
  ∃ st ∈ states F b o, 2 ≤ st.senators.length

/-- The user can get to a home screen: the stored state is one to show, or the picker lies ahead and
has one. -/
def App.Open (F : Foundation) (b : Bundle) (o : Order) (s : App) : Prop :=
  match s.screen with
  | .notRunning => if userIsSignedIn s.defaults = true then s.Served F b o else SomeServed F b o
  | .login => SomeServed F b o
  | .loginSegue .chooseState => SomeServed F b o
  | .loginSegue _ => s.Served F b o
  | .picker _ => SomeServed F b o
  | .home _ => s.Served F b o
  | .settings _ _ => True

section Recovery

variable {F : Foundation} {url : List Event} {o : Order} {d : UserDefaults} {ops : List SessionOp}
  {s : App}

theorem App.Served.someServed {b : Bundle} (h : s.Served F b o) : SomeServed F b o := by
  obtain ⟨st, hst, htwo⟩ := h
  exact ⟨st, mem_states_of_storedState hst, htwo⟩

theorem App.renders_iff_of_home {vc : HomeViewController} (hs : s.screen = .home vc) :
    s.Renders ↔ vc.RowsInRange := by
  rw [App.renders_iff, App.ShownSafely, hs]
  exact Iff.rfl

theorem App.homeReady_iff : s.HomeReady ↔ ∃ vc, s.screen = .home vc ∧ vc.RowsInRange := by
  constructor
  · rintro ⟨⟨vc, hvc⟩, hrenders⟩
    exact ⟨vc, hvc, (App.renders_iff_of_home hvc).mp hrenders⟩
  · rintro ⟨vc, hvc, hrows⟩
    exact ⟨⟨vc, hvc⟩, (App.renders_iff_of_home hvc).mpr hrows⟩

theorem HomeViewController.Presents.rowsInRange_iff {vc : HomeViewController} {st : State}
    (h : vc.Presents (some st)) : vc.RowsInRange ↔ 2 ≤ st.senators.length := by
  rw [HomeViewController.rowsInRange_iff, h]
  rfl

/-- A home screen is ready if its state is one to show. -/
theorem Tracks.rowsInRange_iff_served {vc : HomeViewController} (h : Tracks F url o s ops)
    (hs : s.screen = .home vc) : vc.RowsInRange ↔ s.Served F ⟨some url⟩ o := by
  have hp := h.presents hs
  rw [← storedState_session, ← h.defaults] at hp
  constructor
  · intro hrows
    obtain ⟨st, hst⟩ := hp.exists_state hrows
    rw [hst] at hp
    exact ⟨st, hst, hp.rowsInRange_iff.mp hrows⟩
  · rintro ⟨st, hst, htwo⟩
    rw [hst] at hp
    exact hp.rowsInRange_iff.mpr htwo

/-- Only the home screen leads to the settings. -/
theorem Tracks.of_step_settings {e : AppEvent} {vc : SettingsViewController}
    {homeVC : HomeViewController} (h : Tracks F url o s ops) (he : s.Enabled e)
    (hs : (s.step F ⟨some url⟩ o e).screen = .settings vc homeVC) :
    e = .openSettings ∧ s.screen = .home homeVC ∧ homeVC.RowsInRange := by
  have hmoves := h.moves he
  rw [hs] at hmoves
  obtain ⟨d, screen⟩ := s
  cases hmoves with
  | openSettings vc homeVC =>
    exact ⟨rfl, rfl, (App.renders_iff_of_home rfl).mp (he.renders nofun)⟩

/-- The home screen under the settings is ready. -/
theorem rowsInRange_of_settings {h : List AppEvent} (ha : (app F ⟨some url⟩ o).Admits h)
    {vc : SettingsViewController} {homeVC : HomeViewController}
    (hs : ((app F ⟨some url⟩ o).run h).screen = .settings vc homeVC) : homeVC.RowsInRange := by
  induction h using List.reverseRecOn with
  | nil => cases hs
  | append_singleton h e _ =>
    obtain ⟨ha, he⟩ := (Machine.admits_snoc h e).mp ha
    rw [Machine.run_snoc] at hs
    exact ((tracks_run h ha).of_step_settings he hs).2.2

/-! ## The ways stay closed -/

/-- Whoever can get to a home screen, some state is one to show; in the settings this is clear
already. -/
theorem App.Open.someServed (h : s.Open F ⟨some url⟩ o)
    (hs : ∀ vc homeVC, s.screen ≠ .settings vc homeVC) : SomeServed F ⟨some url⟩ o := by
  obtain ⟨d, screen⟩ := s
  unfold App.Open at h
  cases screen with
  | notRunning =>
    simp only at h
    split at h
    · exact h.someServed
    · exact h
  | login => exact h
  | loginSegue segue =>
    cases segue with
    | chooseState => exact h
    | _ => exact App.Served.someServed h
  | picker v => exact h
  | home vc => exact App.Served.someServed h
  | settings vc homeVC => exact absurd rfl (hs vc homeVC)

theorem App.HomeReady.open (h : Tracks F url o s ops) (hs : s.HomeReady) :
    s.Open F ⟨some url⟩ o := by
  obtain ⟨vc, hvc, hrows⟩ := App.homeReady_iff.mp hs
  have hserved := (h.rowsInRange_iff_served hvc).mp hrows
  unfold App.Open
  rw [hvc]
  exact hserved

/-- An event does not help a user who cannot get to a home screen. -/
theorem App.Open.of_step (h : Tracks F url o s ops) {e : AppEvent} (he : s.Enabled e)
    (hs : (s.step F ⟨some url⟩ o e).Open F ⟨some url⟩ o) : s.Open F ⟨some url⟩ o := by
  have hsome : e ≠ .openSettings → SomeServed F ⟨some url⟩ o := fun hne =>
    hs.someServed fun vc homeVC hsettings => hne (h.of_step_settings he hsettings).1
  obtain ⟨d, screen⟩ := s
  cases screen with
  | notRunning =>
    cases e with
    | launch =>
      unfold App.Open
      simp only
      split
      · rename_i hin
        have hstep : App.step F ⟨some url⟩ o ⟨d, .notRunning⟩ .launch =
          App.goToHomeVC F ⟨some url⟩ o ⟨d, .notRunning⟩ := if_pos hin
        rw [hstep] at hs
        exact hs
      · exact hsome nofun
    | search e => cases e <;> exact he.elim
    | _ => exact he.elim
  | login =>
    cases e with
    | openSettings => exact he.elim
    | _ => exact hsome nofun
  | picker v =>
    cases e with
    | openSettings => exact he.elim
    | _ => exact hsome nofun
  | loginSegue segue =>
    have hin : userIsSignedIn d = true := h.signedIn trivial
    cases segue with
    | chooseState =>
      cases e with
      | openSettings => exact he.elim
      | _ => exact hsome nofun
    | goHome =>
      cases e with
      | segue => exact hs
      | kill => exact (if_pos hin).mp hs
      | search e => cases e <;> exact he.elim
      | _ => exact he.elim
    | _ =>
      -- the login screen asks for no other segue
      obtain ⟨-, hsegue⟩ := h.screen
      split at hsegue <;> cases hsegue
  | home vc =>
    have hin : userIsSignedIn d = true := h.signedIn trivial
    cases e with
    | openSettings => exact (h.rowsInRange_iff_served rfl).mp he
    | kill => exact (if_pos hin).mp hs
    | search e => cases e <;> exact he.elim
    | _ => exact he.elim
  | settings vc homeVC => trivial

/-! ## The ways to the home screen -/

/-- A new home screen of a state with two senators is ready. -/
theorem App.Served.homeReady_goToHomeVC (h : s.Served F ⟨some url⟩ o) :
    (s.goToHomeVC F ⟨some url⟩ o).HomeReady := by
  obtain ⟨st, hst, htwo⟩ := h
  have hp := presents_viewDidLoad (F := F) (o := o) ⟨some url⟩ s.defaults
  rw [hst] at hp
  exact App.homeReady_iff.mpr ⟨_, rfl, hp.rowsInRange_iff.mpr htwo⟩

/-- From the picker: clear the search, and tap a state with two senators. -/
theorem canReach_of_picker {v : PickerView} (h : Tracks F url o ⟨d, .picker v⟩ ops)
    (hsome : SomeServed F ⟨some url⟩ o) :
    (app F ⟨some url⟩ o).CanReach App.HomeReady ⟨d, .picker v⟩ := by
  obtain ⟨st, hst, htwo⟩ := hsome
  obtain ⟨row, hrow, rfl⟩ := List.getElem_of_mem hst
  obtain ⟨hu, search, hv⟩ := h.screen
  have hv' := hv.textDidChange ""
  have hr : row < (v.step F (.textDidChange "")).cells.length := hv'.length ▸ hrow
  have hitems : (v.step F (.textDidChange "")).vc.items = states F ⟨some url⟩ o := hv'.vc_items
  have h' := h.step (e := .search (.textDidChange "")) trivial
  refine .next (.search (.textDidChange "")) trivial (.next (.tap row) hr (.here ?_))
  obtain ⟨st, -, hi, hstored, heq⟩ := Tracks.exists_tap h' hr
  rw [hitems, List.getElem?_eq_getElem hrow] at hi
  obtain rfl := Option.some.inj hi
  show (App.didSelectItemAt F ⟨some url⟩ o ⟨d, .picker (v.step F (.textDidChange ""))⟩
    (v.step F (.textDidChange "")) row).HomeReady
  rw [heq]
  exact App.Served.homeReady_goToHomeVC ⟨_, hstored, htwo⟩

/-- There is always somebody for whom no state is stored. -/
theorem exists_newcomer (a : Account) :
    ∃ uid, ({ a with user := some uid } : Account).current = none := by
  cases hc : a.choices.getLast? with
  | none => exact ⟨"user", by simp [Account.current, hc]⟩
  | some c =>
    have hne : c.1 ≠ c.1 ++ "2" := by
      intro heq
      have hlen := congrArg String.length heq
      simp at hlen
    exact ⟨c.1 ++ "2", by simp [Account.current, hc, hne]⟩

/-- From the login screen that leads to the picker. -/
theorem canReach_of_chooseState (h : Tracks F url o ⟨d, .loginSegue .chooseState⟩ ops)
    (hsome : SomeServed F ⟨some url⟩ o) :
    (app F ⟨some url⟩ o).CanReach App.HomeReady ⟨d, .loginSegue .chooseState⟩ :=
  .next .segue trivial (canReach_of_picker (h.step (e := .segue) trivial) hsome)

/-- From the login screen: somebody signs in who has to choose a state. -/
theorem canReach_of_login (h : Tracks F url o ⟨d, .login⟩ ops)
    (hsome : SomeServed F ⟨some url⟩ o) :
    (app F ⟨some url⟩ o).CanReach App.HomeReady ⟨d, .login⟩ := by
  obtain ⟨uid, hnew⟩ := exists_newcomer (accounts.run ops)
  refine .next (.signIn (.ok ⟨uid⟩)) trivial ?_
  have h' : Tracks F url o ⟨⟨some uid, some true, d.userStateDict⟩,
      .loginSegue (userLoggedIn F ⟨some url⟩ o ⟨some uid, some true, d.userStateDict⟩)⟩
      (ops ++ [.signIn uid]) :=
    h.step (e := .signIn (.ok ⟨uid⟩)) trivial
  have haccount : accountState F ⟨some url⟩ o (accounts.run (ops ++ [.signIn uid])) = none := by
    rw [Machine.run_snoc]
    show accountState F ⟨some url⟩ o { accounts.run ops with user := some uid } = none
    rw [accountState, hnew]
    rfl
  obtain ⟨-, hsegue⟩ := h'.screen
  rw [haccount] at hsegue
  rw [show userLoggedIn F ⟨some url⟩ o _ = .chooseState from hsegue] at h'
  show (app F ⟨some url⟩ o).CanReach App.HomeReady ⟨⟨some uid, some true, d.userStateDict⟩,
      .loginSegue (userLoggedIn F ⟨some url⟩ o ⟨some uid, some true, d.userStateDict⟩)⟩
  rw [show userLoggedIn F ⟨some url⟩ o _ = .chooseState from hsegue]
  exact canReach_of_chooseState h' hsome

/-- From a process that is not running. -/
theorem canReach_of_notRunning (h : Tracks F url o ⟨d, .notRunning⟩ ops)
    (hopen : App.Open F ⟨some url⟩ o ⟨d, .notRunning⟩) :
    (app F ⟨some url⟩ o).CanReach App.HomeReady ⟨d, .notRunning⟩ := by
  refine .next .launch trivial ?_
  have h' := h.step (e := .launch) trivial
  show (app F ⟨some url⟩ o).CanReach App.HomeReady (App.step F ⟨some url⟩ o ⟨d, .notRunning⟩ .launch)
  by_cases hin : userIsSignedIn d = true
  · have hstep : App.step F ⟨some url⟩ o ⟨d, .notRunning⟩ .launch =
      App.goToHomeVC F ⟨some url⟩ o ⟨d, .notRunning⟩ := if_pos hin
    have hserved : App.Served F ⟨some url⟩ o ⟨d, .notRunning⟩ := (if_pos hin).mp hopen
    rw [hstep]
    exact .here hserved.homeReady_goToHomeVC
  · have hstep : App.step F ⟨some url⟩ o ⟨d, .notRunning⟩ .launch = ⟨d, .login⟩ := if_neg hin
    have hsome : SomeServed F ⟨some url⟩ o := (if_neg hin).mp hopen
    rw [hstep] at h' ⊢
    exact canReach_of_login h' hsome

/-- **The ways to the home screen.** They are open or closed already. -/
theorem canReach_homeReady_iff (h : Tracks F url o s ops)
    (hsettings : ∀ vc homeVC, s.screen = .settings vc homeVC → homeVC.RowsInRange) :
    (app F ⟨some url⟩ o).CanReach App.HomeReady s ↔ s.Open F ⟨some url⟩ o := by
  constructor
  · intro hreach
    by_contra hclosed
    refine Machine.not_canReach (Q := fun s => ∃ ops, Tracks F url o s ops ∧
      ¬ s.Open F ⟨some url⟩ o) ?_ ?_ ⟨ops, h, hclosed⟩ hreach
    · rintro s e ⟨ops, h, hs⟩ he
      exact ⟨_, h.step he, fun hopen => hs (hopen.of_step h he)⟩
    · rintro s ⟨ops, h, hs⟩ hready
      exact hs (hready.open h)
  · intro hopen
    obtain ⟨d, screen⟩ := s
    cases screen with
    | notRunning => exact canReach_of_notRunning h hopen
    | login => exact canReach_of_login h hopen
    | loginSegue segue =>
      cases segue with
      | chooseState => exact canReach_of_chooseState h hopen
      | goHome => exact .next .segue trivial (.here (App.Served.homeReady_goToHomeVC hopen))
      | _ =>
        obtain ⟨-, hsegue⟩ := h.screen
        split at hsegue <;> cases hsegue
    | picker v => exact canReach_of_picker h hopen
    | home vc =>
      exact .here (App.homeReady_iff.mpr ⟨vc, rfl, (h.rowsInRange_iff_served rfl).mpr hopen⟩)
    | settings vc homeVC =>
      obtain ⟨-, state, -, hvc, -⟩ := h.screen
      have hback : App.Enabled ⟨d, .settings vc homeVC⟩ .back := by
        show vc.usersState ≠ none
        rw [hvc]
        exact Option.some_ne_none state
      have hready : App.HomeReady ⟨d, .home homeVC⟩ :=
        App.homeReady_iff.mpr ⟨homeVC, rfl, hsettings vc homeVC rfl⟩
      exact .next .back hback (.here hready)

/-! ## Rosters without a state to show -/

/-- Without a state to show there is no way to the settings, and so none to their logout. -/
theorem not_mem_logOutUser (hnone : ¬ SomeServed F ⟨some url⟩ o) (h : List AppEvent)
    (ha : (app F ⟨some url⟩ o).Admits h) :
    (∀ vc homeVC, ((app F ⟨some url⟩ o).run h).screen ≠ .settings vc homeVC) ∧
      ∀ signOut, AppEvent.logOutUser signOut ∉ h := by
  refine Machine.history_induction (M := app F ⟨some url⟩ o)
    (I := fun h s => (∀ vc homeVC, s.screen ≠ .settings vc homeVC) ∧
      ∀ signOut, AppEvent.logOutUser signOut ∉ h) ⟨nofun, nofun⟩ ?_ h ha
  rintro h e ha ⟨hscreen, hlogOut⟩ he
  have ht := tracks_run h ha
  generalize (app F ⟨some url⟩ o).run h = s at ht hscreen he
  obtain ⟨d, screen⟩ := s
  refine ⟨fun vc homeVC hs => ?_, fun signOut hmem => ?_⟩
  · obtain ⟨-, hhome, hrows⟩ := ht.of_step_settings he hs
    exact hnone ((ht.rowsInRange_iff_served hhome).mp hrows).someServed
  · rcases List.mem_append.mp hmem with hmem | hmem
    · exact hlogOut signOut hmem
    · obtain rfl := List.mem_singleton.mp hmem
      cases screen with
      | settings vc homeVC => exact hscreen vc homeVC rfl
      | _ => exact he.elim

end Recovery

/-- **Who can get to the home screen.** For every roster document and after every run of `app`:
some further events of the app lead to a home screen that renders, if and only if the ways are open:
the state that is stored for a user who is signed in has two senators, unless the picker lies ahead,
and some state has two. From anywhere else no events of the app do, a kill and a new launch
included. -/
theorem home_reachable_iff (F : Foundation) (url : List Event) (o : Order) (h : List AppEvent)
    (ha : (app F ⟨some url⟩ o).Admits h) :
    (∃ h', (app F ⟨some url⟩ o).Admits (h ++ h') ∧
        ((app F ⟨some url⟩ o).run (h ++ h')).HomeReady) ↔
      ((app F ⟨some url⟩ o).run h).Open F ⟨some url⟩ o := by
  rw [← canReach_homeReady_iff (tracks_run h ha) fun _ _ => rowsInRange_of_settings ha]
  constructor
  · rintro ⟨h', ha', hready⟩
    rw [Machine.run_append] at hready
    exact ⟨h', ((Machine.admits_append h h').mp ha').2, hready⟩
  · rintro ⟨h', ha', hready⟩
    rw [← Machine.run_append] at hready
    exact ⟨h', (Machine.admits_append h h').mpr ⟨ha, ha'⟩, hready⟩

/-- A first user kills the app at the picker and never gets to a home screen again, with two senators
for each state. -/
theorem home_reachable_iff_killed :
    ¬ ∃ h', (app default ⟨some sampleRoster⟩ default).Admits
        ([.launch, .signIn (.ok ⟨"u"⟩), .segue, .kill] ++ h') ∧
      ((app default ⟨some sampleRoster⟩ default).run
        ([.launch, .signIn (.ok ⟨"u"⟩), .segue, .kill] ++ h')).HomeReady := by
  rw [home_reachable_iff default sampleRoster default
    [.launch, .signIn (.ok ⟨"u"⟩), .segue, .kill] ⟨trivial, trivial, trivial, trivial, trivial⟩]
  rintro ⟨st, hst, -⟩
  cases hst

/-- **A document that is cut off.** For every stream of callbacks that does not reach the end of the
document and every run of `app` with it: there are no senators, also of the members that were
complete; no home screen renders; and the settings are never shown, so the run has no logout of the
settings. -/
theorem truncated_document (F : Foundation) (es : List Event) (hes : Event.didEndDocument ∉ es)
    (o : Order) (h : List AppEvent) (ha : (app F ⟨some es⟩ o).Admits h) :
    (∀ st ∈ states F ⟨some es⟩ o, st.senators = []) ∧
      ¬ ((app F ⟨some es⟩ o).run h).HomeReady ∧
      (∀ vc homeVC, ((app F ⟨some es⟩ o).run h).screen ≠ .settings vc homeVC) ∧
      ∀ signOut, AppEvent.logOutUser signOut ∉ h := by
  have hempty : ∀ st ∈ states F ⟨some es⟩ o, st.senators = [] := by
    intro st hst
    rw [states_eq, parse_eq_nil hes] at hst
    obtain ⟨entry, -, rfl⟩ := mem_stateList.mp hst
    rfl
  have hnone : ¬ SomeServed F ⟨some es⟩ o := by
    rintro ⟨st, hst, htwo⟩
    rw [hempty st hst] at htwo
    exact absurd htwo (by decide)
  refine ⟨hempty, ?_, not_mem_logOutUser hnone h ha⟩
  intro hready
  obtain ⟨vc, hvc, hrows⟩ := App.homeReady_iff.mp hready
  exact hnone (((tracks_run h ha).rowsInRange_iff_served hvc).mp hrows).someServed

/-- The first launch after a tap, with a document that is cut off after a thousand callbacks. -/
theorem truncated_document_relaunch :
    ¬ ((app default ⟨some (sampleRoster.take 1000)⟩ default).run
      [.launch, .signIn (.ok ⟨"u"⟩), .segue, .tap 0, .kill, .launch]).HomeReady :=
  (truncated_document default (sampleRoster.take 1000) (by decide +kernel) default
    [.launch, .signIn (.ok ⟨"u"⟩), .segue, .tap 0, .kill, .launch]
    ⟨trivial, trivial, trivial, cells_pos_load default _ default true, trivial, trivial,
      trivial⟩).2.1

end PWR
