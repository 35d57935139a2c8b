import PWR.Lib.Simulation
import PWR.Screen.Account

/-!
# What depends on the roster

The states that the app works with hold the senators of the roster document. `outline` leaves the
senators out of everything that the app holds, and each event does the same to an app and to its
outline, which is an app with an empty roster (`outline_step`). So the senators never decide what is
stored, which screen comes next, or which states a search finds; nor does the order in which the
dictionary of the states is enumerated.

* `roster_noninterference`: two apps with different rosters that are given the same events of `app`
  store the same defaults and show the same screens up to the senators, and the same home screen if
  the rosters agree on the state that it shows.
-/

namespace PWR

open UserDefaultManager

/-! ## Without the senators -/

def State.outline (s : State) : State := { s with senators := [] }

def StateCollectionViewController.outline (vc : StateCollectionViewController) :
    StateCollectionViewController :=
  { vc with
    states := vc.states.map State.outline
    filteredStates := vc.filteredStates.map State.outline
    selectedState := vc.selectedState.map State.outline }

/-- The cells stay as they are: they show titles and pictures. -/
def PickerView.outline (v : PickerView) : PickerView := { v with vc := v.vc.outline }

def HomeViewController.outline (vc : HomeViewController) : HomeViewController :=
  { vc with usersState := vc.usersState.map State.outline, senators := [] }

def SettingsViewController.outline (vc : SettingsViewController) : SettingsViewController :=
  { vc with usersState := vc.usersState.map State.outline }

def Screen.outline : Screen → Screen
  | .notRunning => .notRunning
  | .login => .login
  | .loginSegue segue => .loginSegue segue
  | .picker v => .picker v.outline
  | .home vc => .home vc.outline
  | .settings vc homeVC => .settings vc.outline homeVC.outline

/-- The defaults stay as they are. -/
def App.outline (s : App) : App := { s with screen := s.screen.outline }

/-! ## The states -/

section Outline

variable {F : Foundation} {url : List Event} {o : Order}

theorem states_empty : states F ⟨some []⟩ o = stateList F [] := states_eq F [] o

variable (url o) in
theorem map_outline_states :
    (states F ⟨some url⟩ o).map State.outline = states F ⟨some []⟩ default := by
  rw [states_eq, states_empty, stateList, List.map_map]
  rfl

variable (url o) in
theorem map_outline_storedState (d : UserDefaults) :
    (storedState F ⟨some url⟩ o d).map State.outline = storedState F ⟨some []⟩ default d := by
  unfold storedState
  cases d.userStateDict with
  | none => rfl
  | some dict =>
    cases storedUserId d with
    | none => rfl
    | some uid =>
      cases hk : dict.get uid with
      | none => simp [hk]
      | some k =>
        simp only [Option.bind_eq_bind, Option.bind_some, hk, ← map_outline_states url o,
          List.find?_map]
        rfl

/-! ## The picker -/

namespace StateCollectionViewController

variable (vc : StateCollectionViewController)

theorem items_outline : vc.outline.items = vc.items.map State.outline := by
  unfold items outline
  split <;> rfl

theorem cellForItemAt_outline (row : Nat) :
    vc.outline.cellForItemAt ⟨1, row⟩ = vc.cellForItemAt ⟨1, row⟩ := by
  rw [cellForItemAt_one, cellForItemAt_one, items_outline, List.getElem?_map, Option.map_map]
  rfl

theorem filterStatesForSearchText_outline (searchText : String) :
    (vc.filterStatesForSearchText F searchText).outline =
      vc.outline.filterStatesForSearchText F searchText := by
  unfold filterStatesForSearchText outline
  rw [List.filter_map]
  rfl

end StateCollectionViewController

namespace PickerView

variable (v : PickerView)

theorem reloadSections_outline : v.reloadSections.outline = v.outline.reloadSections := by
  have hn : v.outline.vc.numberOfItemsInSection 1 = v.vc.numberOfItemsInSection 1 := by
    rw [StateCollectionViewController.numberOfItemsInSection_one,
      StateCollectionViewController.numberOfItemsInSection_one]
    simp [PickerView.outline, StateCollectionViewController.items_outline]
  have hcell : ∀ row, v.outline.vc.cellForItemAt ⟨1, row⟩ = v.vc.cellForItemAt ⟨1, row⟩ :=
    v.vc.cellForItemAt_outline
  unfold reloadSections
  simp only [hn, hcell]
  rfl

theorem load_outline (S : List State) (statePickerDelegate : Bool) :
    (load S statePickerDelegate).outline = load (S.map State.outline) statePickerDelegate :=
  reloadSections_outline _

theorem outline_step (e : PickerEvent) : (v.step F e).outline = v.outline.step F e := by
  cases e with
  | textDidChange searchText =>
    unfold step textDidChange
    rw [reloadSections_outline]
    unfold PickerView.outline
    rw [StateCollectionViewController.filterStatesForSearchText_outline]
    rfl
  | cancelButtonClicked => rfl
  | searchButtonClicked => rfl
  | scrolledIn row =>
    have hcell : v.outline.vc.cellForItemAt ⟨1, row⟩ = v.vc.cellForItemAt ⟨1, row⟩ :=
      v.vc.cellForItemAt_outline row
    simp only [step, hcell]
    rfl

end PickerView

/-! ## The other screens -/

namespace HomeViewController

theorem viewDidLoad_outline (d : UserDefaults) (vc : HomeViewController) :
    (vc.viewDidLoad F ⟨some url⟩ o d).outline =
      vc.outline.viewDidLoad F ⟨some []⟩ default d := by
  unfold viewDidLoad
  rw [← map_outline_storedState url o]
  cases storedState F ⟨some url⟩ o d <;> rfl

theorem userDidSelectState_outline (d : UserDefaults) (vc : HomeViewController) :
    (vc.userDidSelectState F ⟨some url⟩ o d).map HomeViewController.outline =
      vc.outline.userDidSelectState F ⟨some []⟩ default d := by
  unfold userDidSelectState
  rw [← map_outline_storedState url o]
  cases storedState F ⟨some url⟩ o d with
  | none => cases hb : vc.stateBannerView <;> simp [HomeViewController.outline, hb]
  | some st => rfl

end HomeViewController

theorem SettingsViewController.viewDidLoad_outline (d : UserDefaults) (vc : SettingsViewController) :
    (vc.viewDidLoad F ⟨some url⟩ o d).outline = vc.outline.viewDidLoad F ⟨some []⟩ default d := by
  unfold SettingsViewController.viewDidLoad SettingsViewController.outline
  simp only [map_outline_storedState]

theorem userLoggedIn_outline (d : UserDefaults) :
    userLoggedIn F ⟨some url⟩ o d = userLoggedIn F ⟨some []⟩ default d := by
  unfold userLoggedIn
  rw [← map_outline_storedState url o]
  cases storedState F ⟨some url⟩ o d <;> rfl

/-! ## The app -/

namespace App

variable (s : App)

theorem goToHomeVC_outline :
    (s.goToHomeVC F ⟨some url⟩ o).outline = s.outline.goToHomeVC F ⟨some []⟩ default :=
  congrArg (fun vc => App.mk s.defaults (.home vc))
    (HomeViewController.viewDidLoad_outline s.defaults {})

theorem performSegue_outline (segue : Segue) :
    (s.performSegue F ⟨some url⟩ o segue).outline =
      s.outline.performSegue F ⟨some []⟩ default segue := by
  have hpicker : ∀ statePickerDelegate,
      (PickerView.load (states F ⟨some url⟩ o) statePickerDelegate).outline =
        PickerView.load (states F ⟨some []⟩ default) statePickerDelegate := by
    intro statePickerDelegate
    rw [PickerView.load_outline, map_outline_states]
  cases segue with
  | chooseState => exact congrArg (fun v => App.mk s.defaults (.picker v)) (hpicker true)
  | goToStatePickerFromSettings =>
    exact congrArg (fun v => App.mk s.defaults (.picker v)) (hpicker false)
  | goHome => exact goToHomeVC_outline s
  | userSelectedState => exact goToHomeVC_outline s
  | goToLoginVC => rfl

theorem perform_outline (e : Effect) :
    (s.perform F ⟨some url⟩ o e).outline = s.outline.perform F ⟨some []⟩ default e := by
  cases e with
  | userLoggedIn =>
    exact congrArg (fun segue => App.mk s.defaults (.loginSegue segue))
      (userLoggedIn_outline s.defaults)
  | _ => rfl

theorem foldl_perform_outline (effects : List Effect) :
    (effects.foldl (perform F ⟨some url⟩ o) s).outline =
      effects.foldl (perform F ⟨some []⟩ default) s.outline :=
  (List.foldl_hom App.outline fun s e => (perform_outline s e).symm).symm

theorem performTap_outline (e : PickerEffect) :
    (s.performTap F ⟨some url⟩ o e).outline = s.outline.performTap F ⟨some []⟩ default e := by
  obtain ⟨d, screen⟩ := s
  cases e with
  | write w => cases screen <;> rfl
  | userDidSelectState =>
    have hdelegate :
        (HomeViewController.userDidSelectState F ⟨some url⟩ o d {}).map HomeViewController.outline =
          HomeViewController.userDidSelectState F ⟨some []⟩ default d {} :=
      HomeViewController.userDidSelectState_outline d {}
    cases hvc : HomeViewController.userDidSelectState F ⟨some url⟩ o d {} <;>
      rw [hvc] at hdelegate <;> cases screen <;>
      simp [performTap, hvc, ← hdelegate, App.outline, Screen.outline]
  | performSegue segue =>
    cases screen with
    | notRunning => rfl
    | _ => exact performSegue_outline _ segue

theorem didSelectItemAt_outline (v : PickerView) (row : Nat) :
    (s.didSelectItemAt F ⟨some url⟩ o v row).outline =
      s.outline.didSelectItemAt F ⟨some []⟩ default v.outline row := by
  have hitems : v.outline.vc.items[row]? = v.vc.items[row]?.map State.outline := by
    rw [← List.getElem?_map, ← StateCollectionViewController.items_outline]
    rfl
  unfold didSelectItemAt
  cases hi : v.vc.items[row]? with
  | none =>
    rw [hi] at hitems
    rw [v.vc.didSelectItemAt_eq_none hi, v.outline.vc.didSelectItemAt_eq_none hitems]
    rfl
  | some st =>
    rw [hi] at hitems
    rw [v.vc.didSelectItemAt_eq_some hi, v.outline.vc.didSelectItemAt_eq_some hitems]
    exact (List.foldl_hom App.outline fun s e => (performTap_outline s e).symm).symm

/-- **One event.** -/
theorem outline_step (e : AppEvent) :
    (s.step F ⟨some url⟩ o e).outline = s.outline.step F ⟨some []⟩ default e := by
  obtain ⟨d, screen⟩ := s
  cases e with
  | launch =>
    cases screen with
    | notRunning =>
      show (App.didFinishLaunching F ⟨some url⟩ o ⟨d, .notRunning⟩).outline =
        App.didFinishLaunching F ⟨some []⟩ default ⟨d, .notRunning⟩
      unfold App.didFinishLaunching
      split
      · exact goToHomeVC_outline _
      · rfl
    | _ => rfl
  | signIn outcome =>
    cases screen with
    | login => exact foldl_perform_outline _ _
    | _ => rfl
  | segue =>
    cases screen with
    | loginSegue segue => exact performSegue_outline _ segue
    | _ => rfl
  | search e =>
    cases screen with
    | picker v => exact congrArg (fun v => App.mk d (.picker v)) (v.outline_step e)
    | _ => rfl
  | tap row =>
    cases screen with
    | picker v => exact didSelectItemAt_outline _ v row
    | _ => rfl
  | openSettings =>
    cases screen with
    | home vc =>
      exact congrArg (fun settings => App.mk d (.settings settings vc.outline))
        (SettingsViewController.viewDidLoad_outline d {})
    | _ => rfl
  | back => cases screen <;> rfl
  | changeState =>
    cases screen with
    | settings vc homeVC => exact performSegue_outline _ _
    | _ => rfl
  | logOutUser signOut =>
    cases screen with
    | settings vc homeVC =>
      show (App.performSegue F ⟨some url⟩ o ((prepareForLogout signOut).foldl
        (perform F ⟨some url⟩ o) ⟨d, .settings vc homeVC⟩) .goToLoginVC).outline = _
      rw [performSegue_outline, foldl_perform_outline]
      rfl
    | _ => rfl
  | kill => cases screen <;> rfl

end App

/-- **A whole run.** The outline of the app is the app with an empty roster. -/
theorem outline_run (h : List AppEvent) :
    ((app F ⟨some url⟩ o).run h).outline = (app F ⟨some []⟩ default).run h := by
  refine Machine.map_run (M := app F ⟨some url⟩ o) (N := app F ⟨some []⟩ default)
    (f := App.outline) ?_ (fun s e => ?_) h
  · rfl
  · exact App.outline_step s e

/-! ## With the senators -/

theorem exists_home_of_outline {screen : Screen} {vc : HomeViewController}
    (h : screen.outline = .home vc) : ∃ vc', screen = .home vc' ∧ vc'.outline = vc := by
  cases screen with
  | home vc' => exact ⟨vc', rfl, Screen.home.inj h⟩
  | _ => cases h

/-- A state is known by its outline and its members in the document. -/
theorem eq_of_outline_eq {url' : List Event} {o' : Order} {st st' : State}
    (hst : st ∈ states F ⟨some url⟩ o) (hst' : st' ∈ states F ⟨some url'⟩ o')
    (h : st.outline = st'.outline)
    (hs : senatorsOf (ParserDelegate.parse F url) st.abbreviation =
      senatorsOf (ParserDelegate.parse F url') st.abbreviation) : st = st' := by
  rw [states_eq] at hst hst'
  obtain ⟨⟨k, title⟩, -, rfl⟩ := mem_stateList.mp hst
  obtain ⟨⟨k', title'⟩, -, rfl⟩ := mem_stateList.mp hst'
  obtain rfl : k = k' := congrArg State.abbreviation h
  obtain rfl : title = title' := congrArg State.title h
  exact congrArg (fun senators => State.mk k title senators (F.image title)) hs

/-- The state that a home screen of a run shows is one of the list. -/
theorem presents_run {h : List AppEvent} (ha : (app F ⟨some url⟩ o).Admits h)
    {vc : HomeViewController} (hs : ((app F ⟨some url⟩ o).run h).screen = .home vc) :
    vc.Presents vc.usersState ∧ ∀ st, vc.usersState = some st → st ∈ states F ⟨some url⟩ o := by
  have hp := (tracks_run h ha).presents hs
  rw [hp.usersState]
  refine ⟨hp, fun st hst => ?_⟩
  obtain ⟨k, -, hfind⟩ := Option.bind_eq_some_iff.mp hst
  exact List.mem_of_find?_eq_some hfind

end Outline

/-- **The roster decides nothing but the senators.** For every two roster documents and orders of
enumeration and every run of events that both apps admit: the defaults are the same, and so are the
screens up to the senators, with the cells of the picker and the next segue of the login. A home
screen is altogether the same if the documents agree on the senators of the state that it shows. -/
theorem roster_noninterference (F : Foundation) (url url' : List Event) (o o' : Order)
    (h : List AppEvent) (ha : (app F ⟨some url⟩ o).Admits h)
    (ha' : (app F ⟨some url'⟩ o').Admits h) :
    ((app F ⟨some url⟩ o).run h).outline = ((app F ⟨some url'⟩ o').run h).outline ∧
      ∀ vc, ((app F ⟨some url⟩ o).run h).screen = .home vc →
        (∀ st, vc.usersState = some st →
          senatorsOf (ParserDelegate.parse F url) st.abbreviation =
            senatorsOf (ParserDelegate.parse F url') st.abbreviation) →
        ((app F ⟨some url'⟩ o').run h).screen = .home vc := by
  have houtline : ((app F ⟨some url⟩ o).run h).outline = ((app F ⟨some url'⟩ o').run h).outline :=
    (outline_run h).trans (outline_run h).symm
  refine ⟨houtline, fun vc hvc hagree => ?_⟩
  have hscreen : ((app F ⟨some url'⟩ o').run h).screen.outline = .home vc.outline := by
    have := (congrArg App.screen houtline).symm
    rw [App.outline, App.outline, hvc] at this
    exact this
  obtain ⟨vc', hvc', heq⟩ := exists_home_of_outline hscreen
  obtain ⟨hp, hmem⟩ := presents_run ha hvc
  obtain ⟨hp', hmem'⟩ := presents_run ha' hvc'
  -- a home screen is known by its state
  have hstate : vc'.usersState = vc.usersState := by
    have hmap : vc'.usersState.map State.outline = vc.usersState.map State.outline :=
      congrArg HomeViewController.usersState heq
    cases hst : vc.usersState with
    | none =>
      rw [hst] at hmap
      exact Option.map_eq_none_iff.mp hmap
    | some st =>
      rw [hst] at hmap
      obtain ⟨st', hst', hout⟩ := Option.map_eq_some_iff.mp hmap
      rw [hst', eq_of_outline_eq (hmem st hst) (hmem' st' hst') hout.symm (hagree st hst)]
  rw [hstate] at hp'
  rw [hvc']
  exact congrArg Screen.home (hp'.trans hp.symm)

/-- The first tap of a user shows the same home screen with two members of Alabama and with one of
New York between them. -/
theorem roster_noninterference_alabama :
    ∃ vc, ((app default ⟨some (sampleEvents ["AL", "AL"])⟩ default).run
        [.launch, .signIn (.ok ⟨"u"⟩), .segue, .tap 0]).screen = .home vc ∧
      ((app default ⟨some (sampleEvents ["AL", "NY", "AL"])⟩ default).run
        [.launch, .signIn (.ok ⟨"u"⟩), .segue, .tap 0]).screen = .home vc := by
  have hcells := fun url => cells_pos_load default url default true
  have hhome : ((app default ⟨some (sampleEvents ["AL", "AL"])⟩ default).run
        [.launch, .signIn (.ok ⟨"u"⟩), .segue, .tap 0]).screen =
      .home (HomeViewController.viewDidLoad default ⟨some (sampleEvents ["AL", "AL"])⟩ default
        (session.run [.signIn "u", .choose "AL"]) {}) := by
    rfl
  have hstate : storedState default ⟨some (sampleEvents ["AL", "AL"])⟩ default
      (session.run [.signIn "u", .choose "AL"]) =
        some (stateOf default (ParserDelegate.parse default (sampleEvents ["AL", "AL"]))
          ("AL", "Alabama")) :=
    storedState_of_choice (stateOf_mem_states default _ default (by decide)) rfl rfl
  refine ⟨_, hhome, (roster_noninterference default (sampleEvents ["AL", "AL"])
    (sampleEvents ["AL", "NY", "AL"]) default default
    [.launch, .signIn (.ok ⟨"u"⟩), .segue, .tap 0]
    ⟨trivial, trivial, trivial, hcells _, trivial⟩
    ⟨trivial, trivial, trivial, hcells _, trivial⟩).2 _ hhome fun st hst => ?_⟩
  rw [HomeViewController.viewDidLoad_usersState {} hstate] at hst
  obtain rfl := Option.some.inj hst
  decide +kernel

end PWR
