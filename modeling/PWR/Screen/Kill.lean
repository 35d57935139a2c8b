import PWR.Screen.Account

/-!
# Kills inside a handler

The app of `PWR/Screen/Flow.lean` is killed between two handlers only. Here the process may end
inside a handler of its events, after any number of the writes; what was written persists, and the
next launch starts from it. The handlers with writes are the completion of a sign-in, the tap in the
picker and the logout of the settings. For all handlers of the source, in any order, there is
`flag_has_user`.

The sign-in completion stores the user id and then sets the flag, and a logout clears the flag and
then the id, so after one of the two writes the defaults have a user id and no flag. Nothing reads
the id then: a launch tests the flag, the login screen reads nothing, and a sign-in overwrites the
id. `Alike` is the relation between defaults that no screen can tell apart.

* `kill_atomic`: a kill inside a handler is a kill before the handler or after it, whatever happens
  later. `Interrupted.whole` says which of the two it is.
* `killed_shows_own`: a home screen shows no state that another user's tap has stored.
-/

namespace PWR

open UserDefaultManager

/-! ## Events that may be cut short -/

/-- The writes of the handler of an event, in program order. -/
def App.writes (s : App) (e : AppEvent) : List Write :=
  match e, s.screen with
  | .signIn outcome, .login => Handler.writes s.defaults (.signIn outcome)
  | .tap row, .picker v =>
    match v.vc.didSelectItemAt s.defaults ⟨1, row⟩ with
    | some (_, effects) => effects.filterMap PickerEffect.write?
    | none => []
  | .logOutUser signOut, .settings _ _ => Handler.writes s.defaults (.logoutSettings signOut)
  | _, _ => []

/-- An event whose handler runs to its end, or ends with the process after its first `n` writes. -/
structure Interrupted where
  event : AppEvent
  kill : Option Nat := none
  deriving DecidableEq

/-- The app, with kills inside handlers. -/
def killable (F : Foundation) (b : Bundle) (o : Order) : Machine App Interrupted where
  init := ⟨{}, .notRunning⟩
  step s i :=
    match i.kill with
    | none => s.step F b o i.event
    | some n => ⟨s.defaults.writes ((s.writes i.event).take n), .notRunning⟩
  -- a kill has no handler of its own
  enabled s i := s.Enabled i.event ∧ (i.event = .kill → i.kill = none)

/-- How many writes of the handler of an event must persist before the event counts. -/
def AppEvent.commitsAt : AppEvent → Nat
  | .signIn _ => 2
  | .tap _ => 1
  | .logOutUser _ => 1
  | _ => 0

/-- The events of the app that an interrupted event comes to. -/
def Interrupted.whole (i : Interrupted) : List AppEvent :=
  match i.kill with
  | none => [i.event]
  | some n => if i.event.commitsAt ≤ n then [i.event, .kill] else [.kill]

/-! ## Defaults that look alike -/

/-- No screen can tell the defaults apart: the flag and the dictionary are the same, and so is the
user id of a user who is signed in. -/
structure Alike (d d' : UserDefaults) : Prop where
  flag : userIsSignedIn d = userIsSignedIn d'
  dict : d.userStateDict = d'.userStateDict
  userId : userIsSignedIn d = true → d.userId = d'.userId

namespace Alike

variable {d d' : UserDefaults}

theorem refl (d : UserDefaults) : Alike d d := ⟨rfl, rfl, fun _ => rfl⟩

theorem trans {d'' : UserDefaults} (h : Alike d d') (h' : Alike d' d'') : Alike d d'' where
  flag := h.flag.trans h'.flag
  dict := h.dict.trans h'.dict
  userId hs := (h.userId hs).trans (h'.userId (h.flag ▸ hs))

/-- Nobody is signed in. -/
theorem of_flag (h : userIsSignedIn d = false) (h' : userIsSignedIn d' = false)
    (hd : d.userStateDict = d'.userStateDict) : Alike d d' :=
  ⟨h.trans h'.symm, hd, fun hs => absurd (h.symm.trans hs) Bool.false_ne_true⟩

theorem isLoggedIn_of_userIsSignedIn (hs : userIsSignedIn d = true) : d.isLoggedIn = some true := by
  unfold userIsSignedIn at hs
  cases hl : d.isLoggedIn with
  | none => simp [hl] at hs
  | some bool =>
    rw [hl] at hs
    exact congrArg some hs

/-- With a user signed in there is nothing left to tell apart. -/
theorem eq_of_userIsSignedIn (h : Alike d d') (hs : userIsSignedIn d' = true) : d = d' := by
  have hs' : userIsSignedIn d = true := h.flag.trans hs
  obtain ⟨userId, isLoggedIn, userStateDict⟩ := d
  obtain ⟨userId', isLoggedIn', userStateDict'⟩ := d'
  obtain rfl : userId = userId' := h.userId hs'
  obtain rfl : userStateDict = userStateDict' := h.dict
  have hl : isLoggedIn = some true := isLoggedIn_of_userIsSignedIn hs'
  have hl' : isLoggedIn' = some true := isLoggedIn_of_userIsSignedIn hs
  rw [hl, hl']

end Alike

/-! ## Whole events -/

section

variable {F : Foundation} {url : List Event} {o : Order} {s : App} {ops : List SessionOp}

theorem step_signIn (b : Bundle) (d : UserDefaults) (user : User) :
    App.step F b o ⟨d, .login⟩ (.signIn (.ok user)) =
      ⟨⟨some user.uid, some true, d.userStateDict⟩,
        .loginSegue (userLoggedIn F b o ⟨some user.uid, some true, d.userStateDict⟩)⟩ := rfl

/-- Defaults that look alike lead to the same screen, and to defaults that look alike. -/
theorem Alike.step {d : UserDefaults} (h : Tracks F url o s ops) (hd : Alike d s.defaults)
    (e : AppEvent) (he : s.Enabled e) :
    (App.step F ⟨some url⟩ o ⟨d, s.screen⟩ e).screen = (s.step F ⟨some url⟩ o e).screen ∧
      Alike (App.step F ⟨some url⟩ o ⟨d, s.screen⟩ e).defaults
        (s.step F ⟨some url⟩ o e).defaults := by
  by_cases hs : userIsSignedIn s.defaults = true
  · obtain rfl := hd.eq_of_userIsSignedIn hs
    exact ⟨rfl, Alike.refl _⟩
  · -- nobody is signed in, so the app is not running or waits for a login
    obtain ⟨d', screen⟩ := s
    have hn : userIsSignedIn d' = false := Bool.not_eq_true _ ▸ hs
    have hn' : userIsSignedIn d = false := hd.flag.trans hn
    cases screen with
    | notRunning =>
      cases e with
      | launch =>
        simp only [App.step, App.didFinishLaunching, hn, hn', Bool.false_eq_true, if_false]
        exact ⟨trivial, hd⟩
      | search e => cases e <;> exact he.elim
      | _ => exact he.elim
    | login =>
      cases e with
      | signIn outcome =>
        cases outcome with
        | ok user =>
          rw [step_signIn, step_signIn, hd.dict]
          exact ⟨rfl, Alike.refl _⟩
        | error error => exact ⟨rfl, hd⟩
      | kill => exact ⟨rfl, hd⟩
      | search e => cases e <;> exact he.elim
      | _ => exact he.elim
    | loginSegue segue => exact absurd (h.signedIn trivial) hs
    | picker v => exact absurd (h.signedIn trivial) hs
    | home vc => exact absurd (h.signedIn trivial) hs
    | settings vc home => exact absurd (h.signedIn trivial) hs

/-! ## The writes of a handler -/

/-- The defaults after a tap, also if the callback of the delegate traps. -/
theorem foldl_performTap_defaults (b : Bundle) (hs : s.screen ≠ .notRunning) (ws : List Write)
    (delegate : Bool) :
    (List.foldl (App.performTap F b o) s (ws.map .write ++
      (if delegate then [.userDidSelectState] else []) ++
      [.performSegue .userSelectedState])).defaults = s.defaults.writes ws := by
  induction ws generalizing s with
  | nil =>
    obtain ⟨d, screen⟩ := s
    cases screen with
    | notRunning => exact absurd rfl hs
    | _ =>
      cases delegate with
      | false => rfl
      | true =>
        simp only [if_true, List.map_nil, List.nil_append, List.cons_append, List.foldl_cons,
          List.foldl_nil, App.performTap]
        cases HomeViewController.userDidSelectState F b o d {} <;> rfl
  | cons w ws ih =>
    have hw : App.performTap F b o s (.write w) = { s with defaults := s.defaults.write w } := by
      obtain ⟨d, screen⟩ := s
      cases screen with
      | notRunning => exact absurd rfl hs
      | _ => rfl
    rw [List.map_cons, List.cons_append, List.cons_append, List.foldl_cons, hw]
    exact ih hs

/-- A handler that runs to its end makes all of its writes, and no other. -/
theorem App.step_defaults (b : Bundle) (s : App) (e : AppEvent) :
    (s.step F b o e).defaults = s.defaults.writes (s.writes e) := by
  obtain ⟨d, screen⟩ := s
  cases e with
  | launch =>
    cases screen with
    | notRunning =>
      simp only [App.step, App.didFinishLaunching]
      split <;> rfl
    | _ => rfl
  | signIn outcome =>
    cases screen with
    | login => cases outcome <;> rfl
    | _ => rfl
  | segue =>
    cases screen with
    | loginSegue segue => cases segue <;> rfl
    | _ => rfl
  | tap row =>
    cases screen with
    | picker v =>
      simp only [App.step, App.didSelectItemAt, App.writes]
      cases hi : v.vc.items[row]? with
      | none =>
        rw [v.vc.didSelectItemAt_eq_none hi]
        rfl
      | some st =>
        rw [v.vc.didSelectItemAt_eq_some hi]
        simp only [StateCollectionViewController.writes_didSelectItemAt]
        exact foldl_performTap_defaults b Screen.noConfusion _ _
    | _ => rfl
  | logOutUser signOut =>
    cases screen with
    | settings vc home => cases signOut <;> rfl
    | _ => rfl
  | _ => cases screen <;> rfl

theorem App.writes_eq_nil (s : App) {e : AppEvent} (he : e.commitsAt = 0) : s.writes e = [] := by
  obtain ⟨d, screen⟩ := s
  cases e with
  | signIn outcome => cases he
  | tap row => cases he
  | logOutUser signOut => cases he
  | _ => cases screen <;> rfl

/-- A tap stores one choice, or nothing. -/
theorem App.length_writes_tap (s : App) (row : Nat) : (s.writes (.tap row)).length ≤ 1 := by
  obtain ⟨d, screen⟩ := s
  cases screen with
  | picker v =>
    simp only [App.writes]
    cases hi : v.vc.items[row]? with
    | none => simp [v.vc.didSelectItemAt_eq_none hi]
    | some st =>
      simp only [v.vc.didSelectItemAt_eq_some hi,
        StateCollectionViewController.writes_didSelectItemAt]
      unfold setStoredState
      split <;> simp
  | _ => exact Nat.zero_le 1

/-- The write is one of `clearUserDefaults`. -/
def Write.Clears (w : Write) : Prop := w = .isLoggedIn false ∨ w = .removeUserId

/-- Writes of `clearUserDefaults` keep the flag cleared, and touch nothing but the session. -/
theorem writes_of_clears {d : UserDefaults} (hd : userIsSignedIn d = false) {ws : List Write}
    (hw : ∀ w ∈ ws, w.Clears) :
    userIsSignedIn (d.writes ws) = false ∧ (d.writes ws).userStateDict = d.userStateDict := by
  induction ws generalizing d with
  | nil => exact ⟨hd, rfl⟩
  | cons w ws ih =>
    have hrest : ∀ w' ∈ ws, w'.Clears := fun w' hw' => hw w' (List.mem_cons_of_mem _ hw')
    rcases hw w List.mem_cons_self with rfl | rfl
    · exact ih (d := d.write (.isLoggedIn false)) rfl hrest
    · exact ih (d := d.write .removeUserId) hd hrest

/-- A logout clears the flag with its first write. -/
theorem exists_writes_logout (d : UserDefaults) (signOut : SignOut) :
    ∃ ws : List Write, Handler.writes d (.logoutSettings signOut) = .isLoggedIn false :: ws ∧
      ∀ w ∈ ws, w.Clears := by
  cases signOut with
  | ok _ =>
    exact ⟨[.removeUserId, .isLoggedIn false, .removeUserId], rfl, by simp [Write.Clears]⟩
  | error _ => exact ⟨[.removeUserId], rfl, by simp [Write.Clears]⟩

theorem alike_take_logout (d : UserDefaults) (signOut : SignOut) (n : Nat) :
    Alike (d.writes ((Handler.writes d (.logoutSettings signOut)).take (n + 1)))
      (d.writes (Handler.writes d (.logoutSettings signOut))) := by
  obtain ⟨ws, hws, hc⟩ := exists_writes_logout d signOut
  rw [hws, List.take_succ_cons]
  -- the rest of the writes is after the flag is cleared, all of them or the first `n`
  have hall := writes_of_clears (d := d.write (.isLoggedIn false)) rfl hc
  have hcut := writes_of_clears (d := d.write (.isLoggedIn false)) rfl
    fun w hw => hc w (List.mem_of_mem_take (i := n) hw)
  exact Alike.of_flag hcut.1 hall.1 (hcut.2.trans hall.2.symm)

/-- **One interrupted handler.** What persists of it looks like the defaults after the whole handler
if the event counts by then, and like the defaults before it if not. -/
theorem App.alike_take_writes (s : App)
    (hs : s.screen = .login → userIsSignedIn s.defaults = false) (e : AppEvent) (n : Nat) :
    Alike (s.defaults.writes ((s.writes e).take n))
      (if e.commitsAt ≤ n then s.defaults.writes (s.writes e) else s.defaults) := by
  -- with no write left to come there is nothing to compare
  have hall : e.commitsAt ≤ n → (s.writes e).length ≤ n →
      Alike (s.defaults.writes ((s.writes e).take n))
        (if e.commitsAt ≤ n then s.defaults.writes (s.writes e) else s.defaults) := by
    intro hc hl
    rw [if_pos hc, List.take_of_length_le hl]
    exact Alike.refl _
  cases e with
  | signIn outcome =>
    obtain ⟨d, screen⟩ := s
    cases screen with
    | login =>
      have hn : userIsSignedIn d = false := hs rfl
      cases outcome with
      | ok user =>
        obtain _ | _ | n := n
        · exact Alike.refl d
        · exact Alike.of_flag hn hn rfl
        · exact hall (Nat.le_add_left 2 n) (Nat.le_add_left 2 n)
      | error error =>
        have hw : App.writes ⟨d, .login⟩ (.signIn (.error error)) = [] := rfl
        rw [hw, List.take_nil]
        split <;> exact Alike.refl d
    | _ =>
      simp only [App.writes, List.take_nil]
      split <;> exact Alike.refl d
  | tap row =>
    obtain _ | n := n
    · exact Alike.refl s.defaults
    · refine hall (Nat.le_add_left 1 n) ?_
      have := s.length_writes_tap row
      omega
  | logOutUser signOut =>
    obtain _ | n := n
    · exact Alike.refl s.defaults
    · have hc : (AppEvent.logOutUser signOut).commitsAt ≤ n + 1 := Nat.le_add_left 1 n
      rw [if_pos hc]
      obtain ⟨d, screen⟩ := s
      cases screen with
      | settings vc home => exact alike_take_logout d signOut n
      | _ => exact Alike.refl d
  | _ =>
    refine hall (Nat.zero_le n) ?_
    rw [s.writes_eq_nil rfl]
    exact Nat.zero_le n

/-! ## Interrupted runs -/

/-- A handler that runs to its end leaves the app running. -/
theorem Tracks.enabled_kill_step (h : Tracks F url o s ops) {e : AppEvent} (he : s.Enabled e)
    (hk : e ≠ .kill) : (s.step F ⟨some url⟩ o e).Enabled .kill := by
  obtain ⟨d, screen⟩ := s
  cases e with
  | launch =>
    cases screen with
    | notRunning =>
      simp only [App.step, App.didFinishLaunching]
      split <;> trivial
    | _ => exact he.elim
  | signIn outcome =>
    cases screen with
    | login => cases outcome <;> trivial
    | _ => exact he.elim
  | segue =>
    cases screen with
    | loginSegue segue => cases segue <;> trivial
    | _ => exact he.elim
  | search e =>
    cases screen with
    | picker v => trivial
    | _ => cases e <;> exact he.elim
  | tap row =>
    cases screen with
    | picker v =>
      -- the callback of the delegate does not trap: it finds the state that was just stored
      obtain ⟨st, -, -, -, heq⟩ := h.exists_tap he
      show (App.didSelectItemAt F ⟨some url⟩ o ⟨d, .picker v⟩ v row).Enabled .kill
      rw [heq]
      trivial
    | _ => exact he.elim
  | openSettings =>
    cases screen with
    | home vc => trivial
    | _ => exact he.elim
  | back =>
    cases screen with
    | settings vc home => trivial
    | _ => exact he.elim
  | changeState =>
    cases screen with
    | settings vc home => trivial
    | _ => exact he.elim
  | logOutUser signOut =>
    cases screen with
    | settings vc home => trivial
    | _ => exact he.elim
  | kill => exact absurd rfl hk

/-- An event with writes comes to a running app. -/
theorem App.enabled_kill (s : App) {e : AppEvent} (he : s.Enabled e) (hc : e.commitsAt ≠ 0) :
    s.Enabled .kill := by
  obtain ⟨d, screen⟩ := s
  cases screen with
  | notRunning =>
    cases e with
    | signIn outcome => exact he.elim
    | tap row => exact he.elim
    | logOutUser signOut => exact he.elim
    | _ => exact absurd rfl hc
  | _ => trivial

/-- An interrupted event, next to the events that it comes to. -/
theorem Alike.step_whole {d : UserDefaults} (h : Tracks F url o s ops) (hd : Alike d s.defaults)
    {i : Interrupted} (he : (killable F ⟨some url⟩ o).enabled ⟨d, s.screen⟩ i) :
    (app F ⟨some url⟩ o).AdmitsFrom s i.whole ∧
      ((killable F ⟨some url⟩ o).step ⟨d, s.screen⟩ i).screen =
        ((app F ⟨some url⟩ o).exec s i.whole).screen ∧
      Alike ((killable F ⟨some url⟩ o).step ⟨d, s.screen⟩ i).defaults
        ((app F ⟨some url⟩ o).exec s i.whole).defaults := by
  obtain ⟨e, kill⟩ := i
  obtain ⟨he, hk⟩ := he
  have he' : s.Enabled e := he
  cases kill with
  | none => exact ⟨⟨he', trivial⟩, hd.step h e he'⟩
  | some n =>
    have hk' : e ≠ .kill := fun heq => Option.some_ne_none n (hk heq)
    have hlogin : s.screen = .login → userIsSignedIn d = false :=
      fun hs => hd.flag.trans (h.not_signedIn hs)
    have hcut := App.alike_take_writes ⟨d, s.screen⟩ hlogin e n
    by_cases hc : e.commitsAt ≤ n
    · rw [if_pos hc] at hcut
      have hwhole : Interrupted.whole ⟨e, some n⟩ = [e, .kill] := if_pos hc
      rw [hwhole]
      refine ⟨⟨he', h.enabled_kill_step he' hk', trivial⟩, rfl, hcut.trans ?_⟩
      have hstep := (hd.step h e he').2
      rw [App.step_defaults] at hstep
      exact hstep
    · rw [if_neg hc] at hcut
      have hwhole : Interrupted.whole ⟨e, some n⟩ = [.kill] := if_neg hc
      rw [hwhole]
      exact ⟨⟨s.enabled_kill he' (by omega), trivial⟩, rfl, hcut.trans hd⟩

/-- An interrupted run, next to the run of whole events. -/
theorem killable_simulates (h : List Interrupted) (ha : (killable F ⟨some url⟩ o).Admits h) :
    (app F ⟨some url⟩ o).Admits (h.flatMap Interrupted.whole) ∧
      ((killable F ⟨some url⟩ o).run h).screen =
        ((app F ⟨some url⟩ o).run (h.flatMap Interrupted.whole)).screen ∧
      Alike ((killable F ⟨some url⟩ o).run h).defaults
        ((app F ⟨some url⟩ o).run (h.flatMap Interrupted.whole)).defaults := by
  rw [← Machine.translate_const (M := killable F ⟨some url⟩ o)]
  refine Machine.simulation (M := killable F ⟨some url⟩ o) (N := app F ⟨some url⟩ o)
    (R := fun s s' => s.screen = s'.screen ∧ Alike s.defaults s'.defaults)
    ⟨rfl, Alike.refl _⟩ ?_ h ha
  rintro h h' i - ha' ⟨hscreen, hd⟩ he
  have htracks := tracks_run h' ha'
  generalize (app F ⟨some url⟩ o).run h' = s' at htracks hscreen hd
  generalize (killable F ⟨some url⟩ o).run h = s at hscreen hd he
  obtain ⟨d, screen⟩ := s
  obtain rfl : screen = s'.screen := hscreen
  exact hd.step_whole htracks he

end

/-- **A kill inside a handler is a kill before it or after it.** For every run of `killable`, in
which the process may end inside the handler of any event of `app` after any number of writes: there
is the run of `app` in which each such event is left out or runs to its end before the kill
(`Interrupted.whole`), it is one that `app` admits, it shows the same screen, and no screen can
tell its defaults apart from those that persisted. -/
theorem kill_atomic (F : Foundation) (url : List Event) (o : Order) (h : List Interrupted)
    (ha : (killable F ⟨some url⟩ o).Admits h) :
    (app F ⟨some url⟩ o).Admits (h.flatMap Interrupted.whole) ∧
      ((killable F ⟨some url⟩ o).run h).screen =
        ((app F ⟨some url⟩ o).run (h.flatMap Interrupted.whole)).screen ∧
      Alike ((killable F ⟨some url⟩ o).run h).defaults
        ((app F ⟨some url⟩ o).run (h.flatMap Interrupted.whole)).defaults :=
  killable_simulates h ha

/-- A sign-in that is killed between its two writes did not happen; the next launch shows the login
screen. -/
theorem kill_atomic_signIn :
    ((killable default ⟨some alabamaRoster.events⟩ default).run
      [⟨.launch, none⟩, ⟨.signIn (.ok ⟨"u"⟩), some 1⟩, ⟨.launch, none⟩]).screen =
        ((app default ⟨some alabamaRoster.events⟩ default).run [.launch, .kill, .launch]).screen :=
  (kill_atomic default alabamaRoster.events default
    [⟨.launch, none⟩, ⟨.signIn (.ok ⟨"u"⟩), some 1⟩, ⟨.launch, none⟩]
    ⟨⟨trivial, nofun⟩, ⟨trivial, nofun⟩, ⟨trivial, nofun⟩, trivial⟩).2.1

/-! ## Whose choice is shown -/

/-- The state of an account is the last choice of its user, and nobody has chosen since. -/
theorem lastChoice_of_accountState {F : Foundation} {b : Bundle} {o : Order} {ops : List SessionOp}
    {st : State} (h : accountState F b o (accounts.run ops) = some st) :
    ∃ u, signedInUser ops = some u ∧ lastChoice u ops = some st.abbreviation ∧
      lastChooser ops = some u := by
  unfold accountState Account.current at h
  obtain ⟨k, hcurrent, hfind⟩ := Option.bind_eq_some_iff.mp h
  obtain ⟨u, hu, hchoice⟩ := Option.bind_eq_some_iff.mp hcurrent
  obtain ⟨⟨v, k'⟩, hlast, hk⟩ := Option.bind_eq_some_iff.mp hchoice
  split at hk
  · rename_i hvu
    obtain rfl : v = u := hvu
    obtain rfl : k' = k := Option.some.inj hk
    have habbr : st.abbreviation = k' := by simpa using List.find?_some hfind
    refine ⟨v, hu, ?_, by simp [lastChooser, hlast]⟩
    rw [habbr]
    exact getLast?_filter_fst hlast
  · cases hk

/-- **No kill shows a user the choice of another.** For every run of `killable`, in which the
process may end inside the handler of any event of `app`: a home screen that shows a state shows all
of it, a user is stored, and the state is the one that the last tap of this user in a picker stored,
and nobody else has tapped since, among the events that count. -/
theorem killed_shows_own (F : Foundation) (url : List Event) (o : Order) (h : List Interrupted)
    (ha : (killable F ⟨some url⟩ o).Admits h) (vc : HomeViewController) (st : State)
    (hs : ((killable F ⟨some url⟩ o).run h).screen = .home vc) (hst : vc.usersState = some st) :
    vc.Presents (some st) ∧
      ∃ u, ((killable F ⟨some url⟩ o).run h).defaults.userId = some u ∧
        lastChoice u ((app F ⟨some url⟩ o).translate App.ops (h.flatMap Interrupted.whole)) =
          some st.abbreviation ∧
        lastChooser ((app F ⟨some url⟩ o).translate App.ops (h.flatMap Interrupted.whole)) =
          some u := by
  obtain ⟨ha', hscreen, hd⟩ := killable_simulates h ha
  have ht := tracks_run _ ha'
  rw [hs] at hscreen
  have hin := ht.signedIn (by rw [← hscreen]; trivial)
  have hp := ht.presents hscreen.symm
  -- the state on screen is the one of the account
  have hstate := hp.usersState.symm.trans hst
  rw [hstate] at hp
  obtain ⟨u, hu, hlast, hchooser⟩ := lastChoice_of_accountState hstate
  refine ⟨hp, u, ?_, hlast, hchooser⟩
  rw [hd.eq_of_userIsSignedIn hin, ht.recorded.userId]
  exact hu

/-- A sign-in that is killed between its two writes, another one, and a tap in the picker. -/
theorem killed_shows_own_tap :
    ∃ vc st, ((killable default ⟨some alabamaRoster.events⟩ default).run [⟨.launch, none⟩,
        ⟨.signIn (.ok ⟨"u"⟩), some 1⟩, ⟨.launch, none⟩, ⟨.signIn (.ok ⟨"v"⟩), none⟩,
        ⟨.segue, none⟩, ⟨.tap 0, none⟩]).screen = .home vc ∧
      vc.usersState = some st ∧ vc.Presents (some st) := by
  have hcells := cells_pos_load default alabamaRoster.events default true
  have ht : Tracks default alabamaRoster.events default ⟨⟨some "v", some true, none⟩,
      .picker (.load (states default ⟨some alabamaRoster.events⟩ default) true)⟩ _ :=
    tracks_run [.launch, .kill, .launch, .signIn (.ok ⟨"v"⟩), .segue]
      ⟨trivial, trivial, trivial, trivial, trivial, trivial⟩
  obtain ⟨st, -, -, hstored, heq⟩ := ht.exists_tap hcells
  have hst := HomeViewController.viewDidLoad_usersState {} hstored
  refine ⟨_, st, congrArg App.screen heq, hst, ?_⟩
  exact (killed_shows_own default alabamaRoster.events default
    [⟨.launch, none⟩, ⟨.signIn (.ok ⟨"u"⟩), some 1⟩, ⟨.launch, none⟩, ⟨.signIn (.ok ⟨"v"⟩), none⟩,
      ⟨.segue, none⟩, ⟨.tap 0, none⟩]
    ⟨⟨trivial, nofun⟩, ⟨trivial, nofun⟩, ⟨trivial, nofun⟩, ⟨trivial, nofun⟩, ⟨trivial, nofun⟩,
      ⟨hcells, nofun⟩, trivial⟩ _ st (congrArg App.screen heq) hst).1

end PWR
