import PWR.Session.Auth

/-!
# Sign-ins in flight, and logouts

Any number of login attempts interleave with logouts. A Facebook success starts a Firebase sign-in;
its completion comes at most once, at any later time. The sign-ins have the numbers `0, 1, 2, ...`
in the order in which they start, so a sign-in started before a point of a run has a number below
`next` there.

* `signedIn_after_logout`: which sign-ins can sign a user in after the last logout. The completion
  of a sign-in acts on the session whenever it comes; a logout neither cancels a sign-in in flight
  nor marks it. So a sign-in that was in flight at the logout can sign its user in after it.
* `agree_iff_not_dangling`: the app and Firebase agree on the session, except while the last user
  who signed in has been logged out only by logouts whose `signOut` threw. The logouts clear the
  defaults whether or not `signOut` threw; `logoutOfFireBase` alone clears them only if it did not.
-/

namespace PWR

open UserDefaultManager

/-! ## The state and its events -/

/-- The persisted session, the session of Firebase and the sign-ins. -/
structure AuthState where
  defaults : UserDefaults := {}
  /-- `Auth.auth().currentUser`. -/
  currentUser : Option User := none
  /-- The number of the next sign-in. -/
  next : Nat := 0
  /-- The sign-ins whose completion has not come yet. -/
  inFlight : List Nat := []

inductive AuthEvent where
  /-- `loginButton(_:didCompleteWith:error:)` -/
  | facebook (result : Option LoginResult)
  /-- The completion of the sign-in `r`. -/
  | firebase (r : Nat) (outcome : SignIn)
  | logoutButton (signOut : SignOut)
  | logoutSettings (signOut : SignOut)
  deriving DecidableEq, Repr

namespace AuthState

def apply (s : AuthState) : Effect → AuthState
  | .write w => { s with defaults := s.defaults.write w }
  | .signedOut => { s with currentUser := none }
  | .closure _ => s
  | .userLoggedIn => s

/-- The effects of a handler, in program order. -/
def perform (s : AuthState) (es : List Effect) : AuthState := es.foldl apply s

/-- Firebase before it delivers the completion of the sign-in `r`: a success sets the current
user, a failure leaves it. -/
def answer (s : AuthState) (r : Nat) (outcome : SignIn) : AuthState :=
  { s with
    inFlight := s.inFlight.erase r
    currentUser := match outcome with
      | .ok user => some user
      | .error _ => s.currentUser }

/-- The effects of the app's handler of an event. -/
def effects (s : AuthState) : AuthEvent → List Effect
  | .facebook _ => []
  | .firebase _ outcome => Handler.effects s.defaults (.signIn outcome)
  | .logoutButton signOut => Handler.effects s.defaults (.logoutButton signOut)
  | .logoutSettings signOut => Handler.effects s.defaults (.logoutSettings signOut)

/-- The sign-in that a Facebook result starts. A trap ends the process, and with it every sign-in
in flight. -/
def facebook (s : AuthState) (result : Option LoginResult) : AuthState :=
  match loginButton result with
  | .nothing => s
  | .loginFirebaseWith _ => { s with next := s.next + 1, inFlight := s.next :: s.inFlight }
  | .trap => { s with inFlight := [] }

def step (s : AuthState) (e : AuthEvent) : AuthState :=
  match e with
  | .facebook result => s.facebook result
  | .firebase r outcome => (s.answer r outcome).perform (s.effects e)
  | .logoutButton _ => s.perform (s.effects e)
  | .logoutSettings _ => s.perform (s.effects e)

end AuthState

/-- Logins and logouts, from empty defaults and no Firebase user. Only a sign-in in flight can
complete. -/
def auth : Machine AuthState AuthEvent where
  init := {}
  step := AuthState.step
  enabled s
    | .firebase r _ => r ∈ s.inFlight
    | _ => True

namespace AuthEvent

/-- The event is a logout through either path. -/
def IsLogout : AuthEvent → Prop
  | .logoutButton _ => True
  | .logoutSettings _ => True
  | _ => False

/-- The event is a logout whose `signOut` returned. -/
def IsSignOut : AuthEvent → Prop
  | .logoutButton (.ok _) => True
  | .logoutSettings (.ok _) => True
  | _ => False

/-- The event is the completion of a sign-in with the user `u`. -/
def SignedIn (u : User) (e : AuthEvent) : Prop := ∃ r, e = .firebase r (.ok u)

/-- Firebase's current user is the same after the event. -/
def Quiet (e : AuthEvent) : Prop := ¬ e.IsSignOut ∧ ∀ u, ¬ e.SignedIn u

end AuthEvent

/-! ## What an event does -/

section Step

variable (s : AuthState)

theorem step_firebase_ok (r : Nat) (u : User) :
    s.step (.firebase r (.ok u)) =
      { s with
        defaults := { s.defaults with userId := some u.uid, isLoggedIn := some true }
        currentUser := some u
        inFlight := s.inFlight.erase r } := rfl

theorem step_firebase_error (r : Nat) (error : NSError) :
    s.step (.firebase r (.error error)) = { s with inFlight := s.inFlight.erase r } := rfl

/-- What a logout does to the state, through either path. -/
def AuthState.loggedOut (signOut : SignOut) : AuthState :=
  { s with
    defaults := { s.defaults with userId := none, isLoggedIn := some false }
    currentUser := match signOut with
      | .ok _ => none
      | .error _ => s.currentUser }

theorem step_logoutButton (signOut : SignOut) :
    s.step (.logoutButton signOut) = s.loggedOut signOut := by
  cases signOut <;> rfl

theorem step_logoutSettings (signOut : SignOut) :
    s.step (.logoutSettings signOut) = s.loggedOut signOut := by
  cases signOut <;> rfl

/-- A Facebook result changes only the sign-ins. -/
theorem step_facebook (result : Option LoginResult) :
    (s.step (.facebook result)).defaults = s.defaults ∧
      (s.step (.facebook result)).currentUser = s.currentUser := by
  show (s.facebook result).defaults = _ ∧ (s.facebook result).currentUser = _
  unfold AuthState.facebook
  split <;> exact ⟨rfl, rfl⟩

theorem step_logout {lo : AuthEvent} (h : lo.IsLogout) :
    ∃ signOut, s.step lo = s.loggedOut signOut := by
  cases lo with
  | facebook _ => exact h.elim
  | firebase _ _ => exact h.elim
  | logoutButton signOut => exact ⟨signOut, step_logoutButton s signOut⟩
  | logoutSettings signOut => exact ⟨signOut, step_logoutSettings s signOut⟩

end Step

/-! ## After the last logout -/

/-- The user of the last sign-in that succeeded. -/
def lastSignedIn (h : List AuthEvent) : Option User :=
  (h.filterMap fun
    | .firebase _ (.ok u) => some u
    | _ => none).getLast?

theorem lastSignedIn_snoc_ok (h : List AuthEvent) (r : Nat) (u : User) :
    lastSignedIn (h ++ [.firebase r (.ok u)]) = some u := by
  simp [lastSignedIn]

/-- Any other event leaves the last sign-in that succeeded. -/
theorem lastSignedIn_snoc {h : List AuthEvent} {e : AuthEvent} (he : ∀ u, ¬ e.SignedIn u) :
    lastSignedIn (h ++ [e]) = lastSignedIn h := by
  have hnone : (match e with
      | .firebase _ (.ok u) => some u
      | _ => none) = none := by
    split
    · rename_i r u
      exact (he u ⟨r, rfl⟩).elim
    · rfl
  simp only [lastSignedIn, List.filterMap_append, List.filterMap_cons, List.filterMap_nil, hnone,
    List.append_nil]

theorem lastSignedIn_isSome {h : List AuthEvent} :
    (lastSignedIn h).isSome ↔ ∃ r u, AuthEvent.firebase r (.ok u) ∈ h := by
  unfold lastSignedIn
  rw [List.getLast?_isSome, ne_eq, List.filterMap_eq_nil_iff]
  push Not
  constructor
  · rintro ⟨e, he, hs⟩
    split at hs
    · rename_i r u
      exact ⟨r, u, he⟩
    · exact absurd rfl hs
  · rintro ⟨r, u, he⟩
    exact ⟨_, he, by simp⟩

/-- The session of the defaults is that of the user `u`, or of nobody. -/
structure SessionOf (d : UserDefaults) (u : Option User) : Prop where
  flag : userIsSignedIn d = u.isSome
  userId : storedUserId d = u.map (·.uid)

/-- The state `s` after the events `h` since a logout that left the state `s₀`. -/
structure SinceLogout (s₀ : AuthState) (h : List AuthEvent) (s : AuthState) : Prop where
  session : SessionOf s.defaults (lastSignedIn h)
  next : s₀.next ≤ s.next
  inFlight : ∀ r ∈ s.inFlight, r ∈ s₀.inFlight ∨ s₀.next ≤ r
  completed : ∀ r outcome, AuthEvent.firebase r outcome ∈ h → r ∈ s₀.inFlight ∨ s₀.next ≤ r

/-- An event other than a logout. -/
theorem SinceLogout.step {s₀ s : AuthState} {h : List AuthEvent} (hs : SinceLogout s₀ h s)
    {e : AuthEvent} (hno : ¬ e.IsLogout) (he : auth.enabled s e) :
    SinceLogout s₀ (h ++ [e]) (s.step e) := by
  cases e with
  | facebook result =>
    refine ⟨?_, ?_, ?_, ?_⟩
    · rw [lastSignedIn_snoc (by rintro u ⟨r, hr⟩; cases hr), (step_facebook s result).1]
      exact hs.session
    · show s₀.next ≤ (s.facebook result).next
      unfold AuthState.facebook
      split
      · exact hs.next
      · exact Nat.le_succ_of_le hs.next
      · exact hs.next
    · show ∀ r ∈ (s.facebook result).inFlight, _
      unfold AuthState.facebook
      split
      · exact hs.inFlight
      · intro r hr
        rcases List.mem_cons.mp hr with rfl | hr
        · exact .inr hs.next
        · exact hs.inFlight r hr
      · intro r hr
        cases hr
    · intro r outcome hr
      rw [List.mem_append, List.mem_singleton] at hr
      rcases hr with hr | hr
      · exact hs.completed r outcome hr
      · cases hr
  | firebase r outcome =>
    have hcompleted : ∀ r' outcome', AuthEvent.firebase r' outcome' ∈ h ++ [.firebase r outcome] →
        r' ∈ s₀.inFlight ∨ s₀.next ≤ r' := by
      intro r' outcome' hr
      rw [List.mem_append, List.mem_singleton] at hr
      rcases hr with hr | hr
      · exact hs.completed r' outcome' hr
      · cases hr
        exact hs.inFlight r he
    cases outcome with
    | ok u =>
      rw [step_firebase_ok]
      refine ⟨?_, hs.next, fun r' hr => hs.inFlight r' (List.mem_of_mem_erase hr), hcompleted⟩
      rw [lastSignedIn_snoc_ok]
      exact ⟨rfl, rfl⟩
    | error error =>
      rw [step_firebase_error]
      refine ⟨?_, hs.next, fun r' hr => hs.inFlight r' (List.mem_of_mem_erase hr), hcompleted⟩
      rw [lastSignedIn_snoc (by rintro u ⟨r', hr⟩; cases hr)]
      exact hs.session
  | logoutButton signOut => exact (hno trivial).elim
  | logoutSettings signOut => exact (hno trivial).elim

theorem sinceLogout_run {h₁ : List AuthEvent} {lo : AuthEvent} (hlo : lo.IsLogout)
    (h₂ : List AuthEvent) (hno : ∀ e ∈ h₂, ¬ e.IsLogout)
    (ha : auth.Admits (h₁ ++ [lo] ++ h₂)) :
    SinceLogout (auth.run (h₁ ++ [lo])) h₂ (auth.run (h₁ ++ [lo] ++ h₂)) := by
  induction h₂ using List.reverseRecOn with
  | nil =>
    rw [List.append_nil]
    refine ⟨?_, Nat.le_refl _, fun r hr => .inl hr, by simp⟩
    obtain ⟨signOut, hs⟩ := step_logout (auth.run h₁) hlo
    rw [Machine.run_snoc]
    show SessionOf ((auth.run h₁).step lo).defaults _
    rw [hs]
    exact ⟨rfl, rfl⟩
  | append_singleton h₂ e ih =>
    rw [← List.append_assoc] at ha ⊢
    obtain ⟨ha, he⟩ := (Machine.admits_snoc _ _).mp ha
    rw [Machine.run_snoc (h₁ ++ [lo] ++ h₂)]
    exact (ih (fun e' h => hno e' (List.mem_append_left _ h)) ha).step
      (hno e (List.mem_append_right _ List.mem_cons_self)) he

/-- **What can sign a user in after a logout.** For the last logout of a run and the events `h₂`
after it: somebody is signed in exactly if a sign-in has succeeded since, and then it is the user
of the last one that did; a completion since then is one of a sign-in that was in flight at the
logout or was started after it, and is still in flight where it completes; each completion since
then that fails has no effect and leaves the two sessions, and each one that succeeds stores its
user, sets the flag and tells the delegate, wherever it was started. -/
theorem signedIn_after_logout (h₁ : List AuthEvent) (lo : AuthEvent) (h₂ : List AuthEvent)
    (hlo : lo.IsLogout) (hno : ∀ e ∈ h₂, ¬ e.IsLogout) (ha : auth.Admits (h₁ ++ [lo] ++ h₂)) :
    (userIsSignedIn (auth.run (h₁ ++ [lo] ++ h₂)).defaults = true ↔
        ∃ r u, AuthEvent.firebase r (.ok u) ∈ h₂) ∧
      storedUserId (auth.run (h₁ ++ [lo] ++ h₂)).defaults = (lastSignedIn h₂).map (·.uid) ∧
      (∀ r outcome, AuthEvent.firebase r outcome ∈ h₂ →
        r ∈ (auth.run h₁).inFlight ∨ (auth.run h₁).next ≤ r) ∧
      (∀ h r error, h ++ [.firebase r (.error error)] <+: h₂ →
        r ∈ (auth.run (h₁ ++ [lo] ++ h)).inFlight ∧
        (auth.run (h₁ ++ [lo] ++ h)).effects (.firebase r (.error error)) = [] ∧
        (auth.run (h₁ ++ [lo] ++ h ++ [.firebase r (.error error)])).defaults =
          (auth.run (h₁ ++ [lo] ++ h)).defaults ∧
        (auth.run (h₁ ++ [lo] ++ h ++ [.firebase r (.error error)])).currentUser =
          (auth.run (h₁ ++ [lo] ++ h)).currentUser) ∧
      (∀ h r u, h ++ [.firebase r (.ok u)] <+: h₂ →
        r ∈ (auth.run (h₁ ++ [lo] ++ h)).inFlight ∧
        (auth.run (h₁ ++ [lo] ++ h)).effects (.firebase r (.ok u)) =
          [.write (.userId u.uid), .write (.isLoggedIn true), .closure none, .userLoggedIn] ∧
        storedUserId (auth.run (h₁ ++ [lo] ++ h ++ [.firebase r (.ok u)])).defaults = some u.uid ∧
        userIsSignedIn (auth.run (h₁ ++ [lo] ++ h ++ [.firebase r (.ok u)])).defaults = true ∧
        (auth.run (h₁ ++ [lo] ++ h ++ [.firebase r (.ok u)])).currentUser = some u) := by
  have hs := sinceLogout_run hlo h₂ hno ha
  obtain ⟨signOut, hstep⟩ := step_logout (auth.run h₁) hlo
  have h₀ : auth.run (h₁ ++ [lo]) = (auth.run h₁).loggedOut signOut := by
    rw [Machine.run_snoc]
    exact hstep
  -- a completion in `h₂` is one of a sign-in that is in flight there
  have hfly : ∀ h r outcome, h ++ [.firebase r outcome] <+: h₂ →
      r ∈ (auth.run (h₁ ++ [lo] ++ h)).inFlight := by
    rintro h r outcome ⟨t, rfl⟩
    rw [← List.append_assoc, Machine.admits_append, ← List.append_assoc] at ha
    exact ((Machine.admits_snoc _ _).mp ha.1).2
  refine ⟨?_, hs.session.userId, fun r outcome hr => ?_, fun h r error hp => ?_,
    fun h r u hp => ?_⟩
  · rw [hs.session.flag]
    exact lastSignedIn_isSome
  · have hr := hs.completed r outcome hr
    rw [h₀] at hr
    exact hr
  · rw [Machine.run_snoc (h₁ ++ [lo] ++ h)]
    have hstep := step_firebase_error (auth.run (h₁ ++ [lo] ++ h)) r error
    rw [show auth.step = AuthState.step from rfl, hstep]
    exact ⟨hfly h r _ hp, rfl, rfl, rfl⟩
  · rw [Machine.run_snoc (h₁ ++ [lo] ++ h)]
    have hstep := step_firebase_ok (auth.run (h₁ ++ [lo] ++ h)) r u
    rw [show auth.step = AuthState.step from rfl, hstep]
    exact ⟨hfly h r _ hp, rfl, rfl, rfl, rfl⟩

/-- The token of a Facebook login that succeeded. -/
def facebookSuccess : Option LoginResult := some { isCancelled := false, token := some (some "token") }

/-- A sign-in is in flight at the logout and succeeds after it. -/
theorem signedIn_after_logout_late :
    userIsSignedIn (auth.run ([.facebook facebookSuccess] ++ [.logoutButton (.ok ())] ++
      [.firebase 0 (.ok ⟨"u"⟩)])).defaults = true :=
  (signedIn_after_logout [.facebook facebookSuccess] (.logoutButton (.ok ()))
    [.firebase 0 (.ok ⟨"u"⟩)] trivial (by simp [AuthEvent.IsLogout])
    ⟨trivial, trivial, List.mem_cons_self, trivial⟩).1.mpr ⟨0, ⟨"u"⟩, List.mem_cons_self⟩

/-- A logout does not keep an earlier sign-in from signing in. -/
theorem not_logout_final :
    ¬ ∀ (h₁ : List AuthEvent) (lo : AuthEvent) (h₂ : List AuthEvent) (r : Nat) (outcome : SignIn),
      lo.IsLogout → auth.Admits (h₁ ++ [lo] ++ h₂ ++ [.firebase r outcome]) →
        r < (auth.run h₁).next →
          ∀ e ∈ (auth.run (h₁ ++ [lo] ++ h₂)).effects (.firebase r outcome), ¬ e.SignsIn := by
  intro hall
  have h := hall [.facebook facebookSuccess] (.logoutButton (.ok ())) [] 0 (.ok ⟨"u"⟩) trivial
    ⟨trivial, trivial, List.mem_cons_self, trivial⟩ (by decide) .userLoggedIn
    (by simp [AuthState.effects, Handler.effects, signInCompletion, loginClosure])
  exact h trivial

/-! ## The app's session and Firebase's -/

/-- The session of the app and that of Firebase are the same. -/
def Agree (s : AuthState) : Prop :=
  (userIsSignedIn s.defaults = true ↔ s.currentUser.isSome) ∧
    ∀ u, s.currentUser = some u → userIsSignedIn s.defaults = true →
      storedUserId s.defaults = some u.uid

/-- The last user who signed in has been logged out, but no `signOut` has returned since. -/
def Dangling (h : List AuthEvent) : Prop :=
  ∃ h₁ r u h₂, h = h₁ ++ .firebase r (.ok u) :: h₂ ∧ (∃ e ∈ h₂, e.IsLogout) ∧
    ∀ e ∈ h₂, e.Quiet

/-- The two sessions together, abstractly. -/
inductive Link where
  | out
  | signedIn (u : User)
  /-- The app has logged out, Firebase has not. -/
  | dangling (u : User)

namespace Link

def logout : Link → SignOut → Link
  | _, .ok _ => out
  | signedIn u, .error _ => dangling u
  | l, .error _ => l

def step (l : Link) : AuthEvent → Link
  | .firebase _ (.ok u) => signedIn u
  | .logoutButton signOut => l.logout signOut
  | .logoutSettings signOut => l.logout signOut
  | _ => l

/-- The user of the app's session. -/
def appUser : Link → Option User
  | signedIn u => some u
  | _ => none

/-- The user of Firebase's session. -/
def firebaseUser : Link → Option User
  | out => none
  | signedIn u => some u
  | dangling u => some u

/-- The two sessions in the state `s`. -/
structure Holds (l : Link) (s : AuthState) : Prop where
  session : SessionOf s.defaults l.appUser
  currentUser : s.currentUser = l.firebaseUser

theorem Holds.logout {l : Link} {s : AuthState} (h : l.Holds s) (signOut : SignOut) :
    (l.logout signOut).Holds (s.loggedOut signOut) := by
  cases signOut with
  | ok _ => exact ⟨⟨rfl, rfl⟩, rfl⟩
  | error _ => cases l <;> exact ⟨⟨rfl, rfl⟩, h.currentUser⟩

theorem Holds.step {l : Link} {s : AuthState} (h : l.Holds s) (e : AuthEvent) :
    (l.step e).Holds (s.step e) := by
  cases e with
  | facebook result =>
    obtain ⟨hd, hu⟩ := step_facebook s result
    exact ⟨hd ▸ h.session, hu.trans h.currentUser⟩
  | firebase r outcome =>
    cases outcome with
    | ok u => exact ⟨⟨rfl, rfl⟩, rfl⟩
    | error error => exact ⟨h.session, h.currentUser⟩
  | logoutButton signOut => rw [step_logoutButton]; exact h.logout signOut
  | logoutSettings signOut => rw [step_logoutSettings]; exact h.logout signOut

theorem Holds.agree_iff {l : Link} {s : AuthState} (h : l.Holds s) :
    Agree s ↔ ∀ u, l ≠ dangling u := by
  obtain ⟨⟨hf, hi⟩, hu⟩ := h
  unfold Agree
  rw [hf, hi, hu]
  cases l <;> simp [appUser, firebaseUser]

end Link

/-- The abstract run. -/
def link (h : List AuthEvent) : Link := h.foldl Link.step .out

theorem link_snoc (h : List AuthEvent) (e : AuthEvent) : link (h ++ [e]) = (link h).step e := by
  simp [link]

theorem link_holds (h : List AuthEvent) (ha : auth.Admits h) : (link h).Holds (auth.run h) := by
  refine Machine.history_induction (I := fun h s => (link h).Holds s) ⟨⟨rfl, rfl⟩, rfl⟩ ?_ h ha
  intro h e _ hl _
  rw [link_snoc]
  exact hl.step e

/-- A quiet event leaves no session and a dangling one, and makes a session dangle exactly if it
is a logout. -/
theorem Link.step_quiet {e : AuthEvent} (he : e.Quiet) (u : User) :
    out.step e = out ∧ (dangling u).step e = dangling u ∧
      (e.IsLogout → (signedIn u).step e = dangling u) ∧
      (¬ e.IsLogout → (signedIn u).step e = signedIn u) := by
  obtain ⟨hs, hi⟩ := he
  cases e with
  | facebook result => exact ⟨rfl, rfl, False.elim, fun _ => rfl⟩
  | firebase r outcome =>
    cases outcome with
    | ok u' => exact (hi u' ⟨r, rfl⟩).elim
    | error error => exact ⟨rfl, rfl, False.elim, fun _ => rfl⟩
  | logoutButton signOut =>
    cases signOut with
    | ok _ => exact (hs trivial).elim
    | error _ => exact ⟨rfl, rfl, fun _ => rfl, fun h => (h trivial).elim⟩
  | logoutSettings signOut =>
    cases signOut with
    | ok _ => exact (hs trivial).elim
    | error _ => exact ⟨rfl, rfl, fun _ => rfl, fun h => (h trivial).elim⟩

theorem Link.foldl_dangling {h : List AuthEvent} (hq : ∀ e ∈ h, e.Quiet) (u : User) :
    h.foldl Link.step (dangling u) = dangling u := by
  induction h with
  | nil => rfl
  | cons e h ih =>
    rw [List.foldl_cons, (step_quiet (hq e List.mem_cons_self) u).2.1]
    exact ih fun e' h' => hq e' (List.mem_cons_of_mem _ h')

theorem Link.foldl_signedIn {h : List AuthEvent} (hq : ∀ e ∈ h, e.Quiet)
    (hlo : ∃ e ∈ h, e.IsLogout) (u : User) : h.foldl Link.step (signedIn u) = dangling u := by
  induction h with
  | nil => simp at hlo
  | cons e h ih =>
    have hq' : ∀ e' ∈ h, e'.Quiet := fun e' h' => hq e' (List.mem_cons_of_mem _ h')
    obtain ⟨-, -, hin, hout⟩ := step_quiet (hq e List.mem_cons_self) u
    rw [List.foldl_cons]
    by_cases he : e.IsLogout
    · rw [hin he]
      exact foldl_dangling hq' u
    · rw [hout he]
      refine ih hq' ?_
      obtain ⟨e', h', hlo'⟩ := hlo
      rcases List.mem_cons.mp h' with rfl | h'
      · exact (he hlo').elim
      · exact ⟨e', h', hlo'⟩

theorem Link.step_signOut {e : AuthEvent} (he : e.IsSignOut) (l : Link) : l.step e = out := by
  cases e with
  | facebook _ => exact he.elim
  | firebase _ _ => exact he.elim
  | logoutButton signOut => cases signOut <;> first | rfl | exact he.elim
  | logoutSettings signOut => cases signOut <;> first | rfl | exact he.elim

/-- The run `h` ends with the quiet events `h₂` since the user `u` signed in. -/
def SignedInSince (u : User) (h h₂ : List AuthEvent) : Prop :=
  ∃ h₁ r, h = h₁ ++ .firebase r (.ok u) :: h₂ ∧ ∀ e ∈ h₂, e.Quiet

theorem SignedInSince.snoc {u : User} {h h₂ : List AuthEvent} (hs : SignedInSince u h h₂)
    {e : AuthEvent} (he : e.Quiet) : SignedInSince u (h ++ [e]) (h₂ ++ [e]) := by
  obtain ⟨h₁, r, rfl, hq⟩ := hs
  refine ⟨h₁, r, by simp, fun e' h' => ?_⟩
  rw [List.mem_append, List.mem_singleton] at h'
  rcases h' with h' | rfl
  · exact hq e' h'
  · exact he

/-- A session of `u`, dangling or not, comes from a sign-in of `u` with quiet events since, and a
dangling one had a logout among them. -/
theorem signedInSince_of_link (h : List AuthEvent) (u : User) :
    (link h = .signedIn u → ∃ h₂, SignedInSince u h h₂) ∧
      (link h = .dangling u → ∃ h₂, SignedInSince u h h₂ ∧ ∃ e ∈ h₂, e.IsLogout) := by
  induction h using List.reverseRecOn with
  | nil => exact ⟨nofun, nofun⟩
  | append_singleton h e ih =>
    rw [link_snoc]
    by_cases hin : ∃ u', e.SignedIn u'
    · obtain ⟨u', r, rfl⟩ := hin
      refine ⟨fun hl => ?_, nofun⟩
      cases hl
      exact ⟨[], h, r, rfl, nofun⟩
    by_cases hout : e.IsSignOut
    · rw [Link.step_signOut hout]
      exact ⟨nofun, nofun⟩
    have hq : e.Quiet := ⟨hout, fun u' h' => hin ⟨u', h'⟩⟩
    cases hl : link h with
    | out =>
      rw [(Link.step_quiet hq u).1]
      exact ⟨nofun, nofun⟩
    | signedIn u₀ =>
      obtain ⟨-, -, hlo, hno⟩ := Link.step_quiet hq u₀
      by_cases he : e.IsLogout
      · rw [hlo he]
        refine ⟨nofun, fun hu => ?_⟩
        cases hu
        obtain ⟨h₂, hs⟩ := ih.1 hl
        exact ⟨h₂ ++ [e], hs.snoc hq, e, by simp, he⟩
      · rw [hno he]
        refine ⟨fun hu => ?_, nofun⟩
        cases hu
        obtain ⟨h₂, hs⟩ := ih.1 hl
        exact ⟨h₂ ++ [e], hs.snoc hq⟩
    | dangling u₀ =>
      rw [(Link.step_quiet hq u₀).2.1]
      refine ⟨nofun, fun hu => ?_⟩
      cases hu
      obtain ⟨h₂, hs, e', h', hlo⟩ := ih.2 hl
      exact ⟨h₂ ++ [e], hs.snoc hq, e', List.mem_append_left _ h', hlo⟩

theorem dangling_iff (h : List AuthEvent) : Dangling h ↔ ∃ u, link h = .dangling u := by
  constructor
  · rintro ⟨h₁, r, u, h₂, rfl, hlo, hq⟩
    refine ⟨u, ?_⟩
    rw [link, List.foldl_append, List.foldl_cons]
    exact Link.foldl_signedIn hq hlo u
  · rintro ⟨u, hl⟩
    obtain ⟨h₂, ⟨h₁, r, he, hq⟩, hlo⟩ := (signedInSince_of_link h u).2 hl
    exact ⟨h₁, r, u, h₂, he, hlo, hq⟩

/-- **When the app and Firebase agree.** After every run of logins with any outcome and logouts
through either path: the app and Firebase agree on the session if and only if it is not the case
that the last user who signed in has been logged out since, and that every `signOut` since threw. -/
theorem agree_iff_not_dangling (h : List AuthEvent) (ha : auth.Admits h) :
    Agree (auth.run h) ↔ ¬ Dangling h := by
  rw [(link_holds h ha).agree_iff, dangling_iff, not_exists]

/-- A sign-in and a logout whose `signOut` throws, then a logout whose `signOut` returns. -/
theorem agree_iff_not_dangling_retry :
    ¬ Dangling [.facebook facebookSuccess, .firebase 0 (.ok ⟨"u"⟩),
      .logoutSettings (.error ⟨"keychain"⟩), .logoutButton (.ok ())] :=
  (agree_iff_not_dangling [.facebook facebookSuccess, .firebase 0 (.ok ⟨"u"⟩),
    .logoutSettings (.error ⟨"keychain"⟩), .logoutButton (.ok ())]
    ⟨trivial, List.mem_cons_self, trivial, trivial, trivial⟩).mp ⟨by decide, nofun⟩

/-- A `signOut` that throws leaves Firebase signed in while the app is not. -/
theorem not_always_agree : ¬ ∀ h, auth.Admits h → (auth.run h).inFlight = [] → Agree (auth.run h) := by
  intro hall
  have h := hall [.facebook facebookSuccess, .firebase 0 (.ok ⟨"u"⟩),
    .logoutSettings (.error ⟨"keychain"⟩)] ⟨trivial, List.mem_cons_self, trivial, trivial⟩ rfl
  have hf := h.1.mpr rfl
  cases hf

end PWR
