import PWR.Screen.Account
import PWR.Session.Logout

/-!
# The login screen and the main queue (`Controllers/LoginViewController`)

When a sign-in has completed, `userLoggedIn` asks for the stored state and puts a block on the main
queue that performs a segue: to the home screen, or to the picker. Until the block runs, anything may
happen: another sign-in completes, the user logs out, a choice is stored. The machine here is one
process from its start, with the sign-ins in flight of `PWR/Session/Logout.lean` and the blocks that
wait.

`ledger` is the abstract side: the operations of the session store so far.

* `login_segues`: in every interleaving, the segues that were performed and those that wait are one
  for each sign-in that succeeded, in the order of the completions. Each leads to the home screen
  exactly if the account had a state for its user right after the completion. The defaults are those
  of the operations, in that order too.
-/

namespace PWR

open UserDefaultManager

/-! ## The screen -/

/-- The login screen. -/
structure LoginScreen where
  auth : AuthState
  /-- The segues of the blocks on the main queue, the next one first. -/
  mainQueue : List Segue := []
  /-- The segues that were performed, the first one first. -/
  performed : List Segue := []

inductive LoginEvent where
  | auth (e : AuthEvent)
  /-- A choice of the signed-in user in a picker. -/
  | choose (abbreviation : String)
  /-- The main queue runs its next block. -/
  | block
  deriving DecidableEq, Repr

namespace LoginScreen

variable (F : Foundation) (b : Bundle) (o : Order) (s : LoginScreen)

/-- An effect of a handler. `goToHome` and `goToStatePicker` put a block on the main queue. -/
def apply : Effect → LoginScreen
  | .userLoggedIn =>
    { s with mainQueue := s.mainQueue ++ [userLoggedIn F b o s.auth.defaults] }
  | .write w => { s with auth := s.auth.apply (.write w) }
  | .signedOut => { s with auth := s.auth.apply .signedOut }
  | .closure error => { s with auth := s.auth.apply (.closure error) }

/-- What the SDKs have done before the handler of an event runs. -/
def before (e : AuthEvent) : LoginScreen :=
  match e with
  | .facebook result => { s with auth := s.auth.facebook result }
  | .firebase r outcome => { s with auth := s.auth.answer r outcome }
  | _ => s

def step : LoginEvent → LoginScreen
  | .auth e => (s.auth.effects e).foldl (apply F b o) (s.before e)
  | .choose abbreviation =>
    { s with auth := { s.auth with
        defaults := s.auth.defaults.writes (setStoredState s.auth.defaults abbreviation) } }
  | .block =>
    match s.mainQueue with
    | [] => s
    | segue :: mainQueue =>
      { s with mainQueue := mainQueue, performed := s.performed ++ [segue] }

/-- A Facebook error ends the process, and with it this machine: see
`Attempt.effects_of_facebook_error`. -/
def Enabled : LoginEvent → Prop
  | .auth (.facebook result) => result ≠ none
  | .auth (.firebase r _) => r ∈ s.auth.inFlight
  | .auth _ => True
  | .choose abbreviation => abbreviation ∈ stateKeys
  | .block => s.mainQueue ≠ []

end LoginScreen

/-- A process that starts with the defaults of the operations `ops`. -/
def loginScreen (F : Foundation) (b : Bundle) (o : Order) (ops : List SessionOp) :
    Machine LoginScreen LoginEvent where
  init := { auth := { defaults := session.run ops } }
  step s e := s.step F b o e
  enabled s e := s.Enabled e

/-! ## The ledger -/

namespace LoginEvent

/-- The operations of the session store that an event stands for. -/
def ops : LoginEvent → List SessionOp
  | .auth (.firebase _ (.ok user)) => [.signIn user.uid]
  | .auth (.logoutButton _) => [.logout]
  | .auth (.logoutSettings _) => [.logout]
  | .choose abbreviation => [.choose abbreviation]
  | _ => []

/-- The segue that is owed to a sign-in that succeeded, after the operations `ops`. -/
def segues (F : Foundation) (b : Bundle) (o : Order) (ops : List SessionOp) :
    LoginEvent → List Segue
  | .auth (.firebase _ (.ok user)) =>
    [if (accountState F b o (accounts.run (ops ++ [.signIn user.uid]))).isSome then .goHome
      else .chooseState]
  | _ => []

end LoginEvent

/-- The operations of the session store, from the operations `ops` on. -/
def ledger (ops : List SessionOp) : Machine (List SessionOp) LoginEvent where
  init := ops
  step ops e := ops ++ e.ops
  enabled _ _ := True

/-! ## One event -/

section Step

variable {F : Foundation} {url : List Event} {o : Order} {s : LoginScreen} {ops : List SessionOp}

/-- The login screen asks for the state of the account. -/
theorem userLoggedIn_session (ops : List SessionOp) :
    userLoggedIn F ⟨some url⟩ o (session.run ops) =
      if (accountState F ⟨some url⟩ o (accounts.run ops)).isSome then .goHome
      else .chooseState := by
  unfold userLoggedIn
  rw [storedState_session]
  cases accountState F ⟨some url⟩ o (accounts.run ops) <;> rfl

/-- The segues that were performed and those that wait. -/
def LoginScreen.told (s : LoginScreen) : List Segue := s.performed ++ s.mainQueue

/-- What an event does to the defaults and to the segues. -/
theorem LoginScreen.step_told (F : Foundation) (url : List Event) (o : Order)
    (hd : s.auth.defaults = session.run ops) (e : LoginEvent) :
    (s.step F ⟨some url⟩ o e).auth.defaults = session.run (ops ++ e.ops) ∧
      (s.step F ⟨some url⟩ o e).told = s.told ++ e.segues F ⟨some url⟩ o ops := by
  cases e with
  | auth e =>
    cases e with
    | facebook result =>
      have hfacebook := step_facebook s.auth result
      refine ⟨?_, (List.append_nil _).symm⟩
      show (s.auth.facebook result).defaults = session.run (ops ++ [])
      rw [List.append_nil, ← hd]
      exact hfacebook.1
    | firebase r outcome =>
      cases outcome with
      | ok user =>
        have hrun : ({ s.auth.defaults with userId := some user.uid, isLoggedIn := some true } :
            UserDefaults) = session.run (ops ++ [.signIn user.uid]) := by
          rw [Machine.run_snoc, ← hd]
          rfl
        refine ⟨hrun, ?_⟩
        -- the delegate is told after both writes
        have htold : (s.step F ⟨some url⟩ o (.auth (.firebase r (.ok user)))).told =
            s.performed ++ (s.mainQueue ++ [userLoggedIn F ⟨some url⟩ o
              { s.auth.defaults with userId := some user.uid, isLoggedIn := some true }]) := rfl
        rw [htold, hrun, userLoggedIn_session, ← List.append_assoc]
        rfl
      | error error =>
        refine ⟨?_, (List.append_nil _).symm⟩
        show s.auth.defaults = session.run (ops ++ [])
        rw [List.append_nil, hd]
    | logoutButton signOut =>
      refine ⟨?_, ?_⟩
      · rw [LoginEvent.ops, Machine.run_snoc, ← hd]
        cases signOut <;> rfl
      · cases signOut <;> exact (List.append_nil _).symm
    | logoutSettings signOut =>
      refine ⟨?_, ?_⟩
      · rw [LoginEvent.ops, Machine.run_snoc, ← hd]
        cases signOut <;> rfl
      · cases signOut <;> exact (List.append_nil _).symm
  | choose abbreviation =>
    refine ⟨?_, (List.append_nil _).symm⟩
    rw [LoginEvent.ops, Machine.run_snoc, ← hd]
    rfl
  | block =>
    obtain ⟨auth, mainQueue, performed⟩ := s
    refine ⟨?_, ?_⟩
    · show _ = session.run (ops ++ [])
      rw [List.append_nil, ← hd]
      cases mainQueue <;> rfl
    · cases mainQueue with
      | nil => exact (List.append_nil _).symm
      | cons segue mainQueue => simp [LoginScreen.step, LoginScreen.told, LoginEvent.segues]

end Step

/-- **Every sign-in that succeeded leads on, once and in order.** For every process that starts with
the defaults of some run of the session store, and every order in which sign-ins are started and
completed, users log out, choices are stored and blocks of the main queue run: the defaults are those
of the operations in that order, and the segues performed so far, followed by those that wait, are
one for each sign-in that succeeded, in the order of the completions: to the home screen if the
account had a state for the user then, and to the picker if not. -/
theorem login_segues (F : Foundation) (url : List Event) (o : Order) (ops : List SessionOp)
    (h : List LoginEvent) (ha : (loginScreen F ⟨some url⟩ o ops).Admits h) :
    ((loginScreen F ⟨some url⟩ o ops).run h).auth.defaults = session.run ((ledger ops).run h) ∧
      ((loginScreen F ⟨some url⟩ o ops).run h).performed ++
          ((loginScreen F ⟨some url⟩ o ops).run h).mainQueue =
        (ledger ops).translate (LoginEvent.segues F ⟨some url⟩ o) h := by
  refine Machine.history_induction (M := loginScreen F ⟨some url⟩ o ops)
    (I := fun h s => s.auth.defaults = session.run ((ledger ops).run h) ∧
      s.told = (ledger ops).translate (LoginEvent.segues F ⟨some url⟩ o) h) ⟨rfl, rfl⟩ ?_ h ha
  rintro h e - ⟨hd, htold⟩ -
  obtain ⟨hd', htold'⟩ := LoginScreen.step_told F url o hd e
  rw [Machine.run_snoc, Machine.translate_snoc]
  exact ⟨hd', htold'.trans (by rw [htold])⟩

/-- Two sign-ins in flight complete in the other order; the block of the first to complete waits
for the second. -/
theorem login_segues_two :
    ((loginScreen default ⟨some []⟩ default []).run [.auth (.facebook facebookSuccess),
        .auth (.facebook facebookSuccess), .auth (.firebase 1 (.ok ⟨"v"⟩)),
        .auth (.firebase 0 (.ok ⟨"u"⟩)), .block]).performed ++
      ((loginScreen default ⟨some []⟩ default []).run [.auth (.facebook facebookSuccess),
        .auth (.facebook facebookSuccess), .auth (.firebase 1 (.ok ⟨"v"⟩)),
        .auth (.firebase 0 (.ok ⟨"u"⟩)), .block]).mainQueue = [.chooseState, .chooseState] :=
  (login_segues default [] default [] [.auth (.facebook facebookSuccess),
    .auth (.facebook facebookSuccess), .auth (.firebase 1 (.ok ⟨"v"⟩)),
    .auth (.firebase 0 (.ok ⟨"u"⟩)), .block]
    ⟨nofun, nofun, List.mem_cons_self, List.mem_cons_self, nofun, trivial⟩).2

end PWR
