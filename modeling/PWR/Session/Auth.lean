import PWR.Lib.Machine
import PWR.Session.Defaults

/-!
# Login and logout handlers (`FirebaseAuthManager`, `FBLoginButtonDelegate`, `SettingsViewController`)

A handler runs on the main thread until it returns. It is modelled by its effects in program order
(`Effect`): the writes to the defaults, the sign-out that Firebase carried out, and the calls of
the completion closure and of the login delegate. What the SDKs answer (the Facebook result, the
user or the error of a Firebase sign-in, whether `signOut` throws) is an argument of the handler.

`flag_has_user`: the signed-in flag is never set without a user id, in no run and at no write of a
handler. The process may be killed between any two writes: the login completion writes the id
before the flag, and the logouts clear the flag before the id.
-/

namespace PWR

open UserDefaultManager

/-! ## What the SDKs deliver -/

/-- A Firebase user. -/
structure User where
  uid : String
  deriving DecidableEq, Repr

structure NSError where
  localizedDescription : String
  deriving DecidableEq, Repr

/-- An `FBSDKLoginManagerLoginResult`. Both `token` and its `tokenString` may be nil. -/
structure LoginResult where
  isCancelled : Bool
  token : Option (Option String)
  deriving DecidableEq, Repr

/-- What `try auth.signOut()` does: it returns, or it throws. -/
abbrev SignOut := Except NSError Unit

/-- What a Firebase sign-in comes to: a user or an error. -/
abbrev SignIn := Except NSError User

/-! ## Effects -/

/-- What a handler does, one thing after the other. -/
inductive Effect where
  /-- A write to the defaults. -/
  | write (w : Write)
  /-- `auth.signOut()` has returned: Firebase has no current user. -/
  | signedOut
  /-- The closure given to `loginFirebaseWith` is called. -/
  | closure (error : Option NSError)
  /-- `FBUserLoggedInDelegate.userLoggedIn` is called. -/
  | userLoggedIn

namespace Effect

/-- The write of an effect. -/
def write? : Effect → Option Write
  | .write w => some w
  | _ => none

/-- The effect signs somebody in: it sets the flag, stores a user id or tells the delegate. -/
def SignsIn : Effect → Prop
  | .write (.isLoggedIn bool) => bool = true
  | .write (.userId _) => True
  | .userLoggedIn => True
  | _ => False

end Effect

/-- The writes among the effects of a handler. -/
def writesOf (es : List Effect) : List Write := es.filterMap Effect.write?

@[simp] theorem writesOf_map_write (ws : List Write) : writesOf (ws.map .write) = ws := by
  induction ws with
  | nil => rfl
  | cons w ws ih => simpa [writesOf, Effect.write?] using ih

/-! ## `FirebaseAuthManager` -/

def logoutOfFireBase : SignOut → List Effect
  | .ok () => .signedOut :: clearUserDefaults.map .write
  -- the error is printed
  | .error _ => []

/-- The completion of the sign-in in `loginFirebaseWith`, with the closure that the caller gave. -/
def signInCompletion (closure : Option NSError → List Effect) (user : Option User)
    (error : Option NSError) : List Effect :=
  match user.map (·.uid) with
  | none => []
  | some uid =>
    (setUserId uid).map .write ++ (setisLoggedInTo true).map .write ++
      .closure error :: closure error

/-! ## `FBLoginButtonDelegate` and the logout of `SettingsViewController` -/

/-- The closure that `loginButton(_:didCompleteWith:error:)` gives to `loginFirebaseWith`. -/
def loginClosure (error : Option NSError) : List Effect :=
  if error = none then [.userLoggedIn] else []

/-- What `loginButton(_:didCompleteWith:error:)` does: nothing, start a sign-in with an access
token, or trap. The source unwraps `result` with no test. -/
inductive LoginAction where
  | nothing
  | loginFirebaseWith (accessToken : String)
  | trap
  deriving DecidableEq, Repr

def loginButton (result : Option LoginResult) : LoginAction :=
  match result with
  | none => .trap
  | some result =>
    if result.isCancelled then .nothing
    else match result.token with
      | some (some tokenString) => .loginFirebaseWith tokenString
      | _ => .nothing

def loginButtonDidLogOut (signOut : SignOut) : List Effect :=
  clearUserDefaults.map .write ++ logoutOfFireBase signOut

/-- `SettingsViewController.prepare(for:)` for the logout segue. Before these effects it logs out
of the Facebook SDK. -/
def prepareForLogout (signOut : SignOut) : List Effect :=
  logoutOfFireBase signOut ++ clearUserDefaults.map .write

/-! ## Handlers -/

/-- A handler of the app that changes the persisted session, with what the SDKs gave it. -/
inductive Handler where
  | signIn (outcome : SignIn)
  | logoutButton (signOut : SignOut)
  | logoutSettings (signOut : SignOut)
  | chooseState (abbreviation : String)
  deriving DecidableEq, Repr

/-- The effects of a handler that starts with the defaults `d`. A sign-in that fails is delivered
as no user and an error. -/
def Handler.effects (d : UserDefaults) : Handler → List Effect
  | .signIn (.ok user) => signInCompletion loginClosure (some user) none
  | .signIn (.error error) => signInCompletion loginClosure none (some error)
  | .logoutButton signOut => loginButtonDidLogOut signOut
  | .logoutSettings signOut => prepareForLogout signOut
  | .chooseState abbreviation => (setStoredState d abbreviation).map .write

/-- The writes of a handler, in program order. -/
def Handler.writes (d : UserDefaults) (handler : Handler) : List Write :=
  writesOf (handler.effects d)

section Writes

variable (d : UserDefaults)

@[simp] theorem writes_signIn_ok (user : User) :
    Handler.writes d (.signIn (.ok user)) = [.userId user.uid, .isLoggedIn true] := rfl

@[simp] theorem writes_logoutButton (signOut : SignOut) :
    Handler.writes d (.logoutButton signOut) = clearUserDefaults ++
      (match signOut with | .ok () => clearUserDefaults | .error _ => []) := by
  cases signOut <;> rfl

@[simp] theorem writes_logoutSettings (signOut : SignOut) :
    Handler.writes d (.logoutSettings signOut) =
      (match signOut with | .ok () => clearUserDefaults | .error _ => []) ++ clearUserDefaults := by
  cases signOut <;> rfl

@[simp] theorem writes_chooseState (abbreviation : String) :
    Handler.writes d (.chooseState abbreviation) = setStoredState d abbreviation :=
  writesOf_map_write _

end Writes

/-! ## Kills at any write -/

/-- A handler that runs to its end, or is killed after its first `n` writes. -/
structure Killable where
  handler : Handler
  kill : Option Nat := none
  deriving DecidableEq, Repr

/-- The writes that persist. -/
def Killable.writes (d : UserDefaults) (k : Killable) : List Write :=
  match k.kill with
  | none => k.handler.writes d
  | some n => (k.handler.writes d).take n

/-- The persisted defaults over runs of handlers, some of them killed. The next handler is one of a
new process, which starts from what persisted. -/
def persisted : Machine UserDefaults Killable where
  init := {}
  step d k := d.writes (k.writes d)
  enabled _ _ := True

/-- The signed-in flag implies a user id. -/
def FlagHasUser (d : UserDefaults) : Prop := userIsSignedIn d = true → ∃ uid, d.userId = some uid

theorem FlagHasUser.of_userId {d : UserDefaults} {uid : String} (h : d.userId = some uid) :
    FlagHasUser d :=
  fun _ => ⟨uid, h⟩

theorem FlagHasUser.of_flag {d : UserDefaults} (h : d.isLoggedIn = some false) : FlagHasUser d := by
  intro hf
  rw [userIsSignedIn, h] at hf
  cases hf

/-- `FlagHasUser` holds before and after each of the writes `ws`. -/
def SafeWrites (d : UserDefaults) (ws : List Write) : Prop :=
  ∀ n, FlagHasUser (d.writes (ws.take n))

namespace SafeWrites

variable {d : UserDefaults} {w : Write} {ws ws' : List Write}

theorem nil (h : FlagHasUser d) : SafeWrites d [] := by
  intro n
  rwa [List.take_nil]

theorem cons (h : FlagHasUser d) (hw : SafeWrites (d.write w) ws) : SafeWrites d (w :: ws) := by
  intro n
  cases n with
  | zero => exact h
  | succ n => exact hw n

theorem append (h : SafeWrites d ws) (h' : SafeWrites (d.writes ws) ws') :
    SafeWrites d (ws ++ ws') := by
  intro n
  rw [List.take_append]
  by_cases hn : n ≤ ws.length
  · rw [Nat.sub_eq_zero_of_le hn, List.take_zero, List.append_nil]
    exact h n
  · rw [List.take_of_length_le (by omega), UserDefaults.writes_append]
    exact h' _

theorem final (h : SafeWrites d ws) : FlagHasUser (d.writes ws) := by
  have := h ws.length
  rwa [List.take_length] at this

/-- `clearUserDefaults` clears the flag before it removes the id. -/
theorem clear (h : FlagHasUser d) : SafeWrites d clearUserDefaults :=
  cons h (cons (.of_flag rfl) (nil (.of_flag rfl)))

/-- The writes of every handler are safe. -/
theorem handler (h : FlagHasUser d) (handler : Handler) : SafeWrites d (handler.writes d) := by
  cases handler with
  | signIn outcome =>
    cases outcome with
    | ok user =>
      rw [writes_signIn_ok]
      -- the id is stored before the flag is set
      exact cons h (cons (.of_userId rfl) (nil (.of_userId rfl)))
    | error error => exact nil h
  | logoutButton signOut =>
    rw [writes_logoutButton]
    refine append (clear h) ?_
    cases signOut with
    | ok _ => exact clear (clear h).final
    | error _ => exact nil (clear h).final
  | logoutSettings signOut =>
    rw [writes_logoutSettings]
    cases signOut with
    | ok _ => exact append (clear h) (clear (clear h).final)
    | error _ => exact append (nil h) (clear h)
  | chooseState abbreviation =>
    rw [writes_chooseState]
    unfold setStoredState
    split
    · exact cons h (nil h)
    · exact nil h

end SafeWrites

/-- **The flag is never set without a user id.** From empty defaults, in every run of login
completions, logouts through either path and choices of a state, and wherever the process is
killed: a persisted flag that is true comes with a persisted user id. -/
theorem flag_has_user (h : List Killable) :
    userIsSignedIn (persisted.run h) = true → ∃ uid, storedUserId (persisted.run h) = some uid := by
  refine Machine.invariant (I := FlagHasUser) (M := persisted) ?_ ?_ h
    (Machine.admits_of_total (fun _ _ => trivial) h)
  · intro hf
    cases hf
  · intro d k hd _
    have hsafe := SafeWrites.handler hd k.handler
    show FlagHasUser (d.writes (k.writes d))
    unfold Killable.writes
    split
    · exact hsafe.final
    · exact hsafe _

/-- A sign-in, a logout that is killed after its first write, and another sign-in. -/
theorem flag_has_user_after_kill :
    ∃ uid, storedUserId (persisted.run [⟨.signIn (.ok ⟨"u"⟩), none⟩,
      ⟨.logoutButton (.error ⟨"keychain"⟩), some 1⟩, ⟨.signIn (.ok ⟨"v"⟩), some 2⟩]) = some uid :=
  flag_has_user _ rfl

end PWR
