import PWR.Session.Auth

/-!
# Login attempts

A login has two stages: Facebook delivers a result to `loginButton(_:didCompleteWith:error:)`, and
with the access token of that result Firebase is asked to sign in. An `Attempt` is what the two
SDKs answer; what the app does with it is `Attempt.effects`.

* `attemptOk_iff`: an attempt is handled as it should be (`AttemptOk`) unless one of the SDKs
  reports an error. The source reads the result of a Facebook error, which is nil, and the
  completion of a Firebase error returns before it calls the closure.
* `logins_ok_iff`: the same along every sequence of attempts, from any persisted session.
-/

namespace PWR

open UserDefaultManager

/-! ## Attempts -/

/-- What Facebook delivers at the first stage of a login, and what Firebase answers if the login
gets there. -/
structure Attempt where
  facebook : Except NSError LoginResult
  firebase : SignIn
  deriving DecidableEq, Repr

namespace Attempt

variable (a : Attempt)

/-- The `result` of the callback: nil when Facebook reports an error. -/
def result : Option LoginResult :=
  match a.facebook with
  | .ok result => some result
  | .error _ => none

/-- What the app does in both stages; `none` where it traps. -/
def effects (d : UserDefaults) : Option (List Effect) :=
  match loginButton a.result with
  | .nothing => some []
  | .loginFirebaseWith _ => some (Handler.effects d (.signIn a.firebase))
  | .trap => none

/-- Facebook logged the user in and gave an access token, so Firebase is asked. -/
def ReachesFirebase : Prop :=
  ∃ result token, a.facebook = .ok result ∧ result.isCancelled = false ∧
    result.token = some (some token)

/-- Both stages went well, for this user. -/
def Succeeds (user : User) : Prop := a.ReachesFirebase ∧ a.firebase = .ok user

/-- The error of Firebase. -/
def error? : Option NSError :=
  match a.firebase with
  | .ok _ => none
  | .error error => some error

/-- One of the SDKs reports an error. -/
def Fails : Prop :=
  (∃ error, a.facebook = .error error) ∨ (a.ReachesFirebase ∧ ∃ error, a.firebase = .error error)

end Attempt

/-! ## What should happen -/

/-- The argument of a call of the closure. -/
def Effect.closure? : Effect → Option (Option NSError)
  | .closure error => some error
  | _ => none

def Effect.isUserLoggedIn : Effect → Bool
  | .userLoggedIn => true
  | _ => false

/-- The effects `es` of an attempt with the defaults `d`. -/
structure Handled (d : UserDefaults) (a : Attempt) (es : List Effect) : Prop where
  /-- An attempt that does not succeed leaves the defaults as they were. -/
  unchanged : (∀ user, ¬ a.Succeeds user) → d.writes (writesOf es) = d
  /-- The closure is called once, with the error of a failure. -/
  closure : a.ReachesFirebase → es.filterMap Effect.closure? = [a.error?]
  /-- The delegate is told once. -/
  told : ∀ user, a.Succeeds user → es.countP Effect.isUserLoggedIn = 1
  /-- The delegate is told of no other attempt. -/
  untold : (∀ user, ¬ a.Succeeds user) → es.countP Effect.isUserLoggedIn = 0
  /-- The user was stored before the delegate is told. -/
  stored : ∀ user, a.Succeeds user → ∀ es₁ es₂, es = es₁ ++ .userLoggedIn :: es₂ →
    (d.writes (writesOf es₁)).userId = some user.uid ∧
      (d.writes (writesOf es₁)).isLoggedIn = some true

/-- The attempt does not trap, and it is handled as it should be. -/
def AttemptOk (d : UserDefaults) (a : Attempt) : Prop :=
  ∃ es, a.effects d = some es ∧ Handled d a es

/-! ## What the app does -/

namespace Attempt

variable {a : Attempt} {d : UserDefaults}

theorem effects_of_facebook_error {error : NSError} (h : a.facebook = .error error) :
    a.effects d = none := by
  simp [effects, result, h, loginButton]

theorem effects_of_reachesFirebase (h : a.ReachesFirebase) :
    a.effects d = some (Handler.effects d (.signIn a.firebase)) := by
  obtain ⟨result, token, hf, hc, ht⟩ := h
  simp [effects, Attempt.result, hf, loginButton, hc, ht]

/-- A login that was cancelled or that gave no token does nothing. -/
theorem effects_of_not_reachesFirebase {result : LoginResult} (hf : a.facebook = .ok result)
    (h : ¬ a.ReachesFirebase) : a.effects d = some [] := by
  obtain ⟨isCancelled, token⟩ := result
  cases isCancelled with
  | true => simp [effects, Attempt.result, hf, loginButton]
  | false =>
    obtain _ | _ | token := token
    · simp [effects, Attempt.result, hf, loginButton]
    · simp [effects, Attempt.result, hf, loginButton]
    · exact absurd ⟨_, token, hf, rfl, rfl⟩ h

end Attempt

theorem effects_signIn_ok (d : UserDefaults) (user : User) :
    Handler.effects d (.signIn (.ok user)) =
      [.write (.userId user.uid), .write (.isLoggedIn true), .closure none, .userLoggedIn] := rfl

theorem effects_signIn_error (d : UserDefaults) (error : NSError) :
    Handler.effects d (.signIn (.error error)) = [] := rfl

section

variable {d : UserDefaults} {a : Attempt}

/-- An attempt without effects is handled unless it reached Firebase. -/
theorem Handled.nil (h : ¬ a.ReachesFirebase) : Handled d a [] where
  unchanged _ := rfl
  closure hr := absurd hr h
  told _ hs := absurd hs.1 h
  untold _ := rfl
  stored _ hs := absurd hs.1 h

theorem Handled.signIn {user : User} (hr : a.ReachesFirebase) (ha : a.firebase = .ok user) :
    Handled d a (Handler.effects d (.signIn (.ok user))) where
  unchanged hn := absurd ⟨hr, ha⟩ (hn user)
  closure _ := by
    rw [effects_signIn_ok, Attempt.error?, ha]
    rfl
  told _ _ := rfl
  untold hn := absurd ⟨hr, ha⟩ (hn user)
  stored user' hs es₁ es₂ he := by
    obtain rfl : user = user' := by
      have := ha.symm.trans hs.2
      simpa using this
    -- the delegate is told last, so both writes are before
    rw [effects_signIn_ok] at he
    rcases es₁ with _ | ⟨e₁, _ | ⟨e₂, _ | ⟨e₃, es₁⟩⟩⟩ <;>
      simp only [List.nil_append, List.cons_append, List.cons.injEq, reduceCtorEq, false_and,
        and_false] at he
    obtain ⟨rfl, rfl, rfl, he⟩ := he
    obtain rfl : es₁ = [] := by
      rcases es₁ with _ | ⟨e₄, es₁⟩
      · rfl
      · simp at he
    exact ⟨rfl, rfl⟩

/-- The source unwraps the result of a Facebook error. -/
theorem not_attemptOk_of_facebook_error {error : NSError} (hf : a.facebook = .error error) :
    ¬ AttemptOk d a := by
  rintro ⟨es, hes, -⟩
  rw [Attempt.effects_of_facebook_error hf] at hes
  cases hes

/-- The completion returns before it calls the closure with a Firebase error. -/
theorem not_attemptOk_of_firebase_error (hr : a.ReachesFirebase) {error : NSError}
    (ha : a.firebase = .error error) : ¬ AttemptOk d a := by
  rintro ⟨es, hes, hh⟩
  rw [Attempt.effects_of_reachesFirebase hr, ha, effects_signIn_error] at hes
  obtain rfl := Option.some.inj hes
  cases hh.closure hr

theorem attemptOk_of_not_fails (h : ¬ a.Fails) : AttemptOk d a := by
  cases hf : a.facebook with
  | error error => exact absurd (.inl ⟨error, hf⟩) h
  | ok result =>
    by_cases hr : a.ReachesFirebase
    · have heffects := Attempt.effects_of_reachesFirebase (d := d) hr
      cases ha : a.firebase with
      | error error => exact absurd (.inr ⟨hr, error, ha⟩) h
      | ok user =>
        rw [ha] at heffects
        exact ⟨_, heffects, Handled.signIn hr ha⟩
    · exact ⟨[], Attempt.effects_of_not_reachesFirebase hf hr, Handled.nil hr⟩

/-- **When an attempt is handled.** -/
theorem attemptOk_iff : AttemptOk d a ↔ ¬ a.Fails := by
  refine ⟨?_, attemptOk_of_not_fails⟩
  rintro hok (⟨error, hf⟩ | ⟨hr, error, ha⟩)
  · exact not_attemptOk_of_facebook_error hf hok
  · exact not_attemptOk_of_firebase_error hr ha hok

end

/-! ## Sequences of attempts -/

/-- The persisted session over a sequence of attempts, from the session `d₀`. An attempt that traps
ends the process, and the next one is of a new process. -/
def logins (d₀ : UserDefaults) : Machine UserDefaults Attempt where
  init := d₀
  step d a := match a.effects d with
    | some es => d.writes (writesOf es)
    | none => d
  enabled _ _ := True

/-- **Login attempts.** From every persisted session and for every sequence of attempts: each
attempt is handled as it should be, where it happens, if and only if Facebook reports no error at
any of them and Firebase none at any that reaches it. -/
theorem logins_ok_iff (d₀ : UserDefaults) (h : List Attempt) :
    Machine.Along (fun h' a => AttemptOk ((logins d₀).run h') a) h ↔ ∀ a ∈ h, ¬ a.Fails := by
  induction h using List.reverseRecOn with
  | nil => exact ⟨fun _ _ ha => absurd ha List.not_mem_nil, fun _ => Machine.along_nil⟩
  | append_singleton h a ih =>
    rw [Machine.along_snoc, ih, attemptOk_iff]
    constructor
    · rintro ⟨hh, ha⟩ a' ha'
      rcases List.mem_append.mp ha' with hmem | hmem
      · exact hh a' hmem
      · rwa [List.mem_singleton.mp hmem]
    · intro hh
      exact ⟨fun a' ha' => hh a' (List.mem_append_left _ ha'),
        hh a (List.mem_append_right _ (List.mem_singleton_self a))⟩

/-- A Facebook error traps, and the closure is not called for a Firebase error. -/
theorem not_logins_ok :
    ¬ Machine.Along (fun h' a => AttemptOk ((logins {}).run h') a)
        [⟨.error ⟨"network"⟩, .ok ⟨"u"⟩⟩] ∧
    ¬ Machine.Along (fun h' a => AttemptOk ((logins {}).run h') a)
        [⟨.ok ⟨false, some (some "token")⟩, .error ⟨"network"⟩⟩] := by
  constructor
  · intro hall
    have hok := hall [] _ List.prefix_rfl
    exact attemptOk_iff.mp hok (.inl ⟨_, rfl⟩)
  · intro hall
    have hok := hall [] _ List.prefix_rfl
    exact attemptOk_iff.mp hok (.inr ⟨⟨_, _, rfl, rfl, rfl⟩, _, rfl⟩)

end PWR
