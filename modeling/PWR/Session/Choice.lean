import PWR.Lib.Machine
import PWR.Session.Defaults

/-!
# Users and their chosen states

Runs of the session store: sign-ins of any users, logouts and choices of a state, in any order.

The abstract side (`Account`) keeps who is signed in and every choice with the user who made it.
The defaults keep less. `setStoredState` replaces the whole dictionary by one entry, so the
defaults always hold the most recent choice of the run and no other (`session_stores`). Two things
follow for every run.

* `storedState_eq_iff_lastChooser`: a signed-in user who has chosen a state before sees that state
  exactly if nobody else has chosen one since.
* `storedState_own`: the app never shows a user a choice that somebody else made.
-/

namespace PWR

open UserDefaultManager

/-! ## Runs of the session store -/

/-- What happens to the session store. -/
inductive SessionOp where
  | signIn (uid : String)
  | logout
  | choose (abbreviation : String)
  deriving DecidableEq, Repr

/-- A choice is one of a key of `States.stateDictionary`. -/
def SessionOp.Known : SessionOp → Prop
  | .choose abbreviation => abbreviation ∈ stateKeys
  | _ => True

instance : DecidablePred SessionOp.Known
  | .signIn _ => inferInstanceAs (Decidable True)
  | .logout => inferInstanceAs (Decidable True)
  | .choose abbreviation => inferInstanceAs (Decidable (abbreviation ∈ stateKeys))

/-- The writes of an operation. -/
def SessionOp.writes (d : UserDefaults) : SessionOp → List Write
  | .signIn uid => setUserId uid ++ setisLoggedInTo true
  | .logout => clearUserDefaults
  | .choose abbreviation => setStoredState d abbreviation

/-- The session store, from empty defaults. -/
def session : Machine UserDefaults SessionOp where
  init := {}
  step d op := d.writes (op.writes d)
  enabled _ _ := True

/-! ## The abstract account -/

/-- Who is signed in, and the choices that were made, each with the user who made it. -/
structure Account where
  user : Option String := none
  choices : List (String × String) := []

/-- A choice counts for the user who is signed in. -/
def Account.step (a : Account) : SessionOp → Account
  | .signIn uid => { a with user := some uid }
  | .logout => { a with user := none }
  | .choose abbreviation =>
    match a.user with
    | some uid => { a with choices := a.choices ++ [(uid, abbreviation)] }
    | none => a

def accounts : Machine Account SessionOp where
  init := {}
  step := Account.step
  enabled _ _ := True

@[simp] theorem accounts_step (a : Account) (op : SessionOp) : accounts.step a op = a.step op := rfl

theorem Account.step_choose {a : Account} {u : String} (hu : a.user = some u) (k : String) :
    a.step (.choose k) = { a with choices := a.choices ++ [(u, k)] } := by
  simp [Account.step, hu]

theorem Account.step_choose_none {a : Account} (hu : a.user = none) (k : String) :
    a.step (.choose k) = a := by
  simp [Account.step, hu]

/-- The user who is signed in after the run `h`. -/
def signedInUser (h : List SessionOp) : Option String := (accounts.run h).user

/-- The most recent choice of the user `u` in the run `h`. -/
def lastChoice (u : String) (h : List SessionOp) : Option String :=
  (((accounts.run h).choices.filter (·.1 = u)).map (·.2)).getLast?

/-- The user who made the most recent choice of the run `h`. -/
def lastChooser (h : List SessionOp) : Option String := ((accounts.run h).choices.map (·.1)).getLast?

/-! ## What the defaults keep of the account -/

/-- The defaults `d` of the account `a`: the user, and the last choice only. -/
structure Stores (d : UserDefaults) (a : Account) : Prop where
  user : d.userId = a.user
  flag : userIsSignedIn d = a.user.isSome
  dict : d.userStateDict = a.choices.getLast?.map fun c => .single c.1 c.2

/-- One operation keeps the relation. -/
theorem Stores.step {d : UserDefaults} {a : Account} (hs : Stores d a) (op : SessionOp) :
    Stores (session.step d op) (a.step op) := by
  cases op with
  | signIn uid => exact ⟨rfl, rfl, hs.dict⟩
  | logout => exact ⟨rfl, rfl, hs.dict⟩
  | choose k =>
    have hstep : session.step d (.choose k) = d.writes (setStoredState d k) := rfl
    rw [hstep, writes_setStoredState]
    cases hu : d.userId with
    | none =>
      have ha : a.user = none := hs.user ▸ hu
      rw [Account.step_choose_none ha]
      exact hs
    | some uid =>
      have ha : a.user = some uid := hs.user ▸ hu
      rw [Account.step_choose ha]
      exact ⟨ha.symm, hs.flag, by simp⟩

/-- **The session store after a run.** -/
theorem session_stores (h : List SessionOp) : Stores (session.run h) (accounts.run h) := by
  refine Machine.history_induction (I := fun h d => Stores d (accounts.run h)) ⟨rfl, rfl, rfl⟩ ?_ h
    (Machine.admits_of_total (fun _ _ => trivial) h)
  intro h op _ hs _
  rw [Machine.run_snoc]
  exact hs.step op

theorem userId_run (h : List SessionOp) : (session.run h).userId = signedInUser h :=
  (session_stores h).user

/-! ## What a user sees -/

/-- The last entry of a list is the last entry with its own key. -/
theorem getLast?_filter_fst {l : List (String × String)} {v k : String}
    (h : l.getLast? = some (v, k)) : ((l.filter (·.1 = v)).map (·.2)).getLast? = some k := by
  obtain ⟨l', rfl⟩ := List.getLast?_eq_some_iff.mp h
  simp

variable {F : Foundation} {url : List Event} {o : Order} {h : List SessionOp} {u : String}

/-- A signed-in user sees the last choice of the run, if it is the user's own, and nothing
otherwise. -/
theorem storedState_run {v k : String} (hu : signedInUser h = some u)
    (hl : (accounts.run h).choices.getLast? = some (v, k)) :
    storedState F ⟨some url⟩ o (session.run h) =
      if u = v then (states F ⟨some url⟩ o).find? (fun s => s.abbreviation = k) else none := by
  have hd : (session.run h).userStateDict = some (.single v k) := by
    rw [(session_stores h).dict, hl]
    rfl
  rw [storedState_of_get hd ((userId_run h).trans hu), Dict.get_single]
  split <;> rfl

theorem storedState_run_nil (hl : (accounts.run h).choices.getLast? = none) :
    storedState F ⟨some url⟩ o (session.run h) = none := by
  apply storedState_of_dict_none
  rw [(session_stores h).dict, hl]
  rfl

/-- The choices of a run are those of its operations. -/
theorem choose_mem_of_mem_choices (h : List SessionOp) :
    ∀ c ∈ (accounts.run h).choices, SessionOp.choose c.2 ∈ h := by
  refine Machine.history_induction (M := accounts)
    (I := fun h a => ∀ c ∈ a.choices, SessionOp.choose c.2 ∈ h) (by simp [accounts]) ?_ h
    (Machine.admits_of_total (fun _ _ => trivial) h)
  intro h op _ hi _ c hc
  rw [accounts_step] at hc
  rw [List.mem_append]
  cases op with
  | signIn uid => exact .inl (hi c hc)
  | logout => exact .inl (hi c hc)
  | choose k =>
    simp only [Account.step] at hc
    split at hc
    · rw [List.mem_append, List.mem_singleton] at hc
      rcases hc with hc | rfl
      · exact .inl (hi c hc)
      · exact .inr List.mem_cons_self
    · exact .inl (hi c hc)

/-- When the choices are known, there is a state for the last one, and its user sees it. -/
theorem exists_storedState_run (hk : ∀ op ∈ h, op.Known) {v k : String}
    (hu : signedInUser h = some u) (hl : (accounts.run h).choices.getLast? = some (v, k)) :
    ∃ s ∈ states F ⟨some url⟩ o, s.abbreviation = k ∧
      storedState F ⟨some url⟩ o (session.run h) = if u = v then some s else none := by
  have hkk : k ∈ stateKeys := hk _ (choose_mem_of_mem_choices h (v, k) (List.mem_of_getLast? hl))
  obtain ⟨s, hs, rfl⟩ : ∃ s ∈ stateList F (ParserDelegate.parse F url), s.abbreviation = k :=
    exists_mem_stateList hkk
  rw [storedState_run hu hl, states_eq, find?_stateList hs]
  exact ⟨s, hs, rfl, rfl⟩

/-- Somebody sees a state exactly if the signed-in user made the last choice of the run. -/
theorem exists_storedState_iff (hk : ∀ op ∈ h, op.Known) :
    (∃ s, storedState F ⟨some url⟩ o (session.run h) = some s) ↔
      ∃ u, signedInUser h = some u ∧ lastChooser h = some u := by
  cases hu : signedInUser h with
  | none =>
    rw [storedState_of_userId_none ((userId_run h).trans hu)]
    simp
  | some u =>
    cases hl : (accounts.run h).choices.getLast? with
    | none =>
      rw [storedState_run_nil hl]
      simp [lastChooser, hl]
    | some c =>
      obtain ⟨v, k⟩ := c
      have hv : lastChooser h = some v := by simp [lastChooser, hl]
      obtain ⟨s, -, -, hs⟩ := exists_storedState_run (F := F) (o := o) hk hu hl
      rw [hs, hv]
      by_cases he : u = v
      · simp [he]
      · simp [he, Ne.symm he]

/-- **A user sees the own last choice exactly if nobody else has chosen since.** In every run whose
choices are keys of `States.stateDictionary`, for a signed-in user `u` whose most recent choice is
`k`: `storedState` is the state with the abbreviation `k` if and only if the most recent choice of
the whole run is one of `u`. -/
theorem storedState_eq_iff_lastChooser (F : Foundation) (url : List Event) (o : Order)
    (h : List SessionOp) (hk : ∀ op ∈ h, op.Known) (u k : String)
    (hu : signedInUser h = some u) (hc : lastChoice u h = some k) :
    (∃ s ∈ states F ⟨some url⟩ o, s.abbreviation = k ∧
        storedState F ⟨some url⟩ o (session.run h) = some s) ↔
      lastChooser h = some u := by
  cases hl : (accounts.run h).choices.getLast? with
  | none =>
    rw [storedState_run_nil hl]
    simp [lastChooser, hl]
  | some c =>
    obtain ⟨v, k'⟩ := c
    have hv : lastChooser h = some v := by simp [lastChooser, hl]
    obtain ⟨s, hs, hsk, heq⟩ := exists_storedState_run (F := F) (o := o) hk hu hl
    rw [heq, hv]
    constructor
    · rintro ⟨s', -, -, hs'⟩
      split at hs'
      · rename_i he; rw [he]
      · cases hs'
    · intro he
      obtain rfl : v = u := Option.some.inj he
      -- the last choice of the run is then the last choice of `u`
      have hlast := getLast?_filter_fst hl
      have hkk : k' = k := Option.some.inj (hlast.symm.trans hc)
      exact ⟨s, hs, hsk.trans hkk, if_pos rfl⟩

/-- Two users, one after the other: the second has chosen last and sees the own choice. -/
theorem storedState_eq_iff_lastChooser_two_users :
    ∃ s ∈ states default ⟨some []⟩ default, s.abbreviation = "CA" ∧
      storedState default ⟨some []⟩ default
        (session.run [.signIn "u", .choose "NY", .logout, .signIn "v", .choose "CA"]) = some s :=
  (storedState_eq_iff_lastChooser default [] default
    [.signIn "u", .choose "NY", .logout, .signIn "v", .choose "CA"] (by decide) "v" "CA"
    (by decide) (by decide)).mpr (by decide)

/-- A choice of one user takes away what another user chose before. -/
theorem not_storedState_eq_lastChoice :
    ¬ ∀ (F : Foundation) (url : List Event) (o : Order) (h : List SessionOp),
      (∀ op ∈ h, op.Known) → ∀ u k, signedInUser h = some u →
        lastChoice u h = some k → ∃ s ∈ states F ⟨some url⟩ o, s.abbreviation = k ∧
          storedState F ⟨some url⟩ o (session.run h) = some s := by
  intro hall
  obtain ⟨s, -, -, hs⟩ := hall default [] default
    [.signIn "u", .choose "NY", .logout, .signIn "v", .choose "CA", .logout, .signIn "u"]
    (by decide) "u" "NY" (by decide) (by decide)
  have hnone : storedState default ⟨some []⟩ default (session.run
      [.signIn "u", .choose "NY", .logout, .signIn "v", .choose "CA", .logout, .signIn "u"]) =
        none := rfl
  rw [hnone] at hs
  cases hs

/-- **No user sees the choice of another one.** After every run: a state that is shown belongs to
the list of states, and the signed-in user chose it last; no state is shown when nobody is signed
in, or to a user who has never chosen one; and right after a tap of a signed-in user on a state of
the list, that state is shown. A tap is the operation `choose` here; its handler does the same
writes (`storedState_didSelectItemAt`). -/
theorem storedState_own (F : Foundation) (url : List Event) (o : Order) (h : List SessionOp) :
    (∀ s, storedState F ⟨some url⟩ o (session.run h) = some s →
      ∃ u, (session.run h).userId = some u ∧ s ∈ states F ⟨some url⟩ o ∧
        lastChoice u h = some s.abbreviation) ∧
    ((session.run h).userId = none → storedState F ⟨some url⟩ o (session.run h) = none) ∧
    (∀ u, (session.run h).userId = some u → lastChoice u h = none →
      storedState F ⟨some url⟩ o (session.run h) = none) ∧
    (∀ u s, (session.run h).userId = some u → s ∈ states F ⟨some url⟩ o →
      storedState F ⟨some url⟩ o (session.run (h ++ [.choose s.abbreviation])) = some s) := by
  refine ⟨fun s hs => ?_, storedState_of_userId_none, fun u hu hc => ?_, fun u s hu hs => ?_⟩
  · cases hu : (session.run h).userId with
    | none => rw [storedState_of_userId_none hu] at hs; cases hs
    | some u =>
      refine ⟨u, rfl, ?_⟩
      cases hl : (accounts.run h).choices.getLast? with
      | none => rw [storedState_run_nil hl] at hs; cases hs
      | some c =>
        obtain ⟨v, k⟩ := c
        rw [storedState_run ((userId_run h).symm.trans hu) hl] at hs
        split at hs
        · rename_i he
          subst he
          have hsk : s.abbreviation = k := by simpa using List.find?_some hs
          rw [hsk]
          exact ⟨List.mem_of_find?_eq_some hs, getLast?_filter_fst hl⟩
        · cases hs
  · cases hl : (accounts.run h).choices.getLast? with
    | none => exact storedState_run_nil hl
    | some c =>
      obtain ⟨v, k⟩ := c
      rw [storedState_run ((userId_run h).symm.trans hu) hl, if_neg]
      rintro rfl
      have hlast : lastChoice u h = some k := getLast?_filter_fst hl
      rw [hc] at hlast
      cases hlast
  · have hu' : signedInUser h = some u := (userId_run h).symm.trans hu
    have hstep : accounts.run (h ++ [.choose s.abbreviation]) =
        { accounts.run h with choices := (accounts.run h).choices ++ [(u, s.abbreviation)] } := by
      rw [Machine.run_snoc, accounts_step, Account.step_choose hu']
    have hsign : signedInUser (h ++ [.choose s.abbreviation]) = some u := by
      rw [signedInUser, hstep]
      exact hu'
    rw [storedState_run (v := u) (k := s.abbreviation) hsign (by simp [hstep]), if_pos rfl]
    rw [states_eq] at hs ⊢
    exact find?_stateList hs

end PWR
