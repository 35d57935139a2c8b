import PWR.Roster.States

/-!
# The persisted session (`Managers/UserDefaultsManager.swift`)

The app keeps three keys in `UserDefaults.standard`: the id of the signed-in user, the signed-in
flag and a dictionary from user ids to the abbreviation of the chosen state. No other part of the
app writes them.

A handler of the app changes the defaults by single writes (`Write`), which persist one after the
other. Each function of `UserDefaultManager` that changes the defaults is the list of its writes in
program order, so that a run can also be cut between two of them.
-/

namespace PWR

/-- The three keys of `UserDefaults.standard` that the app uses. -/
structure UserDefaults where
  userId : Option String := none
  isLoggedIn : Option Bool := none
  userStateDict : Option (Dict String) := none

/-- One write to the defaults. -/
inductive Write where
  /-- `set(bool, forKey: "isLoggedIn")` -/
  | isLoggedIn (bool : Bool)
  /-- `set(uid, forKey: "userId")` -/
  | userId (uid : String)
  /-- `removeObject(forKey: "userId")` -/
  | removeUserId
  /-- `set(userStateDictionary, forKey: "userStateDict")` -/
  | userStateDict (userStateDictionary : Dict String)

namespace UserDefaults

def write (d : UserDefaults) : Write → UserDefaults
  | .isLoggedIn bool => { d with isLoggedIn := some bool }
  | .userId uid => { d with userId := some uid }
  | .removeUserId => { d with userId := none }
  | .userStateDict userStateDictionary => { d with userStateDict := some userStateDictionary }

/-- The writes of a handler, in program order. -/
def writes (d : UserDefaults) (ws : List Write) : UserDefaults := ws.foldl write d

@[simp] theorem writes_append (d : UserDefaults) (ws ws' : List Write) :
    d.writes (ws ++ ws') = (d.writes ws).writes ws' := by
  simp [writes]

end UserDefaults

namespace UserDefaultManager

def storedUserId (d : UserDefaults) : Option String := d.userId

def storedState (F : Foundation) (b : Bundle) (o : Order) (d : UserDefaults) : Option State := do
  let dict ← d.userStateDict
  let uid ← storedUserId d
  let storedStateAbbreviation ← dict.get uid
  (states F b o).find? fun s => s.abbreviation = storedStateAbbreviation

def userIsSignedIn (d : UserDefaults) : Bool := d.isLoggedIn.getD false

def clearUserDefaults : List Write := [.isLoggedIn false, .removeUserId]

/-- The dictionary that is stored has one entry: those of other users are not carried over. -/
def setStoredState (d : UserDefaults) (abbreviation : String) : List Write :=
  match storedUserId d with
  | some uid => [.userStateDict (.single uid abbreviation)]
  | none => []

def setisLoggedInTo (bool : Bool) : List Write := [.isLoggedIn bool]

def setUserId (uid : String) : List Write := [.userId uid]

/-! ## What the writes do -/

theorem writes_setStoredState (d : UserDefaults) (abbreviation : String) :
    d.writes (setStoredState d abbreviation) =
      match d.userId with
      | some uid => { d with userStateDict := some (.single uid abbreviation) }
      | none => d := by
  obtain ⟨_ | uid, _, _⟩ := d <;> rfl

/-! ## What `storedState` reads -/

section StoredState

variable {F : Foundation} {b : Bundle} {o : Order} {d : UserDefaults}

theorem storedState_of_userId_none (h : d.userId = none) : storedState F b o d = none := by
  obtain ⟨_, _, _ | dict⟩ := d <;> simp_all [storedState, storedUserId]

theorem storedState_of_dict_none (h : d.userStateDict = none) : storedState F b o d = none := by
  simp [storedState, h]

/-- The state that a user sees is the state of the user's entry. -/
theorem storedState_of_get {dict : Dict String} {uid : String} (hd : d.userStateDict = some dict)
    (hu : d.userId = some uid) :
    storedState F b o d =
      (dict.get uid).bind fun k => (states F b o).find? fun s => s.abbreviation = k := by
  simp only [storedState, storedUserId, hd, hu, Option.bind_eq_bind, Option.bind_some]

/-- A user who has chosen a state sees it. -/
theorem storedState_of_choice {uid : String} {s : State} (hs : s ∈ states F b o)
    (hd : d.userStateDict = some (.single uid s.abbreviation)) (hu : d.userId = some uid) :
    storedState F b o d = some s := by
  rw [storedState_of_get hd hu, Dict.get_single, if_pos rfl, Option.bind_some]
  obtain ⟨parsed, hl⟩ := exists_states_eq hs
  rw [hl] at hs ⊢
  exact find?_stateList hs

theorem mem_states_of_storedState {s : State} (h : storedState F b o d = some s) :
    s ∈ states F b o := by
  unfold storedState at h
  obtain ⟨dict, -, h⟩ := Option.bind_eq_some_iff.mp h
  obtain ⟨uid, -, h⟩ := Option.bind_eq_some_iff.mp h
  obtain ⟨k, -, h⟩ := Option.bind_eq_some_iff.mp h
  exact List.mem_of_find?_eq_some h

end StoredState

end UserDefaultManager

end PWR
