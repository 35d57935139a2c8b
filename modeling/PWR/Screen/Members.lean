import PWR.Roster.Stream
import PWR.Screen.Account
import PWR.Screen.Detail

/-!
# From the roster to the screens

The whole way of the data: the members of a roster document are parsed, grouped by state, offered
in the picker, chosen by a user, stored, and shown on the home screen and behind it. The roster is
any one of `PWR/Roster/Format.lean`, and the run is any one of `app`, with its one sign-in at a time.
The chosen state is the one that the tap stored (`App.ops`).

* `home_shows_members`: the home screen shows the complete members of the chosen state, in the
  order of the document, or no state.
* `tap_opens_members`: a tap in the picker opens the home screen of the state that the cell shows,
  unless the cell is a stale one of a search that was cancelled: see `tap_stores_shown_iff`.
* `member_screens`: the screens behind the home screen are those of one member of the chosen state.
-/

namespace PWR

open UserDefaultManager

/-- The state of an entry of `States.stateDictionary`, with the complete members of the roster that
name it, in the order of the document. -/
def Roster.state (F : Foundation) (r : Roster) (entry : String × String) : State :=
  stateOf F (r.members.filterMap (Member.senator F)) entry

section Members

variable {F : Foundation} {r : Roster} {o : Order}

/-- The states of the app are those of the roster. -/
theorem mem_states_iff {st : State} :
    st ∈ states F ⟨some r.events⟩ o ↔ ∃ entry ∈ stateDictionary, r.state F entry = st := by
  rw [states_eq, Roster.parse_events]
  exact mem_stateList

/-- The choice of an account is one of a known operation. -/
theorem Account.current_mem_stateKeys {ops : List SessionOp} (hk : ∀ op ∈ ops, op.Known)
    {k : String} (h : (accounts.run ops).current = some k) : k ∈ stateKeys := by
  unfold Account.current at h
  obtain ⟨u, -, h⟩ := Option.bind_eq_some_iff.mp h
  obtain ⟨c, hc, h⟩ := Option.bind_eq_some_iff.mp h
  split at h
  · obtain rfl := Option.some.inj h
    exact hk _ (choose_mem_of_mem_choices ops c (List.mem_of_getLast? hc))
  · cases h

theorem exists_accountState {ops : List SessionOp} (hk : ∀ op ∈ ops, op.Known) {k : String}
    (h : (accounts.run ops).current = some k) :
    ∃ title, (k, title) ∈ stateDictionary ∧
      accountState F ⟨some r.events⟩ o (accounts.run ops) = some (r.state F (k, title)) := by
  obtain ⟨⟨k', title⟩, he, rfl⟩ := List.mem_map.mp (Account.current_mem_stateKeys hk h)
  refine ⟨title, he, ?_⟩
  have hmem : r.state F (k', title) ∈ stateList F (r.members.filterMap (Member.senator F)) :=
    mem_stateList.mpr ⟨(k', title), he, rfl⟩
  have hfind := find?_stateList hmem
  rw [accountState, h, states_eq, Roster.parse_events]
  exact hfind

/-- A senator of a state is a complete member that names it. -/
theorem exists_member_of_mem_state {entry : String × String} {senator : Senator}
    (h : senator ∈ (r.state F entry).senators) :
    ∃ m ∈ r.members, m.senator F = some senator ∧ senator.state = entry.1 := by
  obtain ⟨hmem, hstate⟩ := List.mem_filter.mp h
  obtain ⟨m, hm, hs⟩ := List.mem_filterMap.mp hmem
  exact ⟨m, hm, hs, by simpa using hstate⟩

/-! ## The search of the picker on screen -/

/-- The search of the picker that was shown last. -/
def searchStep (a : Search) : AppEvent → Search
  | .search e => a.step e
  | .segue => {}
  | .changeState => {}
  | _ => a

/-- The search after the events `h` of the app. -/
def searchSince (h : List AppEvent) : Search := h.foldl searchStep {}

theorem searchSince_snoc (h : List AppEvent) (e : AppEvent) :
    searchSince (h ++ [e]) = searchStep (searchSince h) e := by
  simp [searchSince]

variable {url : List Event}

/-- A picker on screen is the one of its search. -/
theorem picker_holds (h : List AppEvent) (ha : (app F ⟨some url⟩ o).Admits h) :
    ∀ v, ((app F ⟨some url⟩ o).run h).screen = .picker v →
      (searchSince h).Holds F (states F ⟨some url⟩ o) v := by
  refine Machine.history_induction (M := app F ⟨some url⟩ o)
    (I := fun h s => ∀ v, s.screen = .picker v →
      (searchSince h).Holds F (states F ⟨some url⟩ o) v) nofun ?_ h ha
  intro h e ha hi he v hv
  have hmoves := (tracks_run h ha).moves he
  rw [searchSince_snoc]
  generalize (app F ⟨some url⟩ o).run h = s at hmoves hi hv
  have hv : (s.step F ⟨some url⟩ o e).screen = .picker v := hv
  rw [hv] at hmoves
  obtain ⟨d, screen⟩ := s
  cases hmoves with
  | chooseState => exact Search.Holds.load true
  | changeState vc homeVC => exact Search.Holds.load false
  | search v₀ e hrow => exact (hi v₀ rfl).step hrow

/-- A cell that is not stale shows the state that a tap on it reads. -/
theorem Search.Holds.shown_eq_items {S : List State} {a : Search} {v : PickerView}
    (h : a.Holds F S v) {row : Nat} (hst : ¬ a.Stale row) : a.shown F S row = v.vc.items[row]? := by
  rw [h.vc_items]
  unfold Search.shown
  cases hc : a.cancelled with
  | false => simp [h.fresh hc]
  | true =>
    by_cases hf : row ∈ a.fresh
    · simp [hf]
    · have hq : a.query = "" := by
        by_contra hq
        exact hst ⟨hq, hc, hf⟩
      simp [hf, Search.items, hq]

end Members

/-- **The home screen shows the members of the roster.** For every roster document and every run of
`app`: when the home screen is shown and the last tap in a picker was one of the signed-in user,
the banner, the state and the senators are those of the state that the tap stored, and the senators
are the complete members of the roster that name it, in the order of the document; otherwise the home
screen has no state. -/
theorem home_shows_members (F : Foundation) (r : Roster) (o : Order) (h : List AppEvent)
    (ha : (app F ⟨some r.events⟩ o).Admits h) (vc : HomeViewController)
    (hs : ((app F ⟨some r.events⟩ o).run h).screen = .home vc) :
    (∀ k, (accounts.run ((app F ⟨some r.events⟩ o).translate App.ops h)).current = some k →
      ∃ title, (k, title) ∈ stateDictionary ∧ vc.Presents (some (r.state F (k, title)))) ∧
    ((accounts.run ((app F ⟨some r.events⟩ o).translate App.ops h)).current = none →
      vc.Presents none) := by
  have ht := tracks_run h ha
  have hp := ht.presents hs
  refine ⟨fun k hk => ?_, fun hnone => ?_⟩
  · obtain ⟨title, he, hstate⟩ := exists_accountState (F := F) (r := r) (o := o) ht.known hk
    rw [hstate] at hp
    exact ⟨title, he, hp⟩
  · rw [accountState, hnone] at hp
    exact hp

/-- The home screen of the second of two users, both of Alabama. -/
theorem home_shows_members_twoVisits :
    ∃ vc title, ((app default ⟨some alabamaRoster.events⟩ default).run
        (twoVisits ++ [.tap 0])).screen = .home vc ∧ ("AL", title) ∈ stateDictionary ∧
      vc.Presents (some (alabamaRoster.state default ("AL", title))) := by
  obtain ⟨ha, -⟩ := (Machine.admits_snoc _ _).mp admits_twoVisits
  obtain ⟨ha', he⟩ := (Machine.admits_snoc _ _).mp ha
  obtain ⟨-, vc, hs⟩ := ((tracks_run _ ha').moves he).of_tap
  have hcurrent : (accounts.run ((app default ⟨some alabamaRoster.events⟩ default).translate App.ops
      (twoVisits ++ [.tap 0]))).current = some "AL" := by
    decide +kernel
  have hs' : ((app default ⟨some alabamaRoster.events⟩ default).run
      (twoVisits ++ [.tap 0])).screen = .home vc := by
    rw [Machine.run_snoc]
    exact hs
  obtain ⟨title, hentry, hp⟩ :=
    (home_shows_members default alabamaRoster default _ ha vc hs').1 "AL" hcurrent
  exact ⟨vc, title, hs', hentry, hp⟩

/-- **A tap in the picker opens what the cell shows.** For every roster document and every run of
`app` that is at the picker: a tap on a cell that is not a stale one of a cancelled search leads
to the home screen of the state whose title and picture the cell shows, with the complete members of
the roster that name it. -/
theorem tap_opens_members (F : Foundation) (r : Roster) (o : Order) (h : List AppEvent) (row : Nat)
    (v : PickerView) (ha : (app F ⟨some r.events⟩ o).Admits (h ++ [.tap row]))
    (hs : ((app F ⟨some r.events⟩ o).run h).screen = .picker v)
    (hst : ¬ (searchSince h).Stale row) :
    ∃ entry ∈ stateDictionary, v.cells[row]? = some (some (.state entry.2 (F.image entry.2))) ∧
      ∃ vc, ((app F ⟨some r.events⟩ o).run (h ++ [.tap row])).screen = .home vc ∧
        vc.Presents (some (r.state F entry)) := by
  obtain ⟨ha, he⟩ := (Machine.admits_snoc _ _).mp ha
  have ht := tracks_run h ha
  have hv := picker_holds h ha v hs
  rw [Machine.run_snoc]
  generalize (app F ⟨some r.events⟩ o).run h = s at hs ht he ⊢
  obtain ⟨d, screen⟩ := s
  obtain rfl : screen = .picker v := hs
  have hr : row < v.cells.length := he
  obtain ⟨st, hmem, hi, hstored, heq⟩ := ht.exists_tap hr
  obtain ⟨entry, hentry, rfl⟩ := mem_states_iff.mp hmem
  refine ⟨entry, hentry, ?_, _, congrArg App.screen heq, ?_⟩
  · rw [hv.cells row hr, hv.shown_eq_items hst, hi]
    rfl
  · -- the new home screen finds the state that was just stored
    rw [← hstored]
    exact presents_viewDidLoad _ _

/-- The tap of the second of two users, on the first state that the search has found. -/
theorem tap_opens_members_twoVisits :
    ∃ v, ((app default ⟨some alabamaRoster.events⟩ default).run twoVisits).screen = .picker v ∧
      ∃ entry ∈ stateDictionary,
        v.cells[0]? = some (some (.state entry.2 ((default : Foundation).image entry.2))) ∧
        ∃ vc, ((app default ⟨some alabamaRoster.events⟩ default).run
            (twoVisits ++ [.tap 0])).screen = .home vc ∧
          vc.Presents (some (alabamaRoster.state default entry)) := by
  obtain ⟨ha, -⟩ := (Machine.admits_snoc _ _).mp admits_twoVisits
  obtain ⟨ha', he⟩ := (Machine.admits_snoc _ _).mp ha
  obtain ⟨⟨v, hs⟩, -⟩ := ((tracks_run _ ha').moves he).of_tap
  exact ⟨v, hs, tap_opens_members default alabamaRoster default twoVisits 0 v ha hs (by decide)⟩

/-- **The screens behind the home screen are those of a member.** For every roster document, every
run of `app` to a home screen with its rows in range, and every order of taps and returns from
there: no screen traps, and all screens over the home screen are about one complete member of the
roster, which names the state that the signed-in user's last tap in a picker stored; nobody has
tapped since. -/
theorem member_screens (load : SenatorViewController → SenatorViewController)
    (hload : KeepsSenator load) (F : Foundation) (r : Roster) (o : Order) (h : List AppEvent)
    (ha : (app F ⟨some r.events⟩ o).Admits h) (vc : HomeViewController)
    (hs : ((app F ⟨some r.events⟩ o).run h).screen = .home vc) (hrows : vc.RowsInRange)
    (h' : List NavigationEvent) (ha' : (navigation load vc).Admits h') :
    ((navigation load vc).run h').trapped = false ∧
      ((navigation load vc).run h').pages.length ≤ 3 ∧
      ∃ k title, (accounts.run ((app F ⟨some r.events⟩ o).translate App.ops h)).current = some k ∧
        (k, title) ∈ stateDictionary ∧
        ∃ m ∈ r.members, ∃ senator, m.senator F = some senator ∧ senator.state = k ∧
          ∀ page ∈ ((navigation load vc).run h').pages,
            page.About (senatorScreen load (r.state F (k, title)) senator) senator.fullName
              title := by
  have ht := tracks_run h ha
  have hp := ht.presents hs
  obtain ⟨st, hst⟩ := hp.exists_state hrows
  obtain ⟨k, hk, -⟩ := Option.bind_eq_some_iff.mp hst
  obtain ⟨title, he, hstate⟩ := exists_accountState (F := F) (r := r) (o := o) ht.known hk
  rw [hstate] at hp
  have hsenators : vc.senators = (r.state F (k, title)).senators := by rw [hp]; rfl
  obtain ⟨htrap, hlen, senator, hmem, habout⟩ :=
    about_run hload hp.usersState hsenators hrows h' ha'
  obtain ⟨m, hm, hsenator, hk'⟩ := exists_member_of_mem_state hmem
  exact ⟨htrap, hlen, k, title, hk, he, m, hm, senator, hsenator, hk', habout⟩

/-- The home screen of a user who chose Alabama. -/
def alabamaHome : HomeViewController :=
  HomeViewController.viewDidLoad default ⟨some alabamaRoster.events⟩ default
    (session.run [.signIn "u", .choose "AL"]) {}

/-- Down to a bill of the second member, after a tap on the first state. -/
theorem member_screens_second :
    ((app default ⟨some alabamaRoster.events⟩ default).run
        [.launch, .signIn (.ok ⟨"u"⟩), .segue, .tap 0]).screen = .home alabamaHome ∧
      ((navigation SenatorViewController.viewDidLoad alabamaHome).run billPath).trapped = false := by
  have hcells := cells_pos_load default alabamaRoster.events default true
  have hrows : alabamaHome.RowsInRange := by decide +kernel
  have hhome : ((app default ⟨some alabamaRoster.events⟩ default).run
        [.launch, .signIn (.ok ⟨"u"⟩), .segue, .tap 0]).screen = .home alabamaHome := by
    rfl
  have hsome : alabamaHome.usersState.isSome ∧ (alabamaHome.senators[1]?).isSome := by
    decide +kernel
  obtain ⟨st, hst⟩ := Option.isSome_iff_exists.mp hsome.1
  obtain ⟨senator, hi⟩ := Option.isSome_iff_exists.mp hsome.2
  exact ⟨hhome, (member_screens SenatorViewController.viewDidLoad keepsSenator_viewDidLoad default
    alabamaRoster default [.launch, .signIn (.ok ⟨"u"⟩), .segue, .tap 0]
    ⟨trivial, trivial, trivial, hcells, trivial⟩ _ hhome hrows billPath
    (admits_billPath hst hi)).1⟩

end PWR
