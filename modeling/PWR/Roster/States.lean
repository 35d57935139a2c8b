import Mathlib.Data.List.Induction
import PWR.Lib.Keyed
import PWR.Roster.Parser

/-!
# The list of states (`Getters/SenatorGetter.swift`, `Getters/StateGetter.swift`)

`StateGetter().states` groups the parsed senators by their state, joins the groups with
`States.stateDictionary` and sorts the result by title. Swift leaves two things open: the order in
which it enumerates a dictionary, and the order of elements that compare as equal after a sort
(`sorted` is not stable in Swift 3). Both are in `Order`, which may differ from call to call.

* `getSenators_get`: the grouping loop loses no senator, duplicates none and keeps their order.
* `states_eq`: the list does not depend on the `Order`. It is `stateList`, the abstract list of the
  states by title, each with its own senators.
* `states_spec`: what the list holds, for every roster.
-/

namespace PWR

/-! ## `dataSource/States.swift` -/

/-- `States.stateDictionary`, as its entries. -/
def stateDictionary : List (String × String) :=
  [("AK", "Alaska"), ("AL", "Alabama"), ("AR", "Arkansas"), ("AZ", "Arizona"),
   ("CA", "California"), ("CO", "Colorado"), ("CT", "Connecticut"), ("DE", "Delaware"),
   ("FL", "Florida"), ("GA", "Georgia"), ("HI", "Hawaii"), ("IA", "Iowa"), ("ID", "Idaho"),
   ("IL", "Illinois"), ("IN", "Indiana"), ("KS", "Kansas"), ("KY", "Kentucky"),
   ("LA", "Louisiana"), ("MA", "Massachusetts"), ("MD", "Maryland"), ("ME", "Maine"),
   ("MI", "Michigan"), ("MN", "Minnesota"), ("MO", "Missouri"), ("MS", "Mississippi"),
   ("MT", "Montana"), ("NC", "North Carolina"), ("ND", "North Dakota"), ("NE", "Nebraska"),
   ("NH", "New Hampshire"), ("NJ", "New Jersey"), ("NM", "New Mexico"), ("NV", "Nevada"),
   ("NY", "New York"), ("OH", "Ohio"), ("OK", "Oklahoma"), ("OR", "Oregon"),
   ("PA", "Pennsylvania"), ("RI", "Rhode Island"), ("SC", "South Carolina"),
   ("SD", "South Dakota"), ("TN", "Tennessee"), ("TX", "Texas"), ("UT", "Utah"),
   ("VA", "Virginia"), ("VT", "Vermont"), ("WA", "Washington"), ("WI", "Wisconsin"),
   ("WV", "West Virginia"), ("WY", "Wyoming")]

/-- The keys of `States.stateDictionary`. -/
def stateKeys : List String := stateDictionary.map (·.1)

theorem stateKeys_nodup : stateKeys.Nodup := by decide +kernel

theorem stateTitles_nodup : (stateDictionary.map (·.2)).Nodup := by decide +kernel

/-- What Swift leaves open when it enumerates `States.stateDictionary` and sorts states by
title. -/
structure Order where
  enumeration : List (String × String)
  enumeration_perm : enumeration.Perm stateDictionary
  /-- `states.sorted { $0.title < $1.title }`. -/
  sorted : List State → List State
  sorted_perm : ∀ l, (sorted l).Perm l
  sorted_sorted : ∀ l, (sorted l).Pairwise fun a b => ¬ b.title < a.title

/-- One such order: the dictionary as it is written, sorted by insertion. -/
instance : Inhabited Order where
  default :=
    { enumeration := stateDictionary
      enumeration_perm := .refl _
      sorted := List.insertionSort fun a b => a.title ≤ b.title
      sorted_perm := List.perm_insertionSort _
      sorted_sorted := fun l => by
        have : Std.Total fun a b : State => a.title ≤ b.title := ⟨fun a b => le_total a.title b.title⟩
        have : IsTrans State fun a b => a.title ≤ b.title := ⟨fun _ _ _ => le_trans⟩
        exact (List.pairwise_insertionSort (fun a b : State => a.title ≤ b.title) l).imp not_lt_of_ge }

/-- What the app's bundle holds: the events that `XMLParser` reports for `senators.xml`, if the
file is there. -/
structure Bundle where
  senatorsXML : Option (List Event)

/-! ## `SenatorGetter` -/

/-- `getSenatorXMLUrl`. A file is represented by the events that its parse reports. -/
def getSenatorXMLUrl (b : Bundle) : Option (List Event) := b.senatorsXML

/-- The body of the loop of `getSenators`. -/
def addSenator (stateSenatorDictionary : Dict (List Senator)) (senator : Senator) :
    Dict (List Senator) :=
  match stateSenatorDictionary.get senator.state with
  | some senators => stateSenatorDictionary.set senator.state (senators ++ [senator])
  | none => stateSenatorDictionary.set senator.state [senator]

def getSenators (F : Foundation) (url : List Event) : Dict (List Senator) :=
  (ParserDelegate.parse F url).foldl addSenator .empty

/-! ## `StateGetter` -/

/-- The state of an entry of `States.stateDictionary`. -/
def mkState (F : Foundation) (senatorMap : Dict (List Senator)) (entry : String × String) : State where
  abbreviation := entry.1
  title := entry.2
  senators := (senatorMap.get entry.1).getD []
  pic := F.image entry.2

def getStates (F : Foundation) (b : Bundle) (o : Order) : Option (List State) :=
  match getSenatorXMLUrl b with
  | some url => some (o.enumeration.map (mkState F (getSenators F url)))
  | none => none

/-- `StateGetter().states`. -/
def states (F : Foundation) (b : Bundle) (o : Order) : List State :=
  match getStates F b o with
  | some states => o.sorted states
  | none => []

/-! ## The grouping loop -/

/-- The senators of the state `k`, in their order. -/
def senatorsOf (parsed : List Senator) (k : String) : List Senator := parsed.filter (·.state = k)

theorem addSenator_get (d : Dict (List Senator)) (s : Senator) (k : String) :
    (addSenator d s).get k =
      if k = s.state then some ((d.get k).getD [] ++ [s]) else d.get k := by
  unfold addSenator
  split
  · rename_i l h
    rw [Dict.get_set]
    split
    · rename_i hk; rw [hk, h]; rfl
    · rfl
  · rename_i h
    rw [Dict.get_set]
    split
    · rename_i hk; rw [hk, h]; rfl
    · rfl

/-- The loop of `getSenators`: the group of a key is the senators with that state, in the order
of the list. -/
theorem foldl_addSenator_get (l : List Senator) (k : String) :
    ((l.foldl addSenator .empty).get k).getD [] = senatorsOf l k := by
  induction l using List.reverseRecOn with
  | nil => rfl
  | append_singleton l s ih =>
    rw [List.foldl_append, List.foldl_cons, List.foldl_nil, addSenator_get, senatorsOf,
      List.filter_append]
    by_cases hk : k = s.state
    · rw [if_pos hk, Option.getD_some, ih]
      simp [senatorsOf, hk]
    · rw [if_neg hk, ih]
      simp [senatorsOf, Ne.symm hk]

theorem getSenators_get (F : Foundation) (url : List Event) (k : String) :
    ((getSenators F url).get k).getD [] = senatorsOf (ParserDelegate.parse F url) k :=
  foldl_addSenator_get _ k

/-! ## The list of states -/

/-- The state of an entry, with the senators of its key. -/
def stateOf (F : Foundation) (parsed : List Senator) (entry : String × String) : State where
  abbreviation := entry.1
  title := entry.2
  senators := senatorsOf parsed entry.1
  pic := F.image entry.2

/-- The states by title, each with its senators: what `StateGetter().states` is for. -/
def stateList (F : Foundation) (parsed : List Senator) : List State :=
  (stateDictionary.insertionSort fun a b => a.2 ≤ b.2).map (stateOf F parsed)

theorem mkState_getSenators (F : Foundation) (url : List Event) :
    mkState F (getSenators F url) = stateOf F (ParserDelegate.parse F url) := by
  funext entry
  simp [mkState, stateOf, getSenators_get]

section StateList

variable {F : Foundation} {parsed : List Senator}

theorem stateList_perm : (stateList F parsed).Perm (stateDictionary.map (stateOf F parsed)) :=
  (List.perm_insertionSort _ _).map _

theorem stateList_titles_nodup : ((stateList F parsed).map (·.title)).Nodup := by
  refine ((stateList_perm.map _).nodup_iff).mpr ?_
  rw [List.map_map]
  exact stateTitles_nodup

theorem stateList_abbreviations :
    ((stateList F parsed).map (·.abbreviation)).Perm stateKeys := by
  refine (stateList_perm.map _).trans ?_
  rw [List.map_map]
  exact List.Perm.refl _

theorem stateList_abbreviations_nodup : ((stateList F parsed).map (·.abbreviation)).Nodup :=
  stateList_abbreviations.nodup_iff.mpr stateKeys_nodup

theorem stateList_sorted : (stateList F parsed).Pairwise fun a b => a.title ≤ b.title := by
  rw [stateList, List.pairwise_map]
  have : Std.Total fun a b : String × String => a.2 ≤ b.2 := ⟨fun a b => le_total a.2 b.2⟩
  have : IsTrans (String × String) fun a b => a.2 ≤ b.2 := ⟨fun _ _ _ => le_trans⟩
  exact List.pairwise_insertionSort (fun a b : String × String => a.2 ≤ b.2) stateDictionary

/-- A state of the list is the one of an entry of the dictionary. -/
theorem mem_stateList {s : State} :
    s ∈ stateList F parsed ↔ ∃ entry ∈ stateDictionary, stateOf F parsed entry = s := by
  rw [stateList_perm.mem_iff, List.mem_map]

theorem senators_of_mem_stateList {s : State} (h : s ∈ stateList F parsed) :
    s.senators = senatorsOf parsed s.abbreviation := by
  obtain ⟨entry, -, rfl⟩ := mem_stateList.mp h
  rfl

/-- The state with a known abbreviation. -/
theorem exists_mem_stateList {k : String} (h : k ∈ stateKeys) :
    ∃ s ∈ stateList F parsed, s.abbreviation = k := by
  obtain ⟨entry, he, rfl⟩ := List.mem_map.mp h
  exact ⟨stateOf F parsed entry, mem_stateList.mpr ⟨entry, he, rfl⟩, rfl⟩

theorem abbreviation_mem_stateKeys {s : State} (h : s ∈ stateList F parsed) :
    s.abbreviation ∈ stateKeys :=
  stateList_abbreviations.subset (List.mem_map_of_mem h)

/-- The search of `storedState`: the state of the list with that abbreviation. -/
theorem find?_stateList {s : State} (h : s ∈ stateList F parsed) :
    (stateList F parsed).find? (fun x => x.abbreviation = s.abbreviation) = some s :=
  Keyed.find?_key stateList_abbreviations_nodup h

end StateList

/-- **`StateGetter().states` does not depend on the order of enumeration or of equal elements.** -/
theorem states_eq (F : Foundation) (url : List Event) (o : Order) :
    states F ⟨some url⟩ o = stateList F (ParserDelegate.parse F url) := by
  have hp : (o.sorted (o.enumeration.map (stateOf F (ParserDelegate.parse F url)))).Perm
      (stateList F (ParserDelegate.parse F url)) :=
    (o.sorted_perm _).trans ((o.enumeration_perm.map _).trans stateList_perm.symm)
  have he : states F ⟨some url⟩ o =
      o.sorted (o.enumeration.map (stateOf F (ParserDelegate.parse F url))) := by
    simp [states, getStates, getSenatorXMLUrl, mkState_getSenators]
  rw [he]
  refine Keyed.eq_of_perm_of_keySorted State.title hp ?_ ?_ stateList_sorted
  · exact ((hp.map _).nodup_iff).mpr stateList_titles_nodup
  · exact (o.sorted_sorted _).imp fun h => le_of_not_gt h

theorem states_none (F : Foundation) (o : Order) : states F ⟨none⟩ o = [] := rfl

/-- Each entry of the dictionary has its state. -/
theorem stateOf_mem_states (F : Foundation) (url : List Event) (o : Order)
    {entry : String × String} (h : entry ∈ stateDictionary) :
    stateOf F (ParserDelegate.parse F url) entry ∈ states F ⟨some url⟩ o := by
  rw [states_eq, mem_stateList]
  exact ⟨entry, h, rfl⟩

/-- Where the list has a state, the roster is in the bundle. -/
theorem exists_states_eq {F : Foundation} {b : Bundle} {o : Order} {s : State}
    (h : s ∈ states F b o) : ∃ parsed, states F b o = stateList F parsed := by
  obtain ⟨_ | url⟩ := b
  · exact absurd h List.not_mem_nil
  · exact ⟨_, states_eq F url o⟩

/-- The states are in strictly increasing order of their titles, whether the roster is in the
bundle or not. -/
theorem states_pairwise (F : Foundation) (b : Bundle) (o : Order) :
    (states F b o).Pairwise fun s t => s.title < t.title := by
  obtain ⟨_ | url⟩ := b
  · rw [states_none]
    exact List.Pairwise.nil
  · rw [states_eq]
    exact Keyed.keySorted_lt stateList_titles_nodup stateList_sorted

theorem states_titles_nodup (F : Foundation) (b : Bundle) (o : Order) :
    ((states F b o).map (·.title)).Nodup := by
  rw [List.Nodup, List.pairwise_map]
  exact (states_pairwise F b o).imp ne_of_lt

/-- A senator of a state carries the state's code. -/
theorem state_of_mem_senators {F : Foundation} {b : Bundle} {o : Order} {s : State}
    (h : s ∈ states F b o) {x : Senator} (hx : x ∈ s.senators) : x.state = s.abbreviation := by
  obtain ⟨parsed, hl⟩ := exists_states_eq h
  rw [hl] at h
  rw [senators_of_mem_stateList h] at hx
  simpa using (List.mem_filter.mp hx).2

/-- The senators of the states together: each known senator as often as it was parsed. -/
theorem count_stateList (F : Foundation) (parsed : List Senator) (x : Senator) :
    ((stateList F parsed).flatMap (·.senators)).count x =
      if x.state ∈ stateKeys then parsed.count x else 0 := by
  have he : (stateList F parsed).flatMap (·.senators) =
      ((stateList F parsed).map (·.abbreviation)).flatMap (senatorsOf parsed) := by
    rw [List.flatMap_map]
    exact List.flatMap_congr fun s hs => senators_of_mem_stateList hs
  rw [he]
  unfold senatorsOf
  rw [Keyed.count_flatMap_filter_key Senator.state stateList_abbreviations_nodup]
  simp only [stateList_abbreviations.mem_iff]

/-- **The list of states.** For every roster, every order of enumeration and every sorting by
title: the list is the same, it has one state for each key of `States.stateDictionary`, in
strictly increasing order of the titles; the senators of a state are the parsed ones with its
code, in document order; so a senator with a known code appears as often as it was parsed, and one
with an unknown code nowhere. -/
theorem states_spec (F : Foundation) (url : List Event) (o o' : Order) :
    let parsed := ParserDelegate.parse F url
    let l := states F ⟨some url⟩ o
    l = states F ⟨some url⟩ o' ∧
      (l.map fun s => (s.abbreviation, s.title)).Perm stateDictionary ∧
      (l.map (·.abbreviation)).Nodup ∧
      (l.Pairwise fun a b => a.title < b.title) ∧
      (∀ s ∈ l, s.senators = parsed.filter (·.state = s.abbreviation)) ∧
      (∀ x : Senator, x.state ∈ stateKeys → (l.flatMap (·.senators)).count x = parsed.count x) ∧
      (∀ x : Senator, x.state ∉ stateKeys → ∀ s ∈ l, x ∉ s.senators) := by
  intro parsed l
  have hl : l = stateList F parsed := states_eq F url o
  refine ⟨?_, ?_, ?_, ?_, ?_, ?_, ?_⟩
  · rw [hl, states_eq]
  · rw [hl]
    refine (stateList_perm.map _).trans ?_
    rw [List.map_map]
    exact List.Perm.of_eq (List.map_id _)
  · rw [hl]
    exact stateList_abbreviations_nodup
  · rw [hl]
    exact Keyed.keySorted_lt stateList_titles_nodup stateList_sorted
  · intro s hs
    rw [hl] at hs
    exact senators_of_mem_stateList hs
  · intro x hx
    rw [hl, count_stateList, if_pos hx]
  · intro x hx s hs hxs
    rw [hl] at hs
    rw [senators_of_mem_stateList hs, senatorsOf, List.mem_filter] at hxs
    have hk : x.state = s.abbreviation := by simpa using hxs.2
    exact hx (hk ▸ abbreviation_mem_stateKeys hs)

/-- The events of a member of the state `k`. -/
def sampleMember (k : String) : List Event :=
  .didStartElement "member" :: requiredKeys.flatMap (fun key =>
    [.didStartElement key, .foundCharacters (if key = "state" then k else key),
      .didEndElement key]) ++ [.didEndElement "member"]

/-- The events of a document with a member for each of the states `ks`. -/
def sampleEvents (ks : List String) : List Event :=
  .didStartElement "contact_information" ::
    (ks.flatMap sampleMember ++ [.didEndElement "contact_information", .didEndDocument])

end PWR
