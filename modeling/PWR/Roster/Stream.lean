import PWR.Roster.Format
import PWR.Lib.Keyed

/-!
# Any stream of callbacks

Nothing here assumes a roster, a well-formed document or even balanced tags: the delegate is given
callbacks in any order.

* `feed_eq_of_segments`: the delegate depends on the tags and on the text between two of them, not
  on how the text was cut into callbacks.
* `exists_parse_iff`: which lists of senators the parser can return. The texts of each are trimmed,
  and every list of such senators is the result of a roster.
* `parse_eq_nil`: a stream that is cut off before the end of the document gives no senators.
* `parse_eq_of_texts`: of a roster only the fields of its members count, in any order.
-/

namespace PWR

open ParserDelegate

/-! ## Tags and the text between them -/

/-- The events that are not text, each with the text since the one before, and the text at the end.
The text `t` has been read already. -/
def segments (t : String) : List Event → List (String × Event) × String
  | [] => ([], t)
  | .foundCharacters string :: es => segments (t ++ string) es
  | e :: es => ((t, e) :: (segments "" es).1, (segments "" es).2)

/-- The delegate `p` after the text and the events of `segs`, and the text `t` at the end. -/
def replay (F : Foundation) (p : ParserDelegate) (segs : List (String × Event)) (t : String) :
    ParserDelegate :=
  (segs.foldl (fun p seg => (p.foundCharacters seg.1).handle F seg.2) p).foundCharacters t

section Segments

variable {F : Foundation} {p : ParserDelegate}

@[simp] theorem foundCharacters_foundCharacters (s t : String) :
    (p.foundCharacters s).foundCharacters t = p.foundCharacters (s ++ t) := by
  simp [foundCharacters, String.append_assoc]

@[simp] theorem foundCharacters_empty : p.foundCharacters "" = p := by
  simp [foundCharacters]

/-- The delegate reads a stream as its segments. -/
theorem feed_foundCharacters (t : String) (es : List Event) :
    feed F (p.foundCharacters t) es = replay F p (segments t es).1 (segments t es).2 := by
  induction es generalizing p t with
  | nil => rfl
  | cons e es ih =>
    cases e with
    | foundCharacters s =>
      rw [feed_cons, handle, foundCharacters_foundCharacters, ih]
      rfl
    | _ =>
      rw [feed_cons]
      conv_lhs => rw [← foundCharacters_empty (p := (p.foundCharacters t).handle F _), ih]
      rfl

end Segments

/-- **Only the tags and the text between them count.** Two streams of callbacks with the same tags
and the same text between each two of them leave every delegate in the same state, however the text
of either is cut into callbacks. -/
theorem feed_eq_of_segments (F : Foundation) (p : ParserDelegate) {es es' : List Event}
    (h : segments "" es = segments "" es') : feed F p es = feed F p es' := by
  rw [← foundCharacters_empty (p := p), feed_foundCharacters, feed_foundCharacters, h]

/-- A text in one piece, and in three with an empty one. -/
theorem feed_eq_of_segments_pieces :
    feed default {} [.didStartElement "party", .foundCharacters "Green", .didEndElement "party"] =
      feed default {} [.didStartElement "party", .foundCharacters "Gr", .foundCharacters "",
        .foundCharacters "een", .didEndElement "party"] :=
  feed_eq_of_segments default {} (by decide +kernel)

/-! ## Trimmed texts -/

/-- The text has no white space at its ends. -/
def Trimmed (s : String) : Prop := trimmingCharacters s = s

instance (s : String) : Decidable (Trimmed s) := inferInstanceAs (Decidable (_ = _))

theorem trimmed_trimmingCharacters (s : String) : Trimmed (trimmingCharacters s) := by
  unfold Trimmed trimmingCharacters
  rw [String.toList_ofList, trim_trim]

theorem trimmed_empty : Trimmed "" := by decide +kernel

/-- The texts of a senator are trimmed, and the website is made from a trimmed text. -/
structure Senator.FromTexts (F : Foundation) (s : Senator) : Prop where
  firstName : Trimmed s.firstName
  lastName : Trimmed s.lastName
  party : Trimmed s.party
  state : Trimmed s.state
  address : Trimmed s.address
  phone : Trimmed s.phone
  website : ∃ web, Trimmed web ∧ s.website = F.url web
  memberID : Trimmed s.memberID

/-- Each entry of the dictionary is trimmed. -/
def Dict.AllTrimmed (d : Dict String) : Prop := ∀ k v, d.get k = some v → Trimmed v

theorem Dict.AllTrimmed.set {d : Dict String} (h : d.AllTrimmed) (k : String) {v : String}
    (hv : Trimmed v) : (d.set k v).AllTrimmed := by
  intro k' v' hget
  rw [Dict.get_set] at hget
  split at hget
  · rwa [← Option.some.inj hget]
  · exact h k' v' hget

theorem Dict.AllTrimmed.getD {d : Dict String} (h : d.AllTrimmed) (k : String) :
    Trimmed ((d.get k).getD "") := by
  cases hk : d.get k with
  | none => exact trimmed_empty
  | some v => exact h k v hk

theorem Senator.FromTexts.of_init? {F : Foundation} {d : Dict String} {s : Senator}
    (hd : d.AllTrimmed) (h : Senator.init? F d = some s) : s.FromTexts F := by
  rw [Senator.init?_eq] at h
  split at h
  · obtain rfl := Option.some.inj h
    exact ⟨hd.getD _, hd.getD _, hd.getD _, hd.getD _, hd.getD _, hd.getD _, ⟨_, hd.getD _, rfl⟩,
      hd.getD _⟩
  · cases h

/-! ## What the parser returns -/

/-- Everything that the delegate has written is trimmed. -/
structure AllTrimmed (F : Foundation) (p : ParserDelegate) : Prop where
  object : p.object.AllTrimmed
  objArray : ∀ d ∈ p.objArray, d.AllTrimmed
  senators : ∀ s ∈ p.senators, s.FromTexts F

namespace AllTrimmed

variable {F : Foundation} {p : ParserDelegate}

theorem didStartElement (h : AllTrimmed F p) (n : String) : AllTrimmed F (p.didStartElement n) := by
  unfold ParserDelegate.didStartElement
  split
  · exact ⟨h.object.set n trimmed_empty, h.objArray, h.senators⟩
  · exact h

theorem endMember (h : AllTrimmed F p) :
    AllTrimmed F { p with objArray := p.objArray ++ [p.object], object := .empty } := by
  refine ⟨nofun, ?_, h.senators⟩
  intro d hd
  rcases List.mem_append.mp hd with hd | hd
  · exact h.objArray d hd
  · rw [List.mem_singleton.mp hd]
    exact h.object

theorem didEndElement (h : AllTrimmed F p) (n : String) : AllTrimmed F (p.didEndElement n) := by
  -- the end of a member first, then the end of the current element
  have hset : ∀ {q : ParserDelegate}, AllTrimmed F q → AllTrimmed F
      (if n = q.currentElement then { q with
        object := q.object.set q.currentElement (trimmingCharacters q.currentString)
        currentString := "" } else q) := by
    intro q hq
    split
    · exact ⟨hq.object.set _ (trimmed_trimmingCharacters _), hq.objArray, hq.senators⟩
    · exact hq
  unfold ParserDelegate.didEndElement
  by_cases hn : n = "member"
  · simpa only [hn, if_true] using hset h.endMember
  · simpa only [hn, if_false] using hset h

theorem parserDidEndDocument (h : AllTrimmed F p) : AllTrimmed F (p.parserDidEndDocument F) := by
  refine ⟨h.object, h.objArray, ?_⟩
  intro s hs
  obtain ⟨d, hd, hinit⟩ := List.mem_filterMap.mp hs
  exact .of_init? (h.objArray d hd) hinit

theorem feed (h : AllTrimmed F p) (es : List Event) : AllTrimmed F (p.feed F es) := by
  induction es generalizing p with
  | nil => exact h
  | cons e es ih =>
    cases e with
    | didStartElement n => exact ih (h.didStartElement n)
    | didEndElement n => exact ih (h.didEndElement n)
    | foundCharacters s => exact ih ⟨h.object, h.objArray, h.senators⟩
    | didEndDocument => exact ih h.parserDidEndDocument

end AllTrimmed

/-! ## A document for a list of senators -/

/-- No white space. -/
def Gap.none : Gap := ⟨[], nofun⟩

/-- The member of a senator, with the text that the website is made from. -/
def Senator.member (s : Senator) (web : String) : Member where
  lead := .none
  fields := [(⟨"first_name", [s.firstName]⟩, .none), (⟨"last_name", [s.lastName]⟩, .none),
    (⟨"party", [s.party]⟩, .none), (⟨"state", [s.state]⟩, .none),
    (⟨"address", [s.address]⟩, .none), (⟨"phone", [s.phone]⟩, .none),
    (⟨"website", [web]⟩, .none), (⟨"bioguide_id", [s.memberID]⟩, .none)]
  distinct := by simp
  flat := by simp

/-- The roster with these members and nothing else. -/
def rosterOf (ms : List Member) : Roster where
  root := "contact_information"
  root_ne := by decide
  root_not_required := by decide
  lead := .none
  items := ms.map fun m => (.member m, .none)

/-- A roster with two members for Alabama, the first state of the picker. -/
def alabamaRoster : Roster :=
  rosterOf [Senator.member ⟨"Jane", "Roe", "I", "AL", "", "", none, "R000001"⟩ "",
    Senator.member ⟨"John", "Doe", "I", "AL", "", "", none, "D000001"⟩ ""]

section Document

variable {F : Foundation}

/-- The element of a trimmed text has that text. -/
theorem Field.text_of_trimmed {name t : String} (h : Trimmed t) : Field.text ⟨name, [t]⟩ = t := by
  have hjoin : String.join [t] = t := by simp
  rw [Field.text, hjoin]
  exact h

theorem Senator.FromTexts.member_senator {s : Senator} (h : s.FromTexts F) {web : String}
    (hweb : Trimmed web) (hurl : s.website = F.url web) : (s.member web).senator F = some s := by
  have hc : (s.member web).Complete := by
    simp [Member.Complete, Senator.member, requiredKeys]
  have htext : ∀ key name t, Trimmed t →
      findField (s.member web).fields key = some ⟨name, [t]⟩ → (s.member web).text key = t := by
    intro key name t ht hf
    rw [Member.text, Dict.get, Member.dict, hf, Option.map_some, Option.getD_some,
      Field.text_of_trimmed ht]
  unfold Member.senator
  rw [if_pos hc, htext "first_name" _ _ h.firstName rfl, htext "last_name" _ _ h.lastName rfl,
    htext "party" _ _ h.party rfl, htext "state" _ _ h.state rfl,
    htext "address" _ _ h.address rfl, htext "phone" _ _ h.phone rfl,
    htext "website" _ _ hweb rfl, htext "bioguide_id" _ _ h.memberID rfl, ← hurl]

theorem Roster.parse_events (r : Roster) :
    parse F r.events = r.members.filterMap (Member.senator F) := by
  obtain ⟨p, hfeed, hs⟩ := r.feed_events (F := F)
  rw [parse, hfeed, ← hs]
  rfl

theorem members_rosterOf (ms : List Member) : (rosterOf ms).members = ms := by
  simp [Roster.members, rosterOf, itemsMembers, List.filterMap_map, Item.member?]

/-- Senators with trimmed texts have members. -/
theorem exists_members {l : List Senator} (h : ∀ s ∈ l, s.FromTexts F) :
    ∃ ms : List Member, ms.filterMap (Member.senator F) = l := by
  induction l with
  | nil => exact ⟨[], rfl⟩
  | cons s l ih =>
    obtain ⟨ms, hms⟩ := ih fun s' hs' => h s' (List.mem_cons_of_mem _ hs')
    have hs := h s List.mem_cons_self
    obtain ⟨web, hweb, hurl⟩ := hs.website
    exact ⟨s.member web :: ms, by rw [List.filterMap_cons, hs.member_senator hweb hurl, hms]⟩

end Document

/-- **What the parser can return.** A list of senators is the result of some stream of callbacks,
well formed or not, if and only if the texts of each senator have no white space at their ends and
the website is made from such a text. It is then the result of a roster too. -/
theorem exists_parse_iff (F : Foundation) (l : List Senator) :
    ((∃ es, parse F es = l) ↔ ∀ s ∈ l, s.FromTexts F) ∧
      ((∃ es, parse F es = l) ↔ ∃ r : Roster, parse F r.events = l) := by
  have hiff : (∃ es, parse F es = l) → ∀ s ∈ l, s.FromTexts F := by
    rintro ⟨es, rfl⟩
    have hinit : AllTrimmed F {} := ⟨nofun, nofun, nofun⟩
    exact (hinit.feed es).senators
  have hroster : (∀ s ∈ l, s.FromTexts F) → ∃ r : Roster, parse F r.events = l := by
    intro h
    obtain ⟨ms, rfl⟩ := exists_members h
    exact ⟨rosterOf ms, by rw [Roster.parse_events, members_rosterOf]⟩
  refine ⟨⟨hiff, fun h => ?_⟩, ⟨fun h => hroster (hiff h), ?_⟩⟩
  · obtain ⟨r, hr⟩ := hroster h
    exact ⟨r.events, hr⟩
  · rintro ⟨r, hr⟩
    exact ⟨r.events, hr⟩

/-! ## Streams that are cut off -/

/-- Only the end of the document stores senators. -/
theorem senators_handle {F : Foundation} {p : ParserDelegate} {e : Event}
    (he : e ≠ .didEndDocument) : (p.handle F e).senators = p.senators := by
  cases e with
  | didStartElement name =>
    show (p.didStartElement name).senators = p.senators
    unfold ParserDelegate.didStartElement
    split <;> rfl
  | didEndElement name =>
    show (p.didEndElement name).senators = p.senators
    unfold ParserDelegate.didEndElement
    by_cases hm : name = "member"
    · simp only [if_pos hm]
      split <;> rfl
    · simp only [if_neg hm]
      split <;> rfl
  | foundCharacters string => rfl
  | didEndDocument => exact absurd rfl he

/-- A stream without the end of the document has no senators, wherever it was cut off. -/
theorem parse_eq_nil {F : Foundation} {es : List Event} (hes : Event.didEndDocument ∉ es) :
    parse F es = [] := by
  have hfeed : ∀ p : ParserDelegate, (ParserDelegate.feed F p es).senators = p.senators := by
    induction es with
    | nil => exact fun p => rfl
    | cons e es ih =>
      intro p
      have he : e ≠ .didEndDocument := fun h => hes (h ▸ List.mem_cons_self)
      rw [feed_cons, ih (fun h => hes (List.mem_cons_of_mem _ h)), senators_handle he]
  exact hfeed {}

/-! ## What counts in a roster -/

/-- The names and the texts of the fields of a member. -/
def Member.texts (m : Member) : List (String × String) := m.fields.map fun f => (f.1.name, f.1.text)

section Texts

variable {F : Foundation}

/-- The entry of a key is the text of the field with that name. -/
theorem Member.get_dict_eq_some {m : Member} {key t : String} :
    m.dict.get key = some t ↔ (key, t) ∈ m.texts := by
  have hnodup : ((m.fields.map (·.1)).map Field.name).Nodup := by
    rw [List.map_map]
    exact m.distinct
  constructor
  · intro h
    obtain ⟨f, hf, rfl⟩ := Option.map_eq_some_iff.mp h
    obtain ⟨fg, hmem, rfl⟩ := List.mem_map.mp (List.mem_of_find?_eq_some hf)
    have hname : fg.1.name = key := by simpa using List.find?_some hf
    exact List.mem_map.mpr ⟨fg, hmem, by rw [hname]⟩
  · intro h
    obtain ⟨fg, hmem, heq⟩ := List.mem_map.mp h
    obtain ⟨rfl, rfl⟩ := Prod.mk.inj heq
    have hfind : findField m.fields fg.1.name = some fg.1 :=
      Keyed.find?_key hnodup (List.mem_map_of_mem hmem)
    show (findField m.fields fg.1.name).map Field.text = some fg.1.text
    rw [hfind]
    rfl

/-- The order of the fields does not count. -/
theorem Member.senator_eq_of_perm {m m' : Member} (h : m.texts.Perm m'.texts) :
    m.senator F = m'.senator F := by
  have hdict : ∀ k ∈ requiredKeys, m.dict.get k = m'.dict.get k := by
    intro k _
    apply Option.ext
    intro t
    rw [Member.get_dict_eq_some, Member.get_dict_eq_some, h.mem_iff]
  rw [← m.init?_eq_senator fun k _ => rfl, ← m'.init?_eq_senator hdict]

end Texts

/-- **Only the fields of the members count.** Two rosters whose members have the same names and texts
of fields, one after the other and each in any order, are read as the same senators: whatever the
root, the white space, the elements outside the members and the cuts of the texts are. -/
theorem parse_eq_of_texts (F : Foundation) (r r' : Roster)
    (h : List.Forall₂ (fun m m' => m.texts.Perm m'.texts) r.members r'.members) :
    parse F r.events = parse F r'.events := by
  rw [Roster.parse_events, Roster.parse_events]
  generalize r.members = ms, r'.members = ms' at h ⊢
  induction h with
  | nil => rfl
  | cons hm _ ih => rw [List.filterMap_cons, List.filterMap_cons, Member.senator_eq_of_perm hm, ih]

/-- A member, and the same one with its fields in another order, one of them in two pieces with
white space around. -/
theorem parse_eq_of_texts_pieces :
    parse default (rosterOf [⟨.none, [(⟨"first_name", ["a"]⟩, .none), (⟨"last_name", ["b"]⟩, .none),
        (⟨"party", ["D"]⟩, .none), (⟨"state", ["NY"]⟩, .none), (⟨"address", ["c"]⟩, .none),
        (⟨"phone", ["d"]⟩, .none), (⟨"website", ["e"]⟩, .none), (⟨"bioguide_id", ["f"]⟩, .none)],
        by decide, by decide⟩]).events =
      parse default (rosterOf [⟨.none, [(⟨"state", [" N", "Y"]⟩, .none),
        (⟨"first_name", ["a"]⟩, .none), (⟨"last_name", ["b"]⟩, .none), (⟨"party", ["D"]⟩, .none),
        (⟨"address", ["c"]⟩, .none), (⟨"phone", ["d"]⟩, .none), (⟨"website", ["e"]⟩, .none),
        (⟨"bioguide_id", ["f"]⟩, .none)], by decide, by decide⟩]).events :=
  parse_eq_of_texts default _ _ (.cons (by decide +kernel) .nil)

end PWR
