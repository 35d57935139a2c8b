import PWR.Roster.Parser

/-!
# The roster format, and that the parser reads it

The format of `dataSource/senators.xml` as event streams: a root element that contains members
and other flat elements (`last_updated`) in any order; a member contains flat fields with distinct
names. Outside the fields and the other elements there is only white space. Character data comes
in any number of chunks, cut at any positions, or in none for an empty element.

* `Member.senator`: what a member says, with no reference to the parser. Each text is the trimmed
  concatenation of the chunks of the member's own element.
* `parse_roster`: the parser reads every roster as the senators of its members, in document order.

The white space between two elements goes into the buffer of the next one, so the proof carries an
invariant on the delegate between elements (`Clean`): the buffer has only white space, and the
object has no required key when no member is open.
-/

namespace PWR

open ParserDelegate

/-! ## The format -/

/-- A flat element: its name and its character data, as it is delivered. -/
structure Field where
  name : String
  chunks : List String
  deriving DecidableEq, Repr

namespace Field

def events (f : Field) : List Event :=
  .didStartElement f.name :: (f.chunks.map .foundCharacters ++ [.didEndElement f.name])

/-- The text of the element: the trimmed concatenation of its chunks. -/
def text (f : Field) : String := trimmingCharacters (String.join f.chunks)

end Field

/-- The white space between two elements, as it is delivered. -/
structure Gap where
  chunks : List String
  whitespace : ∀ c ∈ chunks, IsWhitespace c

def Gap.events (g : Gap) : List Event := g.chunks.map .foundCharacters

/-- A member: its fields, each with the white space after it. -/
structure Member where
  lead : Gap
  fields : List (Field × Gap)
  distinct : (fields.map (·.1.name)).Nodup
  flat : ∀ f ∈ fields, f.1.name ≠ "member"

/-- The events of fields, each with the white space after it. -/
def fieldsEvents (fields : List (Field × Gap)) : List Event :=
  fields.flatMap fun f => f.1.events ++ f.2.events

/-- The field of that name. -/
def findField (fields : List (Field × Gap)) (key : String) : Option Field :=
  (fields.map (·.1)).find? (·.name = key)

namespace Member

def events (m : Member) : List Event :=
  .didStartElement "member" :: (m.lead.events ++ fieldsEvents m.fields ++ [.didEndElement "member"])

/-- The texts of the member's fields, by their names. -/
def dict (m : Member) : Dict String := fun key => (findField m.fields key).map Field.text

/-- The text of the field of that name, empty if the member has none. -/
def text (m : Member) (key : String) : String := (m.dict.get key).getD ""

/-- The member has a field for each required key. -/
def Complete (m : Member) : Prop := ∀ k ∈ requiredKeys, ∃ f ∈ m.fields, f.1.name = k

instance (m : Member) : Decidable m.Complete := List.decidableBAll _ requiredKeys

/-- The senator that a complete member describes. -/
def senator (F : Foundation) (m : Member) : Option Senator :=
  if m.Complete then
    some
      { firstName := m.text "first_name"
        lastName := m.text "last_name"
        party := m.text "party"
        state := m.text "state"
        address := m.text "address"
        phone := m.text "phone"
        website := F.url (m.text "website")
        memberID := m.text "bioguide_id" }
  else none

end Member

/-- A child of the root element. -/
inductive Item where
  | member (m : Member)
  | other (f : Field) (hm : f.name ≠ "member") (hr : f.name ∉ requiredKeys)

namespace Item

def events : Item → List Event
  | member m => m.events
  | other f _ _ => f.events

def member? : Item → Option Member
  | member m => some m
  | other _ _ _ => none

end Item

/-- A roster: the root element with its children, each with the white space after it. -/
structure Roster where
  root : String
  root_ne : root ≠ "member"
  root_not_required : root ∉ requiredKeys
  lead : Gap
  items : List (Item × Gap)

/-- The events of children of the root, each with the white space after it. -/
def itemsEvents (items : List (Item × Gap)) : List Event :=
  items.flatMap fun i => i.1.events ++ i.2.events

/-- The members among children of the root. -/
def itemsMembers (items : List (Item × Gap)) : List Member := items.filterMap (·.1.member?)

namespace Roster

def events (r : Roster) : List Event :=
  .didStartElement r.root ::
    (r.lead.events ++ itemsEvents r.items ++ [.didEndElement r.root, .didEndDocument])

/-- The members of the roster, in document order. -/
def members (r : Roster) : List Member := itemsMembers r.items

end Roster

/-! ## The delegate between two elements -/

/-- Between two elements the buffer has only white space. -/
structure Ready (p : ParserDelegate) : Prop where
  buffer : IsWhitespace p.currentString
  current : p.currentElement ≠ "member"

/-- Between two children of the root there is also no entry for a required key. -/
structure Clean (p : ParserDelegate) : Prop extends Ready p where
  object : ∀ k ∈ requiredKeys, p.object.get k = none

variable {F : Foundation} {p : ParserDelegate}

theorem Gap.isWhitespace_join (g : Gap) : IsWhitespace (String.join g.chunks) := by
  obtain ⟨chunks, hw⟩ := g
  induction chunks with
  | nil => simpa using isWhitespace_empty
  | cons c cs ih =>
    rw [String.join_cons]
    exact (hw c List.mem_cons_self).append (ih fun c' h => hw c' (List.mem_cons_of_mem _ h))

theorem feed_gap (g : Gap) :
    feed F p g.events = { p with currentString := p.currentString ++ String.join g.chunks } :=
  feed_chunks g.chunks

theorem Ready.feed_gap (hp : Ready p) (g : Gap) : Ready (feed F p g.events) := by
  rw [PWR.feed_gap]
  exact ⟨hp.buffer.append g.isWhitespace_join, hp.current⟩

theorem Clean.feed_gap (hp : Clean p) (g : Gap) : Clean (feed F p g.events) := by
  refine ⟨hp.toReady.feed_gap g, ?_⟩
  rw [PWR.feed_gap]
  exact hp.object

/-- A flat element after white space: its entry is its own text. -/
theorem Ready.feed_field (hp : Ready p) (f : Field) (hf : f.name ≠ "member") :
    feed F p f.events = { p with
      currentString := "", currentElement := f.name, object := p.object.set f.name f.text } := by
  unfold Field.events
  rw [ParserDelegate.feed_field hf, trimmingCharacters_append hp.buffer]
  rfl

/-! ## Members -/

theorem findField_eq_none {fields : List (Field × Gap)} {key : String} :
    findField fields key = none ↔ ∀ f ∈ fields, f.1.name ≠ key := by
  simp [findField]

/-- The fields of a member: the entries are their texts, and the other entries stay. -/
theorem Ready.feed_fields (fields : List (Field × Gap)) (hd : (fields.map (·.1.name)).Nodup)
    (hf : ∀ f ∈ fields, f.1.name ≠ "member") {p : ParserDelegate} (hp : Ready p) :
    Ready (feed F p (fieldsEvents fields)) ∧
      (feed F p (fieldsEvents fields)).objArray = p.objArray ∧
      ∀ k, (feed F p (fieldsEvents fields)).object.get k =
        ((findField fields k).map Field.text).or (p.object.get k) := by
  induction fields generalizing p with
  | nil => exact ⟨hp, rfl, fun k => by simp [findField, fieldsEvents]⟩
  | cons f rest ih =>
    obtain ⟨f, g⟩ := f
    rw [List.map_cons, List.nodup_cons] at hd
    have hne : f.name ≠ "member" := hf (f, g) List.mem_cons_self
    have hfeed : feed F p (fieldsEvents ((f, g) :: rest)) =
        feed F (feed F (feed F p f.events) g.events) (fieldsEvents rest) := by
      simp only [fieldsEvents, List.flatMap_cons, feed_append]
    -- the delegate after the field and the white space that follows it
    have hq : Ready (feed F (feed F p f.events) g.events) := by
      rw [hp.feed_field f hne]
      exact Ready.feed_gap ⟨isWhitespace_empty, hne⟩ g
    obtain ⟨hr, ha, ho⟩ := ih hd.2 (fun f' h => hf f' (List.mem_cons_of_mem _ h)) hq
    rw [hfeed]
    refine ⟨hr, ?_, fun k => ?_⟩
    · rw [ha, PWR.feed_gap, hp.feed_field f hne]
    · rw [ho k, PWR.feed_gap, hp.feed_field f hne, Dict.get_set]
      by_cases hk : k = f.name
      · subst hk
        have hnone : findField rest f.name = none := by
          rw [findField_eq_none]
          intro f' hf' he
          exact hd.1 (he ▸ List.mem_map_of_mem hf')
        rw [hnone]
        simp [findField]
      · simp [findField, hk, Ne.symm hk]

theorem Member.complete_iff (m : Member) :
    m.Complete ↔ ∀ k ∈ requiredKeys, (m.dict.get k).isSome := by
  unfold Member.Complete
  refine forall₂_congr fun k _ => ?_
  show _ ↔ ((findField m.fields k).map Field.text).isSome = true
  rw [Option.isSome_map, Option.isSome_iff_ne_none, Ne, findField_eq_none]
  push Not
  exact Iff.rfl

/-- A dictionary whose entries for the required keys are the member's texts gives the member's
senator. -/
theorem Member.init?_eq_senator (m : Member) {d : Dict String}
    (h : ∀ k ∈ requiredKeys, d.get k = m.dict.get k) : Senator.init? F d = m.senator F := by
  rw [Senator.init?_congr h, Senator.init?_eq]
  unfold Member.senator
  by_cases hc : m.Complete
  · rw [if_pos hc, if_pos ((Member.complete_iff m).mp hc)]
    rfl
  · rw [if_neg hc, if_neg fun h' => hc ((Member.complete_iff m).mpr h')]

/-- A member adds its object to `objArray`, and leaves no entry behind. -/
theorem Clean.feed_member (hp : Clean p) (m : Member) :
    Clean (feed F p m.events) ∧
      ∃ o, (feed F p m.events).objArray = p.objArray ++ [o] ∧ Senator.init? F o = m.senator F := by
  obtain ⟨hr, ha, ho⟩ := (hp.toReady.feed_gap m.lead).feed_fields (F := F) m.fields m.distinct m.flat
  have hfeed : feed F p m.events = (feed F (feed F p m.lead.events)
      (fieldsEvents m.fields)).didEndElement "member" := by
    simp only [Member.events, feed_cons, feed_append, handle, didStartElement_member, feed_nil]
  rw [hfeed, didEndElement_member hr.current]
  refine ⟨⟨⟨hr.buffer, hr.current⟩, fun k _ => rfl⟩,
    (feed F (feed F p m.lead.events) (fieldsEvents m.fields)).object, ?_, ?_⟩
  · rw [ha, PWR.feed_gap]
  · refine m.init?_eq_senator fun k hk => ?_
    rw [ho k, PWR.feed_gap, hp.object k hk, Option.or_none]
    rfl

/-- An element outside the members changes no required entry. -/
theorem Clean.feed_other (hp : Clean p) {f : Field} (hm : f.name ≠ "member")
    (hr : f.name ∉ requiredKeys) :
    Clean (feed F p f.events) ∧ (feed F p f.events).objArray = p.objArray := by
  rw [hp.toReady.feed_field f hm]
  refine ⟨⟨⟨isWhitespace_empty, hm⟩, fun k hk => ?_⟩, rfl⟩
  rw [Dict.get_set_ne _ _ fun he : k = f.name => hr (he ▸ hk)]
  exact hp.object k hk

/-! ## Rosters -/

/-- The children of the root: one object for each member, in document order. -/
theorem Clean.feed_items (items : List (Item × Gap)) {p : ParserDelegate} (hp : Clean p) :
    Clean (feed F p (itemsEvents items)) ∧
      (feed F p (itemsEvents items)).objArray.filterMap (Senator.init? F) =
        p.objArray.filterMap (Senator.init? F) ++
          (itemsMembers items).filterMap (Member.senator F) := by
  induction items generalizing p with
  | nil => exact ⟨hp, by simp [itemsEvents, itemsMembers]⟩
  | cons i rest ih =>
    obtain ⟨i, g⟩ := i
    have hfeed : feed F p (itemsEvents ((i, g) :: rest)) =
        feed F (feed F (feed F p i.events) g.events) (itemsEvents rest) := by
      simp only [itemsEvents, List.flatMap_cons, feed_append]
    rw [hfeed]
    cases i with
    | member m =>
      obtain ⟨hq, o, ha, ho⟩ := hp.feed_member (F := F) m
      obtain ⟨hc, hs⟩ := ih (hq.feed_gap (F := F) g)
      refine ⟨hc, hs.trans ?_⟩
      rw [PWR.feed_gap]
      simp only [ha, List.filterMap_append, itemsMembers, List.filterMap_cons,
        List.filterMap_nil, Item.member?, ho]
      cases m.senator F <;> simp
    | other f hm hr =>
      obtain ⟨hq, ha⟩ := hp.feed_other (F := F) hm hr
      obtain ⟨hc, hs⟩ := ih (hq.feed_gap (F := F) g)
      refine ⟨hc, hs.trans ?_⟩
      rw [PWR.feed_gap]
      simp only [ha, itemsMembers, List.filterMap_cons, Item.member?]

/-- When the document ends, the delegate has an object for each member. -/
theorem Roster.feed_events (r : Roster) :
    ∃ p : ParserDelegate, feed F {} r.events = p.parserDidEndDocument F ∧
      p.objArray.filterMap (Senator.init? F) = r.members.filterMap (Member.senator F) := by
  have hroot : Clean (({} : ParserDelegate).didStartElement r.root) := by
    rw [didStartElement_ne r.root_ne]
    refine ⟨⟨isWhitespace_empty, r.root_ne⟩, fun k hk => ?_⟩
    rw [Dict.get_set_ne _ _ fun he : k = r.root => r.root_not_required (he ▸ hk)]
    rfl
  obtain ⟨-, hs⟩ := (hroot.feed_gap (F := F) r.lead).feed_items (F := F) r.items
  refine ⟨(feed F (feed F (({} : ParserDelegate).didStartElement r.root) r.lead.events)
    (itemsEvents r.items)).didEndElement r.root, ?_, ?_⟩
  · simp only [Roster.events, feed_cons, feed_append, handle, feed_nil]
  · -- the end of the root may write the root's own entry, never `objArray`
    rw [didEndElement_objArray r.root_ne, hs, PWR.feed_gap, didStartElement_ne r.root_ne]
    simp [Roster.members]

/-- **The parser reads the roster format.** After the callbacks of a roster, `senators` is the
list of the senators of its complete members, in document order; an incomplete member is skipped
and changes nothing else. -/
theorem parse_roster (F : Foundation) (r : Roster) :
    (feed F {} r.events).senators = r.members.filterMap (Member.senator F) := by
  obtain ⟨p, hfeed, hs⟩ := r.feed_events (F := F)
  rw [hfeed, ← hs]
  rfl

end PWR
