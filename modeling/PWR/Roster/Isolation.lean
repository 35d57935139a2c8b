import PWR.Roster.Parser

/-!
# What a member takes from the rest of the document

Well-formed documents with text and elements anywhere, in which members are not nested in one
another (`Document`). The delegate resets nothing at the start of a member, so what stands before
it in the document has two ways in: text that no element has taken yet, and the elements since the
end of the member before. `carried` reads both off the events before the member, and `carried_feed`
says that they are the buffer and the entries of the delegate there. The object that is built for
a member is made of three parts.

* The entry of a key that the member does not open is the carried one (`get_feed_not_opened`).
* The entry of the element that the member closes first has the carried text in front of its own,
  unless the member writes that entry again (`leadEntry`, `get_feed_lead`).
* Every other entry is made from the member's own events (`get_feed_own`).

`result_eq_iff` puts them together: when two documents that agree inside a member build the same
senator for it, or both none.
-/

namespace PWR

open ParserDelegate

/-! ## Documents -/

/-- What stands inside a member: text and elements, and no member. -/
inductive Content where
  | nil
  | text (string : String) (rest : Content)
  | element (name : String) (hm : name ≠ "member") (children rest : Content)

def Content.events : Content → List Event
  | nil => []
  | text string rest => .foundCharacters string :: rest.events
  | element name _ children rest =>
    .didStartElement name :: (children.events ++ .didEndElement name :: rest.events)

/-- What stands outside the members: text, elements that may have members inside, and members. -/
inductive Outside where
  | nil
  | text (string : String) (rest : Outside)
  | element (name : String) (hm : name ≠ "member") (children rest : Outside)
  | member (body : Content) (rest : Outside)

namespace Outside

def events : Outside → List Event
  | nil => []
  | text string rest => .foundCharacters string :: rest.events
  | element name _ children rest =>
    .didStartElement name :: (children.events ++ .didEndElement name :: rest.events)
  | member body rest =>
    .didStartElement "member" :: (body.events ++ .didEndElement "member" :: rest.events)

/-- The members, after the events `before`: for each the events before its start tag and the
events between its tags. -/
def members : Outside → List Event → List (List Event × List Event)
  | nil, _ => []
  | text string rest, before => rest.members (before ++ [.foundCharacters string])
  | element name _ children rest, before =>
    children.members (before ++ [.didStartElement name]) ++
      rest.members (before ++ .didStartElement name :: (children.events ++ [.didEndElement name]))
  | member body rest, before =>
    (before, body.events) ::
      rest.members (before ++ .didStartElement "member" :: (body.events ++ [.didEndElement "member"]))

end Outside

/-- A document: its root element. -/
inductive Document where
  | element (name : String) (hm : name ≠ "member") (children : Outside)
  | member (body : Content)

namespace Document

def root : Document → Outside
  | element name hm children => .element name hm children .nil
  | member body => .member body .nil

def events (d : Document) : List Event := d.root.events ++ [.didEndDocument]

/-- The members of the document, with the events before and inside each of them. -/
def members (d : Document) : List (List Event × List Event) := d.root.members []

/-- The senator, or nil, that is built for the member `k`. -/
def result (F : Foundation) (d : Document) (k : Nat) : Option (Option Senator) :=
  (feed F {} d.events).objArray[k]?.map (Senator.init? F)

end Document

/-! ## What stands before a member

The events are read backwards from the start tag of the member: the head of the list is the event
right before it. -/

/-- The name in the last start tag that is not a member's. -/
def openedLast : List Event → String
  | [] => ""
  | .didStartElement n :: es => if n = "member" then openedLast es else n
  | _ :: es => openedLast es

/-- The text since the last end tag of the element that was opened last: no element has taken
it. An end tag of an element in which another one was opened takes no text. -/
def pendingText : List Event → String
  | [] => ""
  | .foundCharacters s :: es => pendingText es ++ s
  | .didEndElement n :: es => if n = openedLast es then "" else pendingText es
  | _ :: es => pendingText es

/-- The entry of `k` from the elements since the end of the member before: none from before that
end tag, the trimmed pending text where `k` was closed as the element opened last, and the empty
text where `k` was opened later. -/
def carriedEntry (k : String) : List Event → Option String
  | [] => none
  | .didStartElement n :: es =>
    if n ≠ "member" ∧ n = k then some "" else carriedEntry k es
  | .didEndElement n :: es =>
    if n = "member" then none
    else if n = k ∧ n = openedLast es then some (trimmingCharacters (pendingText es))
    else carriedEntry k es
  | _ :: es => carriedEntry k es

/-- What a member takes from before its start tag. -/
structure Carried where
  text : String
  entry : String → Option String

/-- What a document carries into a member, from the events before the member. -/
def carried (before : List Event) : Carried where
  text := pendingText before.reverse
  entry k := carriedEntry k before.reverse

/-- What a delegate carries into a member. -/
def ParserDelegate.carried (p : ParserDelegate) : Carried where
  text := p.currentString
  entry := p.object.get

/-- The delegate has read the events `es`, of which the head is the last. -/
structure ReadBack (p : ParserDelegate) (es : List Event) : Prop where
  opened : p.currentElement = openedLast es
  text : p.currentString = pendingText es
  entry : ∀ k, p.object.get k = carriedEntry k es

theorem ReadBack.handle {F : Foundation} {p : ParserDelegate} {es : List Event}
    (h : ReadBack p es) (hc : p.currentElement ≠ "member") (e : Event) :
    ReadBack (p.handle F e) (e :: es) := by
  cases e with
  | didStartElement n =>
    show ReadBack (p.didStartElement n) _
    by_cases hn : n = "member"
    · subst hn
      rw [didStartElement_member]
      exact ⟨by simp [openedLast, h.opened], h.text, fun k => by simp [carriedEntry, h.entry]⟩
    · rw [didStartElement_ne hn]
      refine ⟨by simp [openedLast, hn], h.text, fun k => ?_⟩
      rw [Dict.get_set, carriedEntry, h.entry]
      simp only [ne_eq, hn, not_false_eq_true, true_and, eq_comm]
  | didEndElement n =>
    show ReadBack (p.didEndElement n) _
    by_cases hn : n = "member"
    · -- the end of a member takes the entries and leaves the text
      subst hn
      rw [didEndElement_member hc]
      have hopen : "member" ≠ openedLast es := fun heq => hc (h.opened.trans heq.symm)
      exact ⟨h.opened, by rw [pendingText, if_neg hopen]; exact h.text,
        fun k => by rw [carriedEntry, if_pos rfl]; rfl⟩
    · by_cases hcur : p.currentElement = n
      · rw [didEndElement_current hn hcur]
        have hopen : n = openedLast es := hcur.symm.trans h.opened
        refine ⟨h.opened, by rw [pendingText, if_pos hopen], fun k => ?_⟩
        rw [Dict.get_set, carriedEntry, if_neg hn, h.text, h.entry]
        simp only [← hopen, and_true, eq_comm]
      · rw [didEndElement_ne hn hcur]
        have hopen : n ≠ openedLast es := fun heq => hcur (h.opened.trans heq.symm)
        refine ⟨h.opened, by rw [pendingText, if_neg hopen]; exact h.text, fun k => ?_⟩
        rw [carriedEntry, if_neg hn, if_neg fun hk => hopen hk.2]
        exact h.entry k
  | foundCharacters s =>
    exact ⟨h.opened, congrArg (· ++ s) h.text, h.entry⟩
  | didEndDocument => exact ⟨h.opened, h.text, h.entry⟩

theorem readBack_feed (F : Foundation) (before : List Event) :
    ReadBack (feed F {} before) before.reverse := by
  induction before using List.reverseRecOn with
  | nil => exact ⟨rfl, rfl, fun _ => rfl⟩
  | append_singleton before e ih =>
    rw [feed_append, List.reverse_append]
    exact ih.handle (currentElement_ne (by decide) before) e

/-- The buffer and the entries before a member are those that the document carries into it. -/
theorem carried_feed (F : Foundation) (before : List Event) :
    (feed F {} before).carried = carried before := by
  have h := readBack_feed F before
  rw [ParserDelegate.carried, carried, h.text]
  exact congrArg (Carried.mk _) (funext h.entry)

/-! ## Events inside a member -/

/-- An event inside a member. -/
def Event.Plain : Event → Prop
  | .didStartElement elementName => elementName ≠ "member"
  | .didEndElement elementName => elementName ≠ "member"
  | .foundCharacters _ => True
  | .didEndDocument => False

theorem Content.plain (c : Content) : ∀ e ∈ c.events, e.Plain := by
  induction c with
  | nil => simp [events]
  | text string rest ih => exact List.forall_mem_cons.mpr ⟨trivial, ih⟩
  | element name hm children rest ihc ihr =>
    refine List.forall_mem_cons.mpr ⟨hm, List.forall_mem_append.mpr ⟨ihc, ?_⟩⟩
    exact List.forall_mem_cons.mpr ⟨hm, ihr⟩

section Feed

variable {F : Foundation}

theorem handle_objArray (p : ParserDelegate) {e : Event} (he : e.Plain) :
    (p.handle F e).objArray = p.objArray := by
  cases e with
  | didStartElement n => exact didStartElement_objArray n
  | didEndElement n => exact didEndElement_objArray he
  | foundCharacters s => rfl
  | didEndDocument => exact he.elim

theorem feed_objArray {es : List Event} (hes : ∀ e ∈ es, e.Plain) (p : ParserDelegate) :
    (feed F p es).objArray = p.objArray := by
  induction es generalizing p with
  | nil => rfl
  | cons e es ih =>
    obtain ⟨he, hes'⟩ := List.forall_mem_cons.mp hes
    rw [feed_cons, ih hes', handle_objArray p he]

/-- The objects of the members, in document order: each is the delegate's object at the end tag. -/
theorem Outside.objArray_feed (x : Outside) (before : List Event) :
    (feed F {} (before ++ x.events)).objArray = (feed F {} before).objArray ++
      (x.members before).map fun m => (feed F (feed F {} m.1) m.2).object := by
  induction x generalizing before with
  | nil => simp [events, members]
  | text string rest ih =>
    have hsplit : before ++ (text string rest).events =
        (before ++ [.foundCharacters string]) ++ rest.events := by
      simp [events]
    rw [hsplit, ih, feed_append]
    rfl
  | element name hm children rest ihc ihr =>
    have hsplit : before ++ (element name hm children rest).events =
        (before ++ .didStartElement name :: (children.events ++ [.didEndElement name])) ++
          rest.events := by
      simp [events]
    have hinner : before ++ .didStartElement name :: (children.events ++ [.didEndElement name]) =
        ((before ++ [.didStartElement name]) ++ children.events) ++ [.didEndElement name] := by
      simp
    have hstart : (feed F {} (before ++ [.didStartElement name])).objArray =
        (feed F {} before).objArray := by
      rw [feed_append]
      exact didStartElement_objArray name
    have hend : (feed F {} (((before ++ [.didStartElement name]) ++ children.events) ++
        [.didEndElement name])).objArray =
          (feed F {} ((before ++ [.didStartElement name]) ++ children.events)).objArray := by
      rw [feed_append]
      exact didEndElement_objArray hm
    rw [hsplit, ihr, hinner, hend, ihc, hstart, members, List.map_append, List.append_assoc, hinner]
  | member body rest ih =>
    have hsplit : before ++ (member body rest).events =
        (before ++ .didStartElement "member" :: (body.events ++ [.didEndElement "member"])) ++
          rest.events := by
      simp [events]
    have hmember : (feed F {} (before ++ .didStartElement "member" ::
        (body.events ++ [.didEndElement "member"]))).objArray =
          (feed F {} before).objArray ++ [(feed F (feed F {} before) body.events).object] := by
      have hne : (feed F (feed F {} before) body.events).currentElement ≠ "member" := by
        rw [← feed_append]
        exact currentElement_ne (by decide) _
      rw [feed_append, feed_cons, feed_append]
      simp only [handle, didStartElement_member, feed_cons, feed_nil]
      rw [didEndElement_member hne]
      simp only [feed_objArray body.plain]
    rw [hsplit, ih, hmember, members, List.map_cons, List.append_assoc]
    rfl

theorem Document.result_eq {d : Document} {k : Nat} {before inside : List Event}
    (h : d.members[k]? = some (before, inside)) :
    d.result F k = some (Senator.init? F (feed F (feed F {} before) inside).object) := by
  have hobj : (feed F {} d.events).objArray =
      d.members.map fun m => (feed F (feed F {} m.1) m.2).object := by
    rw [events, feed_append]
    have := d.root.objArray_feed (F := F) []
    exact this
  rw [result, hobj, List.getElem?_map, h]
  rfl

/-- What stands between the tags of a member is a content. -/
theorem Outside.exists_content (x : Outside) {before : List Event} {m : List Event × List Event}
    (hm : m ∈ x.members before) : ∃ c : Content, m.2 = c.events := by
  induction x generalizing before with
  | nil => simp [members] at hm
  | text string rest ih => exact ih hm
  | element name _ children rest ihc ihr =>
    rcases List.mem_append.mp hm with hm | hm
    · exact ihc hm
    · exact ihr hm
  | member body rest ih =>
    rcases List.mem_cons.mp hm with rfl | hm
    · exact ⟨body, rfl⟩
    · exact ih hm

/-! ## Entries that the member makes -/

/-- The delegate `p` is the delegate `q` on top of the entries `base`. -/
structure Over (base : Dict String) (p q : ParserDelegate) : Prop where
  buffer : p.currentString = q.currentString
  current : p.currentElement = q.currentElement
  object : ∀ k, p.object.get k = (q.object.get k).or (base.get k)

theorem Over.set {base : Dict String} {p q : ParserDelegate} (h : Over base p q) (n v : String) :
    ∀ k, (p.object.set n v).get k = ((q.object.set n v).get k).or (base.get k) := by
  intro k
  rw [Dict.get_set, Dict.get_set]
  split
  · rfl
  · exact h.object k

theorem Over.handle {base : Dict String} {p q : ParserDelegate} (h : Over base p q) {e : Event}
    (he : e.Plain) : Over base (p.handle F e) (q.handle F e) := by
  cases e with
  | didStartElement n =>
    show Over base (p.didStartElement n) (q.didStartElement n)
    rw [didStartElement_ne he, didStartElement_ne he]
    exact ⟨h.buffer, rfl, h.set n ""⟩
  | didEndElement n =>
    show Over base (p.didEndElement n) (q.didEndElement n)
    by_cases hc : p.currentElement = n
    · rw [didEndElement_current he hc, didEndElement_current he (h.current ▸ hc), h.buffer]
      exact ⟨rfl, h.current, h.set n _⟩
    · rw [didEndElement_ne he hc, didEndElement_ne he (h.current ▸ hc)]
      exact h
  | foundCharacters s => exact ⟨congrArg (· ++ s) h.buffer, h.current, h.object⟩
  | didEndDocument => exact he.elim

/-- Inside a member, the entries from before it only show where the member makes none. -/
theorem Over.feed {es : List Event} (hes : ∀ e ∈ es, e.Plain) {base : Dict String}
    {p q : ParserDelegate} (h : Over base p q) : Over base (feed F p es) (feed F q es) := by
  induction es generalizing p q with
  | nil => exact h
  | cons e es ih =>
    obtain ⟨he, hes'⟩ := List.forall_mem_cons.mp hes
    rw [feed_cons, feed_cons]
    exact ih hes' (h.handle he)

/-- The entries after the content: those from before, and one for each element opened. -/
theorem Content.isSome_feed (c : Content) (p : ParserDelegate) (k : String) :
    ((feed F p c.events).object.get k).isSome ↔
      (p.object.get k).isSome ∨ .didStartElement k ∈ c.events := by
  induction c generalizing p with
  | nil => simp [events]
  | text string rest ih =>
    rw [events, feed_cons, ih]
    simp [handle, foundCharacters]
  | element name hm children rest ihc ihr =>
    have hchildren := ihc (p.didStartElement name)
    rw [didStartElement_ne hm] at hchildren
    -- the end tag writes an entry that is there already
    have hend : (((feed F (p.didStartElement name) children.events).didEndElement name).object.get
        k).isSome ↔ ((feed F (p.didStartElement name) children.events).object.get k).isSome := by
      rw [didStartElement_ne hm]
      by_cases hc : (feed F { p with currentElement := name, object := p.object.set name "" }
          children.events).currentElement = name
      · rw [didEndElement_current hm hc, Dict.get_set]
        split
        · rename_i hk
          subst hk
          rw [hchildren]
          simp
        · rfl
      · rw [didEndElement_ne hm hc]
    have hfeed : feed F p (element name hm children rest).events =
        feed F ((feed F (p.didStartElement name) children.events).didEndElement name)
          rest.events := by
      rw [events, feed_cons, feed_append, feed_cons]
      rfl
    rw [hfeed, ihr, hend, didStartElement_ne hm, hchildren, events]
    simp only [List.mem_cons, List.mem_append, Event.didStartElement.injEq, reduceCtorEq, false_or,
      Dict.get_set]
    by_cases hk : k = name
    · simp [hk]
    · simp [hk, or_assoc]

/-! ## The element that is closed first -/

/-- After the element `n` was closed as the current one, the events write its entry again: they
open an element `n`, or close one before they open any. -/
def rewrites (n : String) : List Event → Bool
  | [] => false
  | .didStartElement m :: es => m = n || .didStartElement n ∈ es
  | .didEndElement m :: es => m = n || rewrites n es
  | _ :: es => rewrites n es

/-- The element that the events close first and the text `t` and theirs before its end, unless they
write its entry again. -/
def leadEntry (t : String) : List Event → Option (String × String)
  | [] => none
  | .foundCharacters s :: es => leadEntry (t ++ s) es
  | .didEndElement n :: es => if rewrites n es then none else some (n, t)
  | _ :: es => leadEntry t es

/-- An entry stays until the end of the member. -/
theorem isSome_feed_of_isSome {es : List Event} (hes : ∀ e ∈ es, e.Plain) {p : ParserDelegate}
    {k : String} (hk : (p.object.get k).isSome) : ((feed F p es).object.get k).isSome := by
  have hover : Over p.object p { p with object := .empty } := ⟨rfl, rfl, fun _ => rfl⟩
  rw [(hover.feed hes).object k, Option.isSome_or, hk, Bool.or_true]

/-- While another element is current, an entry is made only by a start tag. -/
theorem isSome_feed_iff_start {es : List Event} (hes : ∀ e ∈ es, e.Plain) {p : ParserDelegate}
    {n : String} (hc : p.currentElement ≠ n) (hn : p.object.get n = none) :
    ((feed F p es).object.get n).isSome ↔ .didStartElement n ∈ es := by
  induction es generalizing p with
  | nil => simp [hn]
  | cons e es ih =>
    obtain ⟨he, hes'⟩ := List.forall_mem_cons.mp hes
    rw [feed_cons, List.mem_cons]
    cases e with
    | didStartElement m =>
      show ((feed F (p.didStartElement m) es).object.get n).isSome ↔ _
      rw [didStartElement_ne he]
      by_cases hm : n = m
      · subst hm
        simp only [true_or, iff_true]
        exact isSome_feed_of_isSome hes' (by simp)
      · rw [ih hes' (Ne.symm hm) (by rw [Dict.get_set_ne _ _ hm, hn])]
        simp [hm]
    | didEndElement m =>
      show ((feed F (p.didEndElement m) es).object.get n).isSome ↔ _
      simp only [reduceCtorEq, false_or]
      by_cases hm : p.currentElement = m
      · have hnm : n ≠ m := fun h => hc (hm.trans h.symm)
        rw [didEndElement_current he hm]
        exact ih hes' hc (by rw [Dict.get_set_ne _ _ hnm, hn])
      · rw [didEndElement_ne he hm]
        exact ih hes' hc hn
    | foundCharacters s =>
      simp only [reduceCtorEq, false_or]
      exact ih hes' hc hn
    | didEndDocument => exact he.elim

/-- `rewrites` says when the entry of the element that was just closed is made again. -/
theorem isSome_feed_iff_rewrites {es : List Event} (hes : ∀ e ∈ es, e.Plain) {p : ParserDelegate}
    {n : String} (hc : p.currentElement = n) (hn : p.object.get n = none) :
    ((feed F p es).object.get n).isSome ↔ rewrites n es = true := by
  induction es generalizing p with
  | nil => simp [hn, rewrites]
  | cons e es ih =>
    obtain ⟨he, hes'⟩ := List.forall_mem_cons.mp hes
    rw [feed_cons]
    cases e with
    | didStartElement m =>
      show ((feed F (p.didStartElement m) es).object.get n).isSome ↔ _
      rw [didStartElement_ne he, rewrites]
      by_cases hm : m = n
      · subst hm
        simp only [decide_true, Bool.true_or, iff_true]
        exact isSome_feed_of_isSome hes' (by simp)
      · rw [isSome_feed_iff_start hes' hm (by rw [Dict.get_set_ne _ _ (Ne.symm hm), hn])]
        simp [hm]
    | didEndElement m =>
      show ((feed F (p.didEndElement m) es).object.get n).isSome ↔ _
      rw [rewrites]
      by_cases hm : m = n
      · subst hm
        rw [didEndElement_current he hc]
        simp only [decide_true, Bool.true_or, iff_true]
        exact isSome_feed_of_isSome hes' (by simp)
      · rw [didEndElement_ne he (hc ▸ Ne.symm hm), ih hes' hc hn]
        simp [hm]
    | foundCharacters s => exact ih hes' hc hn
    | didEndDocument => exact he.elim

/-! ## Up to the first end tag -/

/-- An end tag. -/
def Event.IsEnd : Event → Prop
  | .didEndElement _ => True
  | _ => False

/-- The text of the events. -/
def textOf : List Event → String
  | [] => ""
  | .foundCharacters s :: es => s ++ textOf es
  | _ :: es => textOf es

/-- A content has only text, or there is a first end tag. It closes the current element. -/
theorem Content.firstEnd (c : Content) :
    (∃ ts : List String, c.events = ts.map .foundCharacters) ∨
      ∃ es n es', (∀ e ∈ es, ¬ e.IsEnd) ∧ c.events = es ++ .didEndElement n :: es' ∧
        ∀ p, (feed F p es).currentElement = n := by
  induction c with
  | nil => exact .inl ⟨[], rfl⟩
  | text string rest ih =>
    rcases ih with ⟨ts, hts⟩ | ⟨es, n, es', hes, heq, hcur⟩
    · exact .inl ⟨string :: ts, by rw [events, hts]; rfl⟩
    · refine .inr ⟨.foundCharacters string :: es, n, es', ?_, by rw [events, heq]; rfl, ?_⟩
      · exact List.forall_mem_cons.mpr ⟨id, hes⟩
      · intro p
        exact hcur _
  | element name hm children rest ihc ihr =>
    rcases ihc with ⟨ts, hts⟩ | ⟨es, n, es', hes, heq, hcur⟩
    · -- no element inside: the first end tag is this element's own
      refine .inr ⟨.didStartElement name :: ts.map .foundCharacters, name, rest.events, ?_, ?_, ?_⟩
      · refine List.forall_mem_cons.mpr ⟨id, fun e he => ?_⟩
        obtain ⟨t, -, rfl⟩ := List.mem_map.mp he
        exact id
      · rw [events, hts]
        rfl
      · intro p
        rw [feed_cons, feed_chunks]
        show (p.didStartElement name).currentElement = name
        rw [didStartElement_ne hm]
    · refine .inr ⟨.didStartElement name :: es, n, es' ++ .didEndElement name :: rest.events,
        ?_, by rw [events, heq]; simp, ?_⟩
      · exact List.forall_mem_cons.mpr ⟨id, hes⟩
      · intro p
        exact hcur _

theorem currentString_feed {es : List Event} (hes : ∀ e ∈ es, ¬ e.IsEnd) (p : ParserDelegate) :
    (feed F p es).currentString = p.currentString ++ textOf es := by
  induction es generalizing p with
  | nil => simp [textOf]
  | cons e es ih =>
    obtain ⟨he, hes'⟩ := List.forall_mem_cons.mp hes
    rw [feed_cons, ih hes']
    cases e with
    | didStartElement n =>
      show (p.didStartElement n).currentString ++ _ = _
      unfold didStartElement
      split <;> rfl
    | didEndElement n => exact (he trivial).elim
    | foundCharacters s =>
      show p.currentString ++ s ++ _ = p.currentString ++ (s ++ textOf es)
      rw [String.append_assoc]
    | didEndDocument => rfl

/-- Up to the first end tag, the entries do not depend on the buffer. -/
theorem object_feed {es : List Event} (hes : ∀ e ∈ es, ¬ e.IsEnd) (base : Dict String)
    {p q : ParserDelegate} (h : ∀ k, p.object.get k = (q.object.get k).or (base.get k)) :
    ∀ k, (feed F p es).object.get k = ((feed F q es).object.get k).or (base.get k) := by
  induction es generalizing p q with
  | nil => exact h
  | cons e es ih =>
    obtain ⟨he, hes'⟩ := List.forall_mem_cons.mp hes
    rw [feed_cons, feed_cons]
    refine ih hes' fun k => ?_
    cases e with
    | didStartElement n =>
      show (p.didStartElement n).object.get k = ((q.didStartElement n).object.get k).or _
      unfold didStartElement
      by_cases hn : n ≠ "member"
      · simp only [if_pos hn, Dict.get_set]
        split
        · rfl
        · exact h k
      · simp only [if_neg hn]
        exact h k
    | didEndElement n => exact (he trivial).elim
    | foundCharacters s => exact h k
    | didEndDocument => exact h k

theorem leadEntry_append {es : List Event} (hes : ∀ e ∈ es, ¬ e.IsEnd) (t : String)
    (es' : List Event) : leadEntry t (es ++ es') = leadEntry (t ++ textOf es) es' := by
  induction es generalizing t with
  | nil => simp [textOf]
  | cons e es ih =>
    obtain ⟨he, hes'⟩ := List.forall_mem_cons.mp hes
    cases e with
    | didStartElement n => exact ih hes' t
    | didEndElement n => exact (he trivial).elim
    | foundCharacters s =>
      show leadEntry (t ++ s) (es ++ es') = leadEntry (t ++ (s ++ textOf es)) es'
      rw [ih hes', String.append_assoc]
    | didEndDocument => exact ih hes' t

/-! ## The object of a member -/

/-- The entries after a first end tag, which closes the element `n`. -/
theorem get_feed_firstEnd {es es' : List Event} {n : String} (hes : ∀ e ∈ es, ¬ e.IsEnd)
    (hes' : ∀ e ∈ es', e.Plain) (hn : n ≠ "member") {p : ParserDelegate}
    (hcur : (feed F p es).currentElement = n) (k : String) :
    (feed F p (es ++ .didEndElement n :: es')).object.get k =
      ((feed F { currentElement := n } es').object.get k).or
        (((feed F p es).object.set n (trimmingCharacters (p.currentString ++ textOf es))).get k) := by
  rw [feed_append, feed_cons]
  show (feed F ((feed F p es).didEndElement n) es').object.get k = _
  rw [didEndElement_current hn hcur, currentString_feed hes]
  have hover : Over ((feed F p es).object.set n (trimmingCharacters (p.currentString ++ textOf es)))
      { feed F p es with
        object := (feed F p es).object.set n (trimmingCharacters (p.currentString ++ textOf es))
        currentString := "" } { currentElement := n } :=
    ⟨rfl, hcur, fun _ => rfl⟩
  exact (hover.feed hes').object k

namespace Content

variable (c : Content) (p : ParserDelegate) {k : String}

theorem get_feed_not_opened (hk : .didStartElement k ∉ c.events) :
    (feed F p c.events).object.get k = p.object.get k := by
  have hover : Over p.object p { p with object := .empty } := ⟨rfl, rfl, fun _ => rfl⟩
  rw [(hover.feed c.plain).object k]
  have hnone : (feed F { p with object := .empty } c.events).object.get k = none := by
    rw [← Option.not_isSome_iff_eq_none, c.isSome_feed]
    simp [hk]
  rw [hnone, Option.none_or]

/-- Text only closes no element. -/
theorem leadEntry_text (t : String) (ts : List String) :
    leadEntry t (ts.map .foundCharacters) = none := by
  induction ts generalizing t with
  | nil => rfl
  | cons s ts ih => exact ih (t ++ s)

theorem get_feed_lead {t : String} (hl : leadEntry "" c.events = some (k, t)) :
    (feed F p c.events).object.get k = some (trimmingCharacters (p.currentString ++ t)) := by
  rcases c.firstEnd (F := F) with ⟨ts, hts⟩ | ⟨es, n, es', hes, heq, hcur⟩
  · rw [hts, leadEntry_text] at hl
    cases hl
  · have hplain := c.plain
    rw [heq] at hl hplain ⊢
    have hn : n ≠ "member" := hplain (.didEndElement n) (by simp)
    have hes' : ∀ e ∈ es', e.Plain := fun e he => hplain e (by simp [he])
    rw [leadEntry_append hes, String.empty_append, leadEntry] at hl
    split at hl
    · cases hl
    · rename_i hre
      obtain ⟨rfl, rfl⟩ := Prod.mk.inj (Option.some.inj hl)
      have hnone : (feed F { currentElement := n } es').object.get n = none := by
        rw [← Option.not_isSome_iff_eq_none, isSome_feed_iff_rewrites hes' rfl rfl]
        exact hre
      rw [get_feed_firstEnd hes hes' hn (hcur p), hnone, Option.none_or, Dict.get_set_self]

theorem get_feed_own (hk : .didStartElement k ∈ c.events)
    (hl : ∀ t, leadEntry "" c.events ≠ some (k, t)) :
    (feed F p c.events).object.get k = (feed F {} c.events).object.get k := by
  rcases c.firstEnd (F := F) with ⟨ts, hts⟩ | ⟨es, n, es', hes, heq, hcur⟩
  · rw [hts] at hk
    simp at hk
  · have hplain := c.plain
    have hsome := (c.isSome_feed (F := F) {} k).mpr (.inr hk)
    rw [heq] at hl hplain hsome ⊢
    have hn : n ≠ "member" := hplain (.didEndElement n) (by simp)
    have hes' : ∀ e ∈ es', e.Plain := fun e he => hplain e (by simp [he])
    rw [get_feed_firstEnd hes hes' hn (hcur {})] at hsome
    rw [get_feed_firstEnd hes hes' hn (hcur p), get_feed_firstEnd hes hes' hn (hcur {})]
    cases hw : (feed F { currentElement := n } es').object.get k with
    | some v => rfl
    | none =>
      -- not made after the first end tag: made before it, and not by it
      have hkn : k ≠ n := by
        rintro rfl
        have hre : ¬ rewrites k es' = true := by
          rw [← isSome_feed_iff_rewrites (F := F) (p := { currentElement := k }) hes' rfl rfl, hw]
          simp
        refine hl (textOf es) ?_
        rw [leadEntry_append hes, String.empty_append, leadEntry, if_neg hre]
      rw [hw, Option.none_or, Dict.get_set_ne _ _ hkn] at hsome
      rw [Option.none_or, Option.none_or, Dict.get_set_ne _ _ hkn, Dict.get_set_ne _ _ hkn,
        object_feed hes p.object (q := {}) (fun _ => rfl) k]
      exact Option.or_of_isSome hsome

end Content

/-! ## Two documents -/

/-- Two texts give the same field of a senator. -/
def SameField (F : Foundation) (key v w : String) : Prop :=
  if key = "website" then F.url v = F.url w else v = w

instance (key v w : String) : Decidable (SameField F key v w) :=
  inferInstanceAs (Decidable (if key = "website" then F.url v = F.url w else v = w))

theorem SameField.refl (key v : String) : SameField F key v v := by
  unfold SameField
  split <;> rfl

theorem Senator.ofDict_eq_iff (d e : Dict String) :
    Senator.ofDict F d = Senator.ofDict F e ↔
      ∀ k ∈ requiredKeys, SameField F k ((d.get k).getD "") ((e.get k).getD "") := by
  simp only [Senator.ofDict, Senator.mk.injEq, requiredKeys, List.mem_cons, List.not_mem_nil,
    or_false, forall_eq_or_imp, forall_eq, SameField]
  simp only [String.reduceEq, if_false, if_true]
  constructor
  · rintro ⟨h1, h2, h3, h4, h5, h6, h7, h8⟩
    exact ⟨h1, h2, h4, h3, h6, h5, h7, h8⟩
  · rintro ⟨h1, h2, h4, h3, h6, h5, h7, h8⟩
    exact ⟨h1, h2, h3, h4, h5, h6, h7, h8⟩

/-- A member with the events `es` has no entry for some required key: it opens none, and `x`
carries none into it. -/
def Missing (es : List Event) (x : Carried) : Prop :=
  ∃ k ∈ requiredKeys, .didStartElement k ∉ es ∧ x.entry k = none

instance (es : List Event) (x : Carried) : Decidable (Missing es x) :=
  List.decidableBEx _ requiredKeys

/-- What `x` and `y` carry into a member with the events `es` makes no difference. -/
def Harmless (F : Foundation) (es : List Event) (x y : Carried) : Prop :=
  Missing es x ∧ Missing es y ∨
    ¬ Missing es x ∧ ¬ Missing es y ∧
      (∀ k ∈ requiredKeys, .didStartElement k ∉ es → ∀ v w, x.entry k = some v →
        y.entry k = some w → SameField F k v w) ∧
      ∀ k ∈ requiredKeys, ∀ t, leadEntry "" es = some (k, t) →
        SameField F k (trimmingCharacters (x.text ++ t)) (trimmingCharacters (y.text ++ t))

/-- Two dictionaries give the same senator, or both none. -/
theorem Senator.init?_eq_init?_iff (d e : Dict String) :
    Senator.init? F d = Senator.init? F e ↔
      (∃ k ∈ requiredKeys, d.get k = none) ∧ (∃ k ∈ requiredKeys, e.get k = none) ∨
        (¬ ∃ k ∈ requiredKeys, d.get k = none) ∧ (¬ ∃ k ∈ requiredKeys, e.get k = none) ∧
          ∀ k ∈ requiredKeys, SameField F k ((d.get k).getD "") ((e.get k).getD "") := by
  have hall : ∀ d : Dict String,
      (∀ k ∈ requiredKeys, (d.get k).isSome) ↔ ¬ ∃ k ∈ requiredKeys, d.get k = none := by
    intro d
    simp [Option.isSome_iff_ne_none]
  rw [Senator.init?_eq, Senator.init?_eq]
  simp only [hall]
  by_cases hd : ∃ k ∈ requiredKeys, d.get k = none
  · by_cases he : ∃ k ∈ requiredKeys, e.get k = none
    · simp [hd, he]
    · simp [hd, he]
  · by_cases he : ∃ k ∈ requiredKeys, e.get k = none
    · simp [hd, he]
    · rw [if_pos hd, if_pos he, Option.some.injEq, Senator.ofDict_eq_iff]
      constructor
      · exact fun h => .inr ⟨hd, he, h⟩
      · rintro (⟨h, -⟩ | ⟨-, -, h⟩)
        · exact absurd h hd
        · exact h

namespace Content

variable (c : Content) (p q : ParserDelegate)

theorem missing_iff :
    Missing c.events p.carried ↔ ∃ k ∈ requiredKeys, (feed F p c.events).object.get k = none := by
  refine exists_congr fun k => and_congr_right fun _ => ?_
  rw [← Option.not_isSome_iff_eq_none (o := (feed F p c.events).object.get k), c.isSome_feed,
    not_or, Option.not_isSome_iff_eq_none]
  exact and_comm

/-- **What a member takes from before it.** -/
theorem init?_feed_eq_iff :
    Senator.init? F (feed F p c.events).object = Senator.init? F (feed F q c.events).object ↔
      Harmless F c.events p.carried q.carried := by
  rw [Senator.init?_eq_init?_iff, ← c.missing_iff, ← c.missing_iff]
  unfold Harmless
  refine or_congr_right (and_congr_right fun hp => and_congr_right fun hq => ?_)
  constructor
  · intro h
    constructor
    · intro k hk hopen v w (hv : p.object.get k = some v) (hw : q.object.get k = some w)
      have := h k hk
      rwa [c.get_feed_not_opened p hopen, c.get_feed_not_opened q hopen, hv, hw] at this
    · intro k hk t hl
      have := h k hk
      rwa [c.get_feed_lead p hl, c.get_feed_lead q hl] at this
  · rintro ⟨hcarried, hlead⟩ k hk
    by_cases hopen : .didStartElement k ∈ c.events
    · by_cases hl : ∃ t, leadEntry "" c.events = some (k, t)
      · obtain ⟨t, hl⟩ := hl
        rw [c.get_feed_lead p hl, c.get_feed_lead q hl]
        exact hlead k hk t hl
      · have hl' : ∀ t, leadEntry "" c.events ≠ some (k, t) := fun t h => hl ⟨t, h⟩
        rw [c.get_feed_own p hopen hl', c.get_feed_own q hopen hl']
        exact SameField.refl k _
    · -- the key is carried by both delegates
      have hsome : ∀ r : ParserDelegate, ¬ Missing c.events r.carried →
          ∃ v, r.object.get k = some v :=
        fun r hr => Option.ne_none_iff_exists'.mp fun hn => hr ⟨k, hk, hopen, hn⟩
      obtain ⟨v, hv⟩ := hsome p hp
      obtain ⟨w, hw⟩ := hsome q hq
      rw [c.get_feed_not_opened p hopen, c.get_feed_not_opened q hopen, hv, hw]
      exact hcarried k hk hopen v w hv hw

end Content

end Feed

/-- A field for each required key. -/
def sampleBody : Content :=
  requiredKeys.foldr (fun key rest =>
    if h : key = "member" then rest else .element key h (.text "x" .nil) rest) .nil

/-- A document with the text `lead` before its only member. -/
def sampleDocument (lead : String) : Document :=
  .element "members" (by decide) (.text lead (.member sampleBody .nil))

end PWR
