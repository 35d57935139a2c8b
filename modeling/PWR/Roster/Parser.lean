import PWR.Basic

/-!
# The roster parser (`Delegates/ParserDelegate.swift`)

`XMLParser` reports a document as a stream of events; `ParserDelegate` is a state machine over
them with one text buffer (`currentString`), the name of the element opened last
(`currentElement`) and the dictionary of the member that it reads (`object`).

* `ParserDelegate.feed`: the delegate after a list of events.
* `feed_field`: an element with no element inside. Its entry is the trimmed text of the whole
  buffer, so also of what the delegate had read before the element began.
* `init?_eq`: `Senator.init?(dict:)` in closed form: a senator when the eight keys are there,
  `nil` otherwise.
-/

namespace PWR

/-- A callback of `XMLParser` that the delegate implements. It ignores the name space, the
qualified name and the attributes of an element. -/
inductive Event where
  | didStartElement (elementName : String)
  | didEndElement (elementName : String)
  | foundCharacters (string : String)
  | didEndDocument
  deriving DecidableEq, Repr

/-- `class ParserDelegate`. -/
structure ParserDelegate where
  currentString : String := ""
  currentElement : String := ""
  object : Dict String := .empty
  objArray : List (Dict String) := []
  senators : List Senator := []

namespace ParserDelegate

def didStartElement (p : ParserDelegate) (elementName : String) : ParserDelegate :=
  if elementName ≠ "member" then
    { p with currentElement := elementName, object := p.object.set elementName "" }
  else p

def didEndElement (p : ParserDelegate) (elementName : String) : ParserDelegate :=
  let p := if elementName = "member" then
      { p with objArray := p.objArray ++ [p.object], object := .empty }
    else p
  if elementName = p.currentElement then
    { p with
      object := p.object.set p.currentElement (trimmingCharacters p.currentString)
      currentString := "" }
  else p

def foundCharacters (p : ParserDelegate) (string : String) : ParserDelegate :=
  { p with currentString := p.currentString ++ string }

def parserDidEndDocument (F : Foundation) (p : ParserDelegate) : ParserDelegate :=
  { p with senators := p.objArray.filterMap (Senator.init? F) }

/-- The callback of an event. -/
def handle (F : Foundation) (p : ParserDelegate) : Event → ParserDelegate
  | .didStartElement elementName => p.didStartElement elementName
  | .didEndElement elementName => p.didEndElement elementName
  | .foundCharacters string => p.foundCharacters string
  | .didEndDocument => p.parserDidEndDocument F

/-- The delegate `p` after the callbacks of `events`. -/
def feed (F : Foundation) (p : ParserDelegate) (events : List Event) : ParserDelegate :=
  events.foldl (handle F) p

/-- The senators of a new delegate after the callbacks of `events`. -/
def parse (F : Foundation) (events : List Event) : List Senator := (feed F {} events).senators

/-! ## One event -/

section Lemmas

variable {F : Foundation} {p : ParserDelegate}

@[simp] theorem feed_nil : feed F p [] = p := rfl

@[simp] theorem feed_cons (e : Event) (es : List Event) :
    feed F p (e :: es) = feed F (p.handle F e) es := rfl

theorem feed_append (es es' : List Event) :
    feed F p (es ++ es') = feed F (feed F p es) es' := by
  simp [feed]

@[simp] theorem didStartElement_member : p.didStartElement "member" = p := by
  simp [didStartElement]

theorem didStartElement_ne {n : String} (h : n ≠ "member") :
    p.didStartElement n = { p with currentElement := n, object := p.object.set n "" } := by
  simp [didStartElement, h]

/-- The end of a member: the object is complete. `currentElement` is never `member`
(`currentElement_ne`), so the second test of the callback fails. -/
theorem didEndElement_member (h : p.currentElement ≠ "member") :
    p.didEndElement "member" = { p with objArray := p.objArray ++ [p.object], object := .empty } := by
  simp [didEndElement, Ne.symm h]

/-- The end of the element that was opened last: its entry is the trimmed buffer. -/
theorem didEndElement_current {n : String} (h : n ≠ "member") (hc : p.currentElement = n) :
    p.didEndElement n = { p with
      object := p.object.set n (trimmingCharacters p.currentString), currentString := "" } := by
  simp [didEndElement, h, hc]

/-- The end of an element in which another one was opened changes nothing. -/
theorem didEndElement_ne {n : String} (h : n ≠ "member") (hc : p.currentElement ≠ n) :
    p.didEndElement n = p := by
  simp [didEndElement, h, Ne.symm hc]

/-- Only the end of a member adds an object. -/
theorem didEndElement_objArray {n : String} (hn : n ≠ "member") :
    (p.didEndElement n).objArray = p.objArray := by
  by_cases hc : p.currentElement = n
  · rw [didEndElement_current hn hc]
  · rw [didEndElement_ne hn hc]

theorem didStartElement_objArray (n : String) : (p.didStartElement n).objArray = p.objArray := by
  unfold didStartElement
  split <;> rfl

theorem handle_currentElement_ne (h : p.currentElement ≠ "member") (e : Event) :
    (p.handle F e).currentElement ≠ "member" := by
  cases e with
  | didStartElement n =>
    by_cases hn : n = "member"
    · subst hn; simpa [handle] using h
    · simpa [handle, didStartElement_ne hn] using hn
  | didEndElement n =>
    by_cases hn : n = "member"
    · subst hn; simpa [handle, didEndElement_member h] using h
    · by_cases hc : p.currentElement = n
      · simpa [handle, didEndElement_current hn hc] using h
      · simpa [handle, didEndElement_ne hn hc] using h
  | foundCharacters s => exact h
  | didEndDocument => exact h

/-- The delegate never takes `member` for its current element. -/
theorem currentElement_ne (h : p.currentElement ≠ "member") (es : List Event) :
    (feed F p es).currentElement ≠ "member" := by
  induction es generalizing p with
  | nil => exact h
  | cons e es ih => exact ih (handle_currentElement_ne h e)

/-! ## Text and flat elements -/

/-- Character data in chunks: the buffer grows by their concatenation, however they are cut. -/
theorem feed_chunks (chunks : List String) :
    feed F p (chunks.map .foundCharacters) =
      { p with currentString := p.currentString ++ String.join chunks } := by
  induction chunks generalizing p with
  | nil => simp
  | cons c cs ih =>
    rw [List.map_cons, feed_cons, ih]
    simp [handle, foundCharacters, String.append_assoc]

/-- An element with no element inside. -/
theorem feed_field {n : String} (h : n ≠ "member") (chunks : List String) :
    feed F p (.didStartElement n :: (chunks.map .foundCharacters ++ [.didEndElement n])) =
      { p with
        currentString := ""
        currentElement := n
        object := p.object.set n
          (trimmingCharacters (p.currentString ++ String.join chunks)) } := by
  rw [feed_cons, feed_append, feed_chunks]
  simp [handle, didStartElement_ne h, didEndElement_current h]

end Lemmas

end ParserDelegate

/-! ## `Senator.init?(dict:)` in closed form -/

/-- The senator of a dictionary, with the empty text for a key that is not there. -/
def Senator.ofDict (F : Foundation) (d : Dict String) : Senator where
  firstName := (d.get "first_name").getD ""
  lastName := (d.get "last_name").getD ""
  party := (d.get "party").getD ""
  state := (d.get "state").getD ""
  address := (d.get "address").getD ""
  phone := (d.get "phone").getD ""
  website := F.url ((d.get "website").getD "")
  memberID := (d.get "bioguide_id").getD ""

theorem Senator.init?_eq (F : Foundation) (d : Dict String) :
    Senator.init? F d =
      if ∀ k ∈ requiredKeys, (d.get k).isSome then some (Senator.ofDict F d) else none := by
  -- one key after the other, in the order in which the initializer asks for them
  cases h1 : d.get "first_name" with
  | none => simp [Senator.init?, requiredKeys, h1]
  | some _ =>
  cases h2 : d.get "last_name" with
  | none => simp [Senator.init?, requiredKeys, h1, h2]
  | some _ =>
  cases h3 : d.get "state" with
  | none => simp [Senator.init?, requiredKeys, h1, h2, h3]
  | some _ =>
  cases h4 : d.get "party" with
  | none => simp [Senator.init?, requiredKeys, h1, h2, h3, h4]
  | some _ =>
  cases h5 : d.get "phone" with
  | none => simp [Senator.init?, requiredKeys, h1, h2, h3, h4, h5]
  | some _ =>
  cases h6 : d.get "address" with
  | none => simp [Senator.init?, requiredKeys, h1, h2, h3, h4, h5, h6]
  | some _ =>
  cases h7 : d.get "website" with
  | none => simp [Senator.init?, requiredKeys, h1, h2, h3, h4, h5, h6, h7]
  | some _ =>
  cases h8 : d.get "bioguide_id" with
  | none => simp [Senator.init?, requiredKeys, h1, h2, h3, h4, h5, h6, h7, h8]
  | some _ =>
    simp [Senator.init?, Senator.ofDict, requiredKeys, h1, h2, h3, h4, h5, h6, h7, h8]

/-- The initializer reads only the required keys. -/
theorem Senator.init?_congr {F : Foundation} {d e : Dict String}
    (h : ∀ k ∈ requiredKeys, d.get k = e.get k) : Senator.init? F d = Senator.init? F e := by
  simp only [requiredKeys, List.mem_cons, List.not_mem_nil, or_false, forall_eq_or_imp,
    forall_eq] at h
  obtain ⟨h1, h2, h3, h4, h5, h6, h7, h8⟩ := h
  simp only [Senator.init?, h1, h2, h3, h4, h5, h6, h7, h8]

end PWR
