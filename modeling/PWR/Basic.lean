import Mathlib.Data.String.Basic
import PWR.Lib.Trim

/-!
# The app's data, and what it uses of Swift and Foundation

The model types of the app (`Models/Senator.swift`, `Models/State.swift`) and the parts of Swift's
library that its logic calls.

A Swift `String` is modelled by Lean's `String`: both are sequences of Unicode scalars. Swift's `==`
and its dictionary keys go by canonical equivalence, Lean's `=` by the scalars; the two agree on
texts in normal form, and all texts are taken to be in it (those of the source are ASCII). A Swift
dictionary with `String` keys is modelled by what it looks up (`Dict`); where the source enumerates
a dictionary, the order is a parameter (`Order` in `PWR/Roster/States.lean`).

`Foundation` holds what the app asks of Foundation and of the asset catalog and what the source
does not fix: which strings `URL(string:)` accepts, the Unicode tables behind `lowercased` and
`hasPrefix` (fixed here for ASCII text), and which images the bundle has.
-/

namespace PWR

/-! ## Dictionaries -/

/-- A Swift dictionary `[String: α]`, as the entries that it looks up, with keys in normal form. -/
def Dict (α : Type) : Type := String → Option α

namespace Dict

variable {α : Type}

/-- `[:]`. -/
def empty : Dict α := fun _ => none

/-- `d[k]`. -/
def get (d : Dict α) (k : String) : Option α := d k

/-- `d[k] = v`. -/
def set (d : Dict α) (k : String) (v : α) : Dict α := fun k' => if k' = k then some v else d k'

/-- `[k: v]`. -/
def single (k : String) (v : α) : Dict α := empty.set k v

@[simp] theorem get_empty (k : String) : (empty : Dict α).get k = none := rfl

@[simp] theorem get_set_self (d : Dict α) (k : String) (v : α) : (d.set k v).get k = some v := by
  simp [get, set]

theorem get_set_ne (d : Dict α) {k k' : String} (v : α) (h : k' ≠ k) :
    (d.set k v).get k' = d.get k' := by
  simp [get, set, h]

theorem get_set (d : Dict α) (k k' : String) (v : α) :
    (d.set k v).get k' = if k' = k then some v else d.get k' := rfl

@[simp] theorem set_set (d : Dict α) (k : String) (v w : α) : (d.set k v).set k w = d.set k w := by
  funext k'
  by_cases h : k' = k <;> simp [set, h]

theorem get_single (k k' : String) (v : α) :
    (single k v).get k' = if k' = k then some v else none := rfl

end Dict

/-! ## Text -/

/-- `CharacterSet.whitespacesAndNewlines`: the Unicode categories `Z*`, the tabulation, and the
newlines `U+000A` to `U+000D` and `U+0085`. -/
def isWhitespaceOrNewline (c : Char) : Bool :=
  let n := c.toNat
  (0x09 ≤ n && n ≤ 0x0D) || n == 0x20 || n == 0x85 || n == 0xA0 || n == 0x1680 ||
    (0x2000 ≤ n && n ≤ 0x200A) || n == 0x2028 || n == 0x2029 || n == 0x202F || n == 0x205F ||
    n == 0x3000

/-- `trimmingCharacters(in: .whitespacesAndNewlines)`. -/
def trimmingCharacters (s : String) : String := String.ofList (trim isWhitespaceOrNewline s.toList)

/-- The text has only white space and newlines. -/
def IsWhitespace (s : String) : Prop := ∀ c ∈ s.toList, isWhitespaceOrNewline c = true

/-- The text has only ASCII characters. -/
def IsASCII (s : String) : Prop := ∀ c ∈ s.toList, c.toNat < 128

instance (s : String) : Decidable (IsWhitespace s) := List.decidableBAll _ s.toList

instance (s : String) : Decidable (IsASCII s) := List.decidableBAll _ s.toList

theorem isWhitespace_empty : IsWhitespace "" := by decide

theorem IsWhitespace.append {s t : String} (hs : IsWhitespace s) (ht : IsWhitespace t) :
    IsWhitespace (s ++ t) := by
  intro c hc
  rw [String.toList_append, List.mem_append] at hc
  exact hc.elim (hs c) (ht c)

theorem IsASCII.append {s t : String} (hs : IsASCII s) (ht : IsASCII t) : IsASCII (s ++ t) := by
  intro c hc
  rw [String.toList_append, List.mem_append] at hc
  exact hc.elim (hs c) (ht c)

/-- White space in front of a text does not show in the trimmed text. -/
theorem trimmingCharacters_append {w : String} (hw : IsWhitespace w) (s : String) :
    trimmingCharacters (w ++ s) = trimmingCharacters s := by
  unfold trimmingCharacters
  rw [String.toList_append, trim_append_left hw]

/-! ## Foundation -/

/-- A `URL`, by the string that it was made from. -/
structure URL where
  string : String
  deriving DecidableEq, Repr

/-- A `UIImage`, by its name in the asset catalog. -/
structure UIImage where
  name : String
  deriving DecidableEq, Repr

/-- What the app uses of Foundation and of its asset catalog, and the source does not fix. -/
structure Foundation where
  /-- `URL(string:)` accepts the string. -/
  isURL : String → Bool
  /-- The asset catalog has an image of that name. -/
  hasImage : String → Bool
  /-- `String.lowercased`. -/
  lowercased : String → String
  /-- `String.hasPrefix`. -/
  hasPrefix : String → String → Bool
  lowercased_ascii : ∀ s, IsASCII s → lowercased s = s.toLower
  /-- A text without carriage returns: a Swift string has `\r\n` as one character. -/
  hasPrefix_ascii : ∀ s p, IsASCII s → '\r' ∉ s.toList → IsASCII p → p ≠ "" →
    hasPrefix s p = p.toList.isPrefixOf s.toList

/-- A Foundation that knows ASCII only, accepts every nonempty URL and has every image. -/
instance : Inhabited Foundation where
  default :=
    { isURL := fun s => s != ""
      hasImage := fun _ => true
      lowercased := String.toLower
      hasPrefix := fun s p => p.toList.isPrefixOf s.toList
      lowercased_ascii := fun _ _ => rfl
      hasPrefix_ascii := fun _ _ _ _ _ _ => rfl }

namespace Foundation

variable (F : Foundation)

/-- `URL(string:)`. -/
def url (s : String) : Option URL := if F.isURL s then some ⟨s⟩ else none

/-- `UIImage(named: name) ?? UIImage(imageLiteralResourceName: "Oval")`. The catalog of the
repository has `Oval`. -/
def image (name : String) : UIImage := if F.hasImage name then ⟨name⟩ else ⟨"Oval"⟩

end Foundation

/-! ## Models -/

/-- `struct Senator`. -/
structure Senator where
  firstName : String
  lastName : String
  party : String
  state : String
  address : String
  phone : String
  website : Option URL
  memberID : String
  deriving DecidableEq, Repr

/-- `Senator.init?(dict:)`. -/
def Senator.init? (F : Foundation) (dict : Dict String) : Option Senator := do
  let fName ← dict.get "first_name"
  let lName ← dict.get "last_name"
  let state ← dict.get "state"
  let party ← dict.get "party"
  let phone ← dict.get "phone"
  let address ← dict.get "address"
  let web ← dict.get "website"
  let id ← dict.get "bioguide_id"
  let website := F.url web
  return { firstName := fName, lastName := lName, party := party, state := state,
           address := address, phone := phone, website := website, memberID := id }

/-- The keys that `Senator.init?(dict:)` requires. -/
def requiredKeys : List String :=
  ["first_name", "last_name", "state", "party", "phone", "address", "website", "bioguide_id"]

/-- `struct State`. -/
structure State where
  abbreviation : String
  title : String
  senators : List Senator
  pic : UIImage
  deriving DecidableEq, Repr

end PWR
