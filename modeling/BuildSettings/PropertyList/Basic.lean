import BuildSettings.PropertyList.Event

/-!
# Property lists

A property list is a tree of dictionaries, arrays and scalars, written in XML. A document holds
one, and nothing behind it. `PropertyList.texts?` looks up the texts under some names of a
dictionary; a name may also be given by its bytes, or by its place among the names.
-/

namespace BuildSettings

/-- A property list. -/
inductive PropertyList where
  | text (content : String)
  | bytes (content : List UInt8)
  | integer (value : Int)
  /-- A real number or a truth value. -/
  | scalar
  | array (items : List PropertyList)
  | dictionary (entries : List (PropertyList × PropertyList))
deriving Inhabited

namespace PropertyList

/-! ### Trees -/

/-- A collection that is being read, its last part first. -/
inductive Frame where
  | array (items : List PropertyList)
  /-- A dictionary, and the key whose value comes next. -/
  | dictionary (entries : List (PropertyList × PropertyList)) (key : Option PropertyList)

/-- The finished collection; a key needs a value. -/
def Frame.close? : Frame → Option PropertyList
  | .array items => some (.array items.reverse)
  | .dictionary entries none => some (.dictionary entries.reverse)
  | .dictionary _ (some _) => none

/-- The collection with one more part. -/
def Frame.add : Frame → PropertyList → Frame
  | .array items, value => .array (value :: items)
  | .dictionary entries none, key => .dictionary entries (some key)
  | .dictionary entries (some key), value => .dictionary ((key, value) :: entries) none

/-- What a reader of events has so far: the open collections, or the finished property list. -/
inductive Progress where
  | reading (frames : List Frame)
  | finished (value : PropertyList)

namespace Progress

/-- Takes a value into the innermost collection. -/
def deliver (value : PropertyList) : List Frame → Progress
  | [] => .finished value
  | frame :: frames => .reading (frame.add value :: frames)

/-- Takes an event; there is none behind the property list. -/
def step? : Progress → Event → Option Progress
  | .finished _, _ => none
  | .reading frames, event =>
    match event with
    | .text content => some (deliver (.text content) frames)
    | .bytes content => some (deliver (.bytes content) frames)
    | .integer value => some (deliver (.integer value) frames)
    | .scalar => some (deliver .scalar frames)
    | .startArray => some (.reading (.array [] :: frames))
    | .startDictionary => some (.reading (.dictionary [] none :: frames))
    | .stop =>
      match frames with
      | [] => none
      | frame :: frames => frame.close?.map (deliver · frames)

/-- The property list, if it is finished. -/
def result? : Progress → Option PropertyList
  | .reading _ => none
  | .finished value => some value

end Progress

/-- The property list that events tell. -/
def ofEvents? (events : List Event) : Option PropertyList :=
  (events.foldlM Progress.step? (.reading [])).bind Progress.result?

/-- The property list of a document. -/
def ofText? (s : String) : Option PropertyList :=
  (Event.ofDocument? s).bind ofEvents?

/-! ### Texts of a dictionary -/

/-- The text of a scalar; bytes are the text they encode. -/
def asText? : PropertyList → Option String
  | .text content => some content
  | .bytes content => String.fromUTF8? ⟨content.toArray⟩
  | _ => none

/-- The place among `names` that a key gives, if any; `none` for what is no key. -/
def place? (names : List String) : PropertyList → Option (Option Nat)
  | .text name => some (names.idxOf? name)
  | .bytes name => some (names.findIdx? (·.toUTF8.toList == name))
  | .integer place =>
    if 0 ≤ place then some ((some place.toNat).filter (· < names.length)) else none
  | _ => none

/-- The texts under the given names of a dictionary, where present; `none` when the property list
is no dictionary, has a key that is none, or has one of the names twice or with something else
than a text. -/
def texts? (names : List String) : PropertyList → Option (List (Option String))
  | .dictionary entries => do
    let placed ← entries.mapM fun (key, value) => (place? names key).map (·, value)
    (List.range names.length).mapM fun i =>
      match placed.filter (·.1 == some i) with
      | [] => some none
      | [(_, value)] => value.asText?.map some
      | _ => none
  | _ => none

end PropertyList

end BuildSettings
