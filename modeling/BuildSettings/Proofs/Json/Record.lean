import BuildSettings.Json.Decoder
import BuildSettings.Proofs.Json.Order

/-!
# Fields of a record

A record is read from an object member by member. A field is held at a place of the record if
reading it fills that place and no other field touches it. Then the place has what the member of
that name reads to, or is left as it was when there is no such member.

* `RecordField.Spares` — fields that leave a place as it was.
* `Holds` — the field that fills a place.
* `lookup_eq_none_of_seen` — a field that was read does not come again.
* `get_recordMembers`, `get_record` — what a record has at a place.
-/

namespace BuildSettings

variable {α β σ ε : Type}

/-- A computation of two parts gives a result if both parts do. Readers of records are taken apart
with this instead of being opened. -/
theorem bind_eq_ok_iff {x : Except ε α} {f : α → Except ε β} {b : β} :
    (x >>= f) = .ok b ↔ ∃ a, x = .ok a ∧ f a = .ok b := by
  cases x with
  | error e => exact iff_of_false nofun nofun
  | ok a => exact ⟨fun h => ⟨a, rfl, h⟩, fun ⟨_, ha, h⟩ => Except.ok.inj ha ▸ h⟩

/-- The case in which the second part cannot fail. -/
theorem map_eq_ok_iff {x : Except ε α} {f : α → β} {b : β} :
    x.map f = .ok b ↔ ∃ a, x = .ok a ∧ f a = b := by
  cases x with
  | error e => exact iff_of_false nofun nofun
  | ok a => exact ⟨fun h => ⟨a, rfl, Except.ok.inj h⟩, fun ⟨_, ha, h⟩ => by cases ha; rw [← h]; rfl⟩

namespace Json

/-- Reading the field does not change what `get` gives. -/
def RecordField.Spares (get : σ → α) (f : RecordField σ) : Prop :=
  ∀ document put, f.read document = .ok put → ∀ r, get (put r) = get r

/-- A field that is read changes the record as the value of the field says, and in no other way. -/
theorem RecordField.read_defaulted {name : String} {decode : Decoder β} {put : σ → β → σ}
    {document : Document} {change : σ → σ}
    (h : (RecordField.defaulted name decode put).read document = .ok change) :
    ∃ b, decode document = .ok b ∧ ∀ r, change r = put r b := by
  obtain ⟨b, hread, rfl⟩ := map_eq_ok_iff.1 h
  exact ⟨b, hread, fun _ => rfl⟩

/-- A field that is put elsewhere leaves what is looked at as it is. -/
theorem RecordField.spares_defaulted {name : String} {decode : Decoder β} {put : σ → β → σ}
    {get : σ → α} (h : ∀ r b, get (put r b) = get r) :
    (RecordField.defaulted name decode put).Spares get := by
  intro document change hread r
  obtain ⟨b, -, hchange⟩ := RecordField.read_defaulted hread
  rw [hchange]
  exact h r b

namespace Decoder

/-- The field of this name is read with `decode` and put where `get` finds it; all others leave
that place as it is. -/
structure Holds (fields : List (RecordField σ)) (name : String) (decode : Decoder α)
    (get : σ → α) : Prop where
  found : ∃ put, fields.find? (·.name == name) = some (.defaulted name decode put) ∧
    ∀ r a, get (put r a) = a
  spared : ∀ f ∈ fields, f.name = name ∨ f.Spares get

/-- The inversion of one step: a member of a record is passed over, or the field of its name is read
for the first time and changes the record. There is no third way to a result. -/
theorem recordMembers_member {fields : List (RecordField σ)} {seen : List String}
    {record result : σ} {key : String} {document : Document} {rest : Members}
    (h : recordMembers fields seen record (.member (.ok key) document rest) = .ok result) :
    (fields.find? (·.name == key) = none ∧ recordMembers fields seen record rest = .ok result) ∨
      ∃ f put, fields.find? (·.name == key) = some f ∧ key ∉ seen ∧
        f.read document = .ok put ∧
        recordMembers fields (key :: seen) (put record) rest = .ok result := by
  rw [recordMembers] at h
  obtain ⟨name, hname, h⟩ := bind_eq_ok_iff.1 h
  obtain rfl := Except.ok.inj hname
  cases hfind : fields.find? (·.name == key) with
  | none =>
    rw [hfind] at h
    obtain ⟨_, -, hrest⟩ := bind_eq_ok_iff.1 h
    exact .inl ⟨rfl, hrest⟩
  | some f =>
    rw [hfind] at h
    dsimp only at h
    -- a field that was seen before is refused
    by_cases hseen : seen.contains key = true
    · rw [if_pos hseen] at h
      cases h
    · rw [if_neg hseen] at h
      obtain ⟨put, hput, hrest⟩ := bind_eq_ok_iff.1 h
      exact .inr ⟨f, put, rfl, fun hmem => hseen (List.contains_iff_mem.2 hmem), hput, hrest⟩

/-- A field that was read does not come again, since a repeated field is an error and there is a
result. -/
theorem lookup_eq_none_of_seen {fields : List (RecordField σ)} {name : String}
    (hname : (fields.find? (·.name == name)).isSome) {members : List (String × Json)}
    {seen : List String} {record result : σ} (hseen : name ∈ seen)
    (h : recordMembers fields seen record (.ofList members) = .ok result) :
    members.lookup name = none := by
  induction members generalizing seen record with
  | nil => rfl
  | cons m rest ih =>
    obtain ⟨key, value⟩ := m
    rw [Members.ofList] at h
    rw [Dictionary.lookup_cons_eq]
    rcases recordMembers_member h with ⟨hnone, hrest⟩ | ⟨f, put, -, hnew, -, hrest⟩
    · -- the member is passed over, so it is not of the field
      have hne : name ≠ key := by
        rintro rfl
        rw [hnone] at hname
        cases hname
      rw [if_neg hne]
      exact ih hseen hrest
    · have hne : name ≠ key := fun heq => hnew (heq ▸ hseen)
      rw [if_neg hne]
      exact ih (List.mem_cons_of_mem _ hseen) hrest

/-- What a record has at a place: what the member of the field's name reads to, if there is one, and
otherwise what was there before. Members of other names do not reach the place. -/
theorem get_recordMembers {fields : List (RecordField σ)} {name : String} {decode : Decoder α}
    {get : σ → α} (hholds : Holds fields name decode get) {members : List (String × Json)}
    {seen : List String} {record result : σ}
    (h : recordMembers fields seen record (.ofList members) = .ok result) :
    (members.lookup name = none → get result = get record) ∧
      ∀ value, members.lookup name = some value → decode (.ofJson value) = .ok (get result) := by
  obtain ⟨place, hfound, hplace⟩ := hholds.found
  induction members generalizing seen record with
  | nil =>
    rw [Members.ofList, recordMembers] at h
    split at h
    · exact ⟨fun _ => congrArg get (Except.ok.inj h).symm, fun _ hvalue => nomatch hvalue⟩
    · cases h
  | cons m rest ih =>
    obtain ⟨key, value⟩ := m
    rw [Members.ofList] at h
    rw [Dictionary.lookup_cons_eq]
    rcases recordMembers_member h with ⟨hnone, hrest⟩ | ⟨f, put, hf, -, hput, hrest⟩
    · have hne : name ≠ key := by
        rintro rfl
        rw [hfound] at hnone
        cases hnone
      rw [if_neg hne]
      exact ih hrest
    · by_cases hkey : name = key
      · -- the field itself: none of the later members has its name
        subst hkey
        have hlater := lookup_eq_none_of_seen (by rw [hf]; rfl) List.mem_cons_self hrest
        have hlast := (ih hrest).1 hlater
        rw [hfound] at hf
        obtain rfl := Option.some.inj hf
        obtain ⟨a, ha, hchange⟩ := RecordField.read_defaulted hput
        rw [if_pos rfl, hlast, hchange, hplace]
        exact ⟨fun hnone => (nomatch hnone), fun v hv => Option.some.inj hv ▸ ha⟩
      · rw [if_neg hkey]
        -- another field: its value does not reach the place
        have hname : f.name = key := by simpa using List.find?_some hf
        have hspared : f.Spares get := by
          rcases hholds.spared f (List.mem_of_find?_eq_some hf) with heq | hspared
          · exact absurd (heq.symm.trans hname) hkey
          · exact hspared
        rw [← hspared _ put hput record]
        exact ih hrest

/-- A record of an object has at a place what the member of the field's name reads to. -/
theorem get_record {fields : List (RecordField σ)} {name : String} {decode : Decoder α}
    {get : σ → α} (hholds : Holds fields name decode get) {blank result : σ} {value below : Json}
    (h : record blank fields (.ofJson value) = .ok result)
    (hbelow : value.field? name = some below) : decode (.ofJson below) = .ok (get result) := by
  cases value with
  | object members =>
    rw [Document.ofJson] at h
    exact (get_recordMembers hholds h).2 below hbelow
  | _ => cases hbelow

/-! ### Texts, names and lists of texts -/

theorem text_ofJson {value : Json} {s : String} (h : text (.ofJson value) = .ok s) :
    value = .text s := by
  cases value <;> rw [Document.ofJson] at h <;> cases h
  rfl

theorem flag_ofJson {value : Json} {b : Bool} (h : flag (.ofJson value) = .ok b) :
    value = .bool b := by
  cases value <;> rw [Document.ofJson] at h <;> cases h
  rfl

/-- A choice that is given by a text has that text as its name. -/
theorem name_of_choice {names : List (String × α)} {name : α → String}
    (hnames : ∀ e ∈ names, name e.2 = e.1) {s : String} {a : α}
    (h : choice names (.ofJson (.text s)) = .ok a) : s = name a := by
  rw [Document.ofJson, choice] at h
  cases hlookup : names.lookup s with
  | none =>
    rw [hlookup] at h
    cases h
  | some b =>
    rw [hlookup] at h
    rw [← Except.ok.inj h]
    exact (hnames _ (Dictionary.mem_of_lookup hlookup)).symm

/-- A list is read as texts if all its items are texts. -/
theorem items_text_ofList {values : List Json} {texts : List String}
    (h : items text (.ofList values) = .ok texts) : values = texts.map .text := by
  induction values generalizing texts with
  | nil =>
    rw [Items.ofList, items] at h
    cases h
    rfl
  | cons value rest ih =>
    rw [Items.ofList, items] at h
    obtain ⟨first, hfirst, h⟩ := bind_eq_ok_iff.1 h
    obtain ⟨others, hrest, h⟩ := bind_eq_ok_iff.1 h
    cases h
    rw [List.map_cons, ← ih hrest, text_ofJson hfirst]

/-- The same for a whole value. -/
theorem list_text_ofJson {value : Json} {texts : List String}
    (h : list text (.ofJson value) = .ok texts) : value = .ofTexts texts := by
  cases value with
  | array values =>
    rw [Document.ofJson] at h
    rw [items_text_ofList h]
    rfl
  | _ => rw [Document.ofJson] at h; cases h

/-- An object is read as texts if all its members are texts; the keys stay with them, repeated ones
too. -/
theorem members_text_ofList {members : List (String × Json)} {texts : List (String × String)}
    (h : Decoder.members text (.ofList members) = .ok texts) :
    members = texts.map fun e => (e.1, .text e.2) := by
  induction members generalizing texts with
  | nil =>
    rw [Members.ofList, Decoder.members] at h
    cases h
    rfl
  | cons m rest ih =>
    obtain ⟨key, value⟩ := m
    rw [Members.ofList, Decoder.members] at h
    obtain ⟨name, hname, h⟩ := bind_eq_ok_iff.1 h
    obtain ⟨first, hfirst, h⟩ := bind_eq_ok_iff.1 h
    obtain ⟨others, hrest, h⟩ := bind_eq_ok_iff.1 h
    cases hname
    cases h
    rw [List.map_cons, ← ih hrest, text_ofJson hfirst]

/-- A dictionary of texts has the members of its object, each of which comes once. -/
theorem dictionary_text_ofJson {value : Json} (hordered : value.IsOrdered)
    {d : Dictionary String} (h : dictionary text (.ofJson value) = .ok d) (key : String) :
    value.field? key = (d.get? key).map .text := by
  cases value with
  | object members =>
    rw [Document.ofJson] at h
    obtain ⟨texts, hread, rfl⟩ := map_eq_ok_iff.1 h
    have hkeys := hordered.keys
    obtain rfl := members_text_ofList hread
    rw [List.pairwise_map] at hkeys
    rw [Dictionary.get?_ofList, Dictionary.lookup_reverse hkeys]
    exact Dictionary.lookup_map Json.text key texts
  | _ => rw [Document.ofJson] at h; cases h

end Decoder

end Json

end BuildSettings
