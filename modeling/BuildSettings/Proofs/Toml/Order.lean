import BuildSettings.Proofs.Json.Order
import BuildSettings.Toml.Document

/-!
# TOML documents are in order

A table becomes the object of a dictionary, so its keys come in order, each once. What is left to
see is that a scalar, whose value is taken as it is, is never a container: then every value that a
document reads to is in order (`isOrdered_parse?`).

* `Entry.IsPlain` — entries whose scalars are in order.
* `Gives` — what every result of a reader satisfies.
* `gives_scalar?`, `gives_value?` — readers of values give plain entries.
* `plain_update`, `plain_enter`, `plain_nameTable`, `plain_nameElement` — lines keep tables plain.
* `isOrdered_parse?` — the value of a document.
-/

namespace BuildSettings.Toml

/-! ### Entries -/

/-- The scalars in an entry are in order. -/
inductive Entry.IsPlain : Entry → Prop
  | text (content : String) : IsPlain (.text content)
  | scalar {value : Json} (hvalue : value.IsOrdered) : IsPlain (.scalar value)
  | array {items : List Entry} (hitems : ∀ item ∈ items, IsPlain item) : IsPlain (.array items)
  | inline {entries : Entries} (hentries : ∀ e ∈ entries, IsPlain e.2) : IsPlain (.inline entries)
  | table (implicit dotted : Bool) {entries : Entries} (hentries : ∀ e ∈ entries, IsPlain e.2) :
      IsPlain (.table implicit dotted entries)
  | tables {elements : List Entries}
      (helements : ∀ entries ∈ elements, ∀ e ∈ entries, IsPlain e.2) : IsPlain (.tables elements)

/-- All entries of a table are plain. -/
def Plain (entries : Entries) : Prop :=
  ∀ e ∈ entries, e.2.IsPlain

theorem plain_nil : Plain [] :=
  fun _ h => absurd h List.not_mem_nil

/-- A new key comes behind the others, and its entry is plain. -/
theorem Plain.append_singleton {entries : Entries} (h : Plain entries) {key : String}
    {entry : Entry} (hentry : entry.IsPlain) : Plain (entries ++ [(key, entry)]) := by
  intro e he
  rcases List.mem_append.1 he with he | he
  · exact h e he
  · rw [List.mem_singleton.1 he]
    exact hentry

/-- The entry of a key that is there is replaced in its place. -/
theorem Plain.replace {entries : Entries} (h : Plain entries) {key : String} {entry : Entry}
    (hentry : entry.IsPlain) : Plain (Entry.replace key entry entries) := by
  intro e he
  obtain ⟨old, hold, rfl⟩ := List.mem_map.1 he
  by_cases hkey : (old.1 == key) = true
  · rw [if_pos hkey]
    exact hentry
  · rw [if_neg hkey]
    exact h old hold

/-! ### Values of entries -/

/-- The object of a table's members is in order. -/
theorem isOrdered_ofList {members : List (String × Json)} (h : ∀ m ∈ members, m.2.IsOrdered) :
    (Json.object (Dictionary.ofList members).entries).IsOrdered := by
  refine Json.isOrdered_entries fun key value hget => ?_
  rw [Dictionary.get?_ofList] at hget
  exact h (key, value) (List.mem_reverse.1 (Dictionary.mem_of_lookup hget))

/-- A table that stands for a timestamp is a text. -/
theorem isOrdered_timestamp? {entry : Entry} {value : Json} (h : entry.timestamp? = some value) :
    value.IsOrdered := by
  cases entry with
  | text content =>
    obtain ⟨t, -, rfl⟩ := Option.map_eq_some_iff.1 h
    exact .text _
  | _ => cases h

mutual

/-- A plain entry makes an ordered value. The functions for lists, members and tables call each
other, so the four are proved together. -/
theorem isOrdered_toJson? {entry : Entry} (hplain : entry.IsPlain) {value : Json}
    (hvalue : entry.toJson? = some value) : value.IsOrdered := by
  cases entry with
  | text content =>
    rw [Entry.toJson?] at hvalue
    exact Option.some.inj hvalue ▸ .text content
  | scalar scalar =>
    -- only here is a value taken as it is
    rw [Entry.toJson?] at hvalue
    cases hplain with
    | scalar hscalar => exact Option.some.inj hvalue ▸ hscalar
  | array items =>
    rw [Entry.toJson?] at hvalue
    obtain ⟨values, hvalues, rfl⟩ := Option.map_eq_some_iff.1 hvalue
    cases hplain with
    | array hitems => exact .array (isOrdered_valuesOf? hitems hvalues)
  | inline entries =>
    rw [Entry.toJson?] at hvalue
    cases hplain with
    | inline hentries => exact isOrdered_tableToJson? hentries hvalue
  | table implicit dotted entries =>
    rw [Entry.toJson?] at hvalue
    cases hplain with
    | table _ _ hentries => exact isOrdered_tableToJson? hentries hvalue
  | tables elements =>
    rw [Entry.toJson?] at hvalue
    obtain ⟨values, hvalues, rfl⟩ := Option.map_eq_some_iff.1 hvalue
    cases hplain with
    | tables helements =>
      refine .array fun value hmem => ?_
      exact isOrdered_tablesToJson? helements hvalues value (List.mem_reverse.1 hmem)

/-- So are the values of a list of plain entries. -/
theorem isOrdered_valuesOf? {items : List Entry} (hplain : ∀ item ∈ items, item.IsPlain)
    {values : List Json} (hvalues : Entry.valuesOf? items = some values) :
    ∀ value ∈ values, value.IsOrdered := by
  cases items with
  | nil =>
    rw [Entry.valuesOf?] at hvalues
    exact Option.some.inj hvalues ▸ fun _ h => absurd h List.not_mem_nil
  | cons item rest =>
    obtain ⟨hitem, hrest⟩ := List.forall_mem_cons.1 hplain
    rw [Entry.valuesOf?] at hvalues
    obtain ⟨value, hvalue, hvalues⟩ := Option.bind_eq_some_iff.1 hvalues
    obtain ⟨below, hbelow, hvalues⟩ := Option.bind_eq_some_iff.1 hvalues
    rw [← Option.some.inj hvalues]
    -- the first item and the rest, each by its own function
    exact List.forall_mem_cons.2
      ⟨isOrdered_toJson? hitem hvalue, isOrdered_valuesOf? hrest hbelow⟩

/-- The value of a table of plain entries is in order, since a table is read as a dictionary of its
members, or as a time. -/
theorem isOrdered_tableToJson? {entries : Entries} (hplain : ∀ e ∈ entries, e.2.IsPlain)
    {value : Json} (hvalue : Entry.tableToJson? entries = some value) : value.IsOrdered := by
  cases entries with
  | nil =>
    rw [Entry.tableToJson?] at hvalue
    exact Option.some.inj hvalue ▸ .object .nil fun _ h => absurd h List.not_mem_nil
  | cons e rest =>
    obtain ⟨key, entry⟩ := e
    obtain ⟨hentry, hrest⟩ := List.forall_mem_cons.1 hplain
    rw [Entry.tableToJson?] at hvalue
    -- the entries behind a timestamp do not count, so nothing is asked of them
    by_cases hkey : key = Entry.timestampKey
    · rw [if_pos hkey] at hvalue
      exact isOrdered_timestamp? hvalue
    · rw [if_neg hkey] at hvalue
      obtain ⟨first, hfirst, hvalue⟩ := Option.bind_eq_some_iff.1 hvalue
      obtain ⟨members, hmembers, hvalue⟩ := Option.bind_eq_some_iff.1 hvalue
      rw [← Option.some.inj hvalue]
      exact isOrdered_ofList (List.forall_mem_cons.2
        ⟨isOrdered_toJson? hentry hfirst, isOrdered_membersOf? hrest hmembers⟩)

/-- So are those of the members of a table. -/
theorem isOrdered_membersOf? {entries : Entries} (hplain : ∀ e ∈ entries, e.2.IsPlain)
    {members : List (String × Json)} (hmembers : Entry.membersOf? entries = some members) :
    ∀ m ∈ members, m.2.IsOrdered := by
  cases entries with
  | nil =>
    rw [Entry.membersOf?] at hmembers
    exact Option.some.inj hmembers ▸ fun _ h => absurd h List.not_mem_nil
  | cons e rest =>
    obtain ⟨key, entry⟩ := e
    obtain ⟨hentry, hrest⟩ := List.forall_mem_cons.1 hplain
    rw [Entry.membersOf?] at hmembers
    obtain ⟨value, hvalue, hmembers⟩ := Option.bind_eq_some_iff.1 hmembers
    obtain ⟨below, hbelow, hmembers⟩ := Option.bind_eq_some_iff.1 hmembers
    rw [← Option.some.inj hmembers]
    exact List.forall_mem_cons.2
      ⟨isOrdered_toJson? hentry hvalue, isOrdered_membersOf? hrest hbelow⟩

/-- So are those of a list of tables. -/
theorem isOrdered_tablesToJson? {elements : List Entries}
    (hplain : ∀ entries ∈ elements, ∀ e ∈ entries, e.2.IsPlain) {values : List Json}
    (hvalues : Entry.tablesToJson? elements = some values) :
    ∀ value ∈ values, value.IsOrdered := by
  cases elements with
  | nil =>
    rw [Entry.tablesToJson?] at hvalues
    exact Option.some.inj hvalues ▸ fun _ h => absurd h List.not_mem_nil
  | cons entries rest =>
    obtain ⟨htable, hrest⟩ := List.forall_mem_cons.1 hplain
    rw [Entry.tablesToJson?] at hvalues
    obtain ⟨value, hvalue, hvalues⟩ := Option.bind_eq_some_iff.1 hvalues
    obtain ⟨below, hbelow, hvalues⟩ := Option.bind_eq_some_iff.1 hvalues
    rw [← Option.some.inj hvalues]
    exact List.forall_mem_cons.2
      ⟨isOrdered_tableToJson? htable hvalue, isOrdered_tablesToJson? hrest hbelow⟩

end

/-! ### Readers of values -/

/-- Whatever the reader reads has the property. -/
def Gives {α : Type} (p : α → Prop) (r : Option (α × List Char)) : Prop :=
  ∀ a rest, r = some (a, rest) → p a

theorem gives_none {α : Type} {p : α → Prop} : Gives p none :=
  fun _ _ h => nomatch h

/-- A reader that has read something gives what it has read and leaves the rest. -/
theorem gives_some {α : Type} {p : α → Prop} {a : α} (h : p a) (rest : List Char) :
    Gives p (some (a, rest)) := by
  intro b behind hb
  cases hb
  exact h

/-- What a reader gives carries over to what is made of it. -/
theorem Gives.map {α β : Type} {p : α → Prop} {q : β → Prop} {r : Option (α × List Char)}
    (h : Gives p r) {f : α → β} (hf : ∀ a, p a → q (f a)) :
    Gives q (r.map fun (a, rest) => (f a, rest)) := by
  intro b rest hb
  obtain ⟨⟨a, behind⟩, hr, heq⟩ := Option.map_eq_some_iff.1 hb
  cases heq
  exact hf a (h a rest hr)

/-- A reader of whose result nothing is known. -/
theorem gives_true {α : Type} (r : Option (α × List Char)) : Gives (fun _ => True) r :=
  fun _ _ _ => trivial

/-- Numbers are ordered, as all values without members are. -/
theorem isOrdered_integer? {value : Int} {j : Json} (h : integer? value = some j) :
    j.IsOrdered := by
  unfold integer? at h
  split at h
  · exact Option.some.inj h ▸ .number _
  · cases h

theorem isOrdered_real? {negative : Bool} {whole fraction : List Char} {exponent : Int} {j : Json}
    (h : real? negative whole fraction exponent = some j) : j.IsOrdered := by
  unfold real? at h
  dsimp only at h
  by_cases hlarge : Decimal.infinityBits ≤
      Decimal.nearestBits (decimal (whole ++ fraction)) (exponent - fraction.length)
  · rw [if_pos hlarge] at h
    cases negative with
    | true => exact Option.some.inj h ▸ .null
    | false => cases h
  · rw [if_neg hlarge] at h
    exact Option.some.inj h ▸ .number _

theorem gives_based? (base : Nat) (cs : List Char) : Gives Json.IsOrdered (based? base cs) := by
  intro j rest h
  obtain ⟨digits, -, h⟩ := Option.bind_eq_some_iff.1 h
  obtain ⟨value, hvalue, h⟩ := Option.map_eq_some_iff.1 h
  cases h
  exact isOrdered_integer? hvalue

theorem gives_special? (cs : List Char) : Gives Json.IsOrdered (special? cs) := by
  unfold special?
  split
  · exact gives_some .null _
  · exact gives_some .null _
  · exact gives_none

theorem gives_decimalNumber? (negative : Bool) (cs : List Char) :
    Gives Json.IsOrdered (decimalNumber? negative cs) := by
  intro j rest h
  obtain ⟨⟨whole, behindWhole⟩, -, h⟩ := Option.bind_eq_some_iff.1 h
  obtain ⟨⟨fraction, behindFraction⟩, -, h⟩ := Option.bind_eq_some_iff.1 h
  obtain ⟨⟨exponent, behindExponent⟩, -, h⟩ := Option.bind_eq_some_iff.1 h
  dsimp only at h
  split at h
  · obtain ⟨value, hvalue, hpair⟩ := Option.bind_eq_some_iff.1 h
    cases hpair
    exact isOrdered_integer? hvalue
  · obtain ⟨value, hvalue, hpair⟩ := Option.bind_eq_some_iff.1 h
    cases hpair
    exact isOrdered_real? hvalue

theorem gives_number? (cs : List Char) : Gives Json.IsOrdered (number? cs) := by
  unfold number?
  split
  · exact gives_based? 16 _
  · exact gives_based? 8 _
  · exact gives_based? 2 _
  · intro j rest h
    rcases Option.or_eq_some_iff.1 h with h | ⟨-, h⟩
    · exact gives_special? _ j rest h
    · exact gives_decimalNumber? _ _ j rest h

theorem gives_numberOrTime? (cs : List Char) : Gives Json.IsOrdered (numberOrTime? cs) := by
  unfold numberOrTime?
  split
  · exact gives_some (.text _) _
  · exact gives_number? cs

/-- A scalar is a text, a number, a truth value or a time, and none of these has members. -/
theorem gives_scalar? (cs : List Char) : Gives Entry.IsPlain (scalar? cs) := by
  have hscalar : ∀ value : Json, value.IsOrdered → (Entry.scalar value).IsPlain :=
    fun _ h => .scalar h
  have hbool : ∀ (word : String) (b : Bool),
      Gives Json.IsOrdered ((word? word.toList cs).map (Json.bool b, ·)) := by
    intro word b j rest h
    obtain ⟨behind, -, h⟩ := Option.map_eq_some_iff.1 h
    cases h
    exact .bool b
  unfold scalar?
  -- a quote, a word, a number or a time, in the order in which they are tried
  split
  · exact gives_none
  · split
    · exact (gives_true (text? _)).map fun content _ => Entry.IsPlain.text (String.ofList content)
    · split
      · exact (hbool "true" true).map hscalar
      · split
        · exact (hbool "false" false).map hscalar
        · split
          · exact (gives_numberOrTime? _).map hscalar
          · exact (gives_special? _).map hscalar

/-- The items of an array are plain if the reader for values gives plain entries. The recursion is
on the fuel, and the reader for values is a parameter since values hold arrays in turn. -/
theorem gives_arrayItems {value? : List Char → Read Entry}
    (hvalue : ∀ cs, Gives Entry.IsPlain (value? cs)) (fuel : Nat) (cs : List Char) :
    Gives (fun items => ∀ item ∈ items, item.IsPlain) (arrayItems value? fuel cs) := by
  induction fuel generalizing cs with
  | zero => exact gives_none
  | succ fuel ih =>
    unfold arrayItems
    split
    · exact gives_some (fun _ h => absurd h List.not_mem_nil) _
    · split
      · exact gives_none
      next value rest hread =>
        have hplain : value.IsPlain := hvalue _ value rest hread
        split
        · exact gives_some (fun item hitem => List.mem_singleton.1 hitem ▸ hplain) _
        · exact (ih _).map fun values hvalues => List.forall_mem_cons.2 ⟨hplain, hvalues⟩
        · exact gives_none

/-! ### Lines -/

/-- What is done to the table at the end of a path keeps the tables on the way plain, if it keeps
that table so. By induction on the path. -/
theorem plain_update {dotted : Bool} {f : Bool → Entries → Option Entries}
    (hf : ∀ isDotted entries result, Plain entries → f isDotted entries = some result →
      Plain result)
    (path : List String) (isDotted : Bool) {entries result : Entries} (h : Plain entries)
    (hupdate : Entry.update dotted f path isDotted entries = some result) : Plain result := by
  induction path generalizing isDotted entries result with
  | nil => exact hf isDotted entries result h hupdate
  | cons key path ih =>
    rw [Entry.update] at hupdate
    cases hlookup : entries.lookup key with
    | none =>
      rw [hlookup] at hupdate
      obtain ⟨below, hbelow, rfl⟩ := Option.map_eq_some_iff.1 hupdate
      -- the table is made on the way
      exact h.append_singleton (.table true dotted (ih dotted plain_nil hbelow))
    | some entry =>
      -- the path goes on in the entry, which then takes the place of the old one
      have hentry : entry.IsPlain := h (key, entry) (Dictionary.mem_of_lookup hlookup)
      rw [hlookup] at hupdate
      cases hentry with
      | table implicit wasDotted hbelow =>
        dsimp only at hupdate
        split at hupdate
        · cases hupdate
        · obtain ⟨below, hresult, rfl⟩ := Option.map_eq_some_iff.1 hupdate
          exact h.replace (.table implicit wasDotted (ih wasDotted hbelow hresult))
      | @tables elements helements =>
        cases elements with
        | nil => cases hupdate
        | cons last earlier =>
          -- of several tables the open one changes, which comes first
          obtain ⟨hlast, hearlier⟩ := List.forall_mem_cons.1 helements
          obtain ⟨below, hresult, rfl⟩ := Option.map_eq_some_iff.1 hupdate
          exact h.replace (.tables (List.forall_mem_cons.2 ⟨ih false hlast hresult, hearlier⟩))
      | _ => cases hupdate

/-- Entering a value below dotted keys makes plain tables on the way. -/
theorem plain_enter {path : List String} {key : String} {entry : Entry} (hentry : entry.IsPlain)
    {entries result : Entries} (h : Plain entries)
    (henter : Entry.enter path key entry entries = some result) : Plain result := by
  refine plain_update ?_ path false h henter
  intro isDotted table more htable hmore
  split at hmore
  · cases hmore
  · split at hmore
    · cases hmore
    · exact Option.some.inj hmore ▸ htable.append_singleton hentry

/-- A header opens a table that is there or makes an empty one, and may move it to the end. -/
theorem plain_nameTable {key : String} {entries result : Entries} (h : Plain entries)
    (hname : Entry.nameTable key entries = some result) : Plain result := by
  unfold Entry.nameTable at hname
  split at hname
  · exact Option.some.inj hname ▸ h.append_singleton (.table false false plain_nil)
  next below hlookup =>
    have hentry := h (key, _) (Dictionary.mem_of_lookup hlookup)
    have hothers : Plain (entries.filter (·.1 != key)) :=
      fun e he => h e (List.mem_filter.1 he).1
    cases hentry with
    | table _ _ hbelow =>
      exact Option.some.inj hname ▸ hothers.append_singleton (.table false false hbelow)
  · cases hname

/-- A header for an array of tables adds an empty table at its end. -/
theorem plain_nameElement {key : String} {entries result : Entries} (h : Plain entries)
    (hname : Entry.nameElement key entries = some result) : Plain result := by
  unfold Entry.nameElement at hname
  split at hname
  · refine Option.some.inj hname ▸ h.append_singleton (.tables fun table htable => ?_)
    exact List.mem_singleton.1 htable ▸ plain_nil
  next elements hlookup =>
    have hentry := h (key, _) (Dictionary.mem_of_lookup hlookup)
    cases hentry with
    | tables helements =>
      refine Option.some.inj hname ▸ h.replace (.tables ?_)
      exact List.forall_mem_cons.2 ⟨plain_nil, helements⟩
  · cases hname

/-- The members of an inline table are entered one after the other into a plain table, each with a
plain value. -/
theorem gives_inlineMembers {value? : List Char → Read Entry}
    (hvalue : ∀ cs, Gives Entry.IsPlain (value? cs)) {entries : Entries} (h : Plain entries)
    (fuel : Nat) (cs : List Char) : Gives Plain (inlineMembers value? entries fuel cs) := by
  induction fuel generalizing entries cs with
  | zero => exact gives_none
  | succ fuel ih =>
    intro result behind hread
    obtain ⟨⟨key, afterKey⟩, -, hread⟩ := Option.bind_eq_some_iff.1 hread
    obtain ⟨afterSign, -, hread⟩ := Option.bind_eq_some_iff.1 hread
    obtain ⟨⟨value, afterValue⟩, hentry, hread⟩ := Option.bind_eq_some_iff.1 hread
    obtain ⟨more, henter, hread⟩ := Option.bind_eq_some_iff.1 hread
    -- the next member is entered behind this one
    have hmore : Plain more := plain_enter (hvalue _ value afterValue hentry) h henter
    split at hread
    · exact ih hmore _ result behind hread
    · split at hread
      · cases hread
        exact hmore
      · cases hread
    · cases hread

/-- So an inline table is a plain entry. -/
theorem gives_inlineTable {value? : List Char → Read Entry}
    (hvalue : ∀ cs, Gives Entry.IsPlain (value? cs)) (cs : List Char) :
    Gives Entry.IsPlain (inlineTable value? cs) := by
  unfold inlineTable
  refine Gives.map ?_ fun entries hentries => Entry.IsPlain.inline hentries
  split
  · split
    · exact gives_some plain_nil _
    · exact gives_inlineMembers hvalue plain_nil _ _
  · exact gives_none

/-- All values are plain, by recursion on the room that is left for nesting, which is less inside of
brackets. -/
theorem gives_value? (room : Nat) (cs : List Char) : Gives Entry.IsPlain (value? room cs) := by
  -- what stands in an array or in braces has one level less
  induction room generalizing cs with
  | zero =>
    unfold value?
    split
    · exact gives_none
    · split
      · exact gives_none
      · exact gives_scalar? _
  | succ room ih =>
    unfold value?
    split
    · exact gives_none
    · split
      · exact (gives_arrayItems ih _ _).map fun items hitems => Entry.IsPlain.array hitems
      · split
        · exact gives_inlineTable ih _
        · exact gives_scalar? _

/-- The value of a line is plain. -/
def Line.IsPlain : Line → Prop
  | .entry _ _ value => value.IsPlain
  | _ => True

theorem gives_header? (cs : List Char) : Gives Line.IsPlain (header? cs) := by
  intro line rest h
  unfold header? at h
  split at h
  · obtain ⟨⟨key, afterKey⟩, -, h⟩ := Option.bind_eq_some_iff.1 h
    obtain ⟨afterFirst, -, h⟩ := Option.bind_eq_some_iff.1 h
    obtain ⟨afterSecond, -, h⟩ := Option.bind_eq_some_iff.1 h
    cases h
    exact trivial
  · obtain ⟨⟨key, afterKey⟩, -, h⟩ := Option.bind_eq_some_iff.1 h
    obtain ⟨afterFirst, -, h⟩ := Option.bind_eq_some_iff.1 h
    cases h
    exact trivial

theorem gives_entry? (cs : List Char) : Gives Line.IsPlain <| entry? cs := by
  intro line rest h
  obtain ⟨⟨key, afterKey⟩, -, h⟩ := Option.bind_eq_some_iff.1 h
  obtain ⟨afterSign, -, h⟩ := Option.bind_eq_some_iff.1 h
  obtain ⟨⟨value, afterValue⟩, hvalue, h⟩ := Option.bind_eq_some_iff.1 h
  cases h
  exact gives_value? _ _ value rest hvalue

/-- Each line opens a table or enters a plain value, or does nothing. -/
theorem gives_line? (cs : List Char) : Gives Line.IsPlain (line? cs) := by
  intro line rest h
  unfold line? at h
  split at h
  · obtain ⟨⟨read, behind⟩, hread, h⟩ := Option.bind_eq_some_iff.1 h
    obtain ⟨afterLine, -, h⟩ := Option.bind_eq_some_iff.1 h
    cases h
    exact gives_header? _ line behind hread
  · obtain ⟨⟨read, behind⟩, hread, h⟩ := Option.bind_eq_some_iff.1 h
    obtain ⟨afterLine, -, h⟩ := Option.bind_eq_some_iff.1 h
    cases h
    exact gives_entry? _ line behind hread

/-- All lines of a document are of this kind; a line that is not read ends the reading. -/
theorem plain_lines? {fuel : Nat} {cs : List Char} {lines : List Line}
    (h : lines? fuel cs = some lines) : ∀ line ∈ lines, line.IsPlain := by
  induction fuel generalizing cs lines with
  | zero => cases h
  | succ fuel ih =>
    unfold lines? at h
    split at h
    · exact Option.some.inj h ▸ fun _ hline => absurd hline List.not_mem_nil
    · split at h
      · exact ih h
      · split at h
        · cases h
        · obtain ⟨⟨line, rest⟩, hline, h⟩ := Option.bind_eq_some_iff.1 h
          obtain ⟨more, hmore, rfl⟩ := Option.map_eq_some_iff.1 h
          exact List.forall_mem_cons.2 ⟨gives_line? _ line rest hline, ih hmore⟩

/-! ### Documents -/

/-- A line keeps the tables that were read plain. -/
theorem plain_take {s result : Reading} (h : Plain s.root) {line : Line} (hline : line.IsPlain)
    (htake : s.take line = some result) : Plain result.root := by
  cases line with
  | table path key =>
    obtain ⟨root, hroot, rfl⟩ := Option.map_eq_some_iff.1 htake
    exact plain_update (fun _ _ _ => plain_nameTable) path false h hroot
  | element path key =>
    obtain ⟨root, hroot, rfl⟩ := Option.map_eq_some_iff.1 htake
    exact plain_update (fun _ _ _ => plain_nameElement) path false h hroot
  | entry path key value =>
    obtain ⟨root, hroot, rfl⟩ := Option.map_eq_some_iff.1 htake
    exact plain_update (fun _ _ _ => plain_enter hline) s.openPath false h hroot

/-- So the root that they leave is plain, from any plain root on. -/
theorem plain_takeAll {s result : Reading} (h : Plain s.root) {lines : List Line}
    (hlines : ∀ line ∈ lines, line.IsPlain) (htake : s.takeAll lines = some result) :
    Plain result.root := by
  induction lines generalizing s with
  | nil => exact Option.some.inj htake ▸ h
  | cons line lines ih =>
    obtain ⟨hline, hrest⟩ := List.forall_mem_cons.1 hlines
    obtain ⟨next, hnext, hresult⟩ := Option.bind_eq_some_iff.1 htake
    exact ih (plain_take h hline hnext) hrest hresult

/-- Whatever a document reads to is in order. -/
theorem isOrdered_parse? {s : String} {value : Json} (h : parse? s = some value) :
    value.IsOrdered := by
  obtain ⟨lines, hlines, h⟩ := Option.bind_eq_some_iff.1 h
  obtain ⟨reading, hreading, h⟩ := Option.bind_eq_some_iff.1 h
  exact isOrdered_tableToJson? (plain_takeAll plain_nil (plain_lines? hlines) hreading) h

end BuildSettings.Toml
