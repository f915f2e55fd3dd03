import BuildSettings.Json.Decoder
import BuildSettings.Json.Printer
import Mathlib.Data.List.Basic

/-!
# Reading what was printed

A value without numbers that nests few enough containers is printed to a text that is read as the
tree of the value, with nothing left over. The proof goes by way of the tokens: scanning what is
written gives the tokens of the value (`scan_write`), whatever blanks the layout puts between them,
and these are read as its tree (`valueOf_tokens`). Both go over the value with its lists of items
and members; what is written or left over behind a value is a parameter, as it is in the printer.

* `lexText_escape` — a text between quotes is read back, escapes included.
* `Fits` — values without numbers and not nested too deeply.
* `readText_print` — reading a printed value is reading its tree.
-/

namespace BuildSettings.Json.Token

/-! ### Texts -/

/-- A character is spelled by a letter behind a backslash, by its number, or as it is. The cases are
those of the reader, which knows a letter, four digits or a plain character. -/
theorem escapeChar_cases (c : Char) :
    (∃ letter, escapeChar c = ['\\', letter] ∧ letter ≠ 'u' ∧ escaped? letter = some c) ∨
    (c.toNat < 32 ∧ escapeChar c =
      ['\\', 'u', '0', '0', Digest.hexDigit (c.toNat / 16), Digest.hexDigit (c.toNat % 16)]) ∨
    (32 ≤ c.toNat ∧ c ≠ '"' ∧ c ≠ '\\' ∧ escapeChar c = [c]) := by
  have hcode : ∀ n, c.toNat = n → c = Char.ofNat n := fun n h => by rw [← h, Char.ofNat_toNat]
  generalize hspell : escapeChar c = cs
  unfold escapeChar at hspell
  split at hspell
  next h => exact .inl ⟨'"', hspell.symm, by decide, by rw [h]; rfl⟩
  next hquote =>
  split at hspell
  next h => exact .inl ⟨'\\', hspell.symm, by decide, by rw [h]; rfl⟩
  next hbackslash =>
  split at hspell
  next h => exact .inl ⟨'n', hspell.symm, by decide, h ▸ rfl⟩
  next =>
  split at hspell
  next h => exact .inl ⟨'r', hspell.symm, by decide, h ▸ rfl⟩
  next =>
  split at hspell
  next h => exact .inl ⟨'t', hspell.symm, by decide, h ▸ rfl⟩
  next =>
  split at hspell
  next h => exact .inl ⟨'b', hspell.symm, by decide, hcode 8 h ▸ rfl⟩
  next =>
  split at hspell
  next h => exact .inl ⟨'f', hspell.symm, by decide, hcode 12 h ▸ rfl⟩
  next =>
  split at hspell
  next h => exact .inr (.inl ⟨h, hspell.symm⟩)
  next h => exact .inr (.inr ⟨by omega, hquote, hbackslash, hspell.symm⟩)

/-- A backslash and a letter other than `u` stand for one character, which is pushed. -/
theorem lexText_letter (s : TextState) {letter c : Char} (hu : letter ≠ 'u')
    (hletter : escaped? letter = some c) (cs : List Char) :
    (lexText s ('\\' :: letter :: cs)).1 = (lexText (s.push c) cs).1 := by
  rw [lexText, hletter]
  · rfl
  · exact fun _ _ _ _ _ h => absurd h hu
  · exact fun h => absurd h hu

/-- The number of a control is read back from its two digits. -/
theorem hexQuad?_control : ∀ n < 32,
    hexQuad? '0' '0' (Digest.hexDigit (n / 16)) (Digest.hexDigit (n % 16)) = some n := by
  decide

/-- A control character is written with four digits of base sixteen, the first two of them zero, and
read back from the last two. -/
theorem lexText_control (acc : List Char) {c : Char} (h : c.toNat < 32) (cs : List Char) :
    (lexText ⟨acc, none, false⟩ ('\\' :: 'u' :: '0' :: '0' :: Digest.hexDigit (c.toNat / 16) ::
      Digest.hexDigit (c.toNat % 16) :: cs)).1 = (lexText ⟨c :: acc, none, false⟩ cs).1 := by
  -- no half of a surrogate pair is as small
  have hunit : TextState.pushUnit ⟨acc, none, false⟩ c.toNat = ⟨c :: acc, none, false⟩ := by
    simp only [TextState.pushUnit]
    rw [if_neg (by omega), if_neg (by omega), Char.ofNat_toNat]
    rfl
  rw [lexText, hexQuad?_control _ h]
  show (lexText (TextState.pushUnit _ c.toNat) cs).1 = _
  rw [hunit]

/-- Any other character stands for itself. -/
theorem lexText_plain (s : TextState) {c : Char} (hlarge : 32 ≤ c.toNat) (hquote : c ≠ '"')
    (hbackslash : c ≠ '\\') (cs : List Char) :
    (lexText s (c :: cs)).1 = (lexText (s.push c) cs).1 := by
  rw [lexText, if_neg (by omega)]
  · rfl
  · exact hquote
  · exact fun _ _ _ _ _ h => absurd h hbackslash
  · exact fun _ h => absurd h hbackslash
  · exact fun h => absurd h hbackslash
  · exact fun _ _ h => absurd h hbackslash

/-- Reading takes up a character as it was spelled. -/
theorem lexText_escapeChar (acc : List Char) (c : Char) (cs : List Char) :
    (lexText ⟨acc, none, false⟩ (escapeChar c ++ cs)).1 = (lexText ⟨c :: acc, none, false⟩ cs).1 := by
  rcases escapeChar_cases c with ⟨letter, hspell, hu, hletter⟩ | ⟨hsmall, hspell⟩ |
    ⟨hlarge, hquote, hbackslash, hspell⟩
  · rw [hspell]
    exact lexText_letter _ hu hletter cs
  · rw [hspell]
    exact lexText_control acc hsmall cs
  · rw [hspell]
    exact lexText_plain _ hlarge hquote hbackslash cs

/-- A text is read back up to its closing quote. -/
theorem lexText_escape (acc s rest : List Char) :
    (lexText ⟨acc, none, false⟩ (s.flatMap escapeChar ++ '"' :: rest)).1 =
      (.text (.ok (String.ofList (acc.reverse ++ s))), rest) := by
  induction s generalizing acc with
  | nil =>
    show (TextState.close _, rest) = _
    simp [TextState.close]
  | cons c s ih =>
    rw [List.flatMap_cons, List.append_assoc, lexText_escapeChar, ih]
    simp

/-! ### Tokens -/

theorem scan_space {cs : List Char} {c : Char} (h : isSpace c = true) :
    scan (c :: cs) = scan cs := by
  rw [scan, if_pos h]

/-- Blanks between tokens do not show in the tokens. -/
theorem scan_spaces {b : List Char} (h : ∀ c ∈ b, isSpace c = true) (cs : List Char) :
    scan (b ++ cs) = scan cs := by
  induction b with
  | nil => rfl
  | cons c b ih =>
    rw [List.cons_append, scan_space (h c List.mem_cons_self)]
    exact ih fun d hd => h d (List.mem_cons_of_mem _ hd)

/-- What is no blank begins a token, and the rest is scanned after it. -/
theorem scan_token {c : Char} {cs rest : List Char} {t : Token} (hspace : isSpace c = false)
    (h : (lex c cs).1 = (t, rest)) : scan (c :: cs) = t :: scan rest := by
  rw [scan, if_neg (by rw [hspace]; decide)]
  simp only [h]

/-- A text that is written is one token, and it is that text, whatever follows it. -/
theorem scan_escape (s : String) (rest : List Char) :
    scan (escape s ++ rest) = .text (.ok s) :: scan rest := by
  have htext := lexText_escape [] s.toList rest
  rw [List.reverse_nil, List.nil_append, String.ofList_toList] at htext
  have hspell : escape s ++ rest = '"' :: (s.toList.flatMap escapeChar ++ '"' :: rest) := by
    simp [escape]
  rw [hspell]
  exact scan_token rfl htext

end BuildSettings.Json.Token

namespace BuildSettings.Json

/-- What a layout puts between tokens is nothing but blanks. -/
structure Layout.IsBlank (layout : Layout) : Prop where
  line : ∀ depth, ∀ c ∈ layout.lineAt depth, Token.isSpace c = true
  colon : ∀ c ∈ layout.afterColon, Token.isSpace c = true

theorem Layout.isBlank_compact : Layout.compact.IsBlank :=
  ⟨fun _ _ h => absurd h List.not_mem_nil, fun _ h => absurd h List.not_mem_nil⟩

theorem Layout.isBlank_indented : Layout.indented.IsBlank := by
  refine ⟨fun depth c hc => ?_, fun c hc => ?_⟩
  · rcases List.mem_cons.1 hc with rfl | hc
    · rfl
    · rw [List.eq_of_mem_replicate hc]
      rfl
  · rw [List.mem_singleton.1 hc]
    rfl

mutual

/-- The tokens of a value in front of others. -/
def tokens (rest : List Token) : Json → List Token
  | .null => .null :: rest
  | .bool b => .bool b :: rest
  | .number n => .number (.ok n) :: rest
  | .text s => .text (.ok s) :: rest
  | .array [] => .arrayStart :: .arrayEnd :: rest
  | .array (item :: items) => .arrayStart :: tokens (itemTokens (.arrayEnd :: rest) items) item
  | .object [] => .objectStart :: .objectEnd :: rest
  | .object ((key, value) :: members) =>
    .objectStart :: .text (.ok key) :: .colon ::
      tokens (memberTokens (.objectEnd :: rest) members) value

/-- The tokens of further items. -/
def itemTokens (rest : List Token) : List Json → List Token
  | [] => rest
  | item :: items => .comma :: tokens (itemTokens rest items) item

/-- The tokens of further members. -/
def memberTokens (rest : List Token) : List (String × Json) → List Token
  | [] => rest
  | (key, value) :: members =>
    .comma :: .text (.ok key) :: .colon :: tokens (memberTokens rest members) value

end

/-- A value without numbers that nests at most `room` containers. -/
inductive Fits : Nat → Json → Prop
  | null {room : Nat} : Fits room .null
  | bool {room : Nat} (b : Bool) : Fits room (.bool b)
  | text {room : Nat} (s : String) : Fits room (.text s)
  | array {room : Nat} {items : List Json} (h : ∀ item ∈ items, Fits room item) :
    Fits (room + 1) (.array items)
  | object {room : Nat} {members : List (String × Json)} (h : ∀ m ∈ members, Fits room m.2) :
    Fits (room + 1) (.object members)

attribute [simp] Fits.null Fits.bool Fits.text

@[simp] theorem fits_array_iff {room : Nat} {items : List Json} :
    Fits (room + 1) (.array items) ↔ ∀ item ∈ items, Fits room item :=
  ⟨fun h => by cases h with | array h => exact h, .array⟩

@[simp] theorem fits_object_iff {room : Nat} {members : List (String × Json)} :
    Fits (room + 1) (.object members) ↔ ∀ m ∈ members, Fits room m.2 :=
  ⟨fun h => by cases h with | object h => exact h, .object⟩

open Token

variable {layout : Layout}

/-- The key of a member, which stands behind a blank or nothing. -/
theorem scan_key (hlayout : layout.IsBlank) (depth : Nat) (key : String) (rest : List Char) :
    scan (layout.lineAt depth ++ escape key ++ ':' :: layout.afterColon ++ rest) =
      .text (.ok key) :: .colon :: scan rest := by
  have hcolon : scan (':' :: (layout.afterColon ++ rest)) = .colon :: scan rest := by
    rw [scan_token (t := .colon) rfl rfl, scan_spaces hlayout.colon]
  rw [List.append_assoc, List.append_assoc, List.cons_append, scan_spaces (hlayout.line depth),
    scan_escape, hcolon]

mutual

/-- Writing a value and scanning it gives the tokens of the value. The layout puts blanks between
them at most, and these are passed over. -/
theorem scan_write (hlayout : layout.IsBlank) {room : Nat} {value : Json} (hvalue : Fits room value)
    (depth : Nat) (rest : List Char) :
    scan (write layout depth rest value) = tokens (scan rest) value := by
  cases hvalue with
  | null => exact scan_token rfl rfl
  | bool b => cases b <;> exact scan_token rfl rfl
  | text s => exact scan_escape s rest
  | @array room items hitems =>
    have hclose : scan (layout.lineAt depth ++ ']' :: rest) = .arrayEnd :: scan rest := by
      rw [scan_spaces (hlayout.line depth)]
      exact scan_token rfl rfl
    -- nothing stands between the brackets of an empty array, and lines stand around items
    match items with
    | [] =>
      rw [write, scan_token (t := .arrayStart) rfl rfl]
      exact congrArg _ (scan_token rfl rfl)
    | item :: items =>
      obtain ⟨hitem, hitems⟩ := List.forall_mem_cons.1 hitems
      rw [write, List.cons_append, scan_token (t := .arrayStart) rfl rfl,
        scan_spaces (hlayout.line _), scan_write hlayout hitem, scan_writeItems hlayout hitems, hclose]
      rfl
  | @object room members hmembers =>
    have hclose : scan (layout.lineAt depth ++ closeBrace :: rest) = .objectEnd :: scan rest := by
      rw [scan_spaces (hlayout.line depth)]
      exact scan_token rfl rfl
    -- the same with members, where a key stands in front of each value
    match members with
    | [] =>
      rw [write, scan_token (t := .objectStart) rfl rfl]
      exact congrArg _ (scan_token rfl rfl)
    | (key, value) :: members =>
      obtain ⟨hvalue, hmembers⟩ := List.forall_mem_cons.1 hmembers
      rw [write, List.cons_append, List.cons_append, List.cons_append,
        scan_token (t := .objectStart) rfl rfl, scan_key hlayout, scan_write hlayout hvalue,
        scan_writeMembers hlayout hmembers, hclose]
      rfl

/-- The same for further items. -/
theorem scan_writeItems (hlayout : layout.IsBlank) {room : Nat} {items : List Json}
    (hitems : ∀ item ∈ items, Fits room item) (depth : Nat) (rest : List Char) :
    scan (writeItems layout depth rest items) = itemTokens (scan rest) items := by
  match items with
  | [] => rfl
  | item :: items =>
    obtain ⟨hitem, hitems⟩ := List.forall_mem_cons.1 hitems
    rw [writeItems, List.cons_append, scan_token (t := .comma) rfl rfl,
      scan_spaces (hlayout.line _), scan_write hlayout hitem, scan_writeItems hlayout hitems]
    rfl

/-- The same for further members. -/
theorem scan_writeMembers (hlayout : layout.IsBlank) {room : Nat} {members : List (String × Json)}
    (hmembers : ∀ m ∈ members, Fits room m.2) (depth : Nat) (rest : List Char) :
    scan (writeMembers layout depth rest members) = memberTokens (scan rest) members := by
  match members with
  | [] => rfl
  | (key, value) :: members =>
    obtain ⟨hvalue, hmembers⟩ := List.forall_mem_cons.1 hmembers
    rw [writeMembers, List.cons_append, List.cons_append, List.cons_append,
      scan_token (t := .comma) rfl rfl, scan_key hlayout, scan_write hlayout hvalue,
      scan_writeMembers hlayout hmembers]
    rfl

end

/-! ### Trees -/

/-- This tree was parsed, and these tokens are left behind it. -/
structure Parsed.Gives {α : Type} {bound : Nat} (p : Parsed α bound) (tree : α)
    (rest : List Token) : Prop where
  tree : p.tree = tree
  rest : p.rest = rest

variable {room : Nat} {ts behind more : List Token}

/-- Behind a comma stands a value, and then the other items. -/
theorem itemsOf_comma {value : Document} {items : Items}
    (hvalue : (valueOf room ts).Gives value behind)
    (hitems : (itemsOf room false behind).Gives items more) :
    (itemsOf room false (.comma :: ts)).Gives (.item value items) more := by
  rw [itemsOf, if_neg Bool.false_ne_true]
  obtain ⟨rfl, rfl⟩ := hvalue
  obtain ⟨rfl, rfl⟩ := hitems
  exact ⟨rfl, rfl⟩

/-- At the start of an array a value may stand without a comma. -/
theorem itemsOf_first {t : Token} {value : Document} {items : Items} (hend : t ≠ .arrayEnd)
    (hcomma : t ≠ .comma) (hvalue : (valueOf room (t :: ts)).Gives value behind)
    (hitems : (itemsOf room false behind).Gives items more) :
    (itemsOf room true (t :: ts)).Gives (.item value items) more := by
  rw [itemsOf, if_pos rfl]
  · obtain ⟨rfl, rfl⟩ := hvalue
    obtain ⟨rfl, rfl⟩ := hitems
    exact ⟨rfl, rfl⟩
  · exact hend
  · exact hcomma

/-- A member is a key, a colon and a value, and then come the other members. -/
theorem memberOf_text {key : Except Fault String} {value : Document} {members : Members}
    (hvalue : (valueOf room ts).Gives value behind)
    (hmembers : (membersOf room false behind).Gives members more) :
    (memberOf room (.text key :: .colon :: ts)).Gives (.member key value members) more := by
  rw [memberOf]
  obtain ⟨rfl, rfl⟩ := hvalue
  obtain ⟨rfl, rfl⟩ := hmembers
  exact ⟨rfl, rfl⟩

theorem membersOf_comma {members : Members} (h : (memberOf room ts).Gives members more) :
    (membersOf room false (.comma :: ts)).Gives members more := by
  rw [membersOf, if_neg Bool.false_ne_true]
  obtain ⟨rfl, rfl⟩ := h
  exact ⟨rfl, rfl⟩

theorem membersOf_first {key : Except Fault String} {members : Members}
    (h : (memberOf room (.text key :: ts)).Gives members more) :
    (membersOf room true (.text key :: ts)).Gives members more := by
  rw [membersOf, if_pos rfl]
  · exact h
  · rintro ⟨⟩
  · rintro ⟨⟩

/-- An array takes one level of the room that is left, and its items the rest. -/
theorem valueOf_arrayStart {items : Items} (h : (itemsOf room true ts).Gives items more) :
    (valueOf (room + 1) (.arrayStart :: ts)).Gives (.array items) more := by
  rw [valueOf]
  obtain ⟨rfl, rfl⟩ := h
  exact ⟨rfl, rfl⟩

/-- So does an object. -/
theorem valueOf_objectStart {members : Members} (h : (membersOf room true ts).Gives members more) :
    (valueOf (room + 1) (.objectStart :: ts)).Gives (.object members) more := by
  rw [valueOf]
  obtain ⟨rfl, rfl⟩ := h
  exact ⟨rfl, rfl⟩

/-- The tokens of a value start with one that is no end of an array and no comma. -/
theorem exists_tokens_eq_cons (rest : List Token) (value : Json) :
    ∃ t ts, tokens rest value = t :: ts ∧ t ≠ .arrayEnd ∧ t ≠ .comma := by
  match value with
  | .null | .bool _ | .number _ | .text _ | .array [] | .array (_ :: _) | .object [] |
    .object ((_, _) :: _) => exact ⟨_, _, rfl, nofun, nofun⟩

mutual

/-- The tokens of a value are read as its tree, if it fits into the room; what follows is left as it
is. -/
theorem valueOf_tokens {room : Nat} {value : Json} (hvalue : Fits room value) (rest : List Token) :
    (valueOf room (tokens rest value)).Gives (.ofJson value) rest := by
  cases hvalue with
  | null | bool | text =>
    rw [tokens, valueOf]
    exact ⟨rfl, rfl⟩
  | @array room items hitems =>
    match items with
    | [] =>
      refine valueOf_arrayStart ?_
      rw [itemsOf]
      exact ⟨rfl, rfl⟩
    | item :: items =>
      obtain ⟨hitem, hitems⟩ := List.forall_mem_cons.1 hitems
      have hvalue := valueOf_tokens hitem (itemTokens (.arrayEnd :: rest) items)
      -- a first item begins with no closing bracket and no comma, or it would not be read as one
      obtain ⟨t, ts, heq, hend, hcomma⟩ :=
        exists_tokens_eq_cons (itemTokens (.arrayEnd :: rest) items) item
      rw [heq] at hvalue
      have hfirst := itemsOf_first hend hcomma hvalue (itemsOf_itemTokens hitems rest)
      rw [← heq] at hfirst
      exact valueOf_arrayStart hfirst
  | @object room members hmembers =>
    match members with
    | [] =>
      refine valueOf_objectStart ?_
      rw [membersOf]
      exact ⟨rfl, rfl⟩
    | (key, value) :: members =>
      obtain ⟨hvalue, hmembers⟩ := List.forall_mem_cons.1 hmembers
      exact valueOf_objectStart (membersOf_first (memberOf_text
        (valueOf_tokens hvalue _) (membersOf_memberTokens hmembers rest)))

/-- The tokens of further items are read as the items. -/
theorem itemsOf_itemTokens {room : Nat} {items : List Json}
    (hitems : ∀ item ∈ items, Fits room item) (rest : List Token) :
    (itemsOf room false (itemTokens (.arrayEnd :: rest) items)).Gives (.ofList items) rest := by
  match items with
  | [] =>
    rw [itemTokens, itemsOf]
    exact ⟨rfl, rfl⟩
  | item :: items =>
    obtain ⟨hitem, hitems⟩ := List.forall_mem_cons.1 hitems
    exact itemsOf_comma (valueOf_tokens hitem _) (itemsOf_itemTokens hitems rest)

/-- The tokens of further members are read as the members. -/
theorem membersOf_memberTokens {room : Nat} {members : List (String × Json)}
    (hmembers : ∀ m ∈ members, Fits room m.2) (rest : List Token) :
    (membersOf room false (memberTokens (.objectEnd :: rest) members)).Gives (.ofList members)
      rest := by
  match members with
  | [] =>
    rw [memberTokens, membersOf]
    exact ⟨rfl, rfl⟩
  | (key, value) :: members =>
    obtain ⟨hvalue, hmembers⟩ := List.forall_mem_cons.1 hmembers
    exact membersOf_comma (memberOf_text (valueOf_tokens hvalue _)
      (membersOf_memberTokens hmembers rest))

end

/-! ### Whole texts -/

/-- A value as a text. -/
def Layout.print (layout : Layout) (value : Json) : String :=
  String.ofList (write layout 0 [] value)

/-- A printed value is parsed to its tree, and nothing follows. -/
theorem ofText_print (hlayout : layout.IsBlank) {value : Json} (hvalue : Fits maxDepth value) :
    Document.ofText (layout.print value) = (.ofJson value, false) := by
  have hscan : scan (layout.print value).toList = tokens [] value := by
    rw [Layout.print, String.toList_ofList, scan_write hlayout hvalue, scan]
  obtain ⟨htree, hrest⟩ := valueOf_tokens hvalue []
  rw [Document.ofText, hscan]
  simp only [htree, hrest]
  rfl

/-- Reading a printed value is reading its tree. -/
theorem readText_print {α : Type} (read : Decoder α) (hlayout : layout.IsBlank) {value : Json}
    (hvalue : Fits maxDepth value) :
    Document.readText read (layout.print value) = read (.ofJson value) := by
  rw [Document.readText, ofText_print hlayout hvalue]
  dsimp only
  cases read (.ofJson value) <;> rfl

end BuildSettings.Json
