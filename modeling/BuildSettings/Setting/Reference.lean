import BuildSettings.Text.Case
import BuildSettings.Text.Cut
import BuildSettings.Text.Identifier

/-!
# References to settings

A value may refer to other settings, as in `$(NAME)` or `$(NAME:modifier)`, with parentheses or
with braces; names and modifiers are words of ASCII letters, digits and underscores. `pieces`
takes a value apart into references and the characters between them, and `spell_pieces` says
that nothing gets lost.

Notes on how the functions mirror a program that does the same:
- A program finds references by a regular expression. Here `Piece` is what the expression can match,
  a reference or else one character, and `pieces` reads a value from the left as a search for all
  matches does: what was read as a reference is not looked into again.
- A name is the longest word behind the bracket, as in a greedy match. A shorter one would have a
  character of the word behind it where the expression wants a colon or a bracket, so there is
  nothing to be found by giving characters back.
- A program has a branch for an expression that cannot be compiled, in which nothing is expanded.
  The expression is a constant that can be compiled, so there is no such branch here.
-/

namespace BuildSettings.Setting

/-- A reference to a setting. -/
structure Reference where
  braced : Bool
  name : List Char
  modifier : Option (List Char)
deriving DecidableEq, Inhabited, Repr

namespace Reference

/-- The bracket behind the dollar sign. -/
def opening (braced : Bool) : Char :=
  if braced then Char.ofNat 123 else '('

/-- The bracket at the end. -/
def closing (braced : Bool) : Char :=
  if braced then Char.ofNat 125 else ')'

/-- What stands between the brackets. -/
def inside (r : Reference) : List Char :=
  r.name ++ match r.modifier with
    | none => []
    | some m => ':' :: m

/-- A reference behind its dollar sign. -/
def tail (r : Reference) : List Char :=
  opening r.braced :: r.inside ++ [closing r.braced]

/-- A reference as it is written. -/
def spelling (r : Reference) : List Char :=
  '$' :: r.tail

/-- Reads a reference behind its opening bracket. -/
def ofInside? (braced : Bool) (cs : List Char) : Option Reference :=
  let name := cs.takeWhile Text.isWordChar
  if name.isEmpty then none
  else
    match cs.dropWhile Text.isWordChar with
    | [] => none
    | c :: rest =>
      if c = closing braced then some ⟨braced, name, none⟩
      else if c = ':' then
        let modifier := rest.takeWhile Text.isWordChar
        if modifier.isEmpty then none
        else
          match rest.dropWhile Text.isWordChar with
          | [] => none
          | d :: _ => if d = closing braced then some ⟨braced, name, some modifier⟩ else none
      else none

/-- Reads a reference behind its dollar sign. -/
def ofTail? : List Char → Option Reference
  | [] => none
  | c :: cs =>
    if c = opening false then ofInside? false cs
    else if c = opening true then ofInside? true cs
    else none

/-- A reference is written at the start of the text it is read from. -/
theorem inside_isPrefix {braced : Bool} {cs : List Char} {r : Reference}
    (h : ofInside? braced cs = some r) :
    r.braced = braced ∧ ∃ rest, cs = r.inside ++ closing braced :: rest := by
  unfold ofInside? at h
  have split := (List.takeWhile_append_dropWhile (p := Text.isWordChar) (l := cs)).symm
  simp only at h
  by_cases hn : (cs.takeWhile Text.isWordChar).isEmpty = true
  · simp [hn] at h
  · rw [if_neg hn] at h
    cases hd : cs.dropWhile Text.isWordChar with
    | nil => simp [hd] at h
    | cons c rest =>
      rw [hd] at h split
      simp only at h
      by_cases hc : c = closing braced
      · rw [if_pos hc] at h
        obtain rfl := Option.some.inj h
        refine ⟨rfl, rest, ?_⟩
        simpa [inside, hc] using split
      · rw [if_neg hc] at h
        by_cases hcolon : c = ':'
        · rw [if_pos hcolon] at h
          have split' := (List.takeWhile_append_dropWhile (p := Text.isWordChar) (l := rest)).symm
          by_cases hm : (rest.takeWhile Text.isWordChar).isEmpty = true
          · simp [hm] at h
          · rw [if_neg hm] at h
            cases he : rest.dropWhile Text.isWordChar with
            | nil => simp [he] at h
            | cons d more =>
              rw [he] at h split'
              simp only at h
              by_cases hdc : d = closing braced
              · rw [if_pos hdc] at h
                obtain rfl := Option.some.inj h
                refine ⟨rfl, more, ?_⟩
                rw [hcolon] at split
                refine split.trans ?_
                rw [← hdc]
                simp [inside, ← split']
              · simp [hdc] at h
        · simp [hcolon] at h

/-- A reference is written at the start of the text it is read from. -/
theorem tail_isPrefix {cs : List Char} {r : Reference} (h : ofTail? cs = some r) :
    ∃ rest, cs = r.tail ++ rest := by
  cases cs with
  | nil => simp [ofTail?] at h
  | cons c cs =>
    rw [ofTail?] at h
    split at h
    next hc =>
      obtain ⟨hb, rest, hrest⟩ := inside_isPrefix h
      exact ⟨rest, by simp [tail, hb, hc, hrest]⟩
    · split at h
      next hc =>
        obtain ⟨hb, rest, hrest⟩ := inside_isPrefix h
        exact ⟨rest, by simp [tail, hb, hc, hrest]⟩
      · simp at h

end Reference

/-- A part of a value. -/
inductive Piece where
  | char (c : Char)
  | reference (r : Reference)
deriving DecidableEq, Repr

/-- A piece as it is written. -/
def Piece.spelling : Piece → List Char
  | .char c => [c]
  | .reference r => r.spelling

/-- Takes a text apart from left to right. The count is of the characters of a reference that are
still to be passed over. -/
def piecesFrom : Nat → List Char → List Piece
  | _, [] => []
  | skip + 1, _ :: cs => piecesFrom skip cs
  | 0, c :: cs =>
    if c = '$' then
      match Reference.ofTail? cs with
      | some r => .reference r :: piecesFrom r.tail.length cs
      | none => .char c :: piecesFrom 0 cs
    else .char c :: piecesFrom 0 cs

/-- The references of a value and the characters between them. -/
def pieces (value : String) : List Piece :=
  piecesFrom 0 value.toList

theorem piecesFrom_append (xs cs : List Char) :
    piecesFrom xs.length (xs ++ cs) = piecesFrom 0 cs := by
  induction xs with
  | nil => rfl
  | cons x xs ih => simpa [piecesFrom] using ih

/-- The pieces of a text, written one after the other, are the text. -/
theorem spell_piecesFrom (n : Nat) (cs : List Char) :
    (piecesFrom n cs).flatMap Piece.spelling = cs.drop n := by
  fun_induction piecesFrom n cs with
  | case1 => simp
  | case2 skip c cs ih => simpa using ih
  | case3 cs r hr ih =>
    obtain ⟨rest, rfl⟩ := Reference.tail_isPrefix hr
    simpa [Piece.spelling, Reference.spelling] using ih
  | case4 cs hr ih => simpa [Piece.spelling] using ih
  | case5 c cs hc ih => simpa [Piece.spelling] using ih

/-- Taking a value apart loses nothing. -/
theorem spell_pieces (value : String) :
    (pieces value).flatMap Piece.spelling = value.toList := by
  simpa [pieces] using spell_piecesFrom 0 value.toList

/-- Whether a piece is a reference. -/
def Piece.isReference : Piece → Bool
  | .char _ => false
  | .reference _ => true

/-- Whether a value refers to a setting. -/
def hasReference (value : String) : Bool :=
  (pieces value).any Piece.isReference

/-! ### Modifiers -/

/-- What follows the last slash, or all. -/
def lastName (cs : List Char) : List Char :=
  match Text.cutLast? '/' cs with
  | some (_, name) => name
  | none => cs

/-- The value as a modifier makes it; an unknown modifier changes nothing. -/
def modify (modifier value : String) : String :=
  let cs := value.toList
  if modifier = "c99extidentifier" ∨ modifier = "identifier" then Text.c99Identifier value
  else if modifier = "rfc1034identifier" then Text.rfc1034Identifier value
  else if modifier = "lower" then Text.lower value
  else if modifier = "upper" then Text.upper value
  else if modifier = "base" then
    match Text.cutLast? '.' (lastName cs) with
    | some (base, _) => String.ofList base
    | none => String.ofList (lastName cs)
  else if modifier = "file" then String.ofList (lastName cs)
  else if modifier = "dir" then
    match Text.cutLast? '/' cs with
    | some (dir, _) => String.ofList (dir ++ ['/'])
    | none => ""
  else if modifier = "suffix" then
    match Text.cutLast? '.' (lastName cs) with
    | some (_, ext) => String.ofList ('.' :: ext)
    | none => ""
  else value

/-- The value as the modifier of a reference makes it. -/
def Reference.apply (r : Reference) (value : String) : String :=
  match r.modifier with
  | none => value
  | some m => modify (String.ofList m) value

end BuildSettings.Setting
