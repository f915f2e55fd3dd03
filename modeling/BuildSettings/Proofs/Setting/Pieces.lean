import BuildSettings.Setting.Reference
import BuildSettings.Text.Blank

/-!
# Reading back the pieces of a value

`pieces` takes a value apart, and `spell_pieces` says that spelling the pieces gives the value
back. This file proves the other direction, `ReadBack`, for pieces that are `Clean`: their
characters are no dollar signs and their references have readable names (`piecesFrom_spelling`). It
is what lets a value that is half expanded be taken apart again: the references that were left open
are found again and nothing else is.

* `piecesFrom_append_break` — a character that stands in no reference, such as a blank or a slash,
  splits the pieces whatever stands around it, dollar signs included.
* `DollarsRefer` — each dollar sign of a value begins a reference; the same as `Clean` pieces
  (`dollarsRefer_iff`).
* `trimPieces` — trimming on pieces. A reference is never trimmed, since it has no blank at its
  ends (`spelling_trimPieces`).
-/

namespace BuildSettings.Setting

/-! ### References that can be read back -/

/-- The name and the modifier are words of at least one character. -/
structure Reference.Valid (r : Reference) : Prop where
  name_ne : r.name ≠ []
  name_word : ∀ c ∈ r.name, Text.isWordChar c = true
  modifier : ∀ m, r.modifier = some m → m ≠ [] ∧ ∀ c ∈ m, Text.isWordChar c = true

/-- The same as a test. -/
def Reference.isValid (r : Reference) : Bool :=
  !r.name.isEmpty && r.name.all Text.isWordChar &&
    r.modifier.all fun m => !m.isEmpty && m.all Text.isWordChar

theorem Reference.isValid_iff {r : Reference} : r.isValid = true ↔ r.Valid := by
  obtain ⟨braced, name, modifier⟩ := r
  constructor
  · intro h
    simp only [isValid, Bool.and_eq_true, List.all_eq_true] at h
    obtain ⟨⟨hne, hname⟩, hmodifier⟩ := h
    refine ⟨by simpa using hne, hname, ?_⟩
    rintro m rfl
    simpa using hmodifier
  · rintro ⟨hne, hname, hmodifier⟩
    cases modifier with
    | none => simpa [isValid] using And.intro hne hname
    | some m =>
      obtain ⟨hm, hword⟩ := hmodifier m rfl
      simpa [isValid, hne, hm] using And.intro hname hword

instance (r : Reference) : Decidable r.Valid :=
  decidable_of_iff _ Reference.isValid_iff

namespace Reference

theorem isWordChar_closing (braced : Bool) : Text.isWordChar (closing braced) = false := by
  cases braced <;> decide

/-- A word is taken off the start of a text up to the first other character. -/
theorem word_of_append {w : List Char} {c : Char} (hw : ∀ a ∈ w, Text.isWordChar a = true)
    (hc : Text.isWordChar c = false) (cs : List Char) :
    (w ++ c :: cs).takeWhile Text.isWordChar = w ∧
      (w ++ c :: cs).dropWhile Text.isWordChar = c :: cs := by
  rw [List.takeWhile_append_of_pos hw, List.dropWhile_append_of_pos hw]
  simp [hc]

/-- A valid reference is read back from what stands behind its opening bracket: the name ends before
the colon or the bracket, which are no word characters. -/
theorem ofInside?_inside {r : Reference} (h : r.Valid) (rest : List Char) :
    ofInside? r.braced (r.inside ++ closing r.braced :: rest) = some r := by
  obtain ⟨braced, name, modifier⟩ := r
  have hname : name.isEmpty = false := by simpa using h.name_ne
  cases modifier with
  | none =>
    obtain ⟨htake, hdrop⟩ := word_of_append h.name_word (isWordChar_closing braced) rest
    simp [ofInside?, inside, htake, hdrop, hname]
  | some m =>
    obtain ⟨hm, hword⟩ := h.modifier m rfl
    have hcolon : Text.isWordChar ':' = false := by decide
    have hne : ':' ≠ closing braced := by cases braced <;> decide
    obtain ⟨htake, hdrop⟩ := word_of_append h.name_word hcolon (m ++ closing braced :: rest)
    obtain ⟨htake', hdrop'⟩ := word_of_append hword (isWordChar_closing braced) rest
    simp only [ofInside?, inside, List.append_assoc, List.cons_append, htake, hdrop, hname]
    simp [hne, htake', hdrop', hm]

/-- A valid reference is read back from what stands behind its dollar sign. -/
theorem ofTail?_tail {r : Reference} (h : r.Valid) (rest : List Char) :
    ofTail? (r.tail ++ rest) = some r := by
  have hinside := ofInside?_inside h rest
  rw [tail, List.append_assoc, List.cons_append, List.singleton_append, ofTail?]
  cases hb : r.braced with
  | false => simpa [hb] using hinside
  | true =>
    have hne : opening true ≠ opening false := by decide
    simpa [hb, hne] using hinside

/-- Whatever is read behind an opening bracket is valid. The cases are those of the reader. -/
theorem valid_of_ofInside? {braced : Bool} {cs : List Char} {r : Reference}
    (h : ofInside? braced cs = some r) : r.Valid := by
  have hword : ∀ c ∈ cs.takeWhile Text.isWordChar, Text.isWordChar c = true :=
    fun c hc => List.all_eq_true.1 List.all_takeWhile c hc
  unfold ofInside? at h
  simp only at h
  split at h
  next => cases h
  next hname =>
    have hne : cs.takeWhile Text.isWordChar ≠ [] := by simpa using hname
    split at h
    next => cases h
    next c rest _ =>
      split at h
      next =>
        obtain rfl := Option.some.inj h
        exact ⟨hne, hword, fun m hm => by cases hm⟩
      next =>
        split at h
        next =>
          split at h
          next => cases h
          next hmodifier =>
            split at h
            next => cases h
            next =>
              split at h
              next =>
                obtain rfl := Option.some.inj h
                refine ⟨hne, hword, fun m hm => ?_⟩
                obtain rfl := Option.some.inj hm
                exact ⟨by simpa using hmodifier,
                  fun c hc => List.all_eq_true.1 List.all_takeWhile c hc⟩
              next => cases h
        next => cases h

/-- Whatever is read behind a dollar sign is valid. -/
theorem valid_of_ofTail? {cs : List Char} {r : Reference} (h : ofTail? cs = some r) :
    r.Valid := by
  cases cs with
  | nil => simp [ofTail?] at h
  | cons c cs =>
    rw [ofTail?] at h
    split at h
    next => exact valid_of_ofInside? h
    next =>
      split at h
      next => exact valid_of_ofInside? h
      next => cases h

/-- A character that stands in no reference behind the dollar sign. -/
structure IsBreak (c : Char) : Prop where
  noWord : Text.isWordChar c = false
  noColon : c ≠ ':'
  noBracket : ∀ braced, c ≠ opening braced ∧ c ≠ closing braced

instance (c : Char) : Decidable (IsBreak c) :=
  decidable_of_iff (Text.isWordChar c = false ∧ c ≠ ':' ∧
      ∀ braced, c ≠ opening braced ∧ c ≠ closing braced)
    ⟨fun ⟨hword, hcolon, hbracket⟩ => ⟨hword, hcolon, hbracket⟩,
      fun h => ⟨h.noWord, h.noColon, h.noBracket⟩⟩

/-- A break stands nowhere in a valid reference behind its dollar sign. -/
theorem IsBreak.notMem_tail {r : Reference} {c : Char} (hc : IsBreak c) (h : r.Valid) :
    c ∉ r.tail := by
  have hword := hc.noWord
  have hname : c ∉ r.name := fun hmem => by simp [h.name_word _ hmem] at hword
  obtain ⟨hopening, hclosing⟩ := hc.noBracket r.braced
  cases hm : r.modifier with
  | none => simp [tail, inside, hm, hname, hopening, hclosing]
  | some m =>
    have hmodifier : c ∉ m := fun hmem => by simp [(h.modifier m hm).2 _ hmem] at hword
    simp [tail, inside, hm, hname, hopening, hclosing, hmodifier, hc.noColon]

/-- There is no dollar sign behind the one a reference begins with. -/
theorem Valid.dollar_notMem_tail {r : Reference} (h : r.Valid) : '$' ∉ r.tail :=
  IsBreak.notMem_tail (by decide) h

/-- Blanks are breaks. Both classes of characters are given by code points, so the cases are those
of the word characters. -/
theorem isBreak_of_isBlank {c : Char} (h : Text.isBlank c = true) : IsBreak c := by
  have hne : ∀ d : Char, Text.isBlank d = false → c ≠ d := by
    rintro d hd rfl
    rw [h] at hd
    cases hd
  refine ⟨?_, hne ':' (by decide), fun braced => ?_⟩
  · -- blanks have small or large code points, words have those between
    have hcode : c.toNat ≤ 32 ∨ 128 < c.toNat := by
      simp only [Text.isBlank, Bool.or_eq_true, Bool.and_eq_true, decide_eq_true_eq,
        beq_iff_eq] at h
      omega
    rw [Bool.eq_false_iff]
    intro hword
    change (((decide ('A'.val ≤ c.val ∧ c.val ≤ 'Z'.val) ||
      (decide ('a'.val ≤ c.val) && decide (c.val ≤ 'z'.val))) ||
      (decide ('0'.val ≤ c.val) && decide (c.val ≤ '9'.val))) || c == '_') = true at hword
    simp [UInt32.le_iff_toNat_le] at hword
    rcases hword with ((hletter | hletter) | hdigit) | rfl
    · omega
    · omega
    · omega
    · revert hcode
      decide
  · cases braced with
    | false => exact ⟨hne _ (by decide), hne _ (by decide)⟩
    | true => exact ⟨hne _ (by decide), hne _ (by decide)⟩

/-- Whether a reference is read does not depend on what stands behind a break, because no reference
has a break in it. -/
theorem ofTail?_append_break {c : Char} (hc : IsBreak c) (xs ys : List Char) :
    ofTail? (xs ++ c :: ys) = ofTail? xs := by
  refine Option.ext fun r => ⟨fun h => ?_, fun h => ?_⟩
  · have hvalid := valid_of_ofTail? h
    obtain ⟨rest, hrest⟩ := tail_isPrefix h
    rcases List.append_eq_append_iff.1 hrest with ⟨more, htail, hmore⟩ | ⟨more, rfl, -⟩
    · -- the reference ends before the break
      cases more with
      | nil =>
        rw [List.append_nil] at htail
        have hback := ofTail?_tail hvalid []
        rwa [List.append_nil, htail] at hback
      | cons d more =>
        obtain ⟨rfl, -⟩ := List.cons_eq_cons.1 hmore
        exact absurd (htail ▸ List.mem_append_right _ (List.mem_cons_self ..))
          (hc.notMem_tail hvalid)
    · exact ofTail?_tail hvalid more
  · obtain ⟨rest, rfl⟩ := tail_isPrefix h
    rw [List.append_assoc]
    exact ofTail?_tail (valid_of_ofTail? h) _

end Reference

/-! ### Clean pieces -/

/-- A piece that is found again where it is spelled. -/
def Piece.Clean : Piece → Prop
  | .char c => c ≠ '$'
  | .reference r => r.Valid

instance : DecidablePred Piece.Clean
  | .char c => inferInstanceAs (Decidable (c ≠ '$'))
  | .reference r => inferInstanceAs (Decidable r.Valid)

/-- **Pieces split at a break**: the text behind it is taken apart on its own. -/
theorem piecesFrom_append_break {c : Char} (hc : Reference.IsBreak c) {n : Nat} {xs : List Char}
    (hn : n ≤ xs.length) (ys : List Char) :
    piecesFrom n (xs ++ c :: ys) = piecesFrom n xs ++ piecesFrom 0 (c :: ys) := by
  fun_induction piecesFrom n xs with
  | case1 n =>
    obtain rfl := Nat.le_zero.1 hn
    rfl
  | case2 skip x cs ih => exact ih (Nat.le_of_succ_le_succ hn)
  | case3 cs r hr ih =>
    have hlength : r.tail.length ≤ cs.length := by
      obtain ⟨rest, rfl⟩ := Reference.tail_isPrefix hr
      simp
    rw [List.cons_append, piecesFrom, if_pos rfl, Reference.ofTail?_append_break hc, hr]
    exact congrArg (List.cons _) (ih hlength)
  | case4 cs hr ih =>
    rw [List.cons_append, piecesFrom, if_pos rfl, Reference.ofTail?_append_break hc, hr]
    exact congrArg (List.cons _) (ih (Nat.zero_le _))
  | case5 x cs hx ih =>
    rw [List.cons_append, piecesFrom, if_neg hx]
    exact congrArg (List.cons _) (ih (Nat.zero_le _))

/-- Pieces that are found again where they are spelled, dollar signs among them or not. -/
def ReadBack (ps : List Piece) : Prop :=
  piecesFrom 0 (ps.flatMap Piece.spelling) = ps

/-- A character other than the dollar sign is read back by itself. -/
theorem readBack_cons_char {c : Char} {ps : List Piece} (hc : c ≠ '$') :
    ReadBack (.char c :: ps) ↔ ReadBack ps := by
  show piecesFrom 0 (c :: ps.flatMap Piece.spelling) = .char c :: ps ↔ _
  rw [piecesFrom, if_neg hc, List.cons_inj_right]
  rfl

/-- A valid reference in front is read back, whatever stands behind it, since its last bracket ends
it. -/
theorem ReadBack.cons_reference {r : Reference} {ps : List Piece} (h : ReadBack ps)
    (hr : r.Valid) : ReadBack (.reference r :: ps) := by
  show piecesFrom 0 ('$' :: (r.tail ++ ps.flatMap Piece.spelling)) = _
  rw [piecesFrom, if_pos rfl, Reference.ofTail?_tail hr]
  exact congrArg (List.cons _) ((piecesFrom_append _ _).trans h)

/-- Clean pieces are read back from their spelling. -/
theorem piecesFrom_spelling {ps : List Piece} (h : ∀ p ∈ ps, p.Clean) : ReadBack ps := by
  induction ps with
  | nil => rfl
  | cons p ps ih =>
    have hrest := ih fun q hq => h q (List.mem_cons_of_mem _ hq)
    have hp := h p (List.mem_cons_self ..)
    cases p with
    | char c => exact (readBack_cons_char hp).2 hrest
    | reference r => exact hrest.cons_reference hp

/-- A text that is spelled by clean pieces has these. -/
theorem pieces_of_spelling {value : String} {ps : List Piece} (hclean : ∀ p ∈ ps, p.Clean)
    (hspell : ps.flatMap Piece.spelling = value.toList) : pieces value = ps := by
  have hread := piecesFrom_spelling hclean
  rwa [ReadBack, hspell] at hread

/-- What stands before a break is read back on its own. -/
theorem readBack_append_break {c : Char} (hc : Reference.IsBreak c) {ps behind : List Piece}
    (hbehind : ReadBack (.char c :: behind)) :
    ReadBack (ps ++ .char c :: behind) ↔ ReadBack ps := by
  have hspell : (ps ++ .char c :: behind).flatMap Piece.spelling =
      ps.flatMap Piece.spelling ++ c :: behind.flatMap Piece.spelling :=
    List.flatMap_append
  have hsplit := piecesFrom_append_break hc (Nat.zero_le (ps.flatMap Piece.spelling).length)
    (behind.flatMap Piece.spelling)
  have hread : piecesFrom 0 (c :: behind.flatMap Piece.spelling) = .char c :: behind := hbehind
  rw [ReadBack, hspell, hsplit, hread, List.append_left_inj]
  rfl

/-- Each dollar sign of a text begins a reference. -/
def DollarsRefer (cs : List Char) : Prop :=
  ∀ before behind, cs = before ++ '$' :: behind → (Reference.ofTail? behind).isSome

/-- The condition is kept when a character is taken off, because it looks only behind each dollar
sign. -/
theorem DollarsRefer.tail {c : Char} {cs : List Char} (h : DollarsRefer (c :: cs)) :
    DollarsRefer cs :=
  fun before behind heq => h (c :: before) behind (congrArg (List.cons c) heq)

/-- A character may be put in front, if it is no dollar sign or begins a reference. -/
theorem DollarsRefer.cons {c : Char} {cs : List Char} (h : DollarsRefer cs)
    (hc : c = '$' → (Reference.ofTail? cs).isSome) : DollarsRefer (c :: cs) := by
  intro before behind heq
  cases before with
  | nil =>
    obtain ⟨rfl, rfl⟩ := List.cons_eq_cons.1 heq
    exact hc rfl
  | cons d before => exact h before behind (List.cons_eq_cons.1 heq).2

/-- A text without dollar signs in front of the rest changes nothing. -/
theorem DollarsRefer.append {xs cs : List Char} (h : DollarsRefer cs) (hxs : '$' ∉ xs) :
    DollarsRefer (xs ++ cs) := by
  induction xs with
  | nil => exact h
  | cons x xs ih =>
    obtain ⟨hx, hrest⟩ := not_or.1 (mt List.mem_cons.2 hxs)
    exact (ih hrest).cons fun heq => absurd heq.symm hx

/-- Where each dollar sign begins a reference, none is left over as a character, so all pieces are
clean. -/
theorem clean_piecesFrom {n : Nat} {cs : List Char} (h : DollarsRefer cs) :
    ∀ p ∈ piecesFrom n cs, p.Clean := by
  fun_induction piecesFrom n cs with
  | case1 => simp
  | case2 skip c cs ih => exact ih h.tail
  | case3 cs r hr ih =>
    intro p hp
    rcases List.mem_cons.1 hp with rfl | hp
    · exact Reference.valid_of_ofTail? hr
    · exact ih h.tail p hp
  | case4 cs hr ih =>
    have hsome := h [] cs rfl
    rw [hr] at hsome
    cases hsome
  | case5 c cs hc ih =>
    intro p hp
    rcases List.mem_cons.1 hp with rfl | hp
    · exact hc
    · exact ih h.tail p hp

/-- The other direction. A dollar sign inside a reference would be one that begins none, but a valid
reference has a single one (`Valid.dollar_notMem_tail`). -/
theorem dollarsRefer_of_clean {n : Nat} {cs : List Char} (h : ∀ p ∈ piecesFrom n cs, p.Clean) :
    DollarsRefer (cs.drop n) := by
  fun_induction piecesFrom n cs with
  | case1 => intro before behind heq; simp at heq
  | case2 skip c cs ih => exact ih h
  | case3 cs r hr ih =>
    have hrest := ih fun p hp => h p (List.mem_cons_of_mem _ hp)
    refine DollarsRefer.cons ?_ fun _ => by simp [hr]
    -- the reference holds no dollar sign behind its first character
    obtain ⟨rest, rfl⟩ := Reference.tail_isPrefix hr
    rw [List.drop_left] at hrest
    exact hrest.append (Reference.valid_of_ofTail? hr).dollar_notMem_tail
  | case4 cs hr ih => exact absurd rfl (h (.char '$') (List.mem_cons_self ..))
  | case5 c cs hc ih =>
    have hrest := ih fun p hp => h p (List.mem_cons_of_mem _ hp)
    exact hrest.cons fun heq => absurd heq hc

/-- Clean pieces are what a text has whose dollar signs all begin references. -/
theorem dollarsRefer_iff {value : String} :
    DollarsRefer value.toList ↔ ∀ p ∈ pieces value, p.Clean :=
  ⟨fun h => clean_piecesFrom h, fun h => dollarsRefer_of_clean h⟩

instance (value : String) : Decidable (DollarsRefer value.toList) :=
  decidable_of_iff _ dollarsRefer_iff.symm

/-! ### Trimming pieces -/

/-- Whether a piece is a blank. -/
def Piece.isBlank : Piece → Bool
  | .char c => Text.isBlank c
  | .reference _ => false

/-- The pieces without the blanks at either end. -/
def trimPieces (ps : List Piece) : List Piece :=
  ((ps.dropWhile Piece.isBlank).reverse.dropWhile Piece.isBlank).reverse

theorem mem_of_mem_trimPieces {ps : List Piece} {p : Piece} (h : p ∈ trimPieces ps) : p ∈ ps := by
  have hdropped := List.mem_reverse.1 ((List.dropWhile_sublist _).mem (List.mem_reverse.1 h))
  exact (List.dropWhile_sublist _).mem hdropped

/-- Trimming takes blanks only. -/
theorem exists_blanks_trimPieces (ps : List Piece) :
    ∃ front back, ps = front ++ trimPieces ps ++ back ∧
      (∀ p ∈ front, p.isBlank = true) ∧ ∀ p ∈ back, p.isBlank = true :=
  Text.exists_dropped_ends Piece.isBlank ps

/-- Where a piece is written so that only blank pieces begin with a blank, blanks are dropped from
the text as from the pieces. -/
theorem dropWhile_flatMap {f : Piece → List Char} (hchar : ∀ c, f (.char c) = [c])
    (href : ∀ r, ∃ c cs, f (.reference r) = c :: cs ∧ Text.isBlank c = false)
    (ps : List Piece) :
    (ps.dropWhile Piece.isBlank).flatMap f = (ps.flatMap f).dropWhile Text.isBlank := by
  induction ps with
  | nil => rfl
  | cons p ps ih =>
    cases p with
    | char c =>
      rw [List.flatMap_cons, hchar, List.singleton_append, List.dropWhile_cons,
        List.dropWhile_cons]
      by_cases hc : Text.isBlank c = true
      · simpa [Piece.isBlank, hc] using ih
      · simp [Piece.isBlank, hc, hchar]
    | reference r =>
      obtain ⟨c, cs, hr, hc⟩ := href r
      simp [Piece.isBlank, hr, hc]

/-- A reference read from its end begins with the closing bracket, which is no blank. -/
theorem Reference.reverse_spelling (r : Reference) : r.spelling.reverse =
    closing r.braced :: (r.inside.reverse ++ [opening r.braced, '$']) := by
  simp [spelling, tail]

theorem isBlank_closing (braced : Bool) : Text.isBlank (Reference.closing braced) = false := by
  cases braced <;> decide

/-- Trimming the text is trimming the pieces: a reference has no blank at its ends. -/
theorem spelling_trimPieces (ps : List Piece) :
    (trimPieces ps).flatMap Piece.spelling = Text.trimChars (ps.flatMap Piece.spelling) := by
  have hfront := dropWhile_flatMap (f := Piece.spelling) (fun c => rfl)
    (fun r => ⟨'$', r.tail, rfl, by decide⟩)
  have hback := dropWhile_flatMap (f := List.reverse ∘ Piece.spelling) (fun c => rfl)
    (fun r => ⟨_, _, r.reverse_spelling, isBlank_closing r.braced⟩)
  rw [trimPieces, Text.trimChars, Text.trimEnd, ← hfront, List.reverse_flatMap, ← hback,
    List.reverse_flatMap]
  simp [Function.comp_def]

/-- A blank piece is a character, and it splits the pieces. -/
theorem Piece.exists_blank {p : Piece} (h : p.isBlank = true) :
    ∃ c, p = .char c ∧ Reference.IsBreak c ∧ c ≠ '$' := by
  cases p with
  | char c =>
    refine ⟨c, rfl, Reference.isBreak_of_isBlank h, ?_⟩
    rintro rfl
    cases h
  | reference r => cases h

/-- Blanks in front do not matter for reading back. -/
theorem ReadBack.of_blanks {front ps : List Piece} (h : ReadBack (front ++ ps))
    (hfront : ∀ p ∈ front, p.isBlank = true) : ReadBack ps := by
  induction front with
  | nil => exact h
  | cons p front ih =>
    obtain ⟨c, rfl, -, hdollar⟩ := Piece.exists_blank (hfront p (List.mem_cons_self ..))
    exact ih ((readBack_cons_char hdollar).1 h) fun q hq => hfront q (List.mem_cons_of_mem _ hq)

/-- Pieces that are read back can be trimmed first. Blanks are breaks, so what stands between them
is read on its own. -/
theorem ReadBack.trim {ps : List Piece} (h : ReadBack ps) : ReadBack (trimPieces ps) := by
  obtain ⟨front, back, hsplit, hfront, hback⟩ := exists_blanks_trimPieces ps
  rw [hsplit, List.append_assoc] at h
  have hrest := h.of_blanks hfront
  cases back with
  | nil => rwa [List.append_nil] at hrest
  | cons p back =>
    have hbehind : ReadBack (p :: back) := by
      refine piecesFrom_spelling fun q hq => ?_
      obtain ⟨d, rfl, -, hdollar⟩ := Piece.exists_blank (hback q hq)
      exact hdollar
    obtain ⟨c, rfl, hbreak, -⟩ := Piece.exists_blank (hback p (List.mem_cons_self ..))
    exact (readBack_append_break hbreak hbehind).1 hrest

/-- However references are filled in, trimming the pieces first makes no difference after the
text is trimmed. -/
theorem trimChars_flatMap_trimPieces {f : Piece → List Char} (hchar : ∀ c, f (.char c) = [c])
    (ps : List Piece) :
    Text.trimChars ((trimPieces ps).flatMap f) = Text.trimChars (ps.flatMap f) := by
  obtain ⟨front, back, hsplit, hfront, hback⟩ := exists_blanks_trimPieces ps
  have hblank : ∀ l : List Piece, (∀ p ∈ l, p.isBlank = true) →
      ∀ c ∈ l.flatMap f, Text.isBlank c = true := by
    intro l hl c hc
    obtain ⟨p, hp, hcp⟩ := List.mem_flatMap.1 hc
    have hpl := hl p hp
    cases p with
    | char d =>
      rw [hchar, List.mem_singleton] at hcp
      exact hcp ▸ hpl
    | reference r => cases hpl
  conv => rhs; rw [hsplit, List.flatMap_append, List.flatMap_append]
  exact (Text.trimChars_of_blank_ends (hblank _ hfront) (hblank _ hback) _).symm

end BuildSettings.Setting
