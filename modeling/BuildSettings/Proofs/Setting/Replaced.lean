import BuildSettings.Proofs.Setting.Pieces
import Mathlib.Data.List.Basic

/-!
# References that are replaced as texts

A reference can be looked for and replaced in a value as the text that it is written as. What is
found is a reference of the value, since no other text is written like one, whatever dollar signs
stand around it (`contains_iff_mem_pieces`). What is replaced are all references of that form, and
if each dollar sign begins a reference, in the value and in what is put in, then the result has the
pieces of both and no others (`pieces_replaceAll`).
-/

namespace BuildSettings.Setting

variable {value : String} {r : Reference}

/-- A reference stands where it is read. -/
theorem isPrefixOf_spelling_iff (hr : r.Valid) {cs : List Char} :
    r.spelling.isPrefixOf ('$' :: cs) = true ↔ Reference.ofTail? cs = some r := by
  rw [List.isPrefixOf_iff_prefix, Reference.spelling, List.cons_prefix_cons]
  constructor
  · rintro ⟨-, rest, rfl⟩
    exact Reference.ofTail?_tail hr rest
  · intro h
    obtain ⟨rest, rfl⟩ := Reference.tail_isPrefix h
    exact ⟨rfl, List.prefix_append _ _⟩

/-- The pieces of a text are those around a reference in it. -/
theorem piecesFrom_append_reference (hr : r.Valid) (before after : List Char) :
    piecesFrom 0 (before ++ (r.spelling ++ after)) =
      piecesFrom 0 before ++ .reference r :: piecesFrom 0 after := by
  have hbreak : Reference.IsBreak '$' := by decide
  rw [Reference.spelling, List.cons_append, piecesFrom_append_break hbreak (Nat.zero_le _)]
  congr 1
  rw [piecesFrom, if_pos rfl, Reference.ofTail?_tail hr]
  exact congrArg _ (piecesFrom_append _ _)

/-- What occurs in a value as a reference is spelled is a reference of it. Dollar signs around it
cannot make it a part of another one. -/
theorem contains_iff_mem_pieces (hr : r.Valid) {text : String} (htext : text.toList = r.spelling) :
    Text.contains value text = true ↔ .reference r ∈ pieces value := by
  rw [Text.contains, htext]
  constructor
  · intro h
    obtain ⟨before, after, hvalue⟩ := Text.exists_append_of_occursIn h
    rw [pieces, hvalue, List.append_assoc, piecesFrom_append_reference hr]
    simp
  · intro h
    obtain ⟨before, after, hsplit⟩ := List.append_of_mem h
    rw [← spell_pieces, hsplit, List.flatMap_append, List.flatMap_cons]
    exact Text.occursIn_append_self _ _ _

theorem Piece.char_ne_reference {c : Char} : Piece.char c ≠ .reference r := by
  rintro ⟨⟩

/-- Replacing the spelling of a reference in a text is replacing the reference among the pieces,
from any place that is not inside of another reference. -/
theorem replaceFrom_spelling (hr : r.Valid) (new : List Char) (n : Nat) (cs : List Char) :
    Text.replaceFrom r.spelling new 0 (cs.drop n) =
      (piecesFrom n cs).flatMap fun p => if p = .reference r then new else p.spelling := by
  fun_induction piecesFrom n cs with
  | case1 => simp [Text.replaceFrom]
  | case2 skip c cs ih => exact ih
  | case3 cs s hs ih =>
    obtain ⟨rest, rfl⟩ := Reference.tail_isPrefix hs
    rw [List.drop_left] at ih
    rw [List.drop_zero, Text.replaceFrom, List.flatMap_cons, ← ih]
    by_cases hsame : s = r
    · subst hsame
      rw [if_pos ((isPrefixOf_spelling_iff hr).2 hs), if_pos rfl]
      exact congrArg _ (Text.replaceFrom_length_append _ _)
    · -- another reference: the text does not begin here, nor further inside
      have hother : ¬ r.spelling.isPrefixOf ('$' :: (s.tail ++ rest)) = true := by
        rw [isPrefixOf_spelling_iff hr, hs]
        exact hsame ∘ Option.some.inj
      have hdollar : '$' ∉ s.tail := (Reference.valid_of_ofTail? hs).dollar_notMem_tail
      rw [if_neg hother, if_neg (hsame ∘ Piece.reference.inj)]
      exact congrArg _ (Text.replaceFrom_append_of_notMem hdollar _)
  | case4 cs hs ih =>
    rw [List.drop_zero] at ih ⊢
    rw [Text.replaceFrom, List.flatMap_cons, ← ih, if_neg, if_neg Piece.char_ne_reference]
    · rfl
    · rw [isPrefixOf_spelling_iff hr, hs]
      exact (Option.some_ne_none r).symm
  | case5 c cs hc ih =>
    rw [List.drop_zero] at ih ⊢
    rw [Text.replaceFrom, List.flatMap_cons, ← ih, if_neg, if_neg Piece.char_ne_reference]
    · rfl
    · simp [Reference.spelling, List.isPrefixOf, Ne.symm hc]

/-- The pieces with others in the place of a reference. -/
def putPieces (r : Reference) (new ps : List Piece) : List Piece :=
  ps.flatMap fun p => if p = .reference r then new else [p]

/-- Clean pieces in the place of a reference among clean pieces leave all clean. -/
theorem clean_putPieces {new ps : List Piece} (hnew : ∀ p ∈ new, p.Clean)
    (hps : ∀ p ∈ ps, p.Clean) : ∀ p ∈ putPieces r new ps, p.Clean := by
  intro p hp
  obtain ⟨q, hq, hp⟩ := List.mem_flatMap.1 hp
  split at hp
  next => exact hnew p hp
  next => exact List.mem_singleton.1 hp ▸ hps q hq

/-- Where the reference is missing nothing is replaced. -/
theorem putPieces_of_notMem {new ps : List Piece} (h : .reference r ∉ ps) :
    putPieces r new ps = ps := by
  have hsame : ∀ p ∈ ps, (if p = .reference r then new else [p]) = [p] := by
    intro p hp
    rw [if_neg]
    rintro rfl
    exact h hp
  exact (List.flatMap_congr hsame).trans (List.flatMap_singleton' ps)

/-- A value is put into another one piece by piece if each dollar sign begins a reference. -/
theorem pieces_replaceAll (hr : r.Valid) {text new : String} (htext : text.toList = r.spelling)
    (hnew : DollarsRefer new.toList) (hvalue : DollarsRefer value.toList) :
    pieces (Text.replaceAll text new value) = putPieces r (pieces new) (pieces value) := by
  refine pieces_of_spelling
    (clean_putPieces (dollarsRefer_iff.1 hnew) (dollarsRefer_iff.1 hvalue)) ?_
  rw [Text.replaceAll, String.toList_ofList, htext, putPieces, List.flatMap_assoc]
  refine Eq.trans ?_ (replaceFrom_spelling hr _ 0 value.toList).symm
  refine List.flatMap_congr fun p _ => ?_
  split
  · exact spell_pieces new
  · exact List.append_nil _

/-- Trimming a value is trimming its pieces. -/
theorem pieces_trim (value : String) : pieces (Text.trim value) = trimPieces (pieces value) := by
  have hread : ReadBack (pieces value) := by
    rw [ReadBack, spell_pieces]
    rfl
  have htrim := hread.trim
  rw [ReadBack, spelling_trimPieces, spell_pieces] at htrim
  rw [pieces, Text.toList_trim]
  exact htrim

end BuildSettings.Setting
