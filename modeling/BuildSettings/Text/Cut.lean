/-!
# Cutting text at a character

Functions on lists of characters that cut at every, at the first or at the last occurrence of a
separator, and that find or replace a part of a text. `join_pieces` says that cutting at every
separator loses nothing.
-/

namespace BuildSettings.Text

/-- The pieces between the separators; there is always at least one. -/
def pieces (sep : Char) : List Char → List (List Char)
  | [] => [[]]
  | c :: cs =>
    if c = sep then [] :: pieces sep cs
    else match pieces sep cs with
      | [] => [[c]]
      | p :: ps => (c :: p) :: ps

/-- The pieces with a separator between neighbours. -/
def joinPieces (sep : Char) : List (List Char) → List Char
  | [] => []
  | [p] => p
  | p :: q :: ps => p ++ sep :: joinPieces sep (q :: ps)

/-- The parts before and after the first separator. -/
def cutFirst? (sep : Char) : List Char → Option (List Char × List Char)
  | [] => none
  | c :: cs =>
    if c = sep then some ([], cs)
    else (cutFirst? sep cs).map fun (before, after) => (c :: before, after)

/-- The parts before and after the last separator. -/
def cutLast? (sep : Char) : List Char → Option (List Char × List Char)
  | [] => none
  | c :: cs =>
    match cutLast? sep cs with
    | some (before, after) => some (c :: before, after)
    | none => if c = sep then some ([], cs) else none

/-- The rest of the text after `part` at its start. -/
def afterStart? (part : List Char) (cs : List Char) : Option (List Char) :=
  if part.isPrefixOf cs then some (cs.drop part.length) else none

/-- The rest of the text before `part` at its end. -/
def beforeEnd? (part : List Char) (cs : List Char) : Option (List Char) :=
  if part.isSuffixOf cs then some (cs.take (cs.length - part.length)) else none

/-- Whether `part` occurs in the text. -/
def occursIn (part : List Char) : List Char → Bool
  | [] => part.isEmpty
  | c :: cs => part.isPrefixOf (c :: cs) || occursIn part cs

/-- Replaces the occurrences of `part` from left to right. The count is of the characters of
an occurrence that are still to be passed over. -/
def replaceFrom (part new : List Char) : Nat → List Char → List Char
  | _, [] => []
  | skip + 1, _ :: cs => replaceFrom part new skip cs
  | 0, c :: cs =>
    if part.isPrefixOf (c :: cs) then new ++ replaceFrom part new (part.length - 1) cs
    else c :: replaceFrom part new 0 cs

/-- Replaces the occurrences of a non-empty `part`, from left to right and without overlap. -/
def replaceAll (part new : String) (s : String) : String :=
  String.ofList (replaceFrom part.toList new.toList 0 s.toList)

/-- Whether `part` occurs in `s`. -/
def contains (s part : String) : Bool :=
  occursIn part.toList s.toList

/-- Whether `s` starts with `part`. -/
def startsWith (s part : String) : Bool :=
  part.toList.isPrefixOf s.toList

/-- Whether `s` ends with `part`. -/
def endsWith (s part : String) : Bool :=
  part.toList.isSuffixOf s.toList

/-- The first separator is the one in front of which there is none. -/
theorem cutFirst?_append {sep : Char} {before : List Char} (h : sep ∉ before) (after : List Char) :
    cutFirst? sep (before ++ sep :: after) = some (before, after) := by
  induction before with
  | nil => rw [List.nil_append, cutFirst?, if_pos rfl]
  | cons c before ih =>
    obtain ⟨hc, hbefore⟩ := not_or.1 (h ∘ List.mem_cons.2)
    rw [List.cons_append, cutFirst?, if_neg (Ne.symm hc), ih hbefore]
    rfl

/-- The parts of a text are cut out of it at the first separator. -/
theorem cutFirst?_eq_some_iff {sep : Char} {cs before after : List Char} :
    cutFirst? sep cs = some (before, after) ↔ cs = before ++ sep :: after ∧ sep ∉ before := by
  constructor
  · intro h
    induction cs generalizing before with
    | nil => cases h
    | cons c cs ih =>
      rw [cutFirst?] at h
      split at h
      next hc =>
        obtain ⟨rfl, rfl⟩ := Prod.mk.inj (Option.some.inj h)
        exact ⟨congrArg (· :: cs) hc, List.not_mem_nil⟩
      next hc =>
        obtain ⟨⟨front, back⟩, hcut, heq⟩ := Option.map_eq_some_iff.1 h
        obtain ⟨rfl, rfl⟩ := Prod.mk.inj heq
        obtain ⟨hcs, hfront⟩ := ih hcut
        exact ⟨congrArg (c :: ·) hcs, mt List.mem_cons.1 (not_or.2 ⟨Ne.symm hc, hfront⟩)⟩
  · rintro ⟨rfl, hbefore⟩
    exact cutFirst?_append hbefore after

theorem cutFirst?_eq_none_iff {sep : Char} {cs : List Char} :
    cutFirst? sep cs = none ↔ sep ∉ cs := by
  constructor
  · intro h hmem
    obtain ⟨before, after, rfl, hbefore⟩ := List.eq_append_cons_of_mem hmem
    rw [cutFirst?_append hbefore] at h
    cases h
  · intro h
    cases hcut : cutFirst? sep cs with
    | none => rfl
    | some parts =>
      obtain ⟨rfl, -⟩ := cutFirst?_eq_some_iff.1 hcut
      exact absurd (List.mem_append_right _ (List.mem_cons_self ..)) h

/-- A text without the separator is not cut. -/
theorem cutLast?_of_notMem {sep : Char} {cs : List Char} (h : sep ∉ cs) :
    cutLast? sep cs = none := by
  induction cs with
  | nil => rfl
  | cons c cs ih =>
    obtain ⟨hc, hcs⟩ := not_or.1 (mt List.mem_cons.2 h)
    rw [cutLast?, ih hcs]
    exact if_neg (Ne.symm hc)

/-- The parts of a text are cut out of it. -/
theorem eq_of_cutLast? {sep : Char} {cs before after : List Char}
    (h : cutLast? sep cs = some (before, after)) : cs = before ++ sep :: after := by
  induction cs generalizing before with
  | nil => cases h
  | cons c cs ih =>
    rw [cutLast?] at h
    split at h
    next before' after' hcut =>
      obtain ⟨rfl, rfl⟩ := Prod.mk.inj (Option.some.inj h)
      rw [ih hcut]
      rfl
    next =>
      split at h
      next hc =>
        obtain ⟨rfl, rfl⟩ := Prod.mk.inj (Option.some.inj h)
        rw [hc]
        rfl
      next => cases h

theorem notMem_of_cutLast?_eq_none {sep : Char} {cs : List Char} (h : cutLast? sep cs = none) :
    sep ∉ cs := by
  induction cs with
  | nil => exact List.not_mem_nil
  | cons c cs ih =>
    rw [cutLast?] at h
    split at h
    next => cases h
    next hrest =>
      split at h
      next => cases h
      next hc => exact fun hmem => (List.mem_cons.1 hmem).elim (hc ∘ Eq.symm) (ih hrest)

/-- Behind the last separator there is no other. -/
theorem notMem_of_cutLast? {sep : Char} {cs before after : List Char}
    (h : cutLast? sep cs = some (before, after)) : sep ∉ after := by
  induction cs generalizing before with
  | nil => cases h
  | cons c cs ih =>
    rw [cutLast?] at h
    split at h
    next before' after' hcut =>
      obtain ⟨-, rfl⟩ := Prod.mk.inj (Option.some.inj h)
      exact ih hcut
    next hnone =>
      split at h
      next =>
        obtain ⟨-, rfl⟩ := Prod.mk.inj (Option.some.inj h)
        exact notMem_of_cutLast?_eq_none hnone
      next => cases h

/-- A text is cut where the rest has no further separator. -/
theorem cutLast?_append {sep : Char} {after : List Char} (h : sep ∉ after) (before : List Char) :
    cutLast? sep (before ++ sep :: after) = some (before, after) := by
  induction before with
  | nil =>
    rw [List.nil_append, cutLast?, cutLast?_of_notMem h]
    exact if_pos rfl
  | cons c before ih => rw [List.cons_append, cutLast?, ih]

/-- The ending and what stands in front of it make up the text. -/
theorem beforeEnd?_eq_some_iff {part cs front : List Char} :
    beforeEnd? part cs = some front ↔ cs = front ++ part := by
  unfold beforeEnd?
  constructor
  · intro h
    split at h
    next hend =>
      obtain ⟨before, rfl⟩ := List.isSuffixOf_iff_suffix.1 hend
      rw [List.length_append, Nat.add_sub_cancel, List.take_left] at h
      rw [Option.some.inj h]
    next => cases h
  · rintro rfl
    rw [if_pos (List.isSuffixOf_iff_suffix.2 (List.suffix_append front part)), List.length_append,
      Nat.add_sub_cancel, List.take_left]

/-- What does not stand in the ending stands in front of it. -/
theorem mem_beforeEnd? {c : Char} {part cs front : List Char} (h : c ∈ cs) (hc : c ∉ part)
    (hfront : beforeEnd? part cs = some front) : c ∈ front := by
  rw [beforeEnd?_eq_some_iff.1 hfront] at h
  exact (List.mem_append.1 h).resolve_right hc

/-- A part that occurs in a text stands between two others. -/
theorem exists_append_of_occursIn {part cs : List Char} (h : occursIn part cs = true) :
    ∃ before after, cs = before ++ part ++ after := by
  induction cs with
  | nil => exact ⟨[], [], by simpa [occursIn] using h⟩
  | cons c cs ih =>
    rw [occursIn, Bool.or_eq_true] at h
    rcases h with hstart | hrest
    · obtain ⟨after, hafter⟩ := List.isPrefixOf_iff_prefix.1 hstart
      exact ⟨[], after, hafter.symm⟩
    · obtain ⟨before, after, rfl⟩ := ih hrest
      exact ⟨c :: before, after, rfl⟩

/-- A part that stands between two others occurs. -/
theorem occursIn_append_self (before part after : List Char) :
    occursIn part (before ++ (part ++ after)) = true := by
  induction before with
  | nil =>
    cases part with
    | nil => cases after <;> simp [occursIn]
    | cons d part =>
      rw [List.nil_append, List.cons_append, occursIn, Bool.or_eq_true]
      exact .inl (List.isPrefixOf_iff_prefix.2 (List.prefix_append _ _))
  | cons c before ih => rw [List.cons_append, occursIn, ih, Bool.or_true]

theorem replaceFrom_length_append {part new : List Char} (xs cs : List Char) :
    replaceFrom part new xs.length (xs ++ cs) = replaceFrom part new 0 cs := by
  induction xs with
  | nil => rfl
  | cons x xs ih => simpa [replaceFrom] using ih

/-- Where the first character of the part is missing nothing is replaced. -/
theorem replaceFrom_append_of_notMem {d : Char} {part new xs : List Char} (h : d ∉ xs)
    (cs : List Char) :
    replaceFrom (d :: part) new 0 (xs ++ cs) = xs ++ replaceFrom (d :: part) new 0 cs := by
  induction xs with
  | nil => rfl
  | cons x xs ih =>
    obtain ⟨hx, hxs⟩ := not_or.1 (h ∘ List.mem_cons.2)
    rw [List.cons_append, replaceFrom, if_neg, ih hxs, List.cons_append]
    simp [List.isPrefixOf, hx]

theorem pieces_ne_nil (sep : Char) (cs : List Char) : pieces sep cs ≠ [] := by
  cases cs with
  | nil => simp [pieces]
  | cons c cs =>
    rw [pieces]
    split
    · simp
    · split <;> simp

/-- Cutting at a separator and joining with it loses nothing. -/
theorem join_pieces (sep : Char) (cs : List Char) : joinPieces sep (pieces sep cs) = cs := by
  induction cs with
  | nil => rfl
  | cons c cs ih =>
    rw [pieces]
    split
    next h =>
      cases hp : pieces sep cs with
      | nil => exact absurd hp (pieces_ne_nil sep cs)
      | cons p ps => rw [joinPieces, ← hp, ih, h]; rfl
    next h =>
      cases hp : pieces sep cs with
      | nil => exact absurd hp (pieces_ne_nil sep cs)
      | cons p ps =>
        rw [hp] at ih
        cases ps with
        | nil => simpa [joinPieces] using ih
        | cons q qs => simpa [joinPieces] using ih

/-- Nothing reaches over a separator. -/
theorem pieces_append (sep : Char) (cs ds : List Char) :
    pieces sep (cs ++ sep :: ds) = pieces sep cs ++ pieces sep ds := by
  induction cs with
  | nil =>
    show (if sep = sep then [] :: pieces sep ds else _) = _
    rw [if_pos rfl]
    rfl
  | cons c cs ih =>
    rw [List.cons_append, pieces, pieces, ih]
    by_cases hc : c = sep
    · rw [if_pos hc, if_pos hc]
      rfl
    · rw [if_neg hc, if_neg hc]
      cases hp : pieces sep cs with
      | nil => exact absurd hp (pieces_ne_nil sep cs)
      | cons p ps => rfl

/-- A text without the separator is one piece. -/
theorem pieces_of_notMem {sep : Char} {cs : List Char} (h : sep ∉ cs) : pieces sep cs = [cs] := by
  induction cs with
  | nil => rfl
  | cons c cs ih =>
    obtain ⟨hc, hcs⟩ := not_or.1 (mt List.mem_cons.2 h)
    rw [pieces, if_neg (Ne.symm hc), ih hcs]

/-- No piece has the separator. -/
theorem notMem_of_mem_pieces {sep : Char} {cs piece : List Char} (h : piece ∈ pieces sep cs) :
    sep ∉ piece := by
  induction cs generalizing piece with
  | nil =>
    rw [List.mem_singleton.1 h]
    exact List.not_mem_nil
  | cons c cs ih =>
    rw [pieces] at h
    split at h
    next =>
      rcases List.mem_cons.1 h with rfl | hmem
      · exact List.not_mem_nil
      · exact ih hmem
    next hc =>
      cases hp : pieces sep cs with
      | nil => exact absurd hp (pieces_ne_nil sep cs)
      | cons p ps =>
        rw [hp] at h
        rcases List.mem_cons.1 h with rfl | hmem
        · exact mt List.mem_cons.1 (not_or.2 ⟨Ne.symm hc, ih (hp ▸ List.mem_cons_self ..)⟩)
        · exact ih (hp ▸ List.mem_cons_of_mem _ hmem)

/-- The pieces of a text are the only parts without the separator that make it up. -/
theorem pieces_eq_iff {sep : Char} {cs : List Char} {parts : List (List Char)} :
    pieces sep cs = parts ↔
      parts ≠ [] ∧ (∀ part ∈ parts, sep ∉ part) ∧ cs = joinPieces sep parts := by
  constructor
  · rintro rfl
    exact ⟨pieces_ne_nil sep cs, fun _ => notMem_of_mem_pieces, (join_pieces sep cs).symm⟩
  · rintro ⟨hne, hparts, rfl⟩
    induction parts with
    | nil => exact absurd rfl hne
    | cons part rest ih =>
      obtain ⟨hpart, hrest⟩ := List.forall_mem_cons.1 hparts
      cases rest with
      | nil => exact pieces_of_notMem hpart
      | cons next rest =>
        rw [joinPieces, pieces_append, pieces_of_notMem hpart, ih (by simp) hrest]
        rfl

end BuildSettings.Text
