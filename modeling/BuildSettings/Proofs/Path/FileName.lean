import BuildSettings.Proofs.Path.Steps
import Mathlib.Data.List.Basic

/-!
# Names of files

The last step of a path names the file. In the text of the path it stands behind the last slash, if
it is a name that a directory can hold (`IsEntry`), and it stays there when the path is put behind
another one or when its first steps are taken off.

* `fileName?_of_append` — the name behind the last slash is the name of the file.
* `exists_join_eq` — a path that is put behind another one stands behind a slash.
* `text_after` — so does what is left of a path when its first steps are taken off, unless all of
  them are.
-/

namespace BuildSettings

namespace Text

/-- The last piece stands behind a separator if there are others. -/
theorem join_append_singleton {sep : Char} {parts : List (List Char)} (h : parts ≠ [])
    (part : List Char) : joinPieces sep (parts ++ [part]) = joinPieces sep parts ++ sep :: part := by
  induction parts with
  | nil => exact absurd rfl h
  | cons first parts ih =>
    cases parts with
    | nil => rfl
    | cons next parts =>
      have hrest := ih (List.cons_ne_nil next parts)
      rw [List.cons_append, List.cons_append, joinPieces, joinPieces, ← List.cons_append, hrest,
        List.append_assoc, List.cons_append]

/-- An empty piece in front is a separator in front. -/
theorem join_nil_cons {sep : Char} {parts : List (List Char)} (h : parts ≠ []) :
    joinPieces sep ([] :: parts) = sep :: joinPieces sep parts := by
  cases parts with
  | nil => exact absurd rfl h
  | cons part parts => rfl

end Text

namespace Path

variable {p base : Path} {front name : List Char} {child : String}

/-! ### Names that a step can have -/

/-- Whether a piece of a path leads to the entry of a directory that has it for a name. -/
def IsEntry (name : List Char) : Prop :=
  '/' ∉ name ∧ isFiller name = false ∧ name ≠ ['.', '.']

/-- What ends in another sign than a dot leads neither nowhere nor up. -/
theorem isEntry_of_getLast? {c : Char} (hslash : '/' ∉ name) (hlast : name.getLast? = some c)
    (hdot : c ≠ '.') : IsEntry name := by
  have hdots : ∀ dots, (∀ d ∈ dots, d = '.') → name ≠ dots := by
    intro dots hall heq
    rw [heq] at hlast
    exact hdot (hall c (List.mem_of_getLast? hlast))
  refine ⟨hslash, ?_, hdots ['.', '.'] (by simp)⟩
  rw [isFiller, Bool.or_eq_false_iff, beq_eq_false_iff_ne, beq_eq_false_iff_ne]
  exact ⟨hdots [] (by simp), hdots ['.'] (by simp)⟩

/-- A step by a name is a step by one that a directory can hold: pieces that stay or lead up are
other steps. -/
theorem isEntry_of_mem (h : .name name ∈ p.components) : IsEntry name := by
  rw [components_eq, List.mem_append] at h
  rcases h with hlead | hsteps
  · unfold leadSteps at hlead
    split at hlead
    · cases List.mem_singleton.1 hlead
    · split at hlead
      · cases List.mem_singleton.1 hlead
      · cases hlead
  · obtain ⟨piece, hpiece, hstep⟩ := List.mem_map.1 hsteps
    obtain ⟨hmem, hfiller⟩ := List.mem_filter.1 hpiece
    unfold stepOf at hstep
    split at hstep
    next => cases hstep
    next hup =>
      obtain rfl := Component.name.inj hstep
      exact ⟨Text.notMem_of_mem_pieces hmem, by simpa using hfiller, hup⟩

/-- A path has a file name if its last step is by a name. -/
theorem fileName?_eq_some_iff : p.fileName? = some name ↔ p.components.getLast? = some (.name name) := by
  unfold fileName?
  split
  next other hlast =>
    rw [hlast, Option.some_inj, Option.some_inj, Component.name.injEq]
  next hother =>
    refine iff_of_false nofun fun hlast => hother name hlast

theorem isEntry_of_fileName? (h : p.fileName? = some name) : IsEntry name :=
  isEntry_of_mem (List.mem_of_getLast? (fileName?_eq_some_iff.1 h))

/-- Only the steps count. -/
theorem fileName?_congr {q : Path} (h : p.components = q.components) : p.fileName? = q.fileName? := by
  unfold fileName?
  rw [h]

theorem IsEntry.steps_eq (h : IsEntry name) : steps name = [.name name] := by
  unfold steps
  rw [Text.pieces_of_notMem h.1, List.filter_singleton, h.2.1]
  exact congrArg (fun step => [step]) (if_neg h.2.2)

/-- The name behind the last slash is that of the file. -/
theorem fileName?_of_append (h : IsEntry name) (htext : p.text.toList = front ++ '/' :: name) :
    p.fileName? = some name := by
  rw [fileName?_eq_some_iff, components_eq, htext, steps_append, h.steps_eq, ← List.append_assoc,
    List.getLast?_concat]

/-! ### Paths behind others -/

/-- What is put behind a path is never lost, so the result is not empty. -/
theorem join_ne_nil (h : child.toList ≠ []) : (base / child).text.toList ≠ [] := by
  show (base.join child).text.toList ≠ []
  unfold join
  split
  · exact h
  · split
    · rw [String.toList_append]
      exact List.append_ne_nil_of_right_ne_nil _ h
    · rw [String.toList_append]
      exact List.append_ne_nil_of_right_ne_nil _ h

/-- A path that does not start at the root is put behind a slash, which the base may end with
already. -/
theorem exists_join_eq (hbase : base.text.toList ≠ []) (hchild : child.toList.head? ≠ some '/') :
    ∃ front, (base / child).text.toList = front ++ '/' :: child.toList := by
  show ∃ front, (base.join child).text.toList = _
  unfold join
  rw [if_neg hchild]
  split
  next hends =>
    -- the base ends with the slash already
    have hslash := hends.resolve_left fun hnone => hbase (List.getLast?_eq_none_iff.1 hnone)
    obtain ⟨front, hfront⟩ := List.getLast?_eq_some_iff.1 hslash
    refine ⟨front, ?_⟩
    rw [String.toList_append, hfront, List.append_assoc]
    rfl
  next =>
    refine ⟨base.text.toList, ?_⟩
    rw [String.toList_append, String.toList_append, List.append_assoc]
    rfl

/-! ### Spellings -/

/-- The spelling of a path is its text: cutting into pieces and putting a slash between them gives
the text back, for each form that a path can start with. -/
theorem toPath_spelling (p : Path) : p.spelling.toPath = p := by
  have htext : ∀ s : Spelling, s.lead ++ Text.joinPieces '/' s.body = p.text.toList →
      s.toPath = p := by
    intro s hs
    unfold Spelling.toPath
    rw [hs, String.ofList_toList]
  refine htext _ ?_
  unfold spelling
  generalize p.text.toList = cs
  split
  next rest => exact congrArg ('/' :: ·) (Text.join_pieces '/' rest)
  next => rfl
  next rest =>
    have hjoin := Text.join_pieces '/' ('/' :: rest)
    exact congrArg ('.' :: ·) hjoin
  next => exact Text.join_pieces '/' cs

/-- The name behind the last slash is the last piece, whatever the path starts with. -/
theorem exists_body_eq (hname : '/' ∉ name) (htext : p.text.toList = front ++ '/' :: name) :
    ∃ pieces, p.spelling.body = pieces ++ [name] := by
  rw [← List.getLast?_eq_some_iff]
  have hbehind : ∀ cs ds, (Text.pieces '/' (cs ++ '/' :: ds)).getLast? =
      (Text.pieces '/' ds).getLast? := by
    intro cs ds
    rw [Text.pieces_append, List.getLast?_append_of_ne_nil _ (Text.pieces_ne_nil '/' ds)]
  have hlast : (Text.pieces '/' p.text.toList).getLast? = some name := by
    rw [htext, hbehind, Text.pieces_of_notMem hname]
    rfl
  have hslash : '/' ∈ p.text.toList := by
    rw [htext]
    exact List.mem_append_right _ (List.mem_cons_self ..)
  unfold spelling
  generalize p.text.toList = cs at hlast hslash
  -- how a path starts may take the first slash, but what stands behind the last one is a piece in
  -- all four forms
  split
  next rest => exact (hbehind [] rest).symm.trans hlast
  next => exact absurd hslash (by decide)
  next rest => exact (hbehind [] rest).trans ((hbehind ['.'] rest).symm.trans hlast)
  next => exact hlast

/-! ### Paths without their first steps -/

variable {pieces more : List (List Char)} {count : Nat}

/-- The number of steps that pieces take. -/
def stepCount (pieces : List (List Char)) : Nat :=
  (pieces.filter fun piece => !isFiller piece).length

theorem length_components (p : Path) :
    p.components.length = (leadSteps p.spelling.lead).length + stepCount p.spelling.body := by
  unfold components stepCount
  rw [List.length_append, List.length_map]

theorem stepCount_append (pieces more : List (List Char)) :
    stepCount (pieces ++ more) = stepCount pieces + stepCount more := by
  unfold stepCount
  rw [List.filter_append, List.length_append]

theorem stepCount_of_filler {piece : List Char} (h : isFiller piece = true)
    (pieces : List (List Char)) : stepCount (piece :: pieces) = stepCount pieces := by
  unfold stepCount
  rw [List.filter_cons, h]
  rfl

theorem stepCount_of_step {piece : List Char} (h : isFiller piece = false)
    (pieces : List (List Char)) : stepCount (piece :: pieces) = stepCount pieces + 1 := by
  unfold stepCount
  rw [List.filter_cons, h]
  rfl

/-- Steps that pieces can take are not taken from what follows them. -/
theorem dropSteps_append (h : count ≤ stepCount pieces) :
    dropSteps count (pieces ++ more) = dropSteps count pieces ++ more := by
  induction pieces generalizing count with
  | nil => rw [Nat.le_zero.1 h, dropSteps, dropSteps]
  | cons piece pieces ih =>
    cases count with
    | zero => rfl
    | succ count =>
      rw [List.cons_append, dropSteps, dropSteps]
      cases hfiller : isFiller piece with
      | true =>
        rw [stepCount_of_filler hfiller] at h
        exact ih h
      | false =>
        rw [stepCount_of_step hfiller] at h
        exact ih (Nat.le_of_succ_le_succ h)

/-- Further steps are taken from what follows. -/
theorem dropSteps_append_add (pieces more : List (List Char)) (count : Nat) :
    dropSteps (stepCount pieces + (count + 1)) (pieces ++ more) = dropSteps (count + 1) more := by
  induction pieces with
  | nil => exact congrArg (dropSteps · more) (Nat.zero_add _)
  | cons piece pieces ih =>
    cases hfiller : isFiller piece with
    | true =>
      rw [stepCount_of_filler hfiller, List.cons_append, ← Nat.add_assoc, dropSteps, if_pos hfiller]
      exact ih
    | false =>
      rw [stepCount_of_step hfiller, Nat.add_right_comm, List.cons_append, dropSteps, hfiller]
      exact ih

/-- Pieces that take no step are dropped in front, but never the name at the end. -/
theorem dropWhile_isFiller_append (h : isFiller name = false) (pieces : List (List Char)) :
    ∃ rest, (pieces ++ [name]).dropWhile isFiller = rest ++ [name] := by
  induction pieces with
  | nil =>
    refine ⟨[], ?_⟩
    rw [List.nil_append, List.dropWhile_cons, h]
    rfl
  | cons piece pieces ih =>
    rw [List.cons_append, List.dropWhile_cons]
    split
    next => exact ih
    next => exact ⟨piece :: pieces, rfl⟩

/-- With a name at the end there is nothing to trim there. -/
theorem trimBody_append (h : isFiller name = false) (pieces : List (List Char)) :
    trimBody (pieces ++ [name]) = pieces ++ [name] := by
  unfold trimBody
  rw [List.reverse_append, List.reverse_singleton, List.singleton_append, List.dropWhile_cons, h]
  simp

/-- What is left when the last piece is not reached. -/
theorem exists_dropSteps_eq (h : isFiller name = false) (hcount : count ≤ stepCount pieces) :
    ∃ rest, trimBody ((dropSteps count (pieces ++ [name])).dropWhile isFiller) = rest ++ [name] := by
  obtain ⟨rest, hrest⟩ := dropWhile_isFiller_append h (dropSteps count pieces)
  refine ⟨rest, ?_⟩
  rw [dropSteps_append hcount, hrest, trimBody_append h]

/-- Nothing is left when the last piece takes the last step. -/
theorem dropSteps_eq_nil (h : isFiller name = false) (pieces : List (List Char)) :
    dropSteps (stepCount pieces + 1) (pieces ++ [name]) = [] := by
  rw [dropSteps_append_add pieces [name] 0, dropSteps, h]
  rfl

/-- Behind a slash the last piece follows a slash, whether there are others or not. -/
theorem text_toPath_append (pieces : List (List Char)) (name : List Char) :
    '/' :: (Spelling.toPath ⟨[], pieces ++ [name]⟩).text.toList =
      Text.joinPieces '/' ([] :: pieces) ++ '/' :: name := by
  rw [← Text.join_append_singleton (List.cons_ne_nil [] pieces), List.cons_append,
    Text.join_nil_cons (List.append_ne_nil_of_right_ne_nil _ (List.cons_ne_nil name []))]
  exact congrArg ('/' :: ·) String.toList_ofList

/-- What is left of a path without its first steps has the same name behind its last slash, unless
nothing is left. -/
theorem text_after {relative : Path} (h : IsEntry name)
    (htext : p.text.toList = front ++ '/' :: name) (hafter : p.after? base = some relative) :
    (base.components = p.components ∧ relative = ⟨""⟩) ∨
      ∃ front, '/' :: relative.text.toList = front ++ '/' :: name := by
  obtain ⟨pieces, hbody⟩ := exists_body_eq h.1 htext
  unfold after? at hafter
  split at hafter
  next hprefix =>
    have hprefix := List.isPrefixOf_iff_prefix.1 hprefix
    split at hafter
    next =>
      -- no step is taken off
      obtain rfl := Option.some.inj hafter
      rw [hbody, trimBody_append h.2.1, ← hbody, toPath_spelling]
      exact .inr ⟨'/' :: front, congrArg ('/' :: ·) htext⟩
    next =>
      -- the start of the path takes the first step, if it takes one, and the pieces take the others
      obtain rfl := Option.some.inj hafter
      have hone : stepCount [name] = 1 := stepCount_of_step h.2.1 []
      have hlength := length_components p
      rw [hbody, stepCount_append, hone] at hlength
      rw [hbody]
      rcases Nat.lt_or_ge base.components.length p.components.length with hlt | hge
      · have hcount : base.components.length - (leadSteps p.spelling.lead).length ≤
            stepCount pieces := by omega
        obtain ⟨rest, hrest⟩ := exists_dropSteps_eq h.2.1 hcount
        rw [hrest]
        exact .inr ⟨_, text_toPath_append rest name⟩
      · have hsame := hprefix.eq_of_length_le hge
        have hcount : base.components.length - (leadSteps p.spelling.lead).length =
            stepCount pieces + 1 := by
          rw [hsame]
          omega
        refine .inl ⟨hsame, ?_⟩
        rw [hcount, dropSteps_eq_nil h.2.1]
        rfl
  next => cases hafter

end Path

end BuildSettings
