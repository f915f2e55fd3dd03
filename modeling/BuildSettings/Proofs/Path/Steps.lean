import BuildSettings.Path

/-!
# Steps of paths

What a path starts with takes at most one step, and all other steps are those of the pieces between
the slashes of its text. So the steps of a text with a slash in it are those before the slash and
those behind it (`steps_append`), and a path that is seen from another one takes the steps of both
(`components_join`). That does not hold of a path that starts at the root or with a `.`, which
takes a step at the start and nowhere else.
-/

namespace BuildSettings

/-- Whether the step leads to an entry of a directory. -/
def Component.isName : Component → Bool
  | .name _ => true
  | _ => false

namespace Path

/-- The steps of the pieces of a text. -/
def steps (cs : List Char) : List Component :=
  ((Text.pieces '/' cs).filter fun piece => !isFiller piece).map stepOf

/-- What the text of a path starts with. -/
def leadOf (cs : List Char) : List Char :=
  if cs.head? = some '/' then ['/']
  else if cs.head? = some '.' ∧ cs.tail.head?.all (· == '/') then ['.']
  else []

/-- What a path starts with, read off its text. The spelling takes the first piece apart to tell the
four forms; here the first two characters do. -/
theorem lead_spelling (p : Path) : p.spelling.lead = leadOf p.text.toList := by
  unfold spelling
  generalize p.text.toList = cs
  split
  next => rfl
  next => rfl
  next => rfl
  next hroot hhere hbelow =>
    unfold leadOf
    cases cs with
    | nil => rfl
    | cons c cs =>
      have hslash : (c :: cs).head? ≠ some '/' := by
        intro hc
        exact hroot cs (congrArg (· :: cs) (Option.some.inj hc))
      rw [if_neg hslash, if_neg]
      -- a dot that is all there is, or has a slash behind it, is another form
      rintro ⟨hc, hnext⟩
      obtain rfl : c = '.' := Option.some.inj hc
      cases cs with
      | nil => exact hhere rfl
      | cons d cs =>
        obtain rfl : d = '/' := eq_of_beq hnext
        exact hbelow cs rfl

/-- The steps of a path are the step of its start and those of its pieces. A start that takes a step
of its own is a piece that takes none, so the pieces may be those of the whole text. -/
theorem components_eq (p : Path) :
    p.components = leadSteps (leadOf p.text.toList) ++ steps p.text.toList := by
  unfold components
  rw [lead_spelling]
  congr 1
  unfold spelling steps
  generalize p.text.toList = cs
  split
  next rest =>
    -- the empty piece in front of the slash takes no step
    show _ = List.map stepOf (List.filter _ (if '/' = '/' then [] :: Text.pieces '/' rest else _))
    rw [if_pos rfl]
    rfl
  next => rfl
  next rest =>
    rw [show Text.pieces '/' ('.' :: '/' :: rest) = ['.'] :: Text.pieces '/' rest from rfl]
    rfl
  next => rfl

/-- A slash ends a piece, so the steps before it and behind it do not touch each other. -/
theorem steps_append (cs ds : List Char) : steps (cs ++ '/' :: ds) = steps cs ++ steps ds := by
  unfold steps
  rw [Text.pieces_append, List.filter_append, List.map_append]

/-- What stands behind a slash does not count for the start, unless nothing stands before it. -/
theorem leadOf_append {cs : List Char} (h : cs ≠ []) (ds : List Char) :
    leadOf (cs ++ '/' :: ds) = leadOf cs := by
  match cs with
  | [] => exact absurd rfl h
  | [c] =>
    unfold leadOf
    rfl
  | c :: d :: cs => rfl

/-- What stands behind the slash at the end of a text does not count for its start. -/
theorem leadOf_append_of_slash (cs ds : List Char) :
    leadOf (cs ++ '/' :: ds) = leadOf (cs ++ ['/']) := by
  by_cases h : cs = []
  · rw [h]
    rfl
  · rw [leadOf_append h, leadOf_append h]

/-! ### Plain paths -/

/-- A path that leads through entries of directories alone. -/
def IsPlain (p : Path) : Prop :=
  ∀ c ∈ p.components, c.isName = true

instance (p : Path) : Decidable p.IsPlain :=
  inferInstanceAs (Decidable (∀ c ∈ _, _))

variable {p base : Path}

/-- A path of names only has no step at its start. -/
theorem IsPlain.leadSteps_eq_nil (h : p.IsPlain) : leadSteps (leadOf p.text.toList) = [] := by
  have hlead : ∀ c ∈ leadSteps (leadOf p.text.toList), c.isName = true := by
    intro c hc
    refine h c ?_
    rw [components_eq]
    exact List.mem_append_left _ hc
  unfold leadOf at hlead ⊢
  by_cases hroot : p.text.toList.head? = some '/'
  · rw [if_pos hroot] at hlead
    exact absurd (hlead .root (List.mem_singleton.2 rfl)) (by decide)
  rw [if_neg hroot] at hlead ⊢
  by_cases hhere : p.text.toList.head? = some '.' ∧ p.text.toList.tail.head?.all (· == '/')
  · rw [if_pos hhere] at hlead
    exact absurd (hlead .here (List.mem_singleton.2 rfl)) (by decide)
  · rw [if_neg hhere]
    rfl

/-- A path of entries alone has the steps of its pieces and none for its start. -/
theorem IsPlain.components_eq (h : p.IsPlain) : p.components = steps p.text.toList := by
  rw [Path.components_eq, h.leadSteps_eq_nil]
  rfl

theorem IsPlain.isAbsolute_eq_false (h : p.IsPlain) : p.isAbsolute = false := by
  unfold isAbsolute
  rw [beq_eq_false_iff_ne]
  intro hroot
  have hlead := h.leadSteps_eq_nil
  unfold leadOf at hlead
  rw [if_pos hroot] at hlead
  cases hlead

/-- A plain path takes its steps behind those of the path that it is seen from. Plain means that it
starts nowhere by itself. -/
theorem components_join {child : String} (h : IsPlain ⟨child⟩) :
    (base / child).components = base.components ++ components ⟨child⟩ := by
  have hrelative : child.toList.head? ≠ some '/' := by
    have hnot := h.isAbsolute_eq_false
    unfold isAbsolute at hnot
    exact beq_eq_false_iff_ne.1 hnot
  show (base.join child).components = _
  unfold join
  rw [if_neg hrelative]
  by_cases hempty : base.text.toList = []
  · -- the start of a path is no directory to see it from
    rw [if_pos (.inl (by rw [hempty]; rfl))]
    have hbase : base.text = "" := String.toList_inj.1 hempty
    rw [hbase, String.empty_append, components_eq base, hempty]
    rfl
  -- a slash is put between the two, unless the base ends with one
  by_cases hslash : base.text.toList.getLast? = some '/'
  · obtain ⟨front, hfront⟩ := List.getLast?_eq_some_iff.1 hslash
    have htext : (base.text ++ child).toList = front ++ '/' :: child.toList := by
      rw [String.toList_append, hfront, List.append_assoc]
      rfl
    have hsteps : steps (front ++ ['/']) = steps front := by
      rw [steps_append]
      exact List.append_nil _
    rw [if_pos (.inr hslash), components_eq ⟨base.text ++ child⟩, htext, leadOf_append_of_slash,
      steps_append, h.components_eq, components_eq base, hfront, hsteps, List.append_assoc]
  · have htext : (base.text ++ "/" ++ child).toList = base.text.toList ++ '/' :: child.toList := by
      rw [String.toList_append, String.toList_append, List.append_assoc]
      rfl
    have hnot : ¬ (base.text.toList.getLast? = none ∨ base.text.toList.getLast? = some '/') := by
      rintro (hnone | hlast)
      · exact hempty (List.getLast?_eq_none_iff.1 hnone)
      · exact hslash hlast
    rw [if_neg hnot, components_eq ⟨base.text ++ "/" ++ child⟩, htext, leadOf_append hempty,
      steps_append, h.components_eq, components_eq base, List.append_assoc]

end Path

end BuildSettings
