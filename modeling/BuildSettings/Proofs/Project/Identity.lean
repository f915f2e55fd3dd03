import BuildSettings.TargetId

/-!
# Written forms of identities

A recorded file index is keyed by the written forms of targets, so a written form has to be read as
the target it was written for. The path in it may hold slashes, and a scheme of its own: one scheme
is written in front of it and one is taken off, and the last slash is the one that was written as
long as the name has none. Of an identity that was read both are known, so whatever was read is
written to a text that is read as the same.
-/

namespace BuildSettings.TargetId

variable {id : TargetId} {s : String}

/-- The scheme that was written is taken off, and no more than that. -/
theorem body_toText (id : TargetId) :
    body id.toText.toList = id.project.toList ++ '/' :: id.name.toList := by
  have htext : id.toText.toList =
      scheme.toList ++ (id.project.toList ++ '/' :: id.name.toList) := by
    simp [toText]
  rw [htext, body, Text.afterStart?, if_pos (List.isPrefixOf_iff_prefix.2 (List.prefix_append _ _)),
    List.drop_left, Option.getD_some]

/-- What is read are the parts of the body around its last slash, if neither is empty. So the name
of the target has no slash, and the path of the project may have some. -/
theorem ofText?_eq_some_iff : ofText? s = some id ↔
    Text.cutLast? '/' (body s.toList) = some (id.project.toList, id.name.toList) ∧
      id.project ≠ "" ∧ id.name ≠ "" := by
  unfold ofText?
  constructor
  · intro h
    split at h
    next project name hcut =>
      by_cases hempty : (project.isEmpty || name.isEmpty) = true
      · rw [if_pos hempty] at h
        cases h
      · rw [if_neg hempty] at h
        obtain rfl := Option.some.inj h
        obtain ⟨hproject, hname⟩ : project ≠ [] ∧ name ≠ [] := by simpa using hempty
        exact ⟨by simpa using hcut, by simpa using hproject, by simpa using hname⟩
    next => cases h
  · rintro ⟨hcut, hproject, hname⟩
    simp [hcut, hproject, hname]

/-- No slash is in a name that was read. -/
theorem slash_notMem_name (h : ofText? s = some id) : '/' ∉ id.name.toList :=
  Text.notMem_of_cutLast? (ofText?_eq_some_iff.1 h).1

/-- What is written for a target is read back exactly if both parts are there and the name has no
slash. -/
theorem ofText?_toText_iff (id : TargetId) : ofText? id.toText = some id ↔
    id.project ≠ "" ∧ id.name ≠ "" ∧ '/' ∉ id.name.toList := by
  constructor
  · intro h
    obtain ⟨-, hproject, hname⟩ := ofText?_eq_some_iff.1 h
    exact ⟨hproject, hname, slash_notMem_name h⟩
  · rintro ⟨hproject, hname, hslash⟩
    refine ofText?_eq_some_iff.2 ⟨?_, hproject, hname⟩
    rw [body_toText]
    exact Text.cutLast?_append hslash _

/-- **Identities are restored**: the written form of an identity is read as that identity exactly if
neither part is empty and no slash is in the name. So each identity that was read, from whatever
text, is restored from its written form, and that form is written again. -/
theorem restored_toText (id : TargetId) :
    (ofText? id.toText = some id ↔ id.project ≠ "" ∧ id.name ≠ "" ∧ '/' ∉ id.name.toList) ∧
    ∀ s, ofText? s = some id →
      ofText? id.toText = some id ∧ (ofText? id.toText).map toText = some id.toText := by
  refine ⟨ofText?_toText_iff id, fun s h => ?_⟩
  obtain ⟨-, hproject, hname⟩ := ofText?_eq_some_iff.1 h
  have hback : ofText? id.toText = some id :=
    (ofText?_toText_iff id).2 ⟨hproject, hname, slash_notMem_name h⟩
  exact ⟨hback, congrArg (Option.map toText) hback⟩

theorem restored_toText_scheme_twice :
    ofText? "xcode://xcode:///p/App.xcodeproj/App" = some ⟨"xcode:///p/App.xcodeproj", "App"⟩ ∧
    ofText? (toText ⟨"xcode:///p/App.xcodeproj", "App"⟩) =
      some ⟨"xcode:///p/App.xcodeproj", "App"⟩ := by
  have hread : ofText? "xcode://xcode:///p/App.xcodeproj/App" =
      some ⟨"xcode:///p/App.xcodeproj", "App"⟩ := by decide
  exact ⟨hread, ((restored_toText _).2 _ hread).1⟩

end BuildSettings.TargetId
