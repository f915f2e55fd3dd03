/-!
# Blank characters

The blank characters are those of the Unicode property `White_Space`. Trimming removes them at
both ends of a text; a text of blanks only counts as having no content.
-/

namespace BuildSettings.Text

/-- The property `White_Space`: 25 characters. -/
def isBlank (c : Char) : Bool :=
  let n := c.toNat
  (9 ≤ n && n ≤ 13) || n == 32 || n == 0x85 || n == 0xA0 || n == 0x1680 ||
    (0x2000 ≤ n && n ≤ 0x200A) || n == 0x2028 || n == 0x2029 || n == 0x202F || n == 0x205F ||
    n == 0x3000

/-- Without the blanks at the end. -/
def trimEnd (cs : List Char) : List Char :=
  (cs.reverse.dropWhile isBlank).reverse

/-- Without the blanks at either end. -/
def trimChars (cs : List Char) : List Char :=
  trimEnd (cs.dropWhile isBlank)

/-- Without the blanks at either end. -/
def trim (s : String) : String :=
  String.ofList (trimChars s.toList)

/-- Whether a text has no character but blanks. -/
def isBlankText (s : String) : Bool :=
  s.toList.all isBlank

theorem isBlank_of_isWhitespace {c : Char} (h : c.isWhitespace = true) : isBlank c = true := by
  simp only [Char.isWhitespace, Bool.or_eq_true, decide_eq_true_eq] at h
  rcases h with ((h | h) | h) | h <;> subst h <;> decide

@[simp] theorem toList_trim (s : String) : (trim s).toList = trimChars s.toList := by
  simp [trim]

/-! ### Blanks at the ends -/

theorem dropWhile_isBlank_of_all {b : List Char} (h : ∀ c ∈ b, isBlank c = true) (cs : List Char) :
    (b ++ cs).dropWhile isBlank = cs.dropWhile isBlank :=
  List.dropWhile_append_of_pos h

theorem trimEnd_append_blank {b : List Char} (h : ∀ c ∈ b, isBlank c = true) (cs : List Char) :
    trimEnd (cs ++ b) = trimEnd cs := by
  have hb : ∀ c ∈ b.reverse, isBlank c = true := fun c hc => h c (List.mem_reverse.1 hc)
  rw [trimEnd, List.reverse_append, dropWhile_isBlank_of_all hb, trimEnd]

/-- Blanks before and behind a text do not count. -/
theorem trimChars_of_blank_ends {b e : List Char} (hb : ∀ c ∈ b, isBlank c = true)
    (he : ∀ c ∈ e, isBlank c = true) (cs : List Char) :
    trimChars (b ++ cs ++ e) = trimChars cs := by
  rw [List.append_assoc, trimChars, dropWhile_isBlank_of_all hb, List.dropWhile_append, trimChars]
  split
  next hempty =>
    have hnil := List.isEmpty_iff.1 hempty
    have hends := dropWhile_isBlank_of_all he []
    rw [List.append_nil] at hends
    rw [hends, hnil]
    rfl
  next => exact trimEnd_append_blank he _

theorem dropWhile_isBlank_of_forall {cs : List Char} (h : ∀ c ∈ cs, isBlank c = false) :
    cs.dropWhile isBlank = cs := by
  cases cs with
  | nil => rfl
  | cons c cs => rw [List.dropWhile_cons, h c (List.mem_cons_self ..), if_neg Bool.false_ne_true]

/-- Nothing is left of a blank text. -/
theorem trimChars_of_all {cs : List Char} (h : ∀ c ∈ cs, isBlank c = true) : trimChars cs = [] := by
  have hdrop := dropWhile_isBlank_of_all h []
  rw [List.append_nil] at hdrop
  rw [trimChars, hdrop]
  rfl

/-- What is dropped at both ends of a list has the property. -/
theorem exists_dropped_ends {α : Type} (p : α → Bool) (l : List α) :
    ∃ front back, l = front ++ ((l.dropWhile p).reverse.dropWhile p).reverse ++ back ∧
      (∀ a ∈ front, p a = true) ∧ ∀ a ∈ back, p a = true := by
  have hall : ∀ l : List α, ∀ a ∈ l.takeWhile p, p a = true :=
    fun l a ha => List.all_eq_true.1 List.all_takeWhile a ha
  let rest := l.dropWhile p
  refine ⟨l.takeWhile p, (rest.reverse.takeWhile p).reverse, ?_, hall l,
    fun a ha => hall _ a (List.mem_reverse.1 ha)⟩
  have hback : (rest.reverse.dropWhile p).reverse ++ (rest.reverse.takeWhile p).reverse = rest := by
    rw [← List.reverse_append, List.takeWhile_append_dropWhile, List.reverse_reverse]
  rw [List.append_assoc, hback, List.takeWhile_append_dropWhile]

/-- Trimming takes blanks at the ends only. -/
theorem exists_blanks_trimChars (cs : List Char) :
    ∃ b e, cs = b ++ trimChars cs ++ e ∧ (∀ c ∈ b, isBlank c = true) ∧
      ∀ c ∈ e, isBlank c = true :=
  exists_dropped_ends isBlank cs

theorem trimChars_trimChars (cs : List Char) : trimChars (trimChars cs) = trimChars cs := by
  obtain ⟨b, e, hsplit, hb, he⟩ := exists_blanks_trimChars cs
  have hrest := trimChars_of_blank_ends hb he (trimChars cs)
  rw [← hsplit] at hrest
  exact hrest.symm

/-- A text without blanks is not trimmed. -/
theorem trimChars_of_forall {cs : List Char} (h : ∀ c ∈ cs, isBlank c = false) :
    trimChars cs = cs := by
  have hreverse := dropWhile_isBlank_of_forall fun c hc => h c (List.mem_reverse.1 hc)
  rw [trimChars, dropWhile_isBlank_of_forall h, trimEnd, hreverse, List.reverse_reverse]

theorem mem_of_mem_trimChars {cs : List Char} {c : Char} (h : c ∈ trimChars cs) : c ∈ cs := by
  have hdropped := List.mem_reverse.1 ((List.dropWhile_sublist _).mem (List.mem_reverse.1 h))
  exact (List.dropWhile_sublist _).mem hdropped

/-- Characters that are not dropped stay. -/
theorem mem_dropWhile {p : Char → Bool} {cs : List Char} {c : Char} (h : c ∈ cs)
    (hc : p c = false) : c ∈ cs.dropWhile p := by
  rw [← List.takeWhile_append_dropWhile (p := p) (l := cs), List.mem_append] at h
  rcases h with hfront | hrest
  · rw [List.all_eq_true.1 List.all_takeWhile c hfront] at hc
    cases hc
  · exact hrest

theorem mem_dropEndWhile {p : Char → Bool} {cs : List Char} {c : Char} (h : c ∈ cs)
    (hc : p c = false) : c ∈ (cs.reverse.dropWhile p).reverse :=
  List.mem_reverse.2 (mem_dropWhile (List.mem_reverse.2 h) hc)

/-- Trimming takes blanks only. -/
theorem mem_trimChars {cs : List Char} {c : Char} (h : c ∈ cs) (hc : isBlank c = false) :
    c ∈ trimChars cs :=
  mem_dropEndWhile (mem_dropWhile h hc) hc

/-- What stands between two characters that are not blank stays. -/
theorem mem_trimChars_between {front back : List Char} (hfront : ∃ a ∈ front, isBlank a = false)
    (hback : ∃ a ∈ back, isBlank a = false) (c : Char) : c ∈ trimChars (front ++ c :: back) := by
  have hkept : ∀ l : List Char, (∃ a ∈ l, isBlank a = false) →
      (l.dropWhile isBlank).isEmpty = false := by
    rintro l ⟨a, ha, hblank⟩
    rw [List.isEmpty_eq_false_iff_exists_mem]
    exact ⟨a, mem_dropWhile ha hblank⟩
  have hreverse : ∃ a ∈ back.reverse, isBlank a = false := by
    obtain ⟨a, ha, hblank⟩ := hback
    exact ⟨a, List.mem_reverse.2 ha, hblank⟩
  rw [trimChars, List.dropWhile_append, if_neg (by rw [hkept front hfront]; decide), trimEnd,
    List.reverse_append, List.reverse_cons, List.append_assoc, List.dropWhile_append,
    if_neg (by rw [hkept back.reverse hreverse]; decide)]
  simp

end BuildSettings.Text
