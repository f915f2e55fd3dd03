import BuildSettings.Text.TokenList

/-!
# Tokens of lists that are put together

A quote that is left open takes in all that follows, so the tokens of a text say little about what
becomes of them when more is written behind it. What has to be known is whether the text leaves a
quote open, and only the parity of its quotes decides that: `tokensFrom_append_blank` carries it
along the characters, for a text that is read with or without an open quote.

* `splitList_append_blank` — a text without open quotes, a blank and another text have the tokens
  of both.
* `splitList_trim` — blanks at the ends of such a text do not count.
* `mem_of_mem_tokensFrom`, `ne_empty_of_mem_splitList` — tokens are cut out of the text, and none
  is empty.
-/

namespace BuildSettings.Text

/-- The quotes of a text are closed. -/
def Balanced (s : String) : Prop :=
  s.toList.count '"' % 2 = 0

instance (s : String) : Decidable (Balanced s) :=
  inferInstanceAs (Decidable (_ = _))

/-- Closing a token does not touch what follows. -/
theorem closeToken_append (current : List Char) (rest more : List (List Char)) :
    closeToken current (rest ++ more) = closeToken current rest ++ more := by
  unfold closeToken
  split <;> rfl

theorem ne_quote_of_isBlank {c : Char} (hc : isBlank c = true) : c ≠ '"' := by
  rintro rfl
  exact absurd hc (by decide)

/-- Where no quote is open any more, a blank ends a token, and the rest is read by itself. Whether a
quote is open is the parity of the quotes so far. -/
theorem tokensFrom_append_blank {c : Char} (hc : isBlank c = true) {quoting : Bool}
    {cs : List Char} (h : cs.count '"' % 2 = quoting.toNat) (current rest : List Char) :
    tokensFrom quoting current (cs ++ c :: rest) =
      tokensFrom quoting current cs ++ tokensFrom false [] rest := by
  induction cs generalizing quoting current with
  | nil =>
    cases quoting with
    | false =>
      have hread : tokensFrom false current (c :: rest) =
          closeToken current (tokensFrom false [] rest) := by
        rw [tokensFrom, if_neg (ne_quote_of_isBlank hc), if_pos (by simp [hc])]
      rw [List.nil_append, hread]
      exact closeToken_append current [] _
    | true => cases h
  | cons d cs ih =>
    rw [List.cons_append, tokensFrom, tokensFrom]
    by_cases hd : d = '"'
    · -- the quote opens or closes, and the parity changes with it
      rw [if_pos hd, if_pos hd]
      refine ih ?_ current
      rw [hd, List.count_cons_self] at h
      cases quoting with
      | false =>
        simp only [Bool.toNat_false, Bool.not_false, Bool.toNat_true] at h ⊢
        omega
      | true =>
        simp only [Bool.toNat_true, Bool.not_true, Bool.toNat_false] at h ⊢
        omega
    · rw [if_neg hd, if_neg hd]
      rw [List.count_cons_of_ne hd] at h
      split
      next hblank =>
        obtain ⟨-, hquoting⟩ := Bool.and_eq_true_iff.1 hblank
        obtain rfl : quoting = false := by simpa using hquoting
        rw [ih h, closeToken_append]
      next => exact ih h _

/-- Blanks outside of quotes close no token when there is none. -/
theorem tokensFrom_of_blanks {b : List Char} (hb : ∀ c ∈ b, isBlank c = true) (cs : List Char) :
    tokensFrom false [] (b ++ cs) = tokensFrom false [] cs := by
  induction b with
  | nil => rfl
  | cons c b ih =>
    have hstart : tokensFrom false [] ([] ++ c :: (b ++ cs)) =
        tokensFrom false [] [] ++ tokensFrom false [] (b ++ cs) :=
      tokensFrom_append_blank (hb c (List.mem_cons_self ..)) rfl [] (b ++ cs)
    rw [List.cons_append]
    exact hstart.trans (ih fun d hd => hb d (List.mem_cons_of_mem _ hd))

/-! ### Whole texts -/

/-- A blank between two texts separates their tokens, unless it stands inside quotes that the first
text leaves open. -/
theorem splitList_append_blank {s : String} (h : Balanced s) (t : String) :
    splitList (s ++ " " ++ t) = splitList s ++ splitList t := by
  have hblank : isBlank ' ' = true := by decide
  have hparity : s.toList.count '"' % 2 = false.toNat := h
  have htokens := tokensFrom_append_blank hblank hparity [] t.toList
  rw [splitList, splitList, splitList, ← List.map_append, ← htokens, String.append_assoc,
    String.toList_append, String.toList_append]
  rfl

theorem count_quote_of_blanks {b : List Char} (hb : ∀ c ∈ b, isBlank c = true) :
    b.count '"' = 0 :=
  List.count_eq_zero.2 fun hmem => ne_quote_of_isBlank (hb _ hmem) rfl

/-- Trimming takes blanks and no quotes, so it neither opens nor closes any. -/
theorem balanced_trim_iff {s : String} : Balanced (trim s) ↔ Balanced s := by
  obtain ⟨b, e, hsplit, hb, he⟩ := exists_blanks_trimChars s.toList
  have hcount : s.toList.count '"' = (trimChars s.toList).count '"' := by
    conv => lhs; rw [hsplit]
    rw [List.count_append, List.count_append, count_quote_of_blanks hb, count_quote_of_blanks he,
      Nat.zero_add, Nat.add_zero]
  rw [Balanced, Balanced, toList_trim, hcount]

/-- Blanks at the ends belong to no token, provided that they do not stand inside quotes. -/
theorem splitList_trim {s : String} (h : Balanced s) : splitList (trim s) = splitList s := by
  obtain ⟨b, e, hsplit, hb, he⟩ := exists_blanks_trimChars s.toList
  have hend : tokensFrom false [] (trimChars s.toList ++ e) =
      tokensFrom false [] (trimChars s.toList) := by
    cases e with
    | nil => rw [List.append_nil]
    | cons c e =>
      have hclosed := balanced_trim_iff.2 h
      rw [Balanced, toList_trim] at hclosed
      have hnone : tokensFrom false [] e = [] := by
        have hblanks := tokensFrom_of_blanks (fun d hd => he d (List.mem_cons_of_mem _ hd)) []
        rw [List.append_nil] at hblanks
        exact hblanks
      -- the text in front of the blanks has closed its quotes, so they end a token
      rw [tokensFrom_append_blank (he c (List.mem_cons_self ..)) hclosed, hnone, List.append_nil]
  rw [splitList, splitList, toList_trim]
  conv => rhs; rw [hsplit, List.append_assoc, tokensFrom_of_blanks hb, hend]

/-! ### Tokens -/

/-- A token is closed only if it has a character. -/
theorem mem_closeToken {current token : List Char} {rest : List (List Char)} :
    token ∈ closeToken current rest ↔ (token = current.reverse ∧ current ≠ []) ∨ token ∈ rest := by
  unfold closeToken
  cases current with
  | nil => simp
  | cons c current => simp

/-- The tokens of a list are cut out of it: each of their characters is one of the list. -/
theorem mem_of_mem_tokensFrom {quoting : Bool} {current cs token : List Char} {c : Char}
    (htoken : token ∈ tokensFrom quoting current cs) (hc : c ∈ token) : c ∈ current ∨ c ∈ cs := by
  fun_induction tokensFrom quoting current cs with
  | case1 quoting current =>
    rcases mem_closeToken.1 htoken with ⟨rfl, -⟩ | hnil
    · exact .inl (List.mem_reverse.1 hc)
    · cases hnil
  | case2 quoting current cs ih =>
    -- quotes are dropped
    exact (ih htoken).imp_right (List.mem_cons_of_mem _)
  | case3 quoting current d cs hd hblank ih =>
    -- a blank ends the token
    rcases mem_closeToken.1 htoken with ⟨rfl, -⟩ | hrest
    · exact .inl (List.mem_reverse.1 hc)
    · rcases ih hrest with hnil | hmem
      · cases hnil
      · exact .inr (List.mem_cons_of_mem _ hmem)
  | case4 quoting current d cs hd hblank ih =>
    rcases ih htoken with hcurrent | hmem
    · rcases List.mem_cons.1 hcurrent with rfl | hcurrent
      · exact .inr (List.mem_cons_self ..)
      · exact .inl hcurrent
    · exact .inr (List.mem_cons_of_mem _ hmem)

/-- There are no empty tokens. -/
theorem ne_nil_of_mem_tokensFrom {quoting : Bool} {current cs token : List Char}
    (htoken : token ∈ tokensFrom quoting current cs) : token ≠ [] := by
  fun_induction tokensFrom quoting current cs with
  | case1 quoting current =>
    rcases mem_closeToken.1 htoken with ⟨rfl, hne⟩ | hnil
    · exact mt List.reverse_eq_nil_iff.1 hne
    · cases hnil
  | case2 quoting current cs ih => exact ih htoken
  | case3 quoting current d cs hd hblank ih =>
    rcases mem_closeToken.1 htoken with ⟨rfl, hne⟩ | hrest
    · exact mt List.reverse_eq_nil_iff.1 hne
    · exact ih hrest
  | case4 quoting current d cs hd hblank ih => exact ih htoken

/-- So there are no empty tokens, not even for a pair of quotes with nothing inside. -/
theorem ne_empty_of_mem_splitList {s token : String} (h : token ∈ splitList s) : token ≠ "" := by
  obtain ⟨cs, hcs, rfl⟩ := List.mem_map.1 h
  intro hempty
  exact ne_nil_of_mem_tokensFrom hcs (String.ofList_eq_empty_iff.1 hempty)

end BuildSettings.Text
