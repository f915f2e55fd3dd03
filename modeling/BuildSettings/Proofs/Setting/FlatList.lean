import BuildSettings.Proofs.Text.TokenList
import BuildSettings.Setting.Value
import Mathlib.Data.List.Basic

/-!
# Lists as one text

A list of texts becomes one text with a blank between its entries, and a list-valued setting is read
from one text token by token. If each entry closes its quotes, then the tokens of the whole are
those of the entries (`splitList_intercalate`). A token that has no quote is written in quotes, and
whatever blanks it has, it is read back (`splitList_inQuotes`); hence so is a list of such tokens.

* `tokensFrom_inQuotes` — in quotes all characters belong to the token.
* `splitList_flat` — what splitting makes of lists that were put together.
-/

namespace BuildSettings.Text

variable {token : String} {entries tokens : List String}

/-- The token in quotes. -/
def inQuotes (token : String) : String :=
  "\"" ++ token ++ "\""

theorem toList_inQuotes (token : String) :
    (inQuotes token).toList = '"' :: (token.toList ++ ['"']) := by
  simp [inQuotes]

/-- Behind an open quote all characters up to the next one are taken into the token, blanks
included. -/
theorem tokensFrom_inQuotes {cs : List Char} (h : '"' ∉ cs) (current rest : List Char) :
    tokensFrom true current (cs ++ '"' :: rest) = tokensFrom false (cs.reverse ++ current) rest := by
  induction cs generalizing current with
  | nil =>
    rw [List.nil_append, tokensFrom, if_pos rfl]
    rfl
  | cons c cs ih =>
    obtain ⟨hc, hcs⟩ := not_or.1 (mt List.mem_cons.2 h)
    have htake : tokensFrom true current (c :: (cs ++ '"' :: rest)) =
        tokensFrom true (c :: current) (cs ++ '"' :: rest) := by
      rw [tokensFrom, if_neg (Ne.symm hc), if_neg (by simp)]
    rw [List.cons_append, htake, ih hcs, List.reverse_cons, List.append_assoc]
    rfl

/-- A token in quotes is read back, with its blanks. -/
theorem splitList_inQuotes (hne : token ≠ "") (hquote : '"' ∉ token.toList) :
    splitList (inQuotes token) = [token] := by
  have hopen : tokensFrom false [] (inQuotes token).toList =
      tokensFrom true [] (token.toList ++ ['"']) := by
    rw [toList_inQuotes, tokensFrom, if_pos rfl]
    rfl
  have hchars : token.toList.reverse.isEmpty = false := by
    rw [List.isEmpty_reverse, List.isEmpty_eq_false_iff]
    exact fun hnil => hne (String.toList_eq_nil_iff.1 hnil)
  rw [splitList, hopen, tokensFrom_inQuotes hquote, List.append_nil, tokensFrom, closeToken, hchars]
  simp

/-- A token in quotes has two quotes more than it has itself. -/
theorem balanced_inQuotes (hquote : '"' ∉ token.toList) : Balanced (inQuotes token) := by
  rw [Balanced, toList_inQuotes, List.count_cons_self, List.count_append,
    List.count_eq_zero.2 hquote]
  rfl

/-- Entries that close their quotes are split one by one. -/
theorem splitList_intercalate (h : ∀ entry ∈ entries, Balanced entry) :
    splitList (" ".intercalate entries) = entries.flatMap splitList := by
  induction entries with
  | nil => rfl
  | cons entry entries ih =>
    obtain ⟨hentry, hentries⟩ := List.forall_mem_cons.1 h
    cases entries with
    | nil => simp
    | cons next entries =>
      rw [String.intercalate_cons_cons, splitList_append_blank hentry, ih hentries]
      exact List.flatMap_cons.symm

/-- Tokens are read back from their list in quotes. -/
theorem splitList_intercalate_inQuotes
    (h : ∀ token ∈ tokens, token ≠ "" ∧ '"' ∉ token.toList) :
    splitList (" ".intercalate (tokens.map inQuotes)) = tokens := by
  have hbalanced : ∀ entry ∈ tokens.map inQuotes, Balanced entry := by
    rintro _ hentry
    obtain ⟨token, htoken, rfl⟩ := List.mem_map.1 hentry
    exact balanced_inQuotes (h token htoken).2
  have hsingle : ∀ token ∈ tokens, splitList (inQuotes token) = [token] :=
    fun token htoken => splitList_inQuotes (h token htoken).1 (h token htoken).2
  rw [splitList_intercalate hbalanced, List.flatMap_map, List.flatMap_congr hsingle,
    List.flatMap_singleton']

end BuildSettings.Text

namespace BuildSettings

open Text

/-- **Splitting and joining**: a list whose entries close their quotes is split, as one text, into
the tokens of its entries; no token is empty; and a list of tokens that have no quotes themselves,
each of them in quotes, is split into these. -/
theorem SettingValue.splitList_flat :
    (∀ entries : List String, (∀ entry ∈ entries, Balanced entry) →
      splitList (SettingValue.list entries).flat = entries.flatMap splitList) ∧
    (∀ (s : String), ∀ token ∈ splitList s, token ≠ "") ∧
    ∀ tokens : List String, (∀ token ∈ tokens, token ≠ "" ∧ '"' ∉ token.toList) →
      splitList (SettingValue.list (tokens.map inQuotes)).flat = tokens :=
  ⟨fun _ => splitList_intercalate, fun _ _ => ne_empty_of_mem_splitList,
    fun _ => splitList_intercalate_inQuotes⟩

/-- Entries with quotes next to each other, inside a word and around nothing, and tokens with
blanks of several kinds. -/
theorem SettingValue.splitList_flat_blanks :
    let entries := ["-I\"a b\"\"c\" d", "\"\"", " \u2003", "x\"\ty\""]
    let tokens := ["/with space/", "\u00a0", "--", " \n "]
    (∀ entry ∈ entries, Balanced entry) ∧ (∀ token ∈ tokens, token ≠ "" ∧ '"' ∉ token.toList) ∧
    entries.flatMap splitList = ["-Ia bc", "d", "x\ty"] ∧
    splitList (SettingValue.list entries).flat = entries.flatMap splitList ∧
    (∀ token ∈ splitList (SettingValue.list entries).flat, token ≠ "") ∧
    splitList (SettingValue.list (tokens.map inQuotes)).flat = tokens := by
  intro entries tokens
  have hentries : ∀ entry ∈ entries, Balanced entry := by decide
  have htokens : ∀ token ∈ tokens, token ≠ "" ∧ '"' ∉ token.toList := by decide
  obtain ⟨hflat, hne, hread⟩ := splitList_flat
  exact ⟨hentries, htokens, by decide, hflat entries hentries, hne _, hread tokens htokens⟩

end BuildSettings
