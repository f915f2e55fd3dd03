import BuildSettings.DerivedData
import Mathlib.Data.List.Induction
import Mathlib.Data.Nat.Digits.Defs

/-!
# Digests in letters

The digest of a path is cut into two halves, and each half is written as a number with a fixed
number of letters. A number that is too large for its letters would lose its highest digits without
a word: `letters count` keeps a number up to multiples of `26 ^ count` and no further
(`number_letters`). Eight bytes are less than `2 ^ 64` (`bigEndian_lt`), which is less than
`26 ^ 14`, so nothing is lost here.

* `bigEndian_inj` — as many bytes with the same value are the same bytes.
* `letters_inj` — as many letters are the same for numbers they can hold only if these are equal.
* `digestLetters_inj` — so digests of sixteen bytes are told apart by their letters.
* `pathHash_of_digest` — numbers, digests and paths together.
-/

namespace BuildSettings

/-! ### Numbers of bytes -/

namespace Digest

variable {bytes bytes' : List UInt8}

/-- The library takes the lowest digit first. -/
theorem bigEndian_eq_ofDigits (bytes : List UInt8) :
    bigEndian bytes = Nat.ofDigits 256 (bytes.reverse.map (·.toNat)) := by
  induction bytes using List.reverseRecOn with
  | nil => rfl
  | append_singleton bytes b ih =>
    have hstep : bigEndian (bytes ++ [b]) = bigEndian bytes * 256 + b.toNat := by
      unfold bigEndian
      rw [List.foldl_append]
      rfl
    rw [hstep, ih, List.reverse_append, List.reverse_singleton, List.singleton_append,
      List.map_cons, Nat.ofDigits_cons]
    omega

theorem lt_of_mem_map_toNat {n : Nat} (h : n ∈ bytes.map (·.toNat)) : n < 256 := by
  obtain ⟨b, -, rfl⟩ := List.mem_map.1 h
  exact b.toNat_lt

/-- A number of so many bytes is below that power of 256. -/
theorem bigEndian_lt (bytes : List UInt8) : bigEndian bytes < 256 ^ bytes.length := by
  have hlt := Nat.ofDigits_lt_base_pow_length (b := 256) (by decide)
    fun n (hn : n ∈ bytes.reverse.map (·.toNat)) => lt_of_mem_map_toNat hn
  rw [List.length_map, List.length_reverse] at hlt
  rw [bigEndian_eq_ofDigits]
  exact hlt

/-- As many bytes with the same value are the same bytes, since the library has it for digits below
the base. -/
theorem bigEndian_inj (hlength : bytes.length = bytes'.length) :
    bigEndian bytes = bigEndian bytes' ↔ bytes = bytes' := by
  refine ⟨fun h => ?_, congrArg bigEndian⟩
  rw [bigEndian_eq_ofDigits, bigEndian_eq_ofDigits] at h
  have hdigits : bytes.reverse.map (·.toNat) = bytes'.reverse.map (·.toNat) := by
    refine Nat.ofDigits_inj_of_len_eq (by decide) ?_ (fun _ => lt_of_mem_map_toNat)
      (fun _ => lt_of_mem_map_toNat) h
    rw [List.length_map, List.length_map, List.length_reverse, List.length_reverse, hlength]
  exact List.reverse_inj.1 ((List.map_inj_right fun _ _ => UInt8.toNat_inj.1).1 hdigits)

theorem length_bytesLow (count n : Nat) : (bytesLow count n).length = count := by
  induction count generalizing n with
  | zero => rfl
  | succ count ih => exact congrArg (· + 1) (ih (n / 256))

theorem Md5.length_digest (message : List UInt8) : (Md5.digest message).length = 16 := by
  unfold Md5.digest
  simp only [List.flatMap_cons, List.flatMap_nil, List.length_append, length_bytesLow,
    List.length_nil]

end Digest

namespace DerivedData

/-! ### Words of small letters -/

/-- A word of as many small letters. -/
def IsWord (length : Nat) (cs : List Char) : Prop :=
  cs.length = length ∧ ∀ c ∈ cs, 'a' ≤ c ∧ c ≤ 'z'

theorem IsWord.append {m n : Nat} {cs ds : List Char} (hcs : IsWord m cs) (hds : IsWord n ds) :
    IsWord (m + n) (cs ++ ds) := by
  refine ⟨by rw [List.length_append, hcs.1, hds.1], fun c hc => ?_⟩
  rcases List.mem_append.1 hc with hc | hc
  · exact hcs.2 c hc
  · exact hds.2 c hc

/-- The number whose base 26 digits are the letters, first letter highest. -/
def number (cs : List Char) : Nat :=
  cs.foldl (fun acc c => acc * 26 + (c.toNat - 'a'.toNat)) 0

/-- The last letter is the lowest digit. -/
theorem number_append_singleton (cs : List Char) (c : Char) :
    number (cs ++ [c]) = number cs * 26 + (c.toNat - 'a'.toNat) := by
  unfold number
  rw [List.foldl_append]
  rfl

/-- A digit has one of the twenty-six letters, which tells it. -/
theorem letter_of_lt {digit : Nat} (h : digit < 26) :
    ('a' ≤ letter digit ∧ letter digit ≤ 'z') ∧ (letter digit).toNat - 'a'.toNat = digit := by
  have hall : ∀ d : Fin 26,
      ('a' ≤ letter d ∧ letter d ≤ 'z') ∧ (letter d).toNat - 'a'.toNat = d := by decide
  exact hall ⟨digit, h⟩

/-- Letters of a number are as many as asked for, whatever the number is. -/
theorem isWord_letters (count value : Nat) : IsWord count (letters count value) := by
  induction count generalizing value with
  | zero => exact ⟨rfl, nofun⟩
  | succ count ih =>
    have hdigit := letter_of_lt (Nat.mod_lt value (show 0 < 26 by decide))
    refine (ih (value / 26)).append ⟨rfl, fun c hc => ?_⟩
    rw [List.mem_singleton.1 hc]
    exact hdigit.1

/-- What the letters keep of a number. -/
theorem number_letters (count value : Nat) : number (letters count value) = value % 26 ^ count := by
  induction count generalizing value with
  | zero => exact (Nat.mod_one value).symm
  | succ count ih =>
    have hdigit := letter_of_lt (Nat.mod_lt value (show 0 < 26 by decide))
    rw [letters, number_append_singleton, ih, hdigit.2, Nat.pow_succ', Nat.mod_mul]
    omega

/-- Thirteen letters are too few for 64 bits. -/
example : number (letters 13 (2 ^ 64 - 1)) ≠ 2 ^ 64 - 1 := by decide

theorem number_letters_of_lt {count value : Nat} (h : value < 26 ^ count) :
    number (letters count value) = value := by
  rw [number_letters, Nat.mod_eq_of_lt h]

/-- As many letters are the same only for the same number, as far as numbers fit. -/
theorem letters_inj {count value value' : Nat} (h : value < 26 ^ count)
    (h' : value' < 26 ^ count) :
    letters count value = letters count value' ↔ value = value' := by
  refine ⟨fun heq => ?_, congrArg (letters count)⟩
  rw [← number_letters_of_lt h, ← number_letters_of_lt h', heq]

/-! ### Letters of digests -/

/-- Fourteen letters hold every number of 64 bits. -/
theorem pow_lt_pow_lettersPerHalf : 2 ^ 64 < 26 ^ lettersPerHalf := by decide

variable {digest digest' : List UInt8}

theorem isWord_digestLetters (digest : List UInt8) : IsWord 28 (digestLetters digest) :=
  (isWord_letters lettersPerHalf _).append (isWord_letters lettersPerHalf _)

/-- Eight bytes fit into the letters of a half. -/
theorem bigEndian_lt_of_length (h : digest.length = 8) :
    Digest.bigEndian digest < 26 ^ lettersPerHalf := by
  have hbytes := Digest.bigEndian_lt digest
  rw [h] at hbytes
  exact Nat.lt_trans hbytes pow_lt_pow_lettersPerHalf

/-- The letters of a half tell its eight bytes. -/
theorem letters_bigEndian_inj (h : digest.length = 8) (h' : digest'.length = 8) :
    letters lettersPerHalf (Digest.bigEndian digest) =
      letters lettersPerHalf (Digest.bigEndian digest') ↔ digest = digest' := by
  rw [letters_inj (bigEndian_lt_of_length h) (bigEndian_lt_of_length h'),
    Digest.bigEndian_inj (h.trans h'.symm)]

/-- Digests of sixteen bytes with the same letters are the same. -/
theorem digestLetters_inj (h : digest.length = 16) (h' : digest'.length = 16) :
    digestLetters digest = digestLetters digest' ↔ digest = digest' := by
  refine ⟨fun heq => ?_, congrArg digestLetters⟩
  have hlength : (letters lettersPerHalf (Digest.bigEndian (digest.take 8))).length =
      (letters lettersPerHalf (Digest.bigEndian (digest'.take 8))).length := by
    rw [(isWord_letters _ _).1, (isWord_letters _ _).1]
  obtain ⟨hleft, hright⟩ := List.append_inj heq hlength
  have htake : digest.take 8 = digest'.take 8 :=
    (letters_bigEndian_inj (by rw [List.length_take, h]; rfl)
      (by rw [List.length_take, h']; rfl)).1 hleft
  have hdrop : digest.drop 8 = digest'.drop 8 :=
    (letters_bigEndian_inj (by rw [List.length_drop, h])
      (by rw [List.length_drop, h'])).1 hright
  rw [← List.take_append_drop 8 digest, htake, hdrop, List.take_append_drop]

theorem toList_pathHash (path : String) :
    (pathHash path).toList = digestLetters (Digest.Md5.digest (Digest.utf8 path)) :=
  String.toList_ofList

/-- **Hashes of paths**: fourteen small letters tell each number of 64 bits, so that whatever digest
of sixteen bytes is taken of paths, its letters are twenty-eight small ones and are the same for two
paths exactly if the digest is. This holds of the digest that is taken. -/
theorem pathHash_of_digest :
    (∀ value : UInt64, IsWord 14 (letters lettersPerHalf value.toNat) ∧
      number (letters lettersPerHalf value.toNat) = value.toNat) ∧
    (∀ (digest : String → Vector UInt8 16) (path other : String),
      IsWord 28 (digestLetters (digest path).toList) ∧
        (digestLetters (digest path).toList = digestLetters (digest other).toList ↔
          digest path = digest other)) ∧
    ∀ path other : String, IsWord 28 (pathHash path).toList ∧
      (pathHash path = pathHash other ↔
        Digest.Md5.digest (Digest.utf8 path) = Digest.Md5.digest (Digest.utf8 other)) := by
  refine ⟨fun value => ⟨isWord_letters lettersPerHalf _, ?_⟩, fun digest path other => ?_,
    fun path other => ?_⟩
  · exact number_letters_of_lt (Nat.lt_trans value.toNat_lt pow_lt_pow_lettersPerHalf)
  · refine ⟨isWord_digestLetters _, ?_⟩
    rw [digestLetters_inj (digest path).length_toList (digest other).length_toList,
      Vector.toList_inj]
  · rw [← String.toList_inj, toList_pathHash, toList_pathHash]
    exact ⟨isWord_digestLetters _,
      digestLetters_inj (Digest.Md5.length_digest _) (Digest.Md5.length_digest _)⟩

end DerivedData

end BuildSettings
