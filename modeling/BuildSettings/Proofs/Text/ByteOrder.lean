import Mathlib.Tactic.SplitIfs

/-!
# The order of the bytes of a text

Texts are compared character by character. The bytes that spell them come in the same order
(`utf8Bytes_lt_iff`): the bytes of a character are smaller than those of every greater one, and the
two part at a byte that both have.
-/

namespace BuildSettings.Text

/-- The bytes that spell a text. -/
def utf8Bytes (s : String) : List UInt8 :=
  s.toUTF8.data.toList

/-- The bytes of a text are those of its characters, one after the other. -/
theorem utf8Bytes_eq (s : String) : utf8Bytes s = s.toList.flatMap String.utf8EncodeChar := by
  unfold utf8Bytes String.toUTF8
  rw [← String.utf8Encode_toList]
  simp [List.utf8Encode]

/-- Bytes are compared as numbers below 256, and where the first ones agree the others decide. -/
theorem cons_lt_cons {m n : Nat} {s t : List UInt8} (hn : n < 256) (hle : m ≤ n)
    (htail : m = n → s < t) : UInt8.ofNat m :: s < UInt8.ofNat n :: t := by
  rw [List.cons_lt_cons_iff]
  rcases Nat.lt_or_eq_of_le hle with hlt | heq
  · left
    rw [UInt8.lt_iff_toNat_lt, UInt8.toNat_ofNat', UInt8.toNat_ofNat']
    omega
  · exact .inr ⟨congrArg _ heq, htail heq⟩

/-- Whatever follows, a smaller character comes first. -/
theorem utf8EncodeChar_append_lt {c d : Char} (h : c < d) (s t : List UInt8) :
    String.utf8EncodeChar c ++ s < String.utf8EncodeChar d ++ t := by
  have hlt : c.val.toNat < d.val.toNat := h
  have hbound : d.val.toNat < 0x110000 := by
    rcases d.valid with hd | ⟨-, hd⟩ <;> omega
  unfold String.utf8EncodeChar
  generalize c.val.toNat = m at hlt
  generalize d.val.toNat = n at hlt hbound
  dsimp only
  -- characters of different lengths part at the first byte, others at a digit in base 64
  split_ifs <;>
    repeat first
      | omega
      | refine cons_lt_cons (by omega) (by omega) fun _ => ?_

/-- The order of characters is the order of their bytes, and the first difference decides in both.
-/
theorem utf8Bytes_lt_of_lt {a b : String} (h : a < b) : utf8Bytes a < utf8Bytes b := by
  rw [utf8Bytes_eq, utf8Bytes_eq]
  have hchars : List.Lex (· < ·) a.toList b.toList := h
  generalize a.toList = cs at hchars
  generalize b.toList = ds at hchars
  induction hchars with
  | @nil d ds =>
    cases hbytes : (d :: ds).flatMap String.utf8EncodeChar with
    | nil => simp at hbytes
    | cons => exact .nil
  | rel hcd => exact utf8EncodeChar_append_lt hcd _ _
  | cons _ ih => exact List.append_left_lt ih

/-- The order of texts is the order of their bytes. -/
theorem utf8Bytes_lt_iff {a b : String} : utf8Bytes a < utf8Bytes b ↔ a < b := by
  refine ⟨fun hbytes => Classical.byContradiction fun hnot => ?_, utf8Bytes_lt_of_lt⟩
  by_cases hba : b < a
  · exact List.lt_asymm hbytes (utf8Bytes_lt_of_lt hba)
  · obtain rfl : a = b := String.le_antisymm hba hnot
    exact List.lt_irrefl _ hbytes

end BuildSettings.Text
