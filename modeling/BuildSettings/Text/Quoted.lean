import BuildSettings.Text.Case
import BuildSettings.Text.HiddenTable

/-!
# Quoted text in messages

A text that a message quotes stands between double quotes. Quotes and backslashes inside it get
a backslash, the common controls their letter, and every other character that would not show is
written by its code point.
-/

namespace BuildSettings.Text

/-- The hexadecimal digits of a number, without leading zeros. -/
def hexDigits (n : Nat) : List Char :=
  Nat.toDigits 16 n

/-- Whether a character would not show, or would change the one before it. -/
def isHidden (c : Char) : Bool :=
  inRanges hiddenRanges c.toNat

/-- The spelling of one character inside quotes. -/
def quoteChar (c : Char) : List Char :=
  if c = '"' then ['\\', '"']
  else if c = '\\' then ['\\', '\\']
  else if c = '\n' then ['\\', 'n']
  else if c = '\r' then ['\\', 'r']
  else if c = '\t' then ['\\', 't']
  else if c.toNat = 0 then ['\\', '0']
  else if isHidden c then '\\' :: 'u' :: Char.ofNat 123 :: hexDigits c.toNat ++ [Char.ofNat 125]
  else [c]

/-- The text between double quotes. -/
def quoted (s : String) : String :=
  String.ofList ('"' :: s.toList.flatMap quoteChar ++ ['"'])

end BuildSettings.Text
