import CallTrace.Unicode.Property

/-!
# Quoting text

`quoted` puts a text between double quotes. What would be lost or misread on a terminal is
escaped: quotes and backslashes, controls, unassigned characters, blanks other than the space, and
marks that would join the character before them. `escaped` keeps to ASCII altogether.
-/

namespace CallTrace.Text

open Unicode

/-! ## Escapes -/

/-- The digits of a number in base 16, without leading zeros, in small letters. -/
def hexDigits (n : Nat) : List Char := Nat.toDigits 16 n

/-- An escape by the number of the character. -/
def numberEscape (c : Char) : List Char := ['\\', 'u', '\x7b'] ++ hexDigits c.toNat ++ ['\x7d']

/-- How a character is written between double quotes. -/
def quotedChar (c : Char) : List Char :=
  if c = '\x00' then ['\\', '0']
  else if c = '\t' then ['\\', 't']
  else if c = '\r' then ['\\', 'r']
  else if c = '\n' then ['\\', 'n']
  else if c = '"' then ['\\', '"']
  else if c = '\\' then ['\\', '\\']
  else if isPrintable c && !isGraphemeExtend c then [c]
  else numberEscape c

/-- A text between double quotes. -/
def quoted (s : String) : String :=
  String.ofList (['"'] ++ s.toList.flatMap quotedChar ++ ['"'])

/-- How a character is written in ASCII alone. -/
def escapedChar (c : Char) : List Char :=
  if c = '\t' then ['\\', 't']
  else if c = '\r' then ['\\', 'r']
  else if c = '\n' then ['\\', 'n']
  else if c = '\'' then ['\\', '\'']
  else if c = '"' then ['\\', '"']
  else if c = '\\' then ['\\', '\\']
  else if decide (' ' ≤ c) && decide (c ≤ '~') then [c]
  else numberEscape c

/-- A text in ASCII alone. -/
def escaped (s : String) : String := String.ofList (s.toList.flatMap escapedChar)

end CallTrace.Text
