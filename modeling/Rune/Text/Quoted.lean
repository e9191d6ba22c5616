import Rune.Unicode.Printable

/-!
# Rune - quoted text

Messages show a text between quotes so that every character can be read: single
quotes unless the text holds single quotes and no double ones, a backslash
before the quote and before a backslash, and an escape for every character that
cannot be printed.

Main results:

- Definition {lit}`Quoted.quote` gives the quoted form of a text.
-/

namespace Rune.Quoted

/-- The hexadecimal digit of a number below sixteen. -/
def hexDigit (n : Nat) : Char :=
  if n < 10 then Char.ofNat (48 + n) else Char.ofNat (87 + n)

/-- The last `width` hexadecimal digits of a number. -/
def hex : (width : Nat) → Nat → List Char
  | 0, _ => []
  | width + 1, n => hex width (n / 16) ++ [hexDigit (n % 16)]

/-- The quote that needs fewer escapes. -/
def delimiter (chars : List Char) : Char :=
  if chars.contains '\'' && !chars.contains '"' then '"' else '\''

/-- One character inside quotes. -/
def escape (quote c : Char) : List Char :=
  if c = quote ∨ c = '\\' then ['\\', c]
  else if c = '\n' then ['\\', 'n']
  else if c = '\r' then ['\\', 'r']
  else if c = '\t' then ['\\', 't']
  else if Unicode.isPrintable c then [c]
  else if c.toNat < 0x100 then '\\' :: 'x' :: hex 2 c.toNat
  else if c.toNat < 0x10000 then '\\' :: 'u' :: hex 4 c.toNat
  else '\\' :: 'U' :: hex 8 c.toNat

/-- The quoted form of a list of characters. -/
def quoteChars (chars : List Char) : List Char :=
  let quote := delimiter chars
  quote :: (chars.flatMap (escape quote) ++ [quote])

/-- The quoted form of a text. -/
def quote (text : String) : String := String.ofList (quoteChars text.toList)

end Rune.Quoted
