/-!
# Rune - text from bytes

Files hold their text as a sequence of one to four bytes for each character.
The first byte of a character says how many follow it.

Main results:

- Definition {lit}`Utf8.decode` reads the characters of a sequence of bytes, or says
  where the sequence goes wrong.
- Definition {lit}`Utf8.unifyBreaks` turns the line breaks of other systems into line
  feeds, and {lit}`Utf8.firstLine` cuts off what stands before the first one.
-/

namespace Rune.Utf8

/-- What is wrong with a sequence of bytes. -/
inductive Reason where
  | badStart
  | badContinuation
  | cutOff
  deriving DecidableEq

/-- The wording of a reason. -/
def Reason.text : Reason → String
  | .badStart => "invalid start byte"
  | .badContinuation => "invalid continuation byte"
  | .cutOff => "unexpected end of data"

/-- The bytes at which a sequence goes wrong: the position of the first one, that
byte, and how many there are. -/
structure DecodeFault where
  position : Nat
  byte : UInt8
  count : Nat
  reason : Reason
  deriving DecidableEq

/-- The two hexadecimal digits of a byte. -/
def hexByte (byte : UInt8) : String :=
  let digits := Nat.toDigits 16 byte.toNat
  String.ofList (if digits.length < 2 then '0' :: digits else digits)

/-- The wording of a fault. -/
def DecodeFault.message (fault : DecodeFault) : String :=
  let reason := fault.reason.text
  if fault.count = 1 then
    let byte := hexByte fault.byte
    s!"'utf-8' codec can't decode byte 0x{byte} in position {fault.position}: {reason}"
  else
    let last := fault.position + fault.count - 1
    s!"'utf-8' codec can't decode bytes in position {fault.position}-{last}: {reason}"

/-- A character whose first bytes have been read: where it begins and with which
byte, how many bytes were read and how many are missing, the bounds of the next
one, and the bits so far. -/
structure Opened where
  position : Nat
  byte : UInt8
  taken : Nat
  missing : Nat
  low : Nat
  high : Nat
  bits : Nat

/-- The fault of a character that does not go on as it should. -/
def Opened.fault (opened : Opened) (reason : Reason) : DecodeFault :=
  ⟨opened.position, opened.byte, opened.taken, reason⟩

/-- The character that a byte begins.  The bounds of its second byte exclude
characters written with too many bytes, surrogates, and numbers that stand for no
character. -/
def openAt (position : Nat) (byte : UInt8) : Except DecodeFault Opened :=
  let n := byte.toNat
  let start (missing low high bits : Nat) : Except DecodeFault Opened :=
    .ok ⟨position, byte, 1, missing, low, high, bits⟩
  if n < 0x80 then start 0 0x80 0xbf n
  else if n < 0xc2 then .error ⟨position, byte, 1, .badStart⟩
  else if n < 0xe0 then start 1 0x80 0xbf (n - 0xc0)
  else if n = 0xe0 then start 2 0xa0 0xbf 0
  else if n = 0xed then start 2 0x80 0x9f 0xd
  else if n < 0xf0 then start 2 0x80 0xbf (n - 0xe0)
  else if n = 0xf0 then start 3 0x90 0xbf 0
  else if n < 0xf4 then start 3 0x80 0xbf (n - 0xf0)
  else if n = 0xf4 then start 3 0x80 0x8f 4
  else .error ⟨position, byte, 1, .badStart⟩

/-- One more byte of a character. -/
def Opened.push (opened : Opened) (byte : UInt8) : Except DecodeFault Opened :=
  if opened.low ≤ byte.toNat ∧ byte.toNat ≤ opened.high then
    .ok { opened with
      taken := opened.taken + 1
      missing := opened.missing - 1
      low := 0x80
      high := 0xbf
      bits := opened.bits * 64 + (byte.toNat - 0x80) }
  else .error (opened.fault .badContinuation)

/-- The characters of the bytes from a position on, after the first bytes of a
character if one was begun. -/
def decodeFrom (position : Nat) (opened : Option Opened) :
    List UInt8 → Except DecodeFault (List Char)
  | [] =>
    match opened with
    | none => .ok []
    | some character => .error (character.fault .cutOff)
  | byte :: rest => do
    let character ←
      match opened with
      | none => openAt position byte
      | some character => character.push byte
    if character.missing = 0 then
      return Char.ofNat character.bits :: (← decodeFrom (position + 1) none rest)
    decodeFrom (position + 1) (some character) rest

/-- The characters of a sequence of bytes. -/
def decode (bytes : List UInt8) : Except DecodeFault (List Char) := decodeFrom 0 none bytes

/-- Every line break, written as a line feed. -/
def unifyBreaks : List Char → List Char
  | '\r' :: '\n' :: rest => '\n' :: unifyBreaks rest
  | '\r' :: rest => '\n' :: unifyBreaks rest
  | c :: rest => c :: unifyBreaks rest
  | [] => []

/-- The characters before the first line break of any kind. -/
def firstLine (chars : List Char) : List Char := (unifyBreaks chars).takeWhile (· ≠ '\n')

/-- A text without carriage returns stays as it is. -/
theorem unifyBreaks_eq_self {chars : List Char} (h : '\r' ∉ chars) : unifyBreaks chars = chars := by
  fun_induction unifyBreaks chars with
  | case1 => simp at h
  | case2 => simp at h
  | case3 c rest _ _ ih => simp_all
  | case4 => rfl

end Rune.Utf8
