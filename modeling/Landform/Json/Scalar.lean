import Landform.Json.Cursor
import Landform.Number.Bounded

namespace Landform
namespace Json

/-!
Reading texts, numbers and the three words.  Whole numbers of up to 64 bits are read
exactly; a number with a fraction, an exponent or more digits becomes a floating-point
number, computed from the digits that fit into 64 bits and one scaling by powers of ten.
-/

/-- The value of a hexadecimal digit. -/
def hexValue? (c : Char) : Option Nat :=
  if '0' ≤ c && c ≤ '9' then some (c.toNat - '0'.toNat)
  else if 'a' ≤ c && c ≤ 'f' then some (c.toNat - 'a'.toNat + 10)
  else if 'A' ≤ c && c ≤ 'F' then some (c.toNat - 'A'.toNat + 10)
  else none

/-- The value of four hexadecimal digits. -/
def hexValue4? (a b c d : Char) : Option Nat :=
  match hexValue? a, hexValue? b, hexValue? c, hexValue? d with
  | some a, some b, some c, some d => some (((a * 16 + b) * 16 + c) * 16 + d)
  | _, _, _, _ => none

/-- Reads the four digits of an escape. -/
def readHex4 : Reading Nat := fun cursor =>
  let missing : EStateM.Result ReadFault Cursor Nat :=
    let stop := cursor.rest.foldl Spot.after cursor.spot
    .error ⟨.syntactic .endOfText, some stop⟩ ⟨[], stop⟩
  let invalid : EStateM.Result ReadFault Cursor Nat :=
    failAfter 4 .invalidEscape cursor
  match cursor.rest with
  | a :: b :: c :: d :: rest =>
      match hexValue4? a b c d with
      | some n => .ok n ⟨rest, cursor.spot.afterBytes 4 cursor.rest⟩
      | none => invalid
  | short => if short.foldl (fun size c => size + c.utf8Size) 0 < 4 then missing else invalid

/-- Whether a code unit opens a pair. -/
def opensPair (unit : Nat) : Bool :=
  0xD800 ≤ unit && unit ≤ 0xDBFF

/-- Whether a code unit closes a pair. -/
def closesPair (unit : Nat) : Bool :=
  0xDC00 ≤ unit && unit ≤ 0xDFFF

/-- Passes a character that has to stand in the middle of a pair of escapes. -/
def passInPair (expected : Char) : Reading Unit := do
  match ← peek with
  | none => fail .endOfText
  | some c => if c == expected then advance else failAhead .openSurrogate

/-- Reads the character of an escape by number, behind its letter. -/
def readNumberedEscape : Reading Char := do
  let unit ← readHex4
  if closesPair unit then fail .loneSurrogate
  else if opensPair unit then
    passInPair '\\'
    passInPair 'u'
    let second ← readHex4
    if closesPair second then
      return Char.ofNat ((unit - 0xD800) * 0x400 + (second - 0xDC00) + 0x10000)
    else fail .loneSurrogate
  else return Char.ofNat unit

/-- The character that an escape by letter stands for. -/
def letterEscape? : Char -> Option Char
  | '"' => some '"'
  | '\\' => some '\\'
  | '/' => some '/'
  | 'b' => some '\x08'
  | 'f' => some '\x0c'
  | 'n' => some '\n'
  | 'r' => some '\r'
  | 't' => some '\t'
  | _ => none

/-- Reads the character of an escape, behind its backslash. -/
def readEscape : Reading Char := do
  match ← peek with
  | none => fail .endOfText
  | some 'u' => do
      advance
      readNumberedEscape
  | some c =>
      match letterEscape? c with
      | some meant => do
          advance
          return meant
      | none => failAhead .invalidEscape

/-- Reads the rest of a text behind its opening quote. -/
def readTextFrom : (fuel : Nat) -> List Char -> Reading String
  | 0, _ => fail .endOfText
  | fuel + 1, before => do
      match ← next with
      | none => fail .endOfText
      | some '"' => return String.ofList before.reverse
      | some '\\' => do
          let c ← readEscape
          readTextFrom fuel (c :: before)
      | some c =>
          if c.toNat < 0x20 then fail .controlCharacter else readTextFrom fuel (c :: before)

/-- Reads the rest of a text behind its opening quote. -/
def readTextBody : Reading String := do
  let size ← remaining
  readTextFrom (size + 1) []

/-- Passes the rest of a text that nobody wants, behind its opening quote. -/
def passTextFrom : (fuel : Nat) -> Reading Unit
  | 0 => fail .endOfText
  | fuel + 1 => do
      match ← peek with
      | none => fail .endOfText
      | some '"' => advance
      | some '\\' => do
          advance
          match ← peek with
          | none => fail .endOfText
          | some 'u' => do
              advance
              let _ ← readHex4
              passTextFrom fuel
          | some c =>
              match letterEscape? c with
              | some _ => do
                  advance
                  passTextFrom fuel
              | none => failAhead .invalidEscape
      | some c =>
          if c.toNat < 0x20 then fail .controlCharacter
          else do
            advance
            passTextFrom fuel

/-- Passes the rest of a text that nobody wants, behind its opening quote. -/
def passTextBody : Reading Unit := do
  let size ← remaining
  passTextFrom (size + 1)

/-- Whether a character is a decimal digit. -/
def isDigitHere (c : Char) : Bool :=
  '0' ≤ c && c ≤ '9'

/-- Passes the digits ahead and gives them. -/
def takeDigits : Reading (List Char) := fun cursor =>
  let digits := cursor.rest.takeWhile isDigitHere
  .ok digits
    ⟨cursor.rest.dropWhile isDigitHere,
      ⟨cursor.spot.line, cursor.spot.column + digits.length⟩⟩

/-- The value of a decimal digit. -/
def digitValue (c : Char) : Nat :=
  c.toNat - '0'.toNat

/--
Extends a number by digits as long as it stays within 64 bits, and counts the digits that
do not count any more.
-/
def extendDigits (n : Nat) : List Char -> Nat × Nat
  | [] => (n, 0)
  | c :: rest =>
      let grown := n * 10 + digitValue c
      if (grown : Int) ≤ Number.nat64.high then extendDigits grown rest
      else (n, rest.length + 1)

/-- The largest power of ten that is a floating-point number. -/
def largestPower : Nat := 308

/-- A power of ten as a floating-point number. -/
def powerOfTen (n : Nat) : Float :=
  Float.ofScientific 1 false n

/-- Divides by a power of ten, in steps when the power is no floating-point number. -/
def scaleDown (x : Float) (power : Nat) : Float :=
  if _large : power > largestPower then
    if x == 0.0 then x else scaleDown (x / powerOfTen largestPower) (power - largestPower)
  else x / powerOfTen power
termination_by power
decreasing_by
  simp only [largestPower] at *
  omega

/-- The floating-point number of some digits and a power of ten. -/
def scaledFloat (negative : Bool) (digits : Nat) (power : Int) : Reading Float := do
  let start := digits.toUInt64.toFloat
  let signed (x : Float) : Float := if negative then -x else x
  if power < 0 then return signed (scaleDown start (-power).toNat)
  else if power ≤ largestPower then
    let scaled := start * powerOfTen power.toNat
    if scaled.isInf then fail .numberOutOfRange else return signed scaled
  else if start == 0.0 then return signed start
  else fail .numberOutOfRange

/-- Reads digits of an exponent behind its first one, up to 32 bits. -/
def extendExponent (n : Nat) : (fuel : Nat) -> Reading (Option Nat)
  | 0 => return some n
  | fuel + 1 => do
      match ← peek with
      | some c =>
          if isDigitHere c then do
            advance
            let grown := n * 10 + digitValue c
            if (grown : Int) ≤ Number.int32.high then extendExponent grown fuel
            else return none
          else return some n
      | none => return some n

/-- Reads an exponent from its letter on and gives the number it belongs to. -/
def readExponent (negative : Bool) (digits : Nat) (power : Int) : Reading Float := do
  advance
  let down ← do
    match ← peek with
    | some '+' => do
        advance
        pure false
    | some '-' => do
        advance
        pure true
    | _ => pure false
  match ← next with
  | none => fail .endOfValue
  | some c =>
      if isDigitHere c then do
        let size ← remaining
        match ← extendExponent (digitValue c) (size + 1) with
        | some exponent =>
            let moved := if down then power - exponent else power + exponent
            scaledFloat negative digits (Number.int32.saturate moved)
        | none =>
            if digits != 0 && !down then fail .numberOutOfRange
            else do
              let _ ← takeDigits
              return if negative then -0.0 else 0.0
      else fail .invalidNumber

/-- Finishes a number behind its digits. -/
def finishFloat (negative : Bool) (digits : Nat) (power : Int) : Reading Float := do
  match ← peek with
  | some 'e' | some 'E' => readExponent negative digits power
  | _ => scaledFloat negative digits power

/-- Reads a fraction from its point on and gives the number it belongs to. -/
def readFraction (negative : Bool) (digits : Nat) (power : Int) : Reading Float := do
  advance
  let fraction ← takeDigits
  if fraction.isEmpty then
    match ← peek with
    | some _ => failAhead .invalidNumber
    | none => fail .endOfValue
  else
    let (extended, unused) := extendDigits digits fraction
    finishFloat negative extended (power - (fraction.length - unused : Nat))

/-- The whole number of some digits, unless it has to be a floating-point number. -/
def wholeNumber (negative : Bool) (digits : Nat) : Json :=
  if negative then
    if digits = 0 || -(digits : Int) < Number.int64.low then
      .float (-digits.toUInt64.toFloat)
    else .whole (-(digits : Int))
  else .whole digits

/-- Reads a number from its first digit on. -/
def readNumber (negative : Bool) : Reading Json := do
  match ← next with
  | none => fail .endOfValue
  | some c =>
      if !isDigitHere c then fail .invalidNumber
      else do
        let more ← if c == '0' then pure [] else takeDigits
        if c == '0' && ((← peek).map isDigitHere).getD false then failAhead .invalidNumber
        else
          let (digits, unused) := extendDigits (digitValue c) more
          match ← peek with
          | some '.' => return .float (← readFraction negative digits unused)
          | some 'e' | some 'E' => return .float (← readExponent negative digits unused)
          | _ =>
              if unused = 0 then return wholeNumber negative digits
              else return .float (← scaledFloat negative digits unused)

/-- Passes a number that nobody wants, from its first digit on. -/
def passNumber : Reading Unit := do
  match ← next with
  | none => fail .invalidNumber
  | some c =>
      if !isDigitHere c then fail .invalidNumber
      else do
        let _ ← if c == '0' then pure [] else takeDigits
        if c == '0' && ((← peek).map isDigitHere).getD false then failAhead .invalidNumber
        else
          match ← peek with
          | some '.' => do
              advance
              let fraction ← takeDigits
              if fraction.isEmpty then failAhead .invalidNumber
              else
                match ← peek with
                | some 'e' | some 'E' => passExponent
                | _ => return ()
          | some 'e' | some 'E' => passExponent
          | _ => return ()
where
  /-- Passes an exponent from its letter on. -/
  passExponent : Reading Unit := do
    advance
    match ← peek with
    | some '+' | some '-' => advance
    | _ => pure ()
    match ← next with
    | some c =>
        if isDigitHere c then do
          let _ ← takeDigits
          return ()
        else fail .invalidNumber
    | none => fail .invalidNumber

/-- Passes the rest of a word behind its first letter. -/
def passWord : List Char -> Reading Unit
  | [] => return ()
  | expected :: more => do
      match ← next with
      | none => fail .endOfValue
      | some c => if c == expected then passWord more else fail .wordExpected

/-- Reads a value that is neither list nor object, if one starts ahead. -/
def readScalar? : Reading (Option Json) := do
  match ← peek with
  | some 'n' => do
      advance
      passWord ['u', 'l', 'l']
      return some .null
  | some 't' => do
      advance
      passWord ['r', 'u', 'e']
      return some (.truth true)
  | some 'f' => do
      advance
      passWord ['a', 'l', 's', 'e']
      return some (.truth false)
  | some '-' => do
      advance
      return some (← readNumber true)
  | some '"' => do
      advance
      return some (.text (← readTextBody))
  | some c => if isDigitHere c then return some (← readNumber false) else return none
  | none => return none

end Json
end Landform
