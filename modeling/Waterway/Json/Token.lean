import Waterway.Decimal.Rounding
import Waterway.Text.Hexadecimal

/-!
# The tokens of JSON text

A text is cut into punctuation, strings, numbers and the three words. Where it stops being JSON the
list ends with the token `stop`.

## Main definitions

- `Token` — one token
- `tokens` — the tokens of a text

## Design notes

The scanner walks over the characters once, with a mode that says whether it stands inside a string or
inside a run of characters that may form a number or a word. Strings are read as code units, so that
the two halves of a character beyond the basic plane are joined, and a half that stands alone marks
the string as broken; a number beyond the range of doubles is marked too. Both are tokens still,
because a reader that skips a value does not look at what it denotes.
-/

namespace Waterway.Json

/-- One token of a text. -/
inductive Token where
  | listStart
  | listEnd
  | recordStart
  | recordEnd
  | comma
  | colon
  | null
  | bool (b : Bool)
  | integer (n : Int)
  | decimal (x : Float)
  /-- A number too large for a double. -/
  | beyondRange
  | text (s : String)
  /-- A string with half a surrogate pair. -/
  | brokenText
  /-- The text is not JSON from here on. -/
  | stop
deriving Inhabited

/-- The value of decimal digits. -/
def digitsValue (ds : List Char) : Nat :=
  ds.foldl (fun n c => 10 * n + (c.toNat - '0'.toNat)) 0

/-- The double nearest to `± significand * 10 ^ exponent`, or `beyondRange`. Exponents that can only
give zero or no double at all are not raised to. -/
def decimalToken (negative : Bool) (significand : Nat) (exponent : Int) : Token :=
  let size : Int := (Nat.toDigits 10 significand).length + exponent
  if significand = 0 ∨ size < -400 then .decimal (if negative then -0.0 else 0.0)
  else if 400 < size then .beyondRange
  else
    let x := Float.ofScientific significand (exponent < 0) exponent.natAbs
    if x.isFinite then .decimal (if negative then -x else x) else .beyondRange

/-- A number without fraction and exponent: an integer if 64 bits hold it. -/
def integerToken (negative : Bool) (value : Nat) : Token :=
  if negative then
    if 0 < value ∧ value ≤ Nat.pow 2 63 then .integer (-value) else decimalToken true value 0
  else if value < Nat.pow 2 64 then .integer value else decimalToken false value 0

/-- An exponent and what follows it; `none` if the letter is followed by no digit. -/
def readExponent : List Char → Option (Int × List Char)
  | [] => some (0, [])
  | c :: cs =>
    if c = 'e' ∨ c = 'E' then
      let (negative, ds) := match cs with
        | '+' :: ds => (false, ds)
        | '-' :: ds => (true, ds)
        | ds => (false, ds)
      let digits := ds.takeWhile Char.isDigit
      if digits.isEmpty then none
      else
        let value : Int := digitsValue digits
        some (if negative then -value else value, ds.dropWhile Char.isDigit)
    else some (0, c :: cs)

/-- The number with which a run of characters begins, and the rest of the run. -/
def numberToken (negative : Bool) (cs : List Char) : Token × List Char :=
  let whole := cs.takeWhile Char.isDigit
  let rest := cs.dropWhile Char.isDigit
  if whole.isEmpty ∨ (whole.head? = some '0' ∧ 1 < whole.length) then (.stop, [])
  else
    let fraction := match rest with
      | '.' :: ds => some (ds.takeWhile Char.isDigit, ds.dropWhile Char.isDigit)
      | _ => none
    match fraction with
    | some ([], _) => (.stop, [])
    | some (places, after) =>
      match readExponent after with
      | none => (.stop, [])
      | some (e, remains) =>
        (decimalToken negative (digitsValue (whole ++ places)) (e - places.length), remains)
    | none =>
      match rest with
      | 'e' :: _ | 'E' :: _ =>
        match readExponent rest with
        | none => (.stop, [])
        | some (e, remains) => (decimalToken negative (digitsValue whole) e, remains)
      | _ => (integerToken negative (digitsValue whole), rest)

/-- The token that a run of letters, digits, signs and points begins with; anything left over is not
JSON. -/
def bareTokens (run : List Char) : List Token :=
  let (token, rest) := match run with
    | 'n' :: 'u' :: 'l' :: 'l' :: rest => (Token.null, rest)
    | 't' :: 'r' :: 'u' :: 'e' :: rest => (Token.bool true, rest)
    | 'f' :: 'a' :: 'l' :: 's' :: 'e' :: rest => (Token.bool false, rest)
    | '-' :: rest => numberToken true rest
    | rest => numberToken false rest
  if rest.isEmpty then [token] else [token, .stop]

/-- Whether a character may belong to a number or a word. -/
def isBare (c : Char) : Bool :=
  c.isAlphanum || c == '+' || c == '-' || c == '.'

/-- The code unit of four hexadecimal digits. -/
def unit? (a b c d : Char) : Option Nat := do
  let a ← Text.hexValue? a
  let b ← Text.hexValue? b
  let c ← Text.hexValue? c
  let d ← Text.hexValue? d
  some (((a * 16 + b) * 16 + c) * 16 + d)

/-- A string as far as it has been scanned, last character first. -/
structure Scanned where
  chars : List Char := []
  /-- The first half of a surrogate pair that still lacks its second half. -/
  half : Option Nat := none
  /-- Whether every surrogate so far had its partner. -/
  sound : Bool := true

def Scanned.push (s : Scanned) (c : Char) : Scanned :=
  { chars := c :: s.chars, half := none, sound := s.sound && s.half.isNone }

/-- Adds a code unit given by its number. -/
def Scanned.pushUnit (s : Scanned) (u : Nat) : Scanned :=
  if 0xD800 ≤ u ∧ u < 0xDC00 then
    { s with half := some u, sound := s.sound && s.half.isNone }
  else if 0xDC00 ≤ u ∧ u < 0xE000 then
    match s.half with
    | some h =>
      { s with chars := Char.ofNat (0x10000 + (h - 0xD800) * 0x400 + (u - 0xDC00)) :: s.chars, half := none }
    | none => { s with sound := false }
  else s.push (Char.ofNat u)

/-- The token of a string at its closing quote. -/
def Scanned.token (s : Scanned) : Token :=
  if s.sound && s.half.isNone then .text (String.ofList s.chars.reverse) else .brokenText

/-- The character that a letter after a backslash stands for. -/
def escaped? : Char → Option Char
  | '"' => some '"'
  | '\\' => some '\\'
  | '/' => some '/'
  | 'b' => some '\x08'
  | 'f' => some '\x0c'
  | 'n' => some '\n'
  | 'r' => some '\r'
  | 't' => some '\t'
  | _ => none

/-- Where the scanner stands. -/
inductive Mode where
  | between
  /-- Inside a string. -/
  | inText (s : Scanned)
  /-- Inside a run of bare characters, kept last character first. -/
  | inRun (run : List Char)

/-- What a character outside strings and runs begins; `none` if nothing does. -/
def begin? (c : Char) : Option (List Token × Mode) :=
  match c with
  | ' ' | '\t' | '\n' | '\r' => some ([], .between)
  | '[' => some ([.listStart], .between)
  | ']' => some ([.listEnd], .between)
  | '\x7b' => some ([.recordStart], .between)
  | '\x7d' => some ([.recordEnd], .between)
  | ',' => some ([.comma], .between)
  | ':' => some ([.colon], .between)
  | '"' => some ([], .inText {})
  | c => if isBare c then some ([], .inRun [c]) else none

/-- The tokens of the characters, from a given mode on. -/
def scan : Mode → List Char → List Token
  | .between, [] => []
  | .inText _, [] => [.stop]
  | .inRun run, [] => bareTokens run.reverse
  | .between, c :: cs =>
    match begin? c with
    | none => [.stop]
    | some (ts, mode) => ts ++ scan mode cs
  | .inRun run, c :: cs =>
    if isBare c then scan (.inRun (c :: run)) cs
    else
      bareTokens run.reverse ++
        match begin? c with
        | none => [.stop]
        | some (ts, mode) => ts ++ scan mode cs
  | .inText s, '"' :: cs => s.token :: scan .between cs
  | .inText s, '\\' :: 'u' :: a :: b :: c :: d :: cs =>
    match unit? a b c d with
    | none => [.stop]
    | some u => scan (.inText (s.pushUnit u)) cs
  | .inText s, '\\' :: e :: cs =>
    match escaped? e with
    | none => [.stop]
    | some c => scan (.inText (s.push c)) cs
  | .inText s, c :: cs =>
    if c.toNat < 0x20 ∨ c = '\\' then [.stop] else scan (.inText (s.push c)) cs

def tokens (s : String) : List Token :=
  scan .between s.toList

end Waterway.Json
