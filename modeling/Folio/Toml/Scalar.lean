import Folio.Number.Digits
import Folio.Toml.Value

/-!
# Numbers and dates

Numbers, dates and the two truth values are written without quotes, in characters that cannot follow
them. So such a value is first cut off and then told by its form.
-/

namespace Folio.Toml

open Digits (isHex)

/-- Whether a text consists of digits with single low lines between some of them. -/
def isDigitRun (isDigit : Char → Bool) : Text → Bool
  | [] => false
  | [c] => isDigit c
  | c :: d :: t =>
    isDigit c && (if d = '_' then isDigitRun isDigit t else isDigitRun isDigit (d :: t))

def splitSign (t : Text) : Bool × Text :=
  match t with
  | '+' :: t => (false, t)
  | '-' :: t => (true, t)
  | t => (false, t)

/-- Whether a text is a decimal integer without sign: zero, or digits that do not start with zero. -/
def isDecimalInteger (t : Text) : Bool :=
  t = ['0'] || (t.head? ≠ some '0' && isDigitRun Char.isDigit t)

def inRange? (n : Int) : Option Value :=
  if -0x8000000000000000 ≤ n && n < 0x8000000000000000 then some (.integer n) else none

/-- The integer that a text writes. Other bases than ten have a letter after a zero and no sign. -/
def integer? (t : Text) : Option Value :=
  let based (base : Nat) (isDigit : Char → Bool) (digits : Text) : Option Value :=
    if isDigitRun isDigit digits then inRange? (Digits.toNat base digits) else none
  match t with
  | '0' :: 'x' :: digits => based 16 isHex digits
  | '0' :: 'o' :: digits => based 8 (fun c => '0' ≤ c && c ≤ '7') digits
  | '0' :: 'b' :: digits => based 2 (fun c => c = '0' || c = '1') digits
  | t =>
    let (negative, digits) := splitSign t
    if isDecimalInteger digits then
      let n : Int := Digits.toNat 10 digits
      inRange? (if negative then -n else n)
    else none

/-- The value beyond the range of numbers. Only that of negative numbers can be written by digits. -/
def beyondRange? (negative : Bool) : Option Value :=
  if negative then some (.float (.infinite true)) else none

def ofDecimal? (negative : Bool) (n : Nat) (exponent : Int) : Option Value :=
  let size : Int := exponent + (Text.ofNat n).length
  if n = 0 || size < -400 then some (.float (.finite (Binary64.zero negative)))
  else if 400 < size then beyondRange? negative
  else
    match Binary64.ofRatio negative (n * Nat.pow 10 exponent.toNat) (Nat.pow 10 (-exponent).toNat) with
    | some x => some (.float (.finite x))
    | none => beyondRange? negative

def float? (t : Text) : Option Value :=
  let (negative, t) := splitSign t
  if t = "inf".toList then some (.float (.infinite negative))
  else if t = "nan".toList then some (.float .nan)
  else
    let whole := t.takeWhile fun c => c.isDigit || c = '_'
    let afterWhole := t.drop whole.length
    let hasFraction := afterWhole.head? = some '.'
    let fraction :=
      if hasFraction then (afterWhole.drop 1).takeWhile fun c => c.isDigit || c = '_' else []
    let afterFraction := if hasFraction then afterWhole.drop (1 + fraction.length) else afterWhole
    let hasExponent := afterFraction.head? = some 'e' || afterFraction.head? = some 'E'
    let (down, power) := splitSign (afterFraction.drop 1)
    let fits := isDecimalInteger whole && (!hasFraction || isDigitRun Char.isDigit fraction) &&
      (if hasExponent then isDigitRun Char.isDigit power else afterFraction = []) &&
      (hasFraction || hasExponent)
    if fits then
      let e : Int := if hasExponent then Digits.toNat 10 power else 0
      let places := fraction.countP Char.isDigit
      ofDecimal? negative (Digits.toNat 10 (whole ++ fraction)) ((if down then -e else e) - places)
    else none

/-! ## Dates and times -/

def twoDigits? (limit : Nat) : Text → Option (Nat × Text)
  | c :: d :: t =>
    let n := Digits.value c * 10 + Digits.value d
    if c.isDigit && d.isDigit && n ≤ limit then some (n, t) else none
  | _ => none

def daysIn (year month : Nat) : Nat :=
  if month = 2 then
    if year % 4 = 0 && (year % 100 ≠ 0 || year % 400 = 0) then 29 else 28
  else if month = 4 || month = 6 || month = 9 || month = 11 then 30
  else 31

def afterDate? (t : Text) : Option Text := do
  let (century, t) ← twoDigits? 99 t
  let (year, t) ← twoDigits? 99 t
  let (month, t) ← twoDigits? 12 (← Text.dropPrefix? ['-'] t)
  let (day, t) ← twoDigits? 31 (← Text.dropPrefix? ['-'] t)
  if 1 ≤ month && 1 ≤ day && day ≤ daysIn (century * 100 + year) month then some t else none

def afterTime? (t : Text) : Option Text := do
  let (_, t) ← twoDigits? 23 t
  let (_, t) ← twoDigits? 59 (← Text.dropPrefix? [':'] t)
  let (_, t) ← twoDigits? 60 (← Text.dropPrefix? [':'] t)
  match t with
  | '.' :: c :: t => if c.isDigit then some (t.dropWhile Char.isDigit) else none
  | '.' :: [] => none
  | t => some t

def isOffset (t : Text) : Bool :=
  match t with
  | [] => true
  | [c] => c = 'Z' || c = 'z'
  | c :: t =>
    (c = '+' || c = '-') &&
      (do
        let (_, t) ← twoDigits? 23 t
        let (_, t) ← twoDigits? 59 (← Text.dropPrefix? [':'] t)
        pure (t = [] : Bool)) = some true

def isDatetime (t : Text) : Bool :=
  match afterDate? t with
  | some [] => true
  | some (c :: t) =>
    (c = 'T' || c = 't' || c = ' ') &&
      match afterTime? t with
      | some t => isOffset t
      | none => false
  | none => afterTime? t = some []

def scalar? (t : Text) : Option Value :=
  if t = "true".toList then some (.boolean true)
  else if t = "false".toList then some (.boolean false)
  else if isDatetime t then some .datetime
  else (integer? t).orElse fun _ => float? t

def isScalarChar (c : Char) : Bool :=
  c.isAlphanum || c = '+' || c = '-' || c = '_' || c = '.' || c = ':'

/-- The characters of a value without quotes at the start of a text. A blank may stand between a date and
a time. -/
def takeScalar (t : Text) : Text :=
  let token := t.takeWhile isScalarChar
  if afterDate? token = some [] then
    match t.drop token.length with
    | ' ' :: rest =>
      let more := rest.takeWhile isScalarChar
      if (afterTime? more).isSome then token ++ ' ' :: more else token
    | _ => token
  else token

end Folio.Toml
