import Folio.Json.Fault
import Folio.Json.Value
import Folio.NamedList
import Folio.Number.Digits
import Folio.Text.Step

/-!
# Reading JSON

Reading is strict: names and strings stand in double quotes, no comma trails, numbers have no leading
zeros. Values nest at most 127 deep.
-/

namespace Folio.Json

open Text (Step length_dropWhile_lt)

def isBlank (c : Char) : Bool := c = ' ' || c = '\n' || c = '\t' || c = '\r'

def skipBlanks (t : Text) : Text := t.dropWhile isBlank

theorem length_skipBlanks_le (t : Text) : (skipBlanks t).length ≤ t.length :=
  (List.dropWhile_suffix _).length_le

theorem length_lt_of_skipBlanks {t r : Text} {c : Char} (h : skipBlanks t = c :: r) :
    r.length < t.length := by
  have := length_skipBlanks_le t
  rw [h, List.length_cons] at this
  omega

def readWord (word : Text) (t : Text) : Except ReadError Text :=
  match word, t with
  | [], t => .ok t
  | _ :: _, [] => .error ⟨.endInValue, [], 0⟩
  | a :: word, b :: t => if a = b then readWord word t else .error ⟨.wordExpected, b :: t, 1⟩

theorem length_of_readWord {word t rest : Text} (h : readWord word t = .ok rest) :
    rest.length ≤ t.length := by
  induction word generalizing t with
  | nil => cases t <;> (simp only [readWord, Except.ok.injEq] at h; simp [h])
  | cons a word ih =>
    cases t with
    | nil => simp [readWord] at h
    | cons b t =>
      simp only [readWord] at h
      split at h
      · have := ih h
        simp only [List.length_cons]
        omega
      · simp at h

/-! ## Numbers -/

/-- Appends digits to a number as long as it stays within `limit`, and gives what is left of them. -/
def accumulate (limit : Nat) (n : Nat) : Text → Nat × Text
  | [] => (n, [])
  | c :: digits =>
    let next := n * 10 + Digits.value c
    if limit < next then (n, c :: digits) else accumulate limit next digits

def maxInteger : Nat := 0xFFFFFFFFFFFFFFFF

/-- The largest exponent that is read to its last digit. -/
def maxExponent : Nat := 0x7FFFFFFF

def maxPower : Nat := 308

/-- A double below `2 ^ 64` times `10 ^ exponent`, reached by multiplying or dividing by powers of ten
that are doubles and rounding each time. Below twice the largest power nothing is left. -/
def scale? (x : Binary64) (exponent : Int) : Option Binary64 :=
  let size := exponent.natAbs
  if 0 ≤ exponent then
    if size ≤ maxPower then (Binary64.tenPow? size).bind x.mul?
    else if x.significand = 0 then some x else none
  else if size ≤ maxPower then (Binary64.tenPow? size).bind x.div?
  else if size ≤ 2 * maxPower then do
    let y ← x.div? (← Binary64.tenPow? maxPower)
    y.div? (← Binary64.tenPow? (size - maxPower))
  else some (Binary64.zero false)

def doubleOf (negative : Bool) (n : Nat) (exponent : Int) (rest : Text) : Except ReadError Number :=
  match (Binary64.ofNat? n).bind fun x => scale? x exponent with
  | some x => .ok (.double (x.withSign negative))
  | none => .error ⟨.numberOutOfRange, rest, 0⟩

def dropSign : Text → Text
  | [] => []
  | c :: t => if c = '+' || c = '-' then t else c :: t

theorem length_dropSign_le (t : Text) : (dropSign t).length ≤ t.length := by
  cases t with
  | nil => simp [dropSign]
  | cons c t =>
    rw [dropSign]
    split <;> simp

def readExponent (negative : Bool) (n : Nat) (exponent : Int) (t : Text) :
    Except ReadError (Step Number t) :=
  let down := t.head? = some '-'
  match hs : dropSign t with
  | [] => .error ⟨.endInValue, [], 0⟩
  | c :: after =>
    if hc : c.isDigit then
      let digits := (c :: after).takeWhile Char.isDigit
      let rest := (c :: after).dropWhile Char.isDigit
      have hrest : rest.length < t.length := by
        have h₁ := length_dropSign_le t
        have h₂ := length_dropWhile_lt (t := after) hc
        rw [hs] at h₁
        exact Nat.lt_of_lt_of_le h₂ h₁
      let (e, left) := accumulate maxExponent 0 digits
      if left ≠ [] then
        if n ≠ 0 && !down then .error ⟨.numberOutOfRange, left.drop 1 ++ rest, 0⟩
        else .ok ⟨.double (Binary64.zero negative), rest, hrest⟩
      else
        (doubleOf negative n (if down then exponent - e else exponent + e) rest).map fun x =>
          ⟨x, rest, hrest⟩
    else .error ⟨.invalidNumber, c :: after, 1⟩

def readScaled (negative : Bool) (n : Nat) (exponent : Int) (t : Text) :
    Except ReadError { r : Number × Text // r.2.length ≤ t.length } :=
  match t with
  | [] => (doubleOf negative n exponent []).map fun x => ⟨(x, []), by simp⟩
  | c :: rest =>
    if c = 'e' || c = 'E' then
      (readExponent negative n exponent rest).map fun s =>
        ⟨(s.value, s.rest), Nat.le_of_lt (Nat.lt_succ_of_lt s.shorter)⟩
    else (doubleOf negative n exponent (c :: rest)).map fun x => ⟨(x, c :: rest), by simp⟩

def readFraction (negative : Bool) (n : Nat) (exponent : Int) (t : Text) :
    Except ReadError { r : Number × Text // r.2.length ≤ t.length } :=
  let digits := t.takeWhile Char.isDigit
  let rest := t.dropWhile Char.isDigit
  have hrest : rest.length ≤ t.length := (List.dropWhile_suffix _).length_le
  if digits = [] then
    if rest = [] then .error ⟨.endInValue, [], 0⟩ else .error ⟨.invalidNumber, rest, 1⟩
  else
    let (m, left) := accumulate maxInteger n digits
    -- only the digits that were taken in move the point
    (readScaled negative m (exponent - (digits.length - left.length : Nat)) rest).map fun r =>
      ⟨r.1, Nat.le_trans r.2 hrest⟩

def readNumber (negative : Bool) (t : Text) : Except ReadError (Step Number t) :=
  match t with
  | [] => .error ⟨.endInValue, [], 0⟩
  | c :: after =>
    if hc : c.isDigit then
      let digits := (c :: after).takeWhile Char.isDigit
      let rest := (c :: after).dropWhile Char.isDigit
      have hrest : rest.length < (c :: after).length := length_dropWhile_lt hc
      if c = '0' && digits ≠ ['0'] then .error ⟨.invalidNumber, after, 1⟩
      else
        let (n, left) := accumulate maxInteger 0 digits
        if rest.head? = some '.' then
          (readFraction negative n left.length (rest.drop 1)).map fun r =>
            ⟨r.1.1, r.1.2, by
              have h := r.2
              have hd : (rest.drop 1).length ≤ rest.length := by simp
              omega⟩
        else if left = [] && rest.head? ≠ some 'e' && rest.head? ≠ some 'E' && !negative then
          .ok ⟨.int n, rest, hrest⟩
        -- a zero keeps its minus only as a double
        else if left = [] && rest.head? ≠ some 'e' && rest.head? ≠ some 'E' && n ≠ 0 && n ≤ 0x8000000000000000 then
          .ok ⟨.int (-n), rest, hrest⟩
        else
          (readScaled negative n left.length rest).map fun r =>
            ⟨r.1.1, r.1.2, Nat.lt_of_le_of_lt r.2 hrest⟩
    else .error ⟨.invalidNumber, c :: after, 1⟩

/-! ## Strings -/

def readHex (t : Text) : Except ReadError (Step Nat t) :=
  match t with
  | a :: b :: c :: d :: rest =>
    match Digits.hexValue? a, Digits.hexValue? b, Digits.hexValue? c, Digits.hexValue? d with
    | some a, some b, some c, some d =>
      .ok ⟨((a * 16 + b) * 16 + c) * 16 + d, rest, by simp only [List.length_cons]; omega⟩
    | _, _, _, _ => .error ⟨.invalidEscape, t, 4⟩
  | t => if Text.byteSize t < 4 then .error ⟨.endInString, [], 0⟩ else .error ⟨.invalidEscape, t, 4⟩

def readUnicode (t : Text) : Except ReadError (Step Char t) :=
  match readHex t with
  | .error e => .error e
  | .ok high =>
    -- the second half of a pair cannot come first
    if 0xDC00 ≤ high.value && high.value ≤ 0xDFFF then .error ⟨.loneSurrogate, high.rest, 0⟩
    else if high.value < 0xD800 || 0xDBFF < high.value then .ok (high.map Char.ofNat)
    else
      match hr : high.rest with
      | [] => .error ⟨.endInString, [], 0⟩
      | ['\\'] => .error ⟨.endInString, [], 0⟩
      | '\\' :: 'u' :: rest =>
        match readHex rest with
        | .error e => .error e
        | .ok low =>
          if low.value < 0xDC00 || 0xDFFF < low.value then .error ⟨.loneSurrogate, low.rest, 0⟩
          else
            .ok ⟨Char.ofNat ((high.value - 0xD800) * 0x400 + (low.value - 0xDC00) + 0x10000), low.rest,
              by
                have h₁ := high.shorter
                have h₂ := low.shorter
                rw [hr] at h₁
                simp only [List.length_cons] at h₁
                omega⟩
      | '\\' :: rest => .error ⟨.unfinishedSurrogatePair, rest, 1⟩
      | rest => .error ⟨.unfinishedSurrogatePair, rest, 1⟩

def shortEscape? (c : Char) : Option Char :=
  match c with
  | '"' => some '"'
  | '\\' => some '\\'
  | '/' => some '/'
  | 'b' => some '\x08'
  | 'f' => some '\x0c'
  | 'n' => some '\n'
  | 'r' => some '\r'
  | 't' => some '\t'
  | _ => none

def readEscape (t : Text) : Except ReadError (Step Char t) :=
  match t with
  | [] => .error ⟨.endInString, [], 0⟩
  | c :: rest =>
    match shortEscape? c with
    | some d => .ok ⟨d, rest, by simp⟩
    | none =>
      if c = 'u' then (readUnicode rest).map fun s => s.widen (by simp)
      else .error ⟨.invalidEscape, c :: rest, 1⟩

def readString (t : Text) : Except ReadError (Step Text t) :=
  match t with
  | [] => .error ⟨.endInString, [], 0⟩
  | c :: rest =>
    if c = '"' then .ok ⟨[], rest, by simp⟩
    else if c = '\\' then
      match readEscape rest with
      | .error e => .error e
      | .ok s =>
        have := s.shorter
        (readString s.rest).map fun tail =>
          ⟨s.value :: tail.value, tail.rest, by
            have := tail.shorter
            simp only [List.length_cons]
            omega⟩
    else if c.toNat < 0x20 then .error ⟨.controlInString, c :: rest, 1⟩
    else (readString rest).map fun tail =>
      ⟨c :: tail.value, tail.rest, Nat.lt_succ_of_lt tail.shorter⟩
termination_by t.length

/-! ## Values -/

/-- The items of an array up to its closing bracket; `first` says that none came before. -/
def readItems (item : (t : Text) → Except ReadError (Step Json t)) (first : Bool) (t : Text) :
    Except ReadError (Step (List Json) t) :=
  match h : skipBlanks t with
  | [] => .error ⟨.endInList, [], 0⟩
  | c :: rest =>
    have hrest := length_lt_of_skipBlanks h
    if c = ']' then .ok ⟨[], rest, hrest⟩
    else if !first && c ≠ ',' then .error ⟨.listCommaOrEndExpected, c :: rest, 1⟩
    else
      let start := if first then t else rest
      have hstart : start.length ≤ t.length := by
        simp only [start]
        split <;> omega
      match first, skipBlanks rest with
      | false, [] => .error ⟨.endInValue, [], 0⟩
      | false, ']' :: rest => .error ⟨.trailingComma, ']' :: rest, 1⟩
      | _, _ =>
        match item start with
        | .error e => .error e
        | .ok s =>
          have := s.shorter
          (readItems item false s.rest).map fun tail =>
            ⟨s.value :: tail.value, tail.rest, by
              have := tail.shorter
              omega⟩
termination_by t.length

def readMember (item : (t : Text) → Except ReadError (Step Json t)) (t : Text) :
    Except ReadError (Step (Text × Json) t) :=
  match readString (t.drop 1) with
  | .error e => .error e
  | .ok name =>
    have hname : name.rest.length < t.length := by
      have := name.shorter
      rw [List.length_drop] at this
      omega
    match h : skipBlanks name.rest with
    | [] => .error ⟨.endInObject, [], 0⟩
    | c :: rest =>
      have hrest := length_lt_of_skipBlanks h
      if c = ':' then
        (item rest).map fun value =>
          ⟨(name.value, value.value), value.rest, by
            have := value.shorter
            omega⟩
      else .error ⟨.colonExpected, c :: rest, 1⟩

def readMembers (item : (t : Text) → Except ReadError (Step Json t)) (first : Bool) (t : Text) :
    Except ReadError (Step (List (Text × Json)) t) :=
  match h : skipBlanks t with
  | [] => .error ⟨.endInObject, [], 0⟩
  | c :: rest =>
    have hrest := length_lt_of_skipBlanks h
    if c = '}' then .ok ⟨[], rest, hrest⟩
    else if !first && c ≠ ',' then .error ⟨.objectCommaOrEndExpected, c :: rest, 1⟩
    else
      let start := if first then c :: rest else skipBlanks rest
      have hstart : start.length ≤ t.length := by
        have := length_skipBlanks_le rest
        simp only [start]
        split
        · simp only [List.length_cons]
          omega
        · omega
      match start with
      | [] => .error ⟨.endInValue, [], 0⟩
      | d :: after =>
        if d = '}' then .error ⟨.trailingComma, d :: after, 1⟩
        else if d ≠ '"' then .error ⟨.nameExpected, d :: after, 1⟩
        else
          match readMember item (d :: after) with
          | .error e => .error e
          | .ok s =>
            have := s.shorter
            (readMembers item false s.rest).map fun tail =>
              ⟨s.value :: tail.value, tail.rest, by
                have := tail.shorter
                omega⟩
termination_by t.length

/-- The value at the start of the text, in which arrays and objects nest at most `depth` deep. -/
def readValue (depth : Nat) (t : Text) : Except ReadError (Step Json t) :=
  match h : skipBlanks t with
  | [] => .error ⟨.endInValue, [], 0⟩
  | c :: rest =>
    have hrest := length_lt_of_skipBlanks h
    let word (word : String) (value : Json) : Except ReadError (Step Json t) :=
      match hw : readWord word.toList rest with
      | .error e => .error e
      | .ok after => .ok ⟨value, after, Nat.lt_of_le_of_lt (length_of_readWord hw) hrest⟩
    if c = 'n' then word "ull" .null
    else if c = 't' then word "rue" (.bool true)
    else if c = 'f' then word "alse" (.bool false)
    else if c = '-' then
      (readNumber true rest).map fun s => (s.map Json.number).widen (Nat.le_of_lt hrest)
    else if c.isDigit then
      (readNumber false (c :: rest)).map fun s => (s.map Json.number).widen hrest
    else if c = '"' then
      (readString rest).map fun s => (s.map Json.string).widen (Nat.le_of_lt hrest)
    else if c = '[' then
      match depth with
      | 0 => .error ⟨.tooDeep, c :: rest, 1⟩
      | depth + 1 =>
        (readItems (readValue depth) true rest).map fun s =>
          (s.map Json.array).widen (Nat.le_of_lt hrest)
    else if c = '{' then
      match depth with
      | 0 => .error ⟨.tooDeep, c :: rest, 1⟩
      | depth + 1 =>
        (readMembers (readValue depth) true rest).map fun s =>
          (s.map fun members => Json.object (NamedList.ofList members)).widen (Nat.le_of_lt hrest)
    else .error ⟨.valueExpected, c :: rest, 1⟩

def maxDepth : Nat := 127

def read (t : Text) : Except ReadError Json :=
  match readValue maxDepth t with
  | .error e => .error e
  | .ok s =>
    match skipBlanks s.rest with
    | [] => .ok s.value
    | c :: rest => .error ⟨.trailingCharacters, c :: rest, 1⟩

end Folio.Json
