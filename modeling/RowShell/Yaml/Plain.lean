/-
What plain scalars stand for.

The forms are those of YAML 1.1: a number may have underscores between its digits, be
binary, octal or hexadecimal, or be written in base sixty with colons, as times of day
are; a date may have a time of day and an offset.  A text that has none of these forms
and is not one of the words for null and the Booleans stands for itself.
-/
import RowShell.Number.Leading
import RowShell.Value.Basic
import RowShell.Yaml.Scalar

namespace RowShell.Yaml.Plain

open Text Numeral

def nullWords : List String := ["~", "null", "Null", "NULL", ""]

def trueWords : List String :=
  ["yes", "Yes", "YES", "true", "True", "TRUE", "on", "On", "ON"]

def falseWords : List String :=
  ["no", "No", "NO", "false", "False", "FALSE", "off", "Off", "OFF"]

/-- Words that stand for no value; they have a meaning as keys only. -/
def reservedWords : List String := ["=", "<<"]

/-- The value of a word. -/
def word? (s : String) : Option (Except Refusal Value) :=
  if s ∈ nullWords then some (.ok .null)
  else if s ∈ trueWords then some (.ok (.bool true))
  else if s ∈ falseWords then some (.ok (.bool false))
  else if s ∈ reservedWords then some (.error .malformed)
  else none

/-! ### Digits -/

/-- A digit or an underscore. -/
def isDigitOrUnderscore (c : Char) : Bool := isAsciiDigit c || c == '_'

/-- A text without its underscores. -/
def withoutUnderscores (cs : List Char) : List Char := cs.filter (· != '_')

/-- Digits and underscores that begin with a digit. -/
def isDigits (cs : List Char) : Bool :=
  cs.head?.any isAsciiDigit && cs.all isDigitOrUnderscore

/-- A place in base sixty: at most two digits, that denote less than sixty. -/
def isSixtieth : List Char → Bool
  | [c] => isAsciiDigit c
  | [c, d] => isAsciiDigit c && isAsciiDigit d && digitValue c < 6
  | _ => false

/-! ### Whole numbers -/

/-- The number of digits in a base, at least one. -/
def inBase (base : Nat) (cs : List Char) : Except Refusal Nat :=
  match withoutUnderscores cs with
  | [] => .error (.scalar .unreadable)
  | digits => .ok (digits.foldl (fun n c => base * n + (Json.hexValue? c).getD 0) 0)

/-- The number of a run of decimal digits. -/
def inTen (cs : List Char) : Except Refusal Nat :=
  match value? (withoutUnderscores cs) with
  | some n => .ok n
  | none => .error (.scalar .unreadable)

/-- The number of places in base sixty, the greatest first. -/
def inSixty : List (List Char) → Except Refusal Nat
  | [] => .ok 0
  | first :: places => do
    let first ← inTen first
    return places.foldl (fun n place => 60 * n + value place) first

/-- Whether all of a text that is not empty is of one class or an underscore. -/
def consistsOf (inClass : Char → Bool) (cs : List Char) : Bool :=
  !cs.isEmpty && cs.all fun c => inClass c || c == '_'

/-- A whole number without its sign. -/
def magnitude? (cs : List Char) : Option (Except Refusal Nat) :=
  match cs with
  | ['0'] => some (.ok 0)
  | '0' :: 'b' :: rest =>
    if consistsOf (fun c => c == '0' || c == '1') rest then some (inBase 2 rest) else none
  | '0' :: 'x' :: rest =>
    if consistsOf (fun c => (Json.hexValue? c).isSome) rest then some (inBase 16 rest) else none
  | '0' :: rest =>
    if consistsOf (fun c => '0' ≤ c && c ≤ '7') rest then some (inBase 8 cs) else none
  | cs =>
    match cs.splitOnP (· == ':') with
    | first :: places =>
      if isDigits first && places.all isSixtieth then some (inSixty (first :: places)) else none
    | [] => none

def whole? (cs : List Char) : Option (Except Refusal Value) :=
  let (negative, rest) := spanSign cs
  (magnitude? rest).map fun n => do return .int (signed negative (← n))

/-! ### Numbers with a point -/

/-- An exponent that takes up a whole text; its sign is not left out. -/
def exponent? : List Char → Option Int
  | [] => some 0
  | c :: sign :: digits =>
    if (c == 'e' || c == 'E') && (sign == '+' || sign == '-') && !digits.isEmpty &&
      digits.all isAsciiDigit
    then some (signed (sign == '-') (value digits))
    else none
  | [_] => none

/-- Digits before and after the point, and the exponent.  Without digits before the point
there is no sign, and a digit follows the point. -/
def decimal? (cs : List Char) : Option Binary64 :=
  let (negative, rest) := spanSign cs
  let whole := rest.takeWhile isDigitOrUnderscore
  match rest.drop whole.length with
  | '.' :: rest =>
    let fraction := rest.takeWhile isDigitOrUnderscore
    if isDigits whole || (cs.head? == some '.' && isDigits fraction) then
      (exponent? (rest.drop fraction.length)).map fun exponent =>
        let digits := withoutUnderscores fraction
        .ofDecimal negative (value (withoutUnderscores whole ++ digits))
          (exponent - digits.length)
    else none
  | _ => none

/-- The places of a number in base sixty with a point in its last place; the first place
holds any number, and the others less than sixty. -/
def sixtiethPlaces? (cs : List Char) : Option (List (List Char)) :=
  match cs.splitOnP (· == ':') with
  | first :: middle :: more =>
    let places := middle :: more
    let last := places.getLast?.getD []
    if isDigits first && places.dropLast.all isSixtieth &&
      isSixtieth (last.takeWhile isAsciiDigit) &&
      (last.dropWhile isAsciiDigit).head? == some '.' &&
      ((last.dropWhile isAsciiDigit).drop 1).all isDigitOrUnderscore
    then some (first :: places)
    else none
  | _ => none

/-- The product of two magnitudes, rounded. -/
def product : Binary64 → Binary64 → Binary64
  | .finite _ n, .finite _ m =>
    .ofRatio false (Binary64.units n * Binary64.units m)
      (Binary64.unitsPerOne * Binary64.unitsPerOne)
  | .finite _ _, x => x
  | x, _ => x

/-- The sum of two magnitudes, rounded. -/
def sum : Binary64 → Binary64 → Binary64
  | .finite _ n, .finite _ m =>
    .ofRatio false (Binary64.units n + Binary64.units m) Binary64.unitsPerOne
  | .finite _ _, x => x
  | x, _ => x

/-- Adds places in base sixty to a total, the least first; `scale` is what the first of
them counts.  A place that counts too much for a binary64 number is refused. -/
def addPlaces (scale : Nat) (total : Binary64) : List Binary64 → Except Refusal Binary64
  | [] => .ok total
  | place :: rest =>
    match Binary64.ofInt? scale with
    | some factor => addPlaces (60 * scale) (sum total (product place factor)) rest
    | none => .error (.scalar .tooGreat)

/-- A number, or its opposite. -/
def withSign (negative : Bool) : Binary64 → Binary64
  | .finite sign n => .finite (sign != negative) n
  | .infinity sign => .infinity (sign != negative)
  | .nan => .nan

def sixtieths? (cs : List Char) : Option (Except Refusal Binary64) :=
  let (negative, rest) := spanSign cs
  (sixtiethPlaces? rest).map fun places =>
    let values := places.reverse.map fun place =>
      (Leading.float? (String.ofList (withoutUnderscores place))).getD .nan
    (addPlaces 1 (.zero false) values).map (withSign negative)

/-- The numbers that have names. -/
def named? (cs : List Char) : Option Binary64 :=
  let (negative, rest) := spanSign cs
  if String.ofList rest ∈ [".inf", ".Inf", ".INF"] then some (.infinity negative)
  else if String.ofList cs ∈ [".nan", ".NaN", ".NAN"] then some .nan
  else none

def float? (cs : List Char) : Option (Except Refusal Binary64) :=
  ((decimal? cs).map .ok).or (sixtieths? cs)

/-! ### Dates -/

/-- Reads between `least` and `most` digits. -/
def number? (least most : Nat) (cs : List Char) : Option (Nat × List Char) :=
  let digits := (cs.take most).takeWhile isAsciiDigit
  if digits.length < least then none else some (value digits, cs.drop digits.length)

/-- Drops a character. -/
def drop? (c : Char) : List Char → Option (List Char)
  | first :: rest => if first == c then some rest else none
  | [] => none

/-- Reads a fraction of a second after its point, in microseconds. -/
def fraction (cs : List Char) : Nat × List Char :=
  match cs with
  | '.' :: rest =>
    let digits := (rest.takeWhile isAsciiDigit).take 6
    (value digits * 10 ^ (6 - digits.length), rest.dropWhile isAsciiDigit)
  | cs => (0, cs)

/-- The microseconds of an offset that takes up a whole text. -/
def offset? : List Char → Option Int
  | ['Z'] => some 0
  | sign :: rest => do
    if sign != '+' && sign != '-' then none
    else
      let (hour, rest) ← number? 1 2 rest
      match rest with
      | [] => return signed (sign == '-') (3600000000 * hour)
      | rest =>
        let (minute, rest) ← number? 2 2 (← drop? ':' rest)
        if rest.isEmpty then return signed (sign == '-') (60000000 * (60 * hour + minute)) else none
  | [] => none

/-- The fields of a date with a time as written: year to second, microseconds and offset. -/
structure Fields where
  year : Nat
  month : Nat
  day : Nat
  hour : Nat
  minute : Nat
  second : Nat
  micro : Nat
  offset : Option Int

/-- Reads a time of day after a date. -/
def timed? (year month day : Nat) (cs : List Char) : Option Fields := do
  let rest ← match cs with
    | 'T' :: rest => some rest
    | 't' :: rest => some rest
    | c :: rest => if isSpaceOrTab c then some (rest.dropWhile isSpaceOrTab) else none
    | [] => none
  let (hour, rest) ← number? 1 2 rest
  let (minute, rest) ← number? 2 2 (← drop? ':' rest)
  let (second, rest) ← number? 2 2 (← drop? ':' rest)
  let (micro, rest) := fraction rest
  match rest with
  | [] => return ⟨year, month, day, hour, minute, second, micro, none⟩
  | rest =>
    let zone ← offset? (rest.dropWhile isSpaceOrTab)
    return ⟨year, month, day, hour, minute, second, micro, some zone⟩

/-- The timestamp of fields, if there is one. -/
def Fields.timestamp? (fields : Fields) : Option Timestamp := do
  let date ← Date.of? fields.year fields.month fields.day
  let time ← TimeOfDay.of? fields.hour fields.minute fields.second fields.micro
  match fields.offset with
  | none => return ⟨date, time, none⟩
  | some micros => return ⟨date, time, some (← Offset.of? micros)⟩

def ofOption : Option Value → Except Refusal Value
  | some v => .ok v
  | none => .error (.scalar .unreadable)

/-- A date, alone or with a time, with a month and a day of one or two digits. -/
def date? (cs : List Char) : Option (Except Refusal Value) := do
  let (year, rest) ← number? 4 4 cs
  let (month, afterMonth) ← number? 1 2 (← drop? '-' rest)
  let (day, afterDay) ← number? 1 2 (← drop? '-' afterMonth)
  match afterDay with
  | [] => return ofOption ((Date.of? year month day).map .date)
  | rest => return ofOption ((← timed? year month day rest).timestamp?.map .timestamp)

/-- Whether a text is too short for a date with a month and a day of two digits.  A
shorter text has the form of a date only by its tag. -/
def isShort (cs : List Char) : Bool := cs.length < 10

/-! ### Values -/

/-- A text without the line feed at its end. -/
def line (cs : List Char) : List Char := if cs.getLast? == some '\n' then cs.dropLast else cs

/-- The value of a number or a date in digits. -/
def inDigits? (cs : List Char) : Option (Except Refusal Value) :=
  ((float? cs).map (·.map .float)).or
    ((whole? cs).or (if isShort cs then none else date? cs))

/-- The value of a text by its form. -/
def byForm? (cs : List Char) : Option (Except Refusal Value) :=
  (word? (String.ofList cs)).or (((named? cs).map fun x => .ok (.float x)).or (inDigits? cs))

/-- The value of a line by its form, the line feed included.  With it, a truth value and a
number that has a name are recognised, but not read. -/
def lineByForm? (line : List Char) : Option (Except Refusal Value) :=
  if line.isEmpty then none
  else
    match word? (String.ofList line), named? line with
    | some (.ok (.bool _)), _ => some (.error (.scalar .unknownWord))
    | some v, _ => some v
    | none, some _ => some (.error (.scalar .unreadable))
    | none, none => inDigits? line

/-- The value of a plain scalar; one in quotes or a block that is made plain may end with
a line feed. -/
def value (cs : List Char) : Except Refusal Value :=
  let form := if line cs != cs then lineByForm? (line cs) else byForm? cs
  form.getD (.ok (.text (String.ofList cs)))

end RowShell.Yaml.Plain
