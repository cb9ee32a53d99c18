/-
What scalars with tags stand for.

A tag gives the kind of a scalar, where its form alone would make it another one or
none: with the tag of texts every scalar is a text, and with that of dates one in
quotes can be a date.  The forms of numbers are wider than those of plain scalars, since
nothing else has to be told from them.  Sets and lists with names are kinds that a
setting cannot be, and refused.
-/
import RowShell.Text.Base64
import RowShell.Yaml.Plain
import RowShell.Yaml.Tag

namespace RowShell.Yaml.Tagged

open Text Numeral

/-- A truth value by one of its words, in any case. -/
def bool (cs : List Char) : Except Refusal Value :=
  let word := String.ofList (cs.map Char.toLower)
  if word ∈ Plain.trueWords then .ok (.bool true)
  else if word ∈ Plain.falseWords then .ok (.bool false)
  else .error (.scalar .unknownWord)

/-- What follows a sign, of a text without underscores; a number has to have a character. -/
def spanSign (cs : List Char) : Except Refusal (Bool × List Char) :=
  match Plain.withoutUnderscores cs with
  | [] => .error (.scalar .blankNumber)
  | cs => .ok (Numeral.spanSign cs)

/-- A whole number in base ten, with blanks around it. -/
def wholePlace (cs : List Char) : Except Refusal Int :=
  match readInt? (trim cs) with
  | some n => .ok n
  | none => .error (.scalar .unreadable)

/-- A whole number: as a plain one, or with blanks around it, or with places of any size. -/
def int (cs : List Char) : Except Refusal Value := do
  let (negative, rest) ← spanSign cs
  let magnitude ← match Plain.magnitude? (trimEnd rest) with
    | some n => (fun n : Nat => (n : Int)) <$> n
    | none =>
      match rest with
      | [] => .error (.scalar .blankNumber)
      | '0' :: _ => .error (.scalar .unreadable)
      | rest => do
        let places ← (rest.splitOnP (· == ':')).mapM wholePlace
        pure (places.foldl (fun n place => 60 * n + place) 0)
  return .int (if negative then -magnitude else magnitude)

/-- A number that takes up a whole text, with blanks around it. -/
def floatPlace (cs : List Char) : Except Refusal Binary64 :=
  let (negative, word) := Numeral.spanSign (trim cs)
  if String.ofList word ∈ ["inf", "infinity"] then .ok (.infinity negative)
  else if String.ofList word == "nan" then .ok .nan
  else match Leading.number? (trim cs) with
    | some (x, []) => .ok x
    | _ => .error (.scalar .unreadable)

/-- A number with or without a point. -/
def float (cs : List Char) : Except Refusal Value := do
  let (negative, rest) ← spanSign (cs.map Char.toLower)
  let x ←
    if String.ofList rest == ".inf" then pure (.infinity false)
    else if String.ofList rest == ".nan" then pure .nan
    else do
      match ← (rest.splitOnP (· == ':')).mapM floatPlace with
      | [x] => pure x
      | places => Plain.addPlaces 1 (.zero false) places.reverse
  return .float (Plain.withSign negative x)

/-- A date, which a line feed may follow. -/
def date (cs : List Char) : Except Refusal Value :=
  (Plain.date? (Plain.line cs)).getD (.error (.scalar .formless))

/-- Bytes in base 64. -/
def binary (cs : List Char) : Except Refusal Value :=
  if cs.all (·.toNat < 0x80) then
    match Base64.bytes? cs with
    | some data => .ok (.bytes data)
    | none => .error .malformed
  else .error .malformed

/-- The value of a text by the kind that its tag gives. -/
def value (kind : String) (cs : List Char) : Except Refusal Value :=
  match kind with
  | "null" => .ok .null
  | "bool" => bool cs
  | "int" => int cs
  | "float" => float cs
  | "timestamp" => date cs
  | "binary" => binary cs
  | "str" => .ok (.text (String.ofList cs))
  | _ => .error .malformed

end RowShell.Yaml.Tagged
