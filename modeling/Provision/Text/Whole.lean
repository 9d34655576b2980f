import Provision.Text.Blank
import Provision.Text.Numeral

/-!
Reading whole numbers.

A number may have blanks around it, a sign in front, and single underscores between its digits. In
some bases the digits may follow a mark of the base, such as `0x` (`readWhole`).
-/

namespace Provision.Text

/-- The value of a digit; letters count on from nine. -/
def digitValue? (c : Char) : Option Nat :=
  match decimalValue? c with
  | some n => some n
  | none =>
    if 'a' ≤ c && c ≤ 'z' then some (c.toNat - 'a'.toNat + 10)
    else if 'A' ≤ c && c ≤ 'Z' then some (c.toNat - 'A'.toNat + 10)
    else none

/-- The number that digits in a base stand for, given what comes before them; a single underscore may
stand between two digits. -/
def readDigits (base : Nat) : Nat → List Char → Option Nat
  | n, [] => some n
  | n, '_' :: c :: rest =>
    match digitValue? c with
    | some d => if d < base then readDigits base (n * base + d) rest else none
    | none => none
  | n, c :: rest =>
    match digitValue? c with
    | some d => if d < base then readDigits base (n * base + d) rest else none
    | none => none

/-- The base that the mark in front of digits stands for, and what follows the mark. -/
def markedBase? : List Char → Option (Nat × List Char)
  | '0' :: c :: rest =>
    let rest := match rest with
      | '_' :: more => more
      | _ => rest
    match c.toLower with
    | 'x' => some (16, rest)
    | 'o' => some (8, rest)
    | 'b' => some (2, rest)
    | _ => none
  | _ => none

/-- The number that a text stands for in a base; base 0 leaves it to the mark. -/
def readWhole (base : Nat) (s : String) : Option Int := do
  let cs := ((s.toList.dropWhile isBlank).reverse.dropWhile isBlank).reverse
  let (negative, cs) := match cs with
    | '-' :: rest => (true, rest)
    | '+' :: rest => (false, rest)
    | _ => (false, cs)
  let (base, digits) := match markedBase? cs with
    | some (marked, rest) => if base = marked || base = 0 then (marked, rest) else (base, cs)
    | none => (base, cs)
  let n ← match base, digits with
    | _, [] | _, '_' :: _ => none
    | 0, '0' :: rest => if rest.all fun c => c = '0' || c = '_' then readDigits 10 0 rest else none
    | 0, _ => readDigits 10 0 digits
    | base, _ => readDigits base 0 digits
  return if negative then -(n : Int) else n

example : readWhole 10 " -1_000 " = some (-1000) ∧ readWhole 10 "1__0" = none := by decide +kernel

example : readWhole 16 "0xFf" = some 255 ∧ readWhole 0 "0b101" = some 5 ∧ readWhole 10 "" = none := by
  decide +kernel

end Provision.Text
