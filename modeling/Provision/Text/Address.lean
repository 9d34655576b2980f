/-!
Texts without addresses.

The text of an object may tell where the object is, as ` at 0x` and hexadecimal digits or as
` id='` and decimal digits between quotes. Such a part says nothing about the object itself, and
`withoutAddresses` leaves it out.
-/

namespace Provision.Text

/-- Whether a character is a lower-case hexadecimal digit. -/
def isHexDigit (c : Char) : Bool := c.isDigit || ('a' ≤ c && c ≤ 'f')

/-- What follows on a given beginning. -/
def after? : List Char → List Char → Option (List Char)
  | [], cs => some cs
  | _ :: _, [] => none
  | b :: bs, c :: cs => if b = c then after? bs cs else none

/-- What follows on at least one digit. -/
def afterDigits? (isDigit : Char → Bool) (cs : List Char) : Option (List Char) :=
  match cs.span isDigit with
  | ([], _) => none
  | (_, rest) => some rest

/-- What follows on an address. -/
def afterAddress? (cs : List Char) : Option (List Char) :=
  match after? " at 0x".toList cs with
  | some rest => afterDigits? isHexDigit rest
  | none =>
    (after? " id='".toList cs).bind fun rest =>
      (afterDigits? Char.isDigit rest).bind (after? ['\''])

/-- The characters outside of addresses, found in at most so many steps. -/
def outsideAddresses : Nat → List Char → List Char
  | 0, cs => cs
  | _, [] => []
  | n + 1, c :: cs =>
    match afterAddress? (c :: cs) with
    | some rest => outsideAddresses n rest
    | none => c :: outsideAddresses n cs

/-- A text without the addresses in it. -/
def withoutAddresses (s : String) : String :=
  String.ofList (outsideAddresses s.length s.toList)

example : withoutAddresses "<f at 0x7f12ab> and <g id='42'>" = "<f> and <g>" := by decide +kernel

example : withoutAddresses "meet at 0xG, id='x'" = "meet at 0xG, id='x'" := by decide +kernel

end Provision.Text
