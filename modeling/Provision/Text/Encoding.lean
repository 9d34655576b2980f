import Provision.Text.Quoted

/-!
Texts as bytes, and bytes as texts.

An encoding gives the bytes of every character that it has. What is done about the others is said by
a name; to be strict is to say where the first of them are (`Unencodable`). In the same way bytes
are read, where it is told apart in what way they are wrong (`Undecodable`).
-/

namespace Provision.Text

/-- The encodings. -/
inductive Encoding where
  | utf8
  | ascii
  | latin1
  deriving DecidableEq

/-- The encoding of a name. -/
def Encoding.ofName? (name : String) : Option Encoding :=
  let plain := (name.toLower.replace "_" "-").replace " " "-"
  if ["utf-8", "utf8", "u8", "utf", "cp65001", "utf8-ucs2"].contains plain then some .utf8
  else if ["ascii", "us-ascii", "646", "ansi-x3.4-1968", "ansi-x3-4-1968"].contains plain then
    some .ascii
  else if ["latin-1", "latin1", "iso-8859-1", "iso8859-1", "8859", "cp819", "l1", "latin"].contains
      plain then some .latin1
  else none

/-- The name by which an encoding is spoken of. -/
def Encoding.name : Encoding → String
  | .utf8 => "utf-8"
  | .ascii => "ascii"
  | .latin1 => "latin-1"

/-- The first code point that an encoding does not have. -/
def Encoding.limit : Encoding → Nat
  | .utf8 => 0x110000
  | .ascii => 128
  | .latin1 => 256

/-- The bytes of a character. -/
def Encoding.bytesOf (e : Encoding) (c : Char) : List Nat :=
  match e with
  | .utf8 => (String.singleton c).toUTF8.toList.map (·.toNat)
  | _ => [c.toNat]

/-- A character that an encoding does not have, by its code. -/
def codeEscape (c : Char) : String :=
  if c.toNat < 0x100 then "\\x" ++ hexDigits 2 c.toNat
  else if c.toNat < 0x10000 then "\\u" ++ hexDigits 4 c.toNat
  else "\\U" ++ hexDigits 8 c.toNat

/-- Where the first characters are that an encoding does not have. -/
structure Unencodable where
  start : Nat
  stop : Nat

/-- What is written in the place of a character that an encoding does not have, by the name of what
is to be done; there is nothing if that is to be strict or is not known. -/
def replacement? (handling : String) (c : Char) : Option String :=
  match handling with
  | "ignore" => some ""
  | "replace" => some "?"
  | "backslashreplace" => some (codeEscape c)
  | "xmlcharrefreplace" => some ("&#" ++ toString c.toNat ++ ";")
  | _ => none

/-- The bytes of a text, or where it cannot be encoded. -/
def Encoding.encode (e : Encoding) (handling : String) (s : String) :
    Except Unencodable (List Nat) :=
  let foreign (c : Char) : Bool := c.toNat ≥ e.limit
  let cs := s.toList
  let before := cs.takeWhile fun c => !(foreign c && (replacement? handling c).isNone)
  if before.length < cs.length then
    let run := (cs.drop before.length).takeWhile foreign
    .error ⟨before.length, before.length + run.length⟩
  else
    .ok <| cs.flatMap fun c =>
      if foreign c then ((replacement? handling c).getD "").toList.map Char.toNat else e.bytesOf c

/-- Where bytes stand for nothing in an encoding, and why. -/
structure Undecodable where
  start : Nat
  stop : Nat
  reason : String

/-- The first character of bytes from a position on, with the number of its bytes, or why there is
none. -/
def Encoding.next (e : Encoding) (position : Nat) (bytes : List Nat) :
    Except Undecodable (Char × Nat) :=
  let first := bytes.headD 0
  let fault (count : Nat) (reason : String) : Except Undecodable (Char × Nat) :=
    .error ⟨position, position + count, reason⟩
  match e with
  | .latin1 => .ok (Char.ofNat first, 1)
  | .ascii =>
    if first < 128 then .ok (Char.ofNat first, 1) else fault 1 "ordinal not in range(128)"
  | .utf8 =>
    if first < 0x80 then .ok (Char.ofNat first, 1)
    else if first < 0xc2 || first > 0xf4 then fault 1 "invalid start byte"
    else
      let more := if first < 0xe0 then 1 else if first < 0xf0 then 2 else 3
      let low := if first = 0xe0 then 0xa0 else if first = 0xf0 then 0x90 else 0x80
      let high := if first = 0xed then 0x9f else if first = 0xf4 then 0x8f else 0xbf
      let following := (bytes.drop 1).take more
      let good := following.zipIdx.takeWhile fun b =>
        if b.2 = 0 then low ≤ b.1 && b.1 ≤ high else 0x80 ≤ b.1 && b.1 ≤ 0xbf
      if good.length = more then
        let top := first - (if more = 1 then 0xc0 else if more = 2 then 0xe0 else 0xf0)
        .ok (Char.ofNat (following.foldl (fun n b => n * 64 + (b - 0x80)) top), more + 1)
      else if good.length = following.length then
        fault (bytes.length) "unexpected end of data"
      else fault (good.length + 1) "invalid continuation byte"

/-- What is read in the place of bytes that stand for nothing, by the name of what is to be done;
there is nothing if that is to be strict or is not known. -/
def substitute? (handling : String) (bytes : List Nat) : Option (List Char) :=
  match handling with
  | "ignore" => some []
  | "replace" => some [Char.ofNat 0xfffd]
  | "backslashreplace" =>
    some (bytes.flatMap fun b => (codeEscape (Char.ofNat b)).toList)
  | _ => none

/-- The text of bytes, or where they cannot be decoded. -/
def Encoding.decode (e : Encoding) (handling : String) (bytes : List Nat) :
    Except Undecodable String :=
  (go bytes.length 0 bytes).map String.ofList
where
  /-- Goes on from a position, in at most so many steps. -/
  go : Nat → Nat → List Nat → Except Undecodable (List Char)
    | 0, _, _ | _, _, [] => .ok []
    | fuel + 1, position, bytes =>
      match e.next position bytes with
      | .ok (c, size) => (go fuel (position + size) (bytes.drop size)).map (c :: ·)
      | .error fault =>
        let size := fault.stop - fault.start
        match substitute? handling (bytes.take size) with
        | some cs => (go fuel (position + size) (bytes.drop size)).map (cs ++ ·)
        | none => .error fault

/-- A quoted text with nothing but plain characters. -/
def quotedPlain (quoted : String) : String :=
  String.join (quoted.toList.map fun c => if c.toNat < 128 then c.toString else codeEscape c)

end Provision.Text
