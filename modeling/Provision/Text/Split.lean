/-!
Taking texts apart: by a separator, at blanks, and into lines; and looking for parts.

Everything works on lists of characters. A number of cuts may be given; without one, there are as
many as possible. Which characters are blank or end a line is an argument, as texts and bytes differ
in it.
-/

namespace Provision.Text

/-! ### Parts -/

/-- The places at which one text occurs in another, from a position on; they may overlap. -/
def occurrences (part : List Char) : Nat → List Char → List Nat
  | i, [] => if part.isEmpty then [i] else []
  | i, c :: rest =>
    let later := occurrences part (i + 1) rest
    if part.isPrefixOf (c :: rest) then i :: later else later

/-- Places that are each at least a distance behind the one before. -/
def apart (distance : Nat) : Nat → List Nat → List Nat
  | _, [] => []
  | least, i :: rest =>
    if i < least then apart distance least rest else i :: apart distance (i + distance) rest

/-- The places at which a text occurs in another without overlap. -/
def separateOccurrences (part cs : List Char) : List Nat :=
  apart (max 1 part.length) 0 (occurrences part 0 cs)

/-- The place of a part between two places, the first or the last one. -/
def findBetween (back : Bool) (start stop : Nat) (cs part : List Char) : Option Nat :=
  if start > min stop cs.length then none
  else
    let places := occurrences part start ((cs.take stop).drop start)
    if back then places.getLast? else places.head?

/-- How often a part is between two places without overlap. -/
def countBetween (start stop : Nat) (cs part : List Char) : Nat :=
  if start > min stop cs.length then 0
  else (separateOccurrences part ((cs.take stop).drop start)).length

/-- Whether what is between two places begins with a part, or ends with it. -/
def hasEndBetween (back : Bool) (start stop : Nat) (cs part : List Char) : Bool :=
  let slice := (cs.take stop).drop start
  start + part.length ≤ min stop cs.length &&
    if back then part.reverse.isPrefixOf slice.reverse else part.isPrefixOf slice

/-- A text cut at some places, each cut taking some characters out. -/
def cutAt (width : Nat) (places : List Nat) (cs : List Char) : List (List Char) :=
  go 0 places cs
where
  /-- Goes on from a position. -/
  go (i : Nat) : List Nat → List Char → List (List Char)
    | [], cs => [cs]
    | k :: rest, cs => cs.take (k - i) :: go (k + width) rest (cs.drop (k - i + width))

/-- As many of some places as there may be cuts. -/
def firstCuts (cuts : Option Nat) (places : List Nat) : List Nat :=
  match cuts with
  | some n => places.take n
  | none => places

/-- The parts of a text between separators. -/
def splitBy (separator : List Char) (cuts : Option Nat) (cs : List Char) : List (List Char) :=
  cutAt separator.length (firstCuts cuts (separateOccurrences separator cs)) cs

/-- The parts of a text between separators, where the last ones count first. -/
def splitByBack (separator : List Char) (cuts : Option Nat) (cs : List Char) :
    List (List Char) :=
  ((splitBy separator.reverse cuts cs.reverse).map List.reverse).reverse

/-- A text with its parts of some form replaced. -/
def replaceParts (part other : List Char) (cuts : Option Nat) (cs : List Char) : List Char :=
  if part.isEmpty then
    let places := firstCuts cuts (List.range (cs.length + 1))
    cs.zipIdx.flatMap (fun e => if places.contains e.2 then other ++ [e.1] else [e.1]) ++
      if places.contains cs.length then other else []
  else (splitBy part cuts cs).intersperse other |>.flatten

/-- The words of a text between blanks, found in at most so many steps. -/
def words (blank : Char → Bool) : Nat → List Char → List (List Char)
  | 0, _ => []
  | fuel + 1, cs =>
    let cs := cs.dropWhile blank
    if cs.isEmpty then []
    else
      let word := cs.takeWhile (!blank ·)
      word :: words blank fuel (cs.drop word.length)

/-- The words of a text, where only the first cuts are made. The last part keeps the blanks at its
end. -/
def splitBlank (blank : Char → Bool) (cuts : Option Nat) (cs : List Char) : List (List Char) :=
  match cuts with
  | none => words blank (cs.length + 1) cs
  | some n => go n cs
where
  /-- Goes on with so many cuts. -/
  go : Nat → List Char → List (List Char)
    | 0, cs =>
      let cs := cs.dropWhile blank
      if cs.isEmpty then [] else [cs]
    | n + 1, cs =>
      let cs := cs.dropWhile blank
      if cs.isEmpty then []
      else
        let word := cs.takeWhile (!blank ·)
        word :: go n (cs.drop word.length)

/-- The words of a text, where only the last cuts are made. -/
def splitBlankBack (blank : Char → Bool) (cuts : Option Nat) (cs : List Char) :
    List (List Char) :=
  ((splitBlank blank cuts cs.reverse).map List.reverse).reverse

/-- The lines of a text, with the characters that end them if these are kept. -/
def linesOf (ends : Char → Bool) (keep : Bool) : Nat → List Char → List (List Char)
  | 0, _ => []
  | _, [] => []
  | fuel + 1, cs =>
    let line := cs.takeWhile (!ends ·)
    let (mark, rest) := match cs.drop line.length with
      | '\r' :: '\n' :: rest => (['\r', '\n'], rest)
      | c :: rest => ([c], rest)
      | [] => ([], [])
    (if keep then line ++ mark else line) :: linesOf ends keep fuel rest

/-! ### Ends and widths -/

/-- A text without the characters of some kind at its beginning and its end. -/
def trimmed (front back : Bool) (drops : Char → Bool) (cs : List Char) : List Char :=
  let cs := if front then cs.dropWhile drops else cs
  if back then (cs.reverse.dropWhile drops).reverse else cs

/-- A text without a part at its beginning. -/
def withoutStart (part cs : List Char) : List Char :=
  if part.isPrefixOf cs then cs.drop part.length else cs

/-- A text without a part at its end. -/
def withoutEnd (part cs : List Char) : List Char := (withoutStart part.reverse cs.reverse).reverse

/-- A text with its tabs filled up to the next column that is a multiple of a width. -/
def expandTabs (width : Nat) : Nat → List Char → List Char
  | _, [] => []
  | column, c :: rest =>
    if c = '\t' then
      let n := if width = 0 then 0 else width - column % width
      List.replicate n ' ' ++ expandTabs width (column + n) rest
    else if c = '\n' || c = '\r' then c :: expandTabs width 0 rest
    else c :: expandTabs width (column + 1) rest

/-- A text filled up to a width on both sides; the odd character is put on the left if the width is
odd. -/
def centered (width : Nat) (fill : Char) (cs : List Char) : List Char :=
  let missing := width - cs.length
  let left := missing / 2 + (if missing % 2 = 1 && width % 2 = 1 then 1 else 0)
  List.replicate left fill ++ cs ++ List.replicate (missing - left) fill

/-- A text with zeros behind its sign up to a width. -/
def zeroFilled (width : Nat) (cs : List Char) : List Char :=
  let zeros := List.replicate (width - cs.length) '0'
  match cs with
  | '+' :: rest => '+' :: zeros ++ rest
  | '-' :: rest => '-' :: zeros ++ rest
  | cs => zeros ++ cs

example : splitBy [','] (some 1) "a,b,,c".toList = ["a".toList, "b,,c".toList] := by
  decide +kernel

example : replaceParts [] ['-'] none "ab".toList = "-a-b-".toList := by decide +kernel

end Provision.Text
