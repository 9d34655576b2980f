/-!
Keys: what values are compared by when they serve as keys, and the hashes of keys.

Numbers hash to their remainders, tuples mix the hashes of their items in order, and frozen sets mix
them in any order. What else serves as a key has a hash of no particular meaning.
-/

namespace Provision.Script

/-- What is equal about equal values that may serve as keys. -/
inductive Key where
  | none
  | int (i : Int)
  | text (s : String)
  | bytes (items : List Nat)
  | tuple (items : List Key)
  | set (items : List Key)
  /-- A frozen record of a class, compared by its fields. -/
  | record (cls : String) (fields : List Key)
  | method (self function : Nat)
  | object (r : Nat)
  /-- An object whose hash is what a script says; such a one may be equal to other values. -/
  | chosen (hash : UInt64) (r : Nat)
  deriving BEq, Inhabited

namespace Key

/-- A number as 64 bits. -/
def wrapped (i : Int) : UInt64 := (Int.emod i 18446744073709551616).toNat.toUInt64

/-- The hash of a number: its remainder modulo the prime `2 ^ 61 - 1`, with its sign; no hash is
-1. -/
def ofNumber (i : Int) : UInt64 :=
  let n := Int.tmod i 2305843009213693951
  wrapped (if n = -1 then -2 else n)

/-- Bits turned to the left by 31 places. -/
def turned (x : UInt64) : UInt64 := (x <<< 31) ||| (x >>> 33)

/-- The hash of items in order. -/
def ofTuple (hashes : List UInt64) : UInt64 :=
  let start : UInt64 := 2870177450012600261
  let mixed := hashes.foldl
    (fun acc h => turned (acc + h * 14029467366897019727) * 11400714785074694791) start
  let counted : UInt64 := hashes.length.toUInt64 ^^^ (start ^^^ (3527539 : UInt64))
  if mixed + counted = 18446744073709551615 then 1546275796 else mixed + counted

/-- The hash of items in any order. -/
def ofSet (hashes : List UInt64) : UInt64 :=
  let spread (h : UInt64) : UInt64 := (h ^^^ (89869747 : UInt64) ^^^ (h <<< 16)) * 3644798167
  let mixed := hashes.foldl (fun acc h => acc ^^^ spread h) (0 : UInt64)
  let counted := mixed ^^^ ((hashes.length.toUInt64 + 1) * 1927868237)
  let folded := (counted ^^^ (counted >>> 11) ^^^ (counted >>> 25)) * 69069 + 907133923
  if folded = 18446744073709551615 then 590923713 else folded

/-- The hash of a key; the class of a record does not matter. -/
def hash : Key → UInt64
  | .none => 271828
  | .int i => ofNumber i
  | .text s => if s = "" then 0 else Hashable.hash s
  | .bytes items => if items.isEmpty then 0 else Hashable.hash items
  | .tuple items => ofTuple (items.map hash)
  | .set items => ofSet (items.map hash)
  | .record _ fields => ofTuple (314159 :: fields.map hash)
  | .method self function => Hashable.hash (self, function)
  | .object r => (16 * r).toUInt64
  | .chosen h _ => h

/-- The hash that a number chosen by a script stands for. -/
def ofChosen (i : Int) : UInt64 :=
  if i = -1 then wrapped (-2)
  else if -9223372036854775808 ≤ i && i < 9223372036854775808 then wrapped i
  else ofNumber i

/-- Whether a script may have a say in what a key is equal to. -/
def isPeculiar : Key → Bool
  | .chosen .. => true
  | .tuple items => (items.map isPeculiar).contains true
  | .set items => (items.map isPeculiar).contains true
  | .record _ fields => (fields.map isPeculiar).contains true
  | _ => false

/-- A hash as a number with a sign. -/
def signed (h : UInt64) : Int := Int.bmod h.toNat 18446744073709551616

/-- The key of a frozen set: its items in the order of their hashes. -/
def ofItems (items : List Key) : Key := .set (items.mergeSort fun a b => a.hash ≤ b.hash)

end Key

end Provision.Script
