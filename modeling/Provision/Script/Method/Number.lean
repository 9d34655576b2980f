import Provision.Script.Method.Bytes

/-!
Methods of numbers; a truth value counts as 0 or 1.

Division rounds down, and a remainder has the sign of the divisor. A negative number stands for
infinitely many bits, of which all but finitely many are set.
-/

namespace Provision.Script

/-! ### Bits -/

/-- The bits that are set in both of two numbers. -/
def bitAnd : Int → Int → Int
  | .ofNat a, .ofNat b => (a &&& b : Nat)
  | .ofNat a, .negSucc b => (a - (a &&& b) : Nat)
  | .negSucc a, .ofNat b => (b - (b &&& a) : Nat)
  | .negSucc a, .negSucc b => .negSucc (a ||| b)

/-- The bits that are set in one of two numbers. -/
def bitOr (a b : Int) : Int := -(bitAnd (-a - 1) (-b - 1)) - 1

/-- The bits that are set in just one of two numbers. -/
def bitXor (a b : Int) : Int := bitAnd (bitOr a b) (-(bitAnd a b) - 1)

/-- How many bits of a number are set. -/
def bitCount : Nat → Nat → Nat
  | 0, _ => 0
  | fuel + 1, n => if n = 0 then 0 else n % 2 + bitCount fuel (n / 2)

/-- How many bits a number has. -/
def bitLength (n : Nat) : Nat := if n = 0 then 0 else Nat.log2 n + 1

example : bitAnd (-6) 11 = 10 ∧ bitOr (-6) 11 = -5 ∧ bitXor (-6) 11 = -15 := by decide

/-! ### Rounding -/

/-- A number rounded to a multiple of another one; a half goes to the even multiple. -/
def roundTo (n unit : Int) : Int :=
  let q := Int.fdiv n unit
  let twice := 2 * Int.fmod n unit
  let up := twice > unit || twice = unit && Int.fmod q 2 = 1
  (if up then q + 1 else q) * unit

example : roundTo 25 10 = 20 ∧ roundTo 35 10 = 40 ∧ roundTo (-25) 10 = -20 := by decide

/-! ### Operators -/

/-- What an operator makes of two numbers; dividing by zero has none. -/
def arithmetic? (name : String) (a b : Int) : Option (Except String Int) :=
  let divided (why : String) (x : Int) : Option (Except String Int) :=
    some (if b = 0 then .error why else .ok x)
  match name with
  | "__add__" => some (.ok (a + b))
  | "__sub__" => some (.ok (a - b))
  | "__mul__" => some (.ok (a * b))
  | "__floordiv__" => divided "integer division or modulo by zero" (Int.fdiv a b)
  | "__mod__" => divided "integer modulo by zero" (Int.fmod a b)
  | "__and__" => some (.ok (bitAnd a b))
  | "__or__" => some (.ok (bitOr a b))
  | "__xor__" => some (.ok (bitXor a b))
  | _ => none

/-- The bytes of a number, the last one first. -/
def bytesFromEnd : Nat → Nat → List Nat
  | 0, _ => []
  | size + 1, n => n % 256 :: bytesFromEnd size (n / 256)

/-- Whether bytes begin with the one that counts most. -/
def countsDown (method : String) (v : Value) : Act Bool := do
  match v with
  | .text "big" => return true
  | .text "little" => return false
  | .text _ => complain .value "byteorder must be either 'little' or 'big'"
  | v =>
    complain .type (method ++ "() argument 'byteorder' must be str, not " ++ (← get).typeName v)

/-- The bytes of a number. -/
def numberBytes (p : Performer) (n : Int) (args : List Value) (named : Named) : Act Value := do
  let params := [optional "length" (.int 1), optional "byteorder" (.text "big"),
    optional "signed" (.bool false)]
  if args.length > 2 then
    complain .type ("to_bytes() takes at most 2 positional arguments (" ++ toString args.length ++
      " given)")
  match ← methodArguments "to_bytes" params args named with
  | [length, order, signed] =>
    let size ← sizeOf p length
    let down ← countsDown "to_bytes" order
    let signed ← p.truth signed
    if size < 0 then complain .value "length argument must be non-negative"
    if n < 0 && !signed then complain .overflow "can't convert negative int to unsigned"
    if size > memoryLimit then raise .memory []
    let size := size.toNat
    let limit := 8 * size - (if signed then 1 else 0)
    let most := (if n < 0 then (-n - 1).toNat else n.toNat)
    if bitLength most > limit then complain .overflow "int too big to convert"
    let bytes := bytesFromEnd size (Int.fmod n (Int.pow 256 size)).toNat
    alloc (.bytes (if down then bytes.reverse else bytes))
  | _ => return .none

/-- A power of a number, if there is one among the whole numbers. -/
def powerOf (a b : Int) (modulus : Value) : Act Value := do
  match World.number? modulus with
  | some 0 => complain .value "pow() 3rd argument cannot be 0"
  | some m =>
    if b < 0 then complain .value "base is not invertible for the given modulus"
    return .int (Int.fmod (a.pow b.toNat) m)
  | none =>
    if b < 0 then notImplemented else return .int (a.pow b.toNat)

/-- The methods of numbers. -/
def numberMember (p : Performer) (n : Int) (name : String) (args : List Value) (named : Named) :
    Act Value := do
  match name, args with
  | "bit_length", [] => return .int (bitLength n.natAbs)
  | "bit_count", [] => return .int (bitCount (n.natAbs + 1) n.natAbs)
  | "conjugate", [] | "__int__", [] | "__index__", [] | "__trunc__", [] | "__floor__", []
  | "__ceil__", [] | "__pos__", [] | "__round__", [] => return .int n
  | "__round__", [places] =>
    let k ← wholeOf p places
    return .int (if k ≥ 0 then n else roundTo n (Int.pow 10 (-k).toNat))
  | "__neg__", [] => return .int (-n)
  | "__abs__", [] => return .int n.natAbs
  | "__invert__", [] => return .int (-n - 1)
  | "__bool__", [] => return .bool (n != 0)
  | "as_integer_ratio", [] => newTuple [.int n, .int 1]
  | "to_bytes", _ => numberBytes p n args named
  | "__getnewargs__", [] => newTuple [.int n]
  | "__sizeof__", [] => return .int 28
  | "__format__", [.text spec] => return .text (← nativeFormat p (.int n) spec)
  | "__format__", [v] =>
    complain .type ("__format__() argument must be str, not " ++ (← get).typeName v)
  | "__pow__", v :: rest =>
    match World.number? v with
    | some m => powerOf n m (rest.head?.getD .none)
    | none => notImplemented
  | "__rpow__", v :: rest =>
    match World.number? v with
    | some m => powerOf m n (rest.head?.getD .none)
    | none => notImplemented
  | name, [v] =>
    match World.number? v with
    | none => notImplemented
    | some m =>
      let (base, a, b) := match exchanged? name with
        | some base => (base, m, n)
        | none => (name, n, m)
      match arithmetic? base a b with
      | some (.ok x) => return .int x
      | some (.error why) => complain .zeroDivision why
      | none =>
        match base with
        | "__divmod__" =>
          if b = 0 then complain .zeroDivision "integer division or modulo by zero"
          newTuple [.int (Int.fdiv a b), .int (Int.fmod a b)]
        | "__lshift__" =>
          if b < 0 then complain .value "negative shift count"
          return .int (a * Int.pow 2 b.toNat)
        | "__rshift__" =>
          if b < 0 then complain .value "negative shift count"
          return .int (Int.fdiv a (Int.pow 2 b.toNat))
        | "__truediv__" =>
          if b = 0 then complain .zeroDivision "division by zero" else notImplemented
        | _ => wrongCount "int" name args
  | _, _ => wrongCount "int" name args

/-- The methods that truth values have on their own: with each other they give a truth value. -/
def truthMember (p : Performer) (b : Bool) (name : String) (args : List Value) (named : Named) :
    Act Value := do
  let plain := ((exchanged? name).getD name)
  match plain, args with
  | "__and__", [.bool c] => return .bool (b && c)
  | "__or__", [.bool c] => return .bool (b || c)
  | "__xor__", [.bool c] => return .bool (b != c)
  | _, _ => numberMember p (if b then 1 else 0) name args named

/-- The number that bytes stand for. -/
def numberFromBytes (p : Performer) (args : List Value) (named : Named) : Act Value := do
  let params := [required "bytes", optional "byteorder" (.text "big"),
    optional "signed" (.bool false)]
  if args.length > 2 then
    complain .type ("from_bytes() takes at most 2 positional arguments (" ++
      toString args.length ++ " given)")
  match ← methodArguments "from_bytes" params args named with
  | [v, order, signed] =>
    let down ← countsDown "from_bytes" order
    let signed ← p.truth signed
    let bytes ← bytesFrom p v
    let bytes := if down then bytes else bytes.reverse
    let n := bytes.foldl (fun (n : Nat) b => n * 256 + b) 0
    let limit : Nat := Nat.pow 2 (8 * bytes.length)
    return .int (if signed && 2 * n ≥ limit then (n : Int) - limit else n)
  | _ => return .none

end Provision.Script
