/-!
# The shortest decimal that reads back

A finite binary number is shown with the fewest decimal digits that still tell it from its
neighbours, and of the decimals with that many digits, with the nearest.  All comparisons are made
with exact integers: the number and the two ends of the interval that rounds to it are written over
one power of two.

## Main definitions

* `Binary`: a finite binary number, exact
* `shortest`: the digits and the grid of the shortest decimal that reads back
* `Style.writeFloat`: the text of any float in a given style
-/

namespace RemoteSigner.Decimal

/-- A positive number `significand · 2 ^ exponent` together with the interval that rounds to it.
The lower half of the interval is half as wide where a power of two begins. -/
structure Binary where
  /-- The integer that is scaled. -/
  significand : Nat
  /-- The power of two that scales it. -/
  exponent : Int
  /-- Whether the neighbour below is half as far away as the neighbour above. -/
  atPower : Bool

namespace Binary

/-- The magnitude of a float from its 64 bits. -/
def ofBits (bits : Nat) : Binary :=
  let fraction := bits % (1 <<< 52)
  let exponent : Nat := bits / (1 <<< 52) % (1 <<< 11)
  if exponent = 0 then ⟨fraction, -1074, false⟩
  else ⟨(1 <<< 52) + fraction, (exponent : Int) - 1075, fraction == 0 && exponent != 1⟩

/-- `n · 2 ^ e · 10 ^ -k` as a fraction. -/
def scaled (n : Nat) (e k : Int) : Nat × Nat :=
  ((n <<< e.toNat) * Nat.pow 10 (-k).toNat, (1 <<< (-e).toNat) * Nat.pow 10 k.toNat)

/-- The power of ten that the number reaches: `10 ^ k ≤ x < 10 ^ (k + 1)`, searched downwards. -/
def magnitude (x : Binary) : Int :=
  let reaches (k : Int) : Bool := let (n, d) := scaled x.significand x.exponent k; d ≤ n
  ((List.range 640).map fun (i : Nat) => (309 : Int) - (i : Int)).find? reaches |>.getD 0

/-- Whether the decimal `digits · 10 ^ k` rounds to the number; the ends of the interval belong to
it if the significand is even. -/
def holds (x : Binary) (digits : Nat) (k : Int) : Bool :=
  let middle := 4 * x.significand
  let low := if x.atPower then middle - 1 else middle - 2
  let high := middle + 2
  let (lowN, den) := scaled low (x.exponent - 2) k
  let (highN, _) := scaled high (x.exponent - 2) k
  if x.significand % 2 = 0 then lowN ≤ digits * den && digits * den ≤ highN
  else lowN < digits * den && digits * den < highN

/-- The decimal on the grid of `10 ^ k` that rounds to the number, if there is one: the nearer of
two, the even one of two that are equally near. -/
def onGrid (x : Binary) (k : Int) : Option Nat :=
  let (n, d) := scaled x.significand x.exponent k
  let below := n / d
  let excess := n % d
  match x.holds below k, x.holds (below + 1) k with
  | false, false => none
  | true, false => some below
  | false, true => some (below + 1)
  | true, true =>
    if 2 * excess < d then some below
    else if d < 2 * excess then some (below + 1)
    else if below % 2 = 0 then some below else some (below + 1)

/-- The fewest digits that read back, with the power of ten that scales them. -/
def shortest (x : Binary) : Nat × Int :=
  let top := x.magnitude
  let grid (i : Nat) : Option (Nat × Int) := (x.onGrid (top - i)).map (·, top - i)
  ((List.range 17).findSome? grid).getD (0, 0)

end Binary

/-- The digits of a number that does not end in zero, and the power of ten for what was cut off. -/
def trimmed (digits : Nat) (k : Int) : Nat × Int :=
  let shown := (Nat.toDigits 10 digits).reverse
  let zeros := (shown.takeWhile (· == '0')).length
  (digits / Nat.pow 10 zeros, k + zeros)

/-- How the magnitude of a float is written in a message. -/
structure Style where
  /-- The least power of ten that is written positionally. -/
  least : Int
  /-- The greatest power of ten that is written positionally. -/
  greatest : Int

/-- Writes `digits · 10 ^ k`, with at least one digit on both sides of the point. -/
def Style.write (style : Style) (digits : Nat) (k : Int) : String :=
  let (digits, k) := trimmed digits k
  let shown := Nat.toDigits 10 digits
  let top := k + shown.length - 1
  if style.least ≤ top ∧ top ≤ style.greatest then
    if 0 ≤ k then String.ofList (shown ++ List.replicate k.toNat '0') ++ ".0"
    else if 0 ≤ top then
      let (whole, part) := shown.splitAt (top.toNat + 1)
      String.ofList whole ++ "." ++ String.ofList part
    else "0." ++ String.ofList (List.replicate (-top - 1).toNat '0' ++ shown)
  else
    let mantissa := match shown with
      | [] => ""
      | [c] => c.toString
      | c :: rest => c.toString ++ "." ++ String.ofList rest
    mantissa ++ (if top < 0 then "e-" else "e+") ++ top.natAbs.repr

/-- Writes a finite float. -/
def Style.writeFloat (style : Style) (x : Float) : String :=
  let bits := x.toBits.toNat
  let sign := if (1 <<< 63) ≤ bits then "-" else ""
  let magnitude := Binary.ofBits (bits % (1 <<< 63))
  if magnitude.significand = 0 then sign ++ "0.0"
  else
    let (digits, k) := magnitude.shortest
    sign ++ style.write digits k

end RemoteSigner.Decimal
