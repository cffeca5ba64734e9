import RemoteSigner.Curve.Point
import RemoteSigner.Octets

/-!
# Points as octets

A first octet tells how much of the point follows: both coordinates, or the first one alone.
-/

namespace RemoteSigner.Curve

variable {c : Curve}

/-- The point with both coordinates. -/
def Point.encode (p : c.Point) : Bytes :=
  0x04 :: (Bytes.ofNatural c.size p.x ++ Bytes.ofNatural c.size p.y)

/-- The point with its first coordinate; the first octet tells whether the second one is odd. -/
def Point.compressed (p : c.Point) : Bytes :=
  (if p.y % 2 = 1 then 0x03 else 0x02) :: Bytes.ofNatural c.size p.x

/-- The point that the octets stand for.  Where nothing is said about the second coordinate, it is
the even one. -/
def decodePoint? (c : Curve) (bytes : Bytes) : Option c.Point :=
  match bytes with
  | [] => none
  | mark :: rest =>
    if mark = 0x04 then
      if rest.length = 2 * c.size then
        c.point? (Bytes.toNatural (rest.take c.size)) (Bytes.toNatural (rest.drop c.size))
      else none
    else if rest.length = c.size ∧ Bytes.toNatural rest < c.prime then
      if mark = 0x02 ∨ mark = 0x05 then c.liftX? (Bytes.toNatural rest) false
      else if mark = 0x03 then c.liftX? (Bytes.toNatural rest) true
      else none
    else none

end RemoteSigner.Curve
