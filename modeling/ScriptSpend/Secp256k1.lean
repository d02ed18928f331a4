import ScriptSpend.Bytes

/-!
# The curve secp256k1

The points `(x, y)` with `y² = x³ + 7` over the integers modulo `fieldOrder`, together with a point
at infinity, form a group of prime order `groupOrder`. Sums are taken in projective coordinates
`(X, Y, Z)`, which stand for `(X / Z², Y / Z³)`, so that only the last step divides; the point at
infinity has `Z = 0`.

## Main definitions

* `Secp256k1.Point`: a point in projective coordinates
* `Secp256k1.Point.double`, `Secp256k1.Point.add`: the group operation
* `Secp256k1.combination`: the sum of multiples of two points
* `Secp256k1.decodePoint`: a point from its bytes
-/

namespace ScriptSpend.Secp256k1

/-- The number of elements of the field. -/
def fieldOrder : Nat := 0xfffffffffffffffffffffffffffffffffffffffffffffffffffffffefffffc2f

/-- The number of points of the curve. -/
def groupOrder : Nat := 0xfffffffffffffffffffffffffffffffebaaedce6af48a03bbfd25e8cd0364141

/-- The largest of the smaller halves into which `s` and `groupOrder - s` fall. -/
def halfOrder : Nat := groupOrder / 2

-- Zero is its numeral here, also where a richer algebraic structure is in scope.
attribute [local instance (high)] Zero.ofOfNat0

instance : NeZero fieldOrder := ⟨by decide⟩

instance : NeZero groupOrder := ⟨by decide⟩

/-- The coordinates of points. -/
abbrev Field := Fin fieldOrder

/-- The multiples of a point. -/
abbrev Scalar := Fin groupOrder

/-- The binary digits of a number in a given width, the highest first. -/
def bits (width n : Nat) : List Bool := ((List.range width).map n.testBit).reverse

/-- A power modulo `m`, by squaring. -/
def power {m : Nat} [NeZero m] (base : Fin m) (exponent : Nat) : Fin m :=
  (bits 256 exponent).foldl (fun acc bit => if bit then acc * acc * base else acc * acc)
    (Fin.ofNat m 1)

/-- The inverse modulo a prime `m`; zero is its own. -/
def inverse {m : Nat} [NeZero m] (a : Fin m) : Fin m := power a (m - 2)

/-- A point of the curve in projective coordinates. -/
structure Point where
  x : Field
  y : Field
  z : Field

namespace Point

/-- The neutral element. -/
def infinity : Point := ⟨1, 1, 0⟩

/-- The generator of the group. -/
def generator : Point where
  x := Fin.ofNat _ 0x79be667ef9dcbbac55a06295ce870b07029bfcdb2dce28d959f2815b16f81798
  y := Fin.ofNat _ 0x483ada7726a3c4655da4fbfc0e1108a8fd17b448a68554199c47d08ffb10d4b8
  z := 1

/-- The sum of a point with itself. -/
def double (p : Point) : Point :=
  let xx := p.x * p.x
  let yy := p.y * p.y
  let yyyy := yy * yy
  let d := 2 * ((p.x + yy) * (p.x + yy) - xx - yyyy)
  let e := 3 * xx
  let x := e * e - 2 * d
  ⟨x, e * (d - x) - 8 * yyyy, 2 * p.y * p.z⟩

/-- The sum of two points. -/
def add (p q : Point) : Point :=
  if p.z = 0 then q
  else if q.z = 0 then p
  else
    let pz := p.z * p.z
    let qz := q.z * q.z
    let u := p.x * qz
    let h := q.x * pz - u
    let s := p.y * q.z * qz
    let r := q.y * p.z * pz - s
    -- Equal first coordinates: the points are equal or opposite.
    if h = 0 then
      if r = 0 then p.double else infinity
    else
      let hh := h * h
      let hhh := h * hh
      let v := u * hh
      let x := r * r - hhh - 2 * v
      ⟨x, r * (v - x) - s * hhh, h * p.z * q.z⟩

/-- The first coordinate; the point at infinity has none. -/
def abscissa? (p : Point) : Option Field :=
  if p.z = 0 then none
  else
    let inv := inverse p.z
    some (p.x * (inv * inv))

end Point

/-- The sum of `a` times `p` and `b` times `q`, one binary digit of both after another. -/
def combination (a : Scalar) (p : Point) (b : Scalar) (q : Point) : Point :=
  -- Where both digits are set, the sum of the points is added once.
  let both := p.add q
  ((bits 256 a.val).zip (bits 256 b.val)).foldl
    (fun acc digits =>
      let twice := acc.double
      match digits with
      | (false, false) => twice
      | (true, false) => twice.add p
      | (false, true) => twice.add q
      | (true, true) => twice.add both)
    .infinity

/-- The value of the curve's equation at a first coordinate. -/
def cubic (x : Field) : Field := x * x * x + 7

/-- The point with given coordinates, if they lie in the field and on the curve. -/
def pointOf? (x y : Nat) : Option Point :=
  if x < fieldOrder ∧ y < fieldOrder then
    let fx : Field := Fin.ofNat _ x
    let fy : Field := Fin.ofNat _ y
    if fy * fy = cubic fx then some ⟨fx, fy, 1⟩ else none
  else none

/-- The point with a given first coordinate whose second has the given parity, if there is one. -/
def pointOfParity? (x : Nat) (odd : Bool) : Option Point :=
  if x < fieldOrder then
    let fx : Field := Fin.ofNat _ x
    -- The field order is 3 modulo 4, so this power is a root if there is one.
    let root := power (cubic fx) ((fieldOrder + 1) / 4)
    if root * root = cubic fx then
      some ⟨fx, if (root.val % 2 == 1) == odd then root else -root, 1⟩
    else none
  else none

/-- The point that a byte string writes: the first coordinate after `02` or `03` for an even or odd
second one, or both coordinates after `04`, or after `06` or `07` where the second must be even or
odd. -/
def decodePoint (bytes : Bytes) : Option Point :=
  match bytes with
  | [] => none
  | tag :: body =>
    let x := Bytes.toNatBE (body.take 32)
    let y := Bytes.toNatBE (body.drop 32)
    if body.length = 32 then
      if tag = 2 ∨ tag = 3 then pointOfParity? x (tag == 3) else none
    else if body.length = 64 then
      if tag = 4 ∨ tag = 6 ∧ y % 2 = 0 ∨ tag = 7 ∧ y % 2 = 1 then pointOf? x y else none
    else none

end ScriptSpend.Secp256k1
