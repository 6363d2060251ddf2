import Federation.Bytes.Basic
import Federation.Crypto.Modular

namespace Federation.Edwards25519

def prime : Nat := 0x7FFFFFFFFFFFFFFFFFFFFFFFFFFFFFFFFFFFFFFFFFFFFFFFFFFFFFFFFFFFFFED

instance : @NeZero Nat Zero.ofOfNat0 prime := ⟨by decide⟩

abbrev Field := Fin prime

def order : Nat := 0x1000000000000000000000000000000014DEF9DEA2F79CD65812631A5CF5D3ED

instance : @NeZero Nat Zero.ofOfNat0 order := ⟨by decide⟩

def curveConstant : Field := -121665 * Modular.inverse 121666

def rootOfMinusOne : Field := Modular.power 2 ((prime - 1) / 4)

/-- The point `(x / z, y / z)`, where `t · z = x · y`. -/
structure Point where
  x : Field
  y : Field
  z : Field
  t : Field
deriving DecidableEq, Repr

def identity : Point := ⟨0, 1, 1, 0⟩

def Point.add (p q : Point) : Point :=
  let a := (p.y - p.x) * (q.y - q.x)
  let b := (p.y + p.x) * (q.y + q.x)
  let c := 2 * curveConstant * p.t * q.t
  let d := 2 * p.z * q.z
  let e := b - a
  let f := d - c
  let g := d + c
  let h := b + a
  ⟨e * f, g * h, f * g, e * h⟩

def Point.neg (p : Point) : Point := ⟨-p.x, p.y, p.z, -p.t⟩

def Point.multiple (p : Point) (count : Nat) : Point :=
  Modular.multiple Point.add (fun q => q.add q) identity p count

def Point.same (p q : Point) : Bool := p.x * q.z == q.x * p.z && p.y * q.z == q.y * p.z

def Point.hasSmallOrder (p : Point) : Bool := (p.multiple 8).same identity

def rootOfRatio? (u v : Field) : Option Field :=
  let cube := v * v * v
  let root := u * cube * Modular.power (u * cube * cube * v) ((prime - 5) / 8)
  let check := v * root * root
  let root? :=
    if check = u then some root
    else if check = -u then some (root * rootOfMinusOne)
    else none
  root?.map fun root => if root.val % 2 = 0 then root else -root

def decompress? (bytes : Bytes) : Option Point :=
  let value := bytes.toNatLE
  let y : Field := Fin.ofNat prime (value % Nat.pow 2 255)
  let odd := value / Nat.pow 2 255 % 2 = 1
  (rootOfRatio? (y * y - 1) (curveConstant * y * y + 1)).map fun root =>
    let x := if odd then -root else root
    ⟨x, y, 1, x * y⟩

def Point.compress (p : Point) : Bytes :=
  let scale := Modular.inverse p.z
  let x := p.x * scale
  let y := p.y * scale
  Bytes.ofNatLE 32 (y.val + x.val % 2 * Nat.pow 2 255)

def base : Point :=
  let y := 4 * Modular.inverse 5
  let x := (rootOfRatio? (y * y - 1) (curveConstant * y * y + 1)).getD 0
  ⟨x, y, 1, x * y⟩

end Federation.Edwards25519
