import Federation.Crypto.Algorithm
import Federation.Crypto.Hmac
import Federation.Crypto.Modular

namespace Federation.P256

def prime : Nat := 0xFFFFFFFF00000001000000000000000000000000FFFFFFFFFFFFFFFFFFFFFFFF

instance : @NeZero Nat Zero.ofOfNat0 prime := ⟨by decide⟩

abbrev Field := Fin prime

def order : Nat := 0xFFFFFFFF00000000FFFFFFFFFFFFFFFFBCE6FAADA7179E84F3B9CAC2FC632551

instance : @NeZero Nat Zero.ofOfNat0 order := ⟨by decide⟩

abbrev Scalar := Fin order

def curveConstant : Field :=
  Fin.ofNat prime 0x5AC635D8AA3A93E7B3EBBD55769886BC651D06B0CC53B0F63BCE3C3E27D2604B

/-- The point `(x / z², y / z³)`; at `z = 0`, the neutral element. -/
structure Point where
  x : Field
  y : Field
  z : Field
deriving DecidableEq, Repr

def identity : Point := ⟨1, 1, 0⟩

def base : Point :=
  ⟨Fin.ofNat prime 0x6B17D1F2E12C4247F8BCE6E563A440F277037D812DEB33A0F4A13945D898C296,
    Fin.ofNat prime 0x4FE342E2FE1A7F9B8EE7EB4A7C0F9E162BCE33576B315ECECBB6406837BF51F5, 1⟩

def Point.double (p : Point) : Point :=
  if p.z = 0 ∨ p.y = 0 then identity
  else
    let yy := p.y * p.y
    let zz := p.z * p.z
    let s := 4 * p.x * yy
    let m := 3 * (p.x - zz) * (p.x + zz)
    let x := m * m - 2 * s
    ⟨x, m * (s - x) - 8 * yy * yy, 2 * p.y * p.z⟩

def Point.add (p q : Point) : Point :=
  if p.z = 0 then q
  else if q.z = 0 then p
  else
    let pzz := p.z * p.z
    let qzz := q.z * q.z
    let u := p.x * qzz
    let v := q.x * pzz
    let s := p.y * q.z * qzz
    let t := q.y * p.z * pzz
    if u = v then if s = t then p.double else identity
    else
      let h := v - u
      let r := t - s
      let hh := h * h
      let hhh := hh * h
      let x := r * r - hhh - 2 * u * hh
      ⟨x, r * (u * hh - x) - s * hhh, h * p.z * q.z⟩

def Point.multiple (p : Point) (count : Nat) : Point :=
  Modular.multiple Point.add Point.double identity p count

def Point.affine? (p : Point) : Option (Field × Field) :=
  if p.z = 0 then none
  else
    let scale := Modular.inverse p.z
    some (p.x * scale * scale, p.y * scale * scale * scale)

def curveAt (x : Field) : Field := x * x * x - 3 * x + curveConstant

def root? (value : Field) : Option Field :=
  let root := Modular.power value ((prime + 1) / 4)
  if root * root = value then some root else none

def coordinate? (bytes : Bytes) : Option Field :=
  let value := bytes.toNat
  if h : bytes.length = 32 ∧ value < prime then some ⟨value, h.2⟩ else none

def pointAt? (x? : Option Field) (choose : Field → Field) : Option Point := do
  let x ← x?
  let y ← root? (curveAt x)
  return ⟨x, choose y, 1⟩

/-- The point of an encoding. The first byte tells the form: parity of the second coordinate (2, 3),
    both coordinates (4), or the smaller of the two second coordinates (5). -/
def decodePoint? : Bytes → Option Point
  | [] => none
  | tag :: rest =>
    if tag = 2 ∨ tag = 3 then
      pointAt? (coordinate? rest) fun y => if y.val % 2 = tag.toNat % 2 then y else -y
    else if tag = 4 then do
      let x ← coordinate? (rest.take 32)
      let y ← coordinate? (rest.drop 32)
      if y * y = curveAt x then return ⟨x, y, 1⟩ else none
    else if tag = 5 then
      pointAt? (coordinate? rest) fun y => if y.val ≤ (-y).val then y else -y
    else none

def decodeKey (key : Bytes) : Except CryptoError Point :=
  match decodePoint? key with
  | some point => .ok point
  | none =>
    .error (.invalidPublicKey
      s!"P-256 public key is not a SEC1 point on the curve ({key.length} bytes)")

def signatureLength : Nat := 64

structure Signature where
  r : Nat
  s : Nat
deriving DecidableEq, Repr

def decodeSignature (bytes : Bytes) : Except CryptoError Signature :=
  if bytes.length ≠ signatureLength then
    .error (.invalidSignature s!"P-256 signature must be 64 bytes of r || s, got {bytes.length}")
  else
    let r := Bytes.toNat (bytes.take 32)
    let s := Bytes.toNat (bytes.drop 32)
    if r = 0 ∨ order ≤ r ∨ s = 0 ∨ order ≤ s then .error (.invalidSignature "signature error")
    else .ok ⟨r, s⟩

def digestScalar (data : Bytes) : Scalar := Fin.ofNat order (Sha256.digest data).toNat

def verifyWith (point : Point) (data : Bytes) (signature : Signature) : Bool :=
  let inverse := Modular.inverse (Fin.ofNat order signature.s)
  let u := digestScalar data * inverse
  let v := Fin.ofNat order signature.r * inverse
  match ((base.multiple u.val).add (point.multiple v.val)).affine? with
  | some (x, _) => x.val % order == signature.r
  | none => false

def verify (key data signature : Bytes) : Except CryptoError Bool := do
  let decoded ← decodeSignature signature
  let point ← decodeKey key
  return verifyWith point data decoded

structure SigningKey where
  secret : Nat
deriving DecidableEq, Repr

def SigningKey.ofBytes (bytes : Bytes) : Except CryptoError SigningKey :=
  let secret := bytes.toNat
  if bytes.length < 24 ∨ 32 < bytes.length ∨ secret = 0 ∨ order ≤ secret then
    .error (.invalidPrivateKey "signature error")
  else .ok ⟨secret⟩

def Point.encode (p : Point) : Bytes :=
  match p.affine? with
  | some (x, y) => 4 :: Bytes.ofNat 32 x.val ++ Bytes.ofNat 32 y.val
  | none => [0]

def SigningKey.publicKey (key : SigningKey) : Bytes := (base.multiple key.secret).encode

structure NonceState where
  key : Bytes
  value : Bytes
deriving DecidableEq, Repr

def NonceState.next (state : NonceState) : NonceState :=
  { state with value := Hmac.sha256 state.key state.value }

def NonceState.absorb (state : NonceState) (text : Bytes) : NonceState :=
  let key := Hmac.sha256 state.key (state.value ++ text)
  ⟨key, Hmac.sha256 key state.value⟩

/-- Numbers are drawn until one is neither zero nor as large as the order; with 32 bytes the first
    nearly always is. -/
def drawNonce : (fuel : Nat) → NonceState → Nat
  | 0, _ => 1
  | fuel + 1, state =>
    let state := state.next
    let nonce := state.value.toNat
    if nonce = 0 ∨ order ≤ nonce then drawNonce fuel (state.absorb [0]) else nonce

def nonceFor (secret : Nat) (digest : Bytes) : Nat :=
  let text := Bytes.ofNat 32 secret ++ Bytes.ofNat 32 (digest.toNat % order)
  let start : NonceState := ⟨List.replicate 32 0, List.replicate 32 1⟩
  drawNonce 64 ((start.absorb (0 :: text)).absorb (1 :: text))

def SigningKey.sign (key : SigningKey) (data : Bytes) : Bytes :=
  let nonce := nonceFor key.secret (Sha256.digest data)
  let r := match (base.multiple nonce).affine? with
    | some (x, _) => x.val % order
    | none => 0
  let s := Modular.inverse (Fin.ofNat order nonce) *
    (digestScalar data + Fin.ofNat order r * Fin.ofNat order key.secret)
  Bytes.ofNat 32 r ++ Bytes.ofNat 32 s.val

end Federation.P256
