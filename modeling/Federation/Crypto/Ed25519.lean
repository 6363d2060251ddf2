import Federation.Crypto.Algorithm
import Federation.Crypto.Edwards25519
import Federation.Crypto.Sha512

namespace Federation.Ed25519

open Edwards25519

def signatureLength : Nat := 64

def keyLength : Nat := 32

def hashScalar (text : Bytes) : Nat := (Sha512.digest text).toNatLE % order

def decodeKey (key : Bytes) : Except CryptoError Point :=
  if key.length ≠ keyLength then
    .error (.invalidPublicKey s!"Ed25519 public key must be 32 bytes, got {key.length}")
  else
    match decompress? key with
    | some point => .ok point
    | none => .error (.invalidPublicKey "signature error: Cannot decompress Edwards point")

/-- Strict verification with a decoded key, whose encoding is hashed as it was given. -/
def verifyWith (point : Point) (key data signature : Bytes) : Bool :=
  let commitment := signature.take 32
  let response := Bytes.toNatLE (signature.drop 32)
  if order ≤ response then false
  else
    match decompress? commitment with
    | none => false
    | some decoded =>
      if decoded.hasSmallOrder || point.hasSmallOrder then false
      else
        let challenge := hashScalar (commitment ++ key ++ data)
        ((base.multiple response).add (point.neg.multiple challenge)).compress == commitment

def verify (key data signature : Bytes) : Except CryptoError Bool :=
  if signature.length ≠ signatureLength then
    .error (.invalidSignature s!"Ed25519 signature must be 64 bytes, got {signature.length}")
  else do
    let point ← decodeKey key
    return verifyWith point key data signature

structure SigningKey where
  scalar : Nat
  salt : Bytes
  publicKey : Bytes
deriving DecidableEq, Repr

def clamp (value : Nat) : Nat := value % Nat.pow 2 254 / 8 * 8 + Nat.pow 2 254

def SigningKey.ofSeed (seed : Bytes) : Except CryptoError SigningKey :=
  if seed.length ≠ 32 then
    .error (.invalidPrivateKey s!"Ed25519 seed must be 32 bytes, got {seed.length}")
  else
    let expanded := Sha512.digest seed
    let scalar := clamp (Bytes.toNatLE (expanded.take 32))
    .ok ⟨scalar, expanded.drop 32, (base.multiple scalar).compress⟩

def SigningKey.sign (key : SigningKey) (data : Bytes) : Bytes :=
  let nonce := hashScalar (key.salt ++ data)
  let commitment := (base.multiple nonce).compress
  let challenge := hashScalar (commitment ++ key.publicKey ++ data)
  commitment ++ Bytes.ofNatLE 32 ((nonce + challenge * key.scalar) % order)

end Federation.Ed25519
