import Federation.Bytes.Hex
import Federation.Crypto.Ed25519
import Federation.Crypto.P256

namespace Federation

def verifySignature : SignatureAlgorithm → (key data signature : Bytes) → Except CryptoError Bool
  | .ed25519 => Ed25519.verify
  | .ecdsaP256 => P256.verify

inductive SigningKey where
  | ed25519 (key : Ed25519.SigningKey)
  | ecdsaP256 (key : P256.SigningKey)
deriving DecidableEq, Repr

namespace SigningKey

def ofSecret (algorithm : SignatureAlgorithm) (secret : Bytes) : Except CryptoError SigningKey :=
  match algorithm with
  | .ed25519 => (Ed25519.SigningKey.ofSeed secret).map ed25519
  | .ecdsaP256 => (P256.SigningKey.ofBytes secret).map ecdsaP256

def algorithm : SigningKey → SignatureAlgorithm
  | ed25519 _ => .ed25519
  | ecdsaP256 _ => .ecdsaP256

def publicKey : SigningKey → Bytes
  | ed25519 key => key.publicKey
  | ecdsaP256 key => key.publicKey

def sign : SigningKey → Bytes → Bytes
  | ed25519 key => key.sign
  | ecdsaP256 key => key.sign

end SigningKey

def fingerprint (key : Bytes) : String := "sha256:" ++ Hex.encode (Sha256.digest key)

end Federation
