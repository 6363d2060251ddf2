namespace Federation

inductive CryptoError where
  | invalidSignature (reason : String)
  | invalidPublicKey (reason : String)
  | invalidPrivateKey (reason : String)
  | unsupportedAlgorithm (algorithm : String)
deriving DecidableEq, Repr

def CryptoError.message : CryptoError → String
  | .invalidSignature reason => s!"Invalid signature: {reason}"
  | .invalidPublicKey reason => s!"Invalid public key: {reason}"
  | .invalidPrivateKey reason => s!"Invalid private key: {reason}"
  | .unsupportedAlgorithm algorithm => s!"Algorithm not supported: {algorithm}"

inductive SignatureAlgorithm where
  | ed25519
  | ecdsaP256
deriving DecidableEq, Repr

namespace SignatureAlgorithm

def all : List SignatureAlgorithm := [ed25519, ecdsaP256]

def name : SignatureAlgorithm → String
  | ed25519 => "ed25519"
  | ecdsaP256 => "ecdsa-p256"

def uri : SignatureAlgorithm → String
  | ed25519 => "http://www.w3.org/2021/04/xmldsig-more#eddsa-ed25519"
  | ecdsaP256 => "http://www.w3.org/2001/04/xmldsig-more#ecdsa-sha256"

def oid : SignatureAlgorithm → String
  | ed25519 => "1.3.101.112"
  | ecdsaP256 => "1.2.840.10045.4.3.2"

def number : SignatureAlgorithm → Nat
  | ed25519 => 1
  | ecdsaP256 => 2

def ofUri (text : String) : Except CryptoError SignatureAlgorithm :=
  match all.find? (·.uri == text) with
  | some algorithm => .ok algorithm
  | none => .error (.unsupportedAlgorithm text)

def ofText (text : String) : Except CryptoError SignatureAlgorithm :=
  match all.find? (·.name == text) with
  | some algorithm => .ok algorithm
  | none => ofUri text

def spellings : List (String × SignatureAlgorithm) :=
  all.flatMap fun algorithm => [(algorithm.name, algorithm), (algorithm.uri, algorithm)]

end SignatureAlgorithm

end Federation
