import Federation.Crypto.Sha256

namespace Federation.Hmac

def blockLength : Nat := 64

def masked (mask : UInt8) (key : Bytes) : Bytes :=
  (key ++ List.replicate (blockLength - key.length) 0).map (· ^^^ mask)

def sha256 (key message : Bytes) : Bytes :=
  Sha256.digest (masked 0x5C key ++ Sha256.digest (masked 0x36 key ++ message))

end Federation.Hmac
