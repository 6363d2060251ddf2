import Federation.Bytes.Basic

namespace Federation.Sha256

def initialState : List UInt32 := [
  0x6a09e667, 0xbb67ae85, 0x3c6ef372, 0xa54ff53a,
  0x510e527f, 0x9b05688c, 0x1f83d9ab, 0x5be0cd19]

def roundConstants : List UInt32 := [
  0x428a2f98, 0x71374491, 0xb5c0fbcf, 0xe9b5dba5, 0x3956c25b, 0x59f111f1,
  0x923f82a4, 0xab1c5ed5, 0xd807aa98, 0x12835b01, 0x243185be, 0x550c7dc3,
  0x72be5d74, 0x80deb1fe, 0x9bdc06a7, 0xc19bf174, 0xe49b69c1, 0xefbe4786,
  0x0fc19dc6, 0x240ca1cc, 0x2de92c6f, 0x4a7484aa, 0x5cb0a9dc, 0x76f988da,
  0x983e5152, 0xa831c66d, 0xb00327c8, 0xbf597fc7, 0xc6e00bf3, 0xd5a79147,
  0x06ca6351, 0x14292967, 0x27b70a85, 0x2e1b2138, 0x4d2c6dfc, 0x53380d13,
  0x650a7354, 0x766a0abb, 0x81c2c92e, 0x92722c85, 0xa2bfe8a1, 0xa81a664b,
  0xc24b8b70, 0xc76c51a3, 0xd192e819, 0xd6990624, 0xf40e3585, 0x106aa070,
  0x19a4c116, 0x1e376c08, 0x2748774c, 0x34b0bcb5, 0x391c0cb3, 0x4ed8aa4a,
  0x5b9cca4f, 0x682e6ff3, 0x748f82ee, 0x78a5636f, 0x84c87814, 0x8cc70208,
  0x90befffa, 0xa4506ceb, 0xbef9a3f7, 0xc67178f2]

def rotateRight (x count : UInt32) : UInt32 := (x >>> count) ||| (x <<< (32 - count))

def padding (length : Nat) : Bytes :=
  0x80 :: List.replicate ((119 - length % 64) % 64) 0 ++ Bytes.ofNat 8 (8 * length)

def word (bytes : Bytes) : UInt32 := UInt32.ofNat bytes.toNat

def scheduled (recent : List UInt32) : UInt32 :=
  let early := recent.getD 1 0
  let late := recent.getD 14 0
  let spread := rotateRight early 7 ^^^ rotateRight early 18 ^^^ (early >>> 3)
  let stretch := rotateRight late 17 ^^^ rotateRight late 19 ^^^ (late >>> 10)
  stretch + recent.getD 9 0 + spread + recent.getD 0 0

def schedule : (constants recent : List UInt32) → List (UInt32 × UInt32)
  | [], _ => []
  | constant :: constants, recent =>
    (constant, recent.getD 0 0) :: schedule constants (recent.drop 1 ++ [scheduled recent])

def round (state : List UInt32) (step : UInt32 × UInt32) : List UInt32 :=
  match state with
  | [a, b, c, d, e, f, g, h] =>
    let mixed := rotateRight e 6 ^^^ rotateRight e 11 ^^^ rotateRight e 25
    let choice := (e &&& f) ^^^ (~~~e &&& g)
    let first := h + mixed + choice + step.1 + step.2
    let blended := rotateRight a 2 ^^^ rotateRight a 13 ^^^ rotateRight a 22
    let majority := (a &&& b) ^^^ (a &&& c) ^^^ (b &&& c)
    [first + (blended + majority), a, b, c, d + first, e, f, g]
  | other => other

def compress (state : List UInt32) (block : List UInt32) : List UInt32 :=
  List.zipWith (· + ·) state ((schedule roundConstants block).foldl round state)

def blocks : (count : Nat) → Bytes → List (List UInt32)
  | 0, _ => []
  | count + 1, bytes =>
    (List.range 16).map (fun i => word ((bytes.drop (4 * i)).take 4)) ::
      blocks count (bytes.drop 64)

def digest (message : Bytes) : Bytes :=
  let padded := message ++ padding message.length
  let final := (blocks (padded.length / 64) padded).foldl compress initialState
  final.flatMap fun w => Bytes.ofNat 4 w.toNat

end Federation.Sha256
