namespace Federation.Modular

def digitsDown (n : Nat) : List Bool := (List.range (n.log2 + 1)).reverse.map n.testBit

def multiple {Point : Type} (add : Point → Point → Point) (double : Point → Point)
    (neutral point : Point) (count : Nat) : Point :=
  (digitsDown count).foldl
    (fun sum digit => if digit then add (double sum) point else double sum) neutral

section

variable {n : Nat} [@NeZero Nat Zero.ofOfNat0 n]

def power (x : Fin n) (exponent : Nat) : Fin n :=
  multiple (· * ·) (fun y => y * y) (Fin.ofNat n 1) x exponent

def inverse (x : Fin n) : Fin n := power x (n - 2)

end

end Federation.Modular
