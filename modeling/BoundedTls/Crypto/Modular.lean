/-!
# Arithmetic modulo a prime

Residues are natural numbers below the modulus. Powers, and multiples in any other structure with
one operation, come from doubling: the binary digits of the exponent are read from the most
significant one on.
-/

namespace BoundedTls.Crypto

/-- The binary digits of a number, most significant first. -/
def binary (n : Nat) : List Bool :=
  if n = 0 then [] else (List.range (n.log2 + 1)).reverse.map n.testBit

/-- An element combined with itself `n` times. -/
def repeated {α : Type} (op : α → α → α) (unit x : α) (n : Nat) : α :=
  (binary n).foldl
    (fun sofar digit =>
      let twice := op sofar sofar
      if digit then op twice x else twice)
    unit

namespace Modular

/-- The difference of two residues. -/
def sub (p a b : Nat) : Nat :=
  (a + (p - b % p)) % p

/-- A power of a residue. -/
def pow (p a n : Nat) : Nat :=
  repeated (fun x y => x * y % p) (1 % p) (a % p) n

/-- The inverse of a residue that is not zero, for a prime modulus. -/
def inverse (p a : Nat) : Nat :=
  pow p a (p - 2)

end Modular

end BoundedTls.Crypto
