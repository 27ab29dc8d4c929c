/-!
# Byte strings

Datagrams are lists of octets. Words travel with their most significant octet
first; `Bytes.ofNat` lays a number out in a fixed number of octets and
`Bytes.toNat` reads it back. A number too large for its width loses its high
part, so callers check the range first.
-/

namespace NtpQuery

abbrev Bytes := List UInt8

namespace Bytes

/-- The `width` low octets of `n`, most significant first. -/
def ofNat : (width : Nat) → (n : Nat) → Bytes
  | 0, _ => []
  | width + 1, n => UInt8.ofNat (n / Nat.pow 256 width) :: ofNat width n

/-- The number whose octets these are, most significant first. -/
def toNat (bytes : Bytes) : Nat :=
  bytes.foldl (fun value octet => value * 256 + octet.toNat) 0

/-- The octets before the first zero octet. -/
def upToZero (bytes : Bytes) : Bytes :=
  bytes.takeWhile (· ≠ 0)

/-- The octets followed by as many zero octets as `width` asks for. -/
def padTo (width : Nat) (bytes : Bytes) : Bytes :=
  bytes ++ List.replicate (width - bytes.length) 0

@[simp] theorem ofNat_zero (n : Nat) : ofNat 0 n = [] := rfl

@[simp] theorem toNat_nil : toNat [] = 0 := rfl

@[simp] theorem length_ofNat (width n : Nat) : (ofNat width n).length = width := by
  induction width with
  | zero => rfl
  | succ width ih => simp [ofNat, ih]

end Bytes

end NtpQuery
