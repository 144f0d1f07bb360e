/-!
# UTF-16

* `Utf16.decode?`: the text of units of 16 bits, if every surrogate has its other half.
* `Utf16.units`: the units of bytes, in either order of bytes.
-/

namespace PortTunnel.Text.Utf16

/-- Pairs of bytes as units; a byte left over is dropped. -/
def units (bigEndian : Bool) : List UInt8 → List Nat
  | a :: b :: rest =>
    (if bigEndian then a.toNat * 256 + b.toNat else b.toNat * 256 + a.toNat) :: units bigEndian rest
  | _ => []

def isHigh (u : Nat) : Bool := 0xD800 ≤ u && u < 0xDC00

def isLow (u : Nat) : Bool := 0xDC00 ≤ u && u < 0xE000

def decode? : List Nat → Option (List Char)
  | [] => some []
  | [u] => if isHigh u || isLow u then none else some [Char.ofNat u]
  | u :: v :: rest =>
    if isHigh u then
      if isLow v then
        (decode? rest).map (Char.ofNat (0x10000 + (u - 0xD800) * 0x400 + (v - 0xDC00)) :: ·)
      else none
    else if isLow u then none
    else (decode? (v :: rest)).map (Char.ofNat u :: ·)

end PortTunnel.Text.Utf16
