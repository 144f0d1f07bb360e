/-!
# Base64

Both alphabets of the encoding, with the padding rule and the refusals of a strict
reader: no foreign symbol, no symbol left over, no bits set that encode nothing.

* `Variant`: alphabet and padding rule. Payloads travel as `Variant.url`, certificates
  and keys as `Variant.standard`.
* `encode`, `decode`: the two directions over a variant.
-/

namespace PortTunnel.Text.Base64

/-- The two symbols in which the alphabets differ, and whether short groups are padded. -/
structure Variant where
  symbol62 : Char
  symbol63 : Char
  padded : Bool
  deriving DecidableEq, Repr

/-- The alphabet that is safe in paths and environment variables, without padding. -/
def Variant.url : Variant := ⟨'-', '_', false⟩

/-- The common alphabet, padded to whole groups of four. -/
def Variant.standard : Variant := ⟨'+', '/', true⟩

/-- The symbol of a value below 64. -/
def symbol (v : Variant) (n : Nat) : Char :=
  if n < 26 then Char.ofNat (65 + n)
  else if n < 52 then Char.ofNat (97 + (n - 26))
  else if n < 62 then Char.ofNat (48 + (n - 52))
  else if n = 62 then v.symbol62
  else v.symbol63

/-- The value of a symbol. -/
def value? (v : Variant) (b : UInt8) : Option Nat :=
  let n := b.toNat
  if 65 ≤ n ∧ n ≤ 90 then some (n - 65)
  else if 97 ≤ n ∧ n ≤ 122 then some (n - 97 + 26)
  else if 48 ≤ n ∧ n ≤ 57 then some (n - 48 + 52)
  else if n = v.symbol62.toNat then some 62
  else if n = v.symbol63.toNat then some 63
  else none

/-- The fill of a short group. -/
def fill (v : Variant) (n : Nat) : List Char := if v.padded then List.replicate n '=' else []

/-- Three bytes to four symbols; one or two left over to two or three. -/
def encode (v : Variant) : List UInt8 → List Char
  | [] => []
  | [a] =>
    let n := a.toNat * 16
    [symbol v (n / 64), symbol v (n % 64)] ++ fill v 2
  | [a, b] =>
    let n := (a.toNat * 256 + b.toNat) * 4
    [symbol v (n / 4096), symbol v (n / 64 % 64), symbol v (n % 64)] ++ fill v 1
  | a :: b :: c :: rest =>
    let n := (a.toNat * 256 + b.toNat) * 256 + c.toNat
    symbol v (n / 262144) :: symbol v (n / 4096 % 64) :: symbol v (n / 64 % 64) ::
      symbol v (n % 64) :: encode v rest

/-! ## Reading -/

inductive Fault where
  | symbol (byte : UInt8) (offset : Nat)
  | length (count : Nat)
  | lastSymbol (byte : UInt8) (offset : Nat)
  | padding
  deriving DecidableEq, Repr

def Fault.message : Fault → String
  | .symbol byte offset => s!"Invalid symbol {byte.toNat}, offset {offset}."
  | .length count => s!"Invalid input length: {count}"
  | .lastSymbol byte offset => s!"Invalid last symbol {byte.toNat}, offset {offset}."
  | .padding => "Invalid padding"

/-- The byte of the padding symbol. -/
def pad : UInt8 := 61

/-- One symbol, at its offset. -/
def readSymbol (v : Variant) (b : UInt8) (offset : Nat) : Except Fault Nat :=
  match value? v b with
  | some n => .ok n
  | none => .error (.symbol b offset)

/-- The symbols of the last group: their values, the last of them, and how many fills
follow, the first of them at `filled`. A fill comes after two symbols at the earliest and
no symbol follows one. -/
def readLast (v : Variant) (offset : Nat) :
    (index : Nat) → (filled : Option Nat) → List UInt8 → Except Fault (List Nat × Nat)
  | _, _, [] => .ok ([], 0)
  | index, filled, b :: bs =>
    if b = pad then
      if index < 2 then .error (.symbol b (offset + index))
      else do
        let (values, fills) ← readLast v offset (index + 1) (filled <|> some index) bs
        .ok (values, fills + 1)
    else match filled with
      | some first => .error (.symbol pad (offset + first))
      | none => do
        let n ← readSymbol v b (offset + index)
        let (values, fills) ← readLast v offset (index + 1) none bs
        .ok (n :: values, fills)

/-- The bytes of the last group. -/
def decodeLast (v : Variant) (offset : Nat) (group : List UInt8) :
    Except Fault (List UInt8) := do
  let (values, fills) ← readLast v offset 0 none group
  if !group.isEmpty && values.length < 2 then
    .error (.length (offset + values.length))
  else if v.padded && (values.length + fills) % 4 != 0 then .error .padding
  else if !v.padded && fills != 0 then .error .padding
  else
    let last := (group[values.length - 1]?).getD 0
    match values with
    | [a, b] =>
      if b % 16 = 0 then .ok [UInt8.ofNat (a * 4 + b / 16)]
      else .error (.lastSymbol last (offset + 1))
    | [a, b, c] =>
      if c % 4 = 0 then
        .ok [UInt8.ofNat (a * 4 + b / 16), UInt8.ofNat (b % 16 * 16 + c / 4)]
      else .error (.lastSymbol last (offset + 2))
    | [a, b, c, d] =>
      .ok [UInt8.ofNat (a * 4 + b / 16), UInt8.ofNat (b % 16 * 16 + c / 4),
        UInt8.ofNat (c % 4 * 64 + d)]
    | _ => .ok []

/-- Whole groups of four, as long as another symbol follows, then the last group. -/
def decodeFrom (v : Variant) (offset : Nat) : List UInt8 → Except Fault (List UInt8)
  | a :: b :: c :: d :: e :: rest => do
    let w ← readSymbol v a offset
    let x ← readSymbol v b (offset + 1)
    let y ← readSymbol v c (offset + 2)
    let z ← readSymbol v d (offset + 3)
    let bytes ← decodeFrom v (offset + 4) (e :: rest)
    .ok (UInt8.ofNat (w * 4 + x / 16) :: UInt8.ofNat (x % 16 * 16 + y / 4) ::
      UInt8.ofNat (y % 4 * 64 + z) :: bytes)
  | group => decodeLast v offset group

/-- Reads the bytes back. A symbol alone in the last group that is foreign to the alphabet
is reported before anything else. -/
def decode (v : Variant) (bytes : List UInt8) : Except Fault (List UInt8) :=
  match bytes.getLast? with
  | some last =>
    if bytes.length % 4 = 1 && last != pad && (value? v last).isNone then
      .error (.symbol last (bytes.length - 1))
    else decodeFrom v 0 bytes
  | none => .ok []

end PortTunnel.Text.Base64
