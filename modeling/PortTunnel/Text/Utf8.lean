/-!
# UTF-8

Bytes to characters and back, with the place of the first fault.

* `encode`: the bytes of a text.
* `decode`: reads bytes as a text; a refusal names the first byte of the sequence at
  fault and, unless the input ended inside it, how many bytes of it are wrong.
* `decodeLossy`: reads bytes as a text in which a mark stands for whatever is at fault.
-/

namespace PortTunnel.Text.Utf8

/-- The bytes of a text. -/
def encode (cs : List Char) : List UInt8 := cs.flatMap String.utf8EncodeChar

/-- Why bytes are not UTF-8. The index is that of the first byte of the sequence at fault. -/
inductive Fault where
  /-- `length` bytes from `index` on begin no character. -/
  | invalid (length index : Nat)
  /-- The input ends inside the character that begins at `index`. -/
  | incomplete (index : Nat)
  deriving DecidableEq, Repr

def Fault.message : Fault → String
  | .invalid length index => s!"invalid utf-8 sequence of {length} bytes from index {index}"
  | .incomplete index => s!"incomplete utf-8 byte sequence from index {index}"

/-- What the decoder waits for: the first byte of a character, or the rest of one. -/
inductive Pending where
  | lead
  /-- `left` more bytes, the next of them between `low` and `high`, after `seen` bytes
  from `index` on whose payload bits are `bits`. -/
  | tail (left : Nat) (low high : UInt8) (bits seen index : Nat)
  deriving DecidableEq, Repr

/-- The state after a first byte, if one begins so. The bounds on the second byte rule out
overlong forms, surrogates and values past the last character. -/
def Pending.ofLead? (b : UInt8) (index : Nat) : Option Pending :=
  let n := b.toNat
  if 0xC2 ≤ n && n ≤ 0xDF then some (.tail 1 0x80 0xBF (n % 32) 1 index)
  else if n == 0xE0 then some (.tail 2 0xA0 0xBF 0 1 index)
  else if n == 0xED then some (.tail 2 0x80 0x9F 13 1 index)
  else if 0xE1 ≤ n && n ≤ 0xEF then some (.tail 2 0x80 0xBF (n % 16) 1 index)
  else if n == 0xF0 then some (.tail 3 0x90 0xBF 0 1 index)
  else if 0xF1 ≤ n && n ≤ 0xF3 then some (.tail 3 0x80 0xBF (n % 8) 1 index)
  else if n == 0xF4 then some (.tail 3 0x80 0x8F 4 1 index)
  else none

/-- Reads the bytes from position `here` on. -/
def decodeFrom (here : Nat) : Pending → List UInt8 → Except Fault (List Char)
  | .lead, [] => .ok []
  | .tail _ _ _ _ _ index, [] => .error (.incomplete index)
  | .lead, b :: bs =>
    if b < 0x80 then (decodeFrom (here + 1) .lead bs).map (Char.ofNat b.toNat :: ·)
    else match Pending.ofLead? b here with
      | none => .error (.invalid 1 here)
      | some p => decodeFrom (here + 1) p bs
  | .tail left low high bits seen index, b :: bs =>
    if low ≤ b && b ≤ high then
      let bits := bits * 64 + b.toNat % 64
      if left ≤ 1 then (decodeFrom (here + 1) .lead bs).map (Char.ofNat bits :: ·)
      else decodeFrom (here + 1) (.tail (left - 1) 0x80 0xBF bits (seen + 1) index) bs
    else .error (.invalid seen index)

def decode (bytes : List UInt8) : Except Fault (List Char) := decodeFrom 0 .lead bytes

/-- How many bytes a text takes. -/
def size (cs : List Char) : Nat := cs.foldr (fun c n => c.utf8Size + n) 0

/-! ## Faults that are passed over -/

/-- What stands for bytes that begin no character, or for the beginning of one that does not go
on. -/
def mark : Char := '\uFFFD'

/-- What a byte gives that a character may begin with, and what is waited for behind it. -/
def lossyLead (b : UInt8) : List Char × Pending :=
  if b < 0x80 then ([Char.ofNat b.toNat], .lead)
  else match Pending.ofLead? b 0 with
    | none => ([mark], .lead)
    | some p => ([], p)

/-- A byte that does not go on with a character may begin the next one. -/
def lossyStep : Pending → UInt8 → List Char × Pending
  | .lead, b => lossyLead b
  | .tail left low high bits seen index, b =>
    if low ≤ b && b ≤ high then
      let bits := bits * 64 + b.toNat % 64
      if left ≤ 1 then ([Char.ofNat bits], .lead)
      else ([], .tail (left - 1) 0x80 0xBF bits (seen + 1) index)
    else
      let (cs, p) := lossyLead b
      (mark :: cs, p)

def lossyFrom : Pending → List UInt8 → List Char
  | .lead, [] => []
  | .tail .., [] => [mark]
  | p, b :: bs =>
    let (cs, p) := lossyStep p b
    cs ++ lossyFrom p bs

def decodeLossy (bytes : List UInt8) : List Char := lossyFrom .lead bytes

/-! ## Strings -/

/-- The bytes of a string. -/
def bytes (s : String) : List UInt8 := encode s.toList

/-- The string of bytes, if they are UTF-8. -/
def text? (bytes : List UInt8) : Option String := (decode bytes).toOption.map String.ofList

end PortTunnel.Text.Utf8
