import PortTunnel.Text.Utf8

/-!
# Escapes of addresses

* `Form.percent`: a text in which all but a few characters are escaped byte by byte.
* `Form.query`: the same for values of forms, where a blank becomes a plus sign.
-/

namespace PortTunnel.Text.Form

def hexDigit (n : Nat) : Char := if n < 10 then Char.ofNat (48 + n) else Char.ofNat (55 + n)

/-- A byte behind a percent sign. -/
def escape (b : UInt8) : List Char := ['%', hexDigit (b.toNat / 16), hexDigit (b.toNat % 16)]

/-- Whether a character stands for itself in the value of a form. -/
def isPlain (c : Char) : Bool := c.isAlphanum || c = '-' || c = '_' || c = '.' || c = '*'

/-- Whether a character stands for itself everywhere. -/
def isUnreserved (c : Char) : Bool := c.isAlphanum || c = '-' || c = '_' || c = '.' || c = '~'

def percent (s : String) : String :=
  String.ofList (s.toList.flatMap fun c =>
    if isUnreserved c then [c] else (Utf8.encode [c]).flatMap escape)

def query (s : String) : String :=
  String.ofList (s.toList.flatMap fun c =>
    if isPlain c then [c] else if c = ' ' then ['+'] else (Utf8.encode [c]).flatMap escape)

end PortTunnel.Text.Form
