import PortTunnel.Text.Visible

/-!
# Quoted text

A text between double quotes, as it is shown to a person who inspects a value: what could
not be seen, or would join a neighbour, is written by its code point.

* `escape`: one character inside the quotes.
* `quote`: a text with its quotes.
-/

namespace PortTunnel.Text.Quoted

/-- The digits of a number in base sixteen, without leading zeros. -/
def hex (n : Nat) : List Char := Nat.toDigits 16 n

/-- One character as it stands between the quotes. -/
def escape (c : Char) : List Char :=
  if c = '\x00' then ['\\', '0']
  else if c = '\t' then ['\\', 't']
  else if c = '\r' then ['\\', 'r']
  else if c = '\n' then ['\\', 'n']
  else if c = '"' then ['\\', '"']
  else if c = '\\' then ['\\', '\\']
  else if isVisible c && !extendsGrapheme c then [c]
  else ['\\', 'u', '\x7b'] ++ hex c.toNat ++ ['\x7d']

def quoteChars (cs : List Char) : List Char := '"' :: cs.flatMap escape ++ ['"']

def quote (s : String) : String := String.ofList (quoteChars s.toList)

end PortTunnel.Text.Quoted
