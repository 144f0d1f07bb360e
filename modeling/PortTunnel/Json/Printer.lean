import PortTunnel.Json.Basic

/-!
# Writing JSON

* `Json.compact`: without blanks, members in their order. Inside strings only the quote,
  the backslash and control characters are escaped.
* `Json.pretty`: a member or item a line, two blanks deeper for each level.
-/

namespace PortTunnel.Json

/-- A lower-case digit in base sixteen. -/
def hexDigit (n : Nat) : Char := if n < 10 then Char.ofNat (48 + n) else Char.ofNat (87 + n)

/-- One character inside a string. -/
def escape (c : Char) : List Char :=
  if c = '"' then ['\\', '"']
  else if c = '\\' then ['\\', '\\']
  else if c = '\x08' then ['\\', 'b']
  else if c = '\x09' then ['\\', 't']
  else if c = '\x0a' then ['\\', 'n']
  else if c = '\x0c' then ['\\', 'f']
  else if c = '\x0d' then ['\\', 'r']
  else if c.toNat < 0x20 then
    ['\\', 'u', '0', '0', hexDigit (c.toNat / 16), hexDigit (c.toNat % 16)]
  else [c]

def quoteChars (cs : List Char) : List Char := '"' :: cs.flatMap escape ++ ['"']

mutual

/-- The compact text of a value. -/
def compactChars : Json → List Char
  | .null => ['n', 'u', 'l', 'l']
  | .bool true => ['t', 'r', 'u', 'e']
  | .bool false => ['f', 'a', 'l', 's', 'e']
  | .number n => n.text.toList
  | .string s => quoteChars s.toList
  | .array [] => ['[', ']']
  | .array (x :: xs) => '[' :: compactChars x ++ compactItems xs
  | .object [] => ['\x7b', '\x7d']
  | .object (m :: ms) =>
    '\x7b' :: quoteChars m.1.toList ++ ':' :: compactChars m.2 ++ compactMembers ms

/-- The items after the first, and the closing bracket. -/
def compactItems : List Json → List Char
  | [] => [']']
  | x :: xs => ',' :: compactChars x ++ compactItems xs

/-- The members after the first, and the closing brace. -/
def compactMembers : List (String × Json) → List Char
  | [] => ['\x7d']
  | m :: ms => ',' :: quoteChars m.1.toList ++ ':' :: compactChars m.2 ++ compactMembers ms

end

def compact (j : Json) : String := String.ofList (compactChars j)

/-! ## The laid-out form -/

/-- A new line at a depth. -/
def newline (depth : Nat) : List Char := '\n' :: List.replicate (2 * depth) ' '

mutual

def prettyChars (depth : Nat) : Json → List Char
  | .array (x :: xs) =>
    '[' :: newline (depth + 1) ++ prettyChars (depth + 1) x ++ prettyItems depth xs
  | .object (m :: ms) =>
    '\x7b' :: newline (depth + 1) ++ quoteChars m.1.toList ++ ':' :: ' ' ::
      prettyChars (depth + 1) m.2 ++ prettyMembers depth ms
  | .null => compactChars .null
  | .bool b => compactChars (.bool b)
  | .number n => compactChars (.number n)
  | .string s => compactChars (.string s)
  | .array [] => compactChars (.array [])
  | .object [] => compactChars (.object [])

def prettyItems (depth : Nat) : List Json → List Char
  | [] => newline depth ++ [']']
  | x :: xs => ',' :: newline (depth + 1) ++ prettyChars (depth + 1) x ++ prettyItems depth xs

def prettyMembers (depth : Nat) : List (String × Json) → List Char
  | [] => newline depth ++ ['\x7d']
  | m :: ms =>
    ',' :: newline (depth + 1) ++ quoteChars m.1.toList ++ ':' :: ' ' ::
      prettyChars (depth + 1) m.2 ++ prettyMembers depth ms

end

def pretty (j : Json) : String := String.ofList (prettyChars 0 j)

end PortTunnel.Json
