/-!
# Shortest decimals

The shortest decimal that reads back as a given binary64 number, in exact arithmetic on
`m * 2 ^ q`, and the notation in which such a decimal is written.

* `Binary64.ofBits`: sign, `m` and `q` of a finite number.
* `shortest`: the digits and the decimal exponent. For one digit, two digits and so on it
  tries the two neighbours on that decimal grid; the first grid with a point in the
  interval of reals that round to the number wins, and of two points the nearer.
* `Notation.write`: digits and exponent as text.
-/

namespace PortTunnel.Decimal

/-- A finite binary64 number: `(-1) ^ negative * mantissa * 2 ^ exponent`. -/
structure Binary64 where
  negative : Bool
  mantissa : Nat
  exponent : Int
  deriving DecidableEq, Repr

/-- The number of a bit pattern that is neither an infinity nor a NaN. -/
def Binary64.ofBits (bits : UInt64) : Binary64 :=
  let n : Nat := bits.toNat
  let fraction : Nat := n % Nat.pow 2 52
  let biased : Nat := n / Nat.pow 2 52 % Nat.pow 2 11
  if biased = 0 then ⟨decide (Nat.pow 2 63 ≤ n), fraction, -1074⟩
  else ⟨decide (Nat.pow 2 63 ≤ n), Nat.pow 2 52 + fraction, (biased : Int) - 1075⟩

/-- A decimal `digits * 10 ^ exponent`. -/
structure Digits where
  digits : Nat
  exponent : Int
  deriving DecidableEq, Repr

/-- Numerators over one denominator: the number and the two ends of the reals around it
that round to it. -/
structure Around where
  value : Nat
  low : Nat
  high : Nat
  closed : Bool
  denominator : Nat
  deriving DecidableEq, Repr

def Binary64.around (b : Binary64) : Around :=
  let m := b.mantissa
  let low := if m = Nat.pow 2 52 && b.exponent != -1074 then 4 * m - 1 else 4 * m - 2
  let shift := b.exponent - 2
  let scale := Nat.pow 2 shift.toNat
  ⟨4 * m * scale, low * scale, (4 * m + 2) * scale, m % 2 = 0, Nat.pow 2 (-shift).toNat⟩

/-- The decimal exponent of the leading digit of `n / d`, searched downwards from `top`. -/
def leading (n d : Nat) : Nat → Int → Int
  | 0, top => top
  | fuel + 1, top =>
    let reaches := if 0 ≤ top then d * Nat.pow 10 top.toNat ≤ n else d ≤ n * Nat.pow 10 (-top).toNat
    if reaches then top else leading n d fuel (top - 1)

/-- The point of the grid of step `10 ^ e` nearest to the number, if it rounds to it. -/
def Around.gridPoint? (a : Around) (e : Int) : Option Digits :=
  let up := Nat.pow 10 (-e).toNat
  let down := Nat.pow 10 e.toNat * a.denominator
  let below := a.value * up / down
  let inside (g : Nat) : Bool :=
    let x := g * down
    if a.closed then a.low * up ≤ x && x ≤ a.high * up else a.low * up < x && x < a.high * up
  let above := below + 1
  let nearerBelow := a.value * up - below * down ≤ above * down - a.value * up
  if inside below && (nearerBelow || !inside above) then some ⟨below, e⟩
  else if inside above then some ⟨above, e⟩
  else none

/-- Drops the zeros at the end of the digits. -/
def Digits.trim : Nat → Digits → Digits
  | 0, d => d
  | fuel + 1, d =>
    if d.digits ≠ 0 ∧ d.digits % 10 = 0 then Digits.trim fuel ⟨d.digits / 10, d.exponent + 1⟩ else d

/-- Tries the grids of `count` digits upwards. -/
def Around.firstHit (a : Around) (top : Int) : (grids : Nat) → (count : Nat) → Digits
  | 0, _ => ⟨0, 0⟩
  | grids + 1, count =>
    match a.gridPoint? (top - count) with
    | some d => d.trim 20
    | none => a.firstHit top grids (count + 1)

/-- The shortest decimal that reads back as the number. -/
def shortest (b : Binary64) : Digits :=
  if b.mantissa = 0 then ⟨0, 0⟩
  else
    let a := b.around
    a.firstHit (leading a.value a.denominator 700 310) 18 0

/-- How a decimal is laid out as text. -/
structure Layout where
  /-- Positional while the point stands at most this many digits after the first. -/
  positionalAbove : Int
  /-- Positional while the point stands more than this many places before the first digit. -/
  positionalBelow : Int
  /-- The least number of digits of an exponent. -/
  exponentDigits : Nat
  deriving DecidableEq, Repr

/-- Positional up to sixteen places before the point and four zeros after it; a signed
exponent of two digits or more otherwise. -/
def Layout.standard : Layout := ⟨16, -5, 2⟩

def Layout.write (l : Layout) (negative : Bool) (d : Digits) : String :=
  let ds := toString d.digits
  let n : Int := ds.length
  let point := n + d.exponent
  let body :=
    if 0 ≤ d.exponent && point ≤ l.positionalAbove then
      ds ++ String.ofList (List.replicate d.exponent.toNat '0') ++ ".0"
    else if 0 < point && point ≤ l.positionalAbove then
      String.ofList (ds.toList.take point.toNat) ++ "." ++ String.ofList (ds.toList.drop point.toNat)
    else if l.positionalBelow < point && point ≤ 0 then
      "0." ++ String.ofList (List.replicate (-point).toNat '0') ++ ds
    else
      let rest := String.ofList (ds.toList.drop 1)
      let e := point - 1
      let es := toString e.natAbs
      String.ofList (ds.toList.take 1) ++ (if rest.isEmpty then "" else "." ++ rest) ++ "e" ++
        (if e < 0 then "-" else "+") ++
        String.ofList (List.replicate (l.exponentDigits - es.length) '0') ++ es
  if negative then "-" ++ body else body

/-- The text of a finite number given by its bits. -/
def text (bits : UInt64) : String :=
  let b := Binary64.ofBits bits
  Layout.standard.write b.negative (shortest b)

end PortTunnel.Decimal
