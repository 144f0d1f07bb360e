import PortTunnel.Text.Base64
import PortTunnel.Text.Blank
import PortTunnel.Text.Utf8

/-!
# PEM blocks

Base64 data between lines that name it. Text around the blocks is passed over.

* `Pem.Block`: the name of a block and its data.
* `Pem.blocks`: the blocks of a text, up to the first one that is not closed.
* `Pem.certificates`: the data of the blocks that hold certificates.
-/

namespace PortTunnel.Text.Pem

structure Block where
  tag : String
  bytes : List UInt8
  deriving DecidableEq, Repr

inductive Fault where
  | noBeginTag
  | noEndTag
  | tags (begun ended : String)
  | header (line : String)
  | data (fault : Base64.Fault)
  deriving DecidableEq, Repr

def Fault.message : Fault → String
  | .noBeginTag => "missing BEGIN tag"
  | .noEndTag => "missing END tag"
  | .tags begun ended =>
    "mismatching BEGIN (=\"" ++ begun ++ "\") and END (=\"" ++ ended ++ "\") tags"
  | .header line => s!"invalid header: {line}"
  | .data fault => s!"invalid data: {fault.message}"

/-- The text before the first occurrence of a mark, and the text after it. -/
def splitAt? (mark : List Char) : List Char → Option (List Char × List Char)
  | [] => if mark.isEmpty then some ([], []) else none
  | c :: cs =>
    if mark.isPrefixOf (c :: cs) then some ([], (c :: cs).drop mark.length)
    else (splitAt? mark cs).map fun r => (c :: r.1, r.2)

/-- A block as it is found: its two names and the text between them. -/
structure Raw where
  begun : List Char
  body : List Char
  ended : List Char
  deriving DecidableEq, Repr

def dashes : List Char := "-----".toList

/-- The first block and what follows it. -/
def next? (cs : List Char) : Option (Raw × List Char) := do
  let (_, cs) ← splitAt? "-----BEGIN ".toList cs
  let (begun, cs) ← splitAt? dashes cs
  let (body, cs) ← splitAt? "-----END ".toList (cs.dropWhile Char.isWhitespace)
  let (ended, cs) ← splitAt? dashes cs
  some (⟨begun, body, ended⟩, cs)

/-- The blocks in order; no text holds more of them than it has characters. -/
def rawBlocks : (fuel : Nat) → List Char → List Raw
  | 0, _ => []
  | fuel + 1, cs =>
    match next? cs with
    | some (raw, rest) => raw :: rawBlocks fuel rest
    | none => []

/-- Headers, before an empty line, and data. -/
def splitHeaders (body : List Char) : List Char × List Char :=
  match splitAt? ['\n', '\n'] body with
  | some r => r
  | none =>
    match splitAt? ['\r', '\n', '\r', '\n'] body with
    | some r => r
    | none => ([], body)

/-- A header is a name and a value with a colon between them. -/
def checkHeaders (headers : List Char) : Except Fault Unit :=
  match ((String.ofList headers).splitOn "\n").find? fun line =>
      !line.toList.isEmpty && !line.toList.contains ':' with
  | some line => .error (.header line)
  | none => .ok ()

/-- The data without line ends and the blanks in front of them. -/
def joinLines (data : List Char) : List Char :=
  ((String.ofList data).splitOn "\n").flatMap fun line =>
    (line.toList.reverse.dropWhile isBlank).reverse

def Raw.block (raw : Raw) : Except Fault Block := do
  if raw.begun.isEmpty then .error .noBeginTag
  else if raw.ended.isEmpty then .error .noEndTag
  else if raw.begun ≠ raw.ended then
    .error (.tags (String.ofList raw.begun) (String.ofList raw.ended))
  else
    let (headers, data) := splitHeaders raw.body
    let bytes ← (Base64.decode .standard (Utf8.encode (joinLines data))).mapError .data
    checkHeaders headers
    .ok ⟨String.ofList raw.begun, bytes⟩

def blocks (cs : List Char) : Except Fault (List Block) :=
  (rawBlocks cs.length cs).mapM Raw.block

def certificates (cs : List Char) : Except Fault (List (List UInt8)) :=
  (blocks cs).map fun bs => (bs.filter (·.tag = "CERTIFICATE")).map (·.bytes)

end PortTunnel.Text.Pem
