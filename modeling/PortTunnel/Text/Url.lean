/-!
# Addresses of servers

An address names a server by scheme and authority, or only a path on one, or only an
authority.

* `Url.parse`: reads an address; anything from a `#` on is dropped.
* `Url.text`: how it is printed. With a scheme there is always a path.
-/

namespace PortTunnel.Text

structure Url where
  scheme : Option String
  authority : String
  path : String
  query : Option String
  deriving DecidableEq, Repr

namespace Url

inductive Fault where
  | empty
  | tooLong
  | schemeTooLong
  | format
  | character
  | authority
  deriving DecidableEq, Repr

def Fault.message : Fault → String
  | .empty => "empty string"
  | .tooLong => "uri too long"
  | .schemeTooLong => "scheme too long"
  | .format => "invalid format"
  | .character => "invalid uri character"
  | .authority => "invalid authority"

/-- The longest address, in bytes. -/
def lengthLimit : Nat := 65534

/-! ## Scheme -/

/-- A character of a scheme. -/
def isSchemeChar (c : Char) : Bool := c.isAlphanum || c = '+' || c = '-' || c = '.' || c = '~'

/-- The text before the first `://`, if it is a scheme, and the text after. -/
def splitScheme? : List Char → Option (List Char × List Char)
  | ':' :: '/' :: '/' :: rest => some ([], rest)
  | c :: cs => if isSchemeChar c then (splitScheme? cs).map fun r => (c :: r.1, r.2) else none
  | [] => none

/-- The two usual schemes are known in any case of letters. -/
def usualScheme? (scheme : List Char) : Option String :=
  let lower := String.ofList (scheme.map Char.toLower)
  if lower = "http" || lower = "https" then some lower else none

/-- The scheme and what follows it. -/
def readScheme (cs : List Char) : Except Fault (Option String × List Char) :=
  match splitScheme? cs with
  | none => .ok (none, cs)
  | some (scheme, rest) =>
    match usualScheme? scheme with
    | some usual => .ok (some usual, rest)
    | none =>
      if cs.length ≤ 3 then .ok (none, cs)
      else if 64 < scheme.length then .error .schemeTooLong
      else .ok (some (String.ofList scheme), rest)

/-! ## Authority -/

/-- A character of an authority that means nothing by itself. -/
def isAuthorityChar (c : Char) : Bool :=
  c.isAlphanum || "!$&'()*+,-.;=_~".toList.contains c

/-- What was met in an authority. The end of the user part, and that of a host in brackets,
let colons and percent signs be forgotten. -/
structure Scan where
  colons : Nat := 0
  opened : Bool := false
  closed : Bool := false
  percent : Bool := false
  /-- Whether the last character ended a user part. -/
  afterUser : Bool := false
  deriving DecidableEq, Repr

def Scan.step (s : Scan) (c : Char) : Except Fault Scan :=
  let s := { s with afterUser := false }
  if c = ':' then if 8 ≤ s.colons then .error .authority else .ok { s with colons := s.colons + 1 }
  else if c = '[' then
    if s.percent || s.opened then .error .authority else .ok { s with opened := true }
  else if c = ']' then
    if !s.opened || s.closed then .error .authority
    else .ok { s with closed := true, colons := 0, percent := false }
  else if c = '@' then .ok { s with colons := 0, percent := false, afterUser := true }
  else if c = '%' then .ok { s with percent := true }
  else if isAuthorityChar c then .ok s
  else .error .character

def Scan.finish (s : Scan) : Except Fault Unit :=
  if s.opened != s.closed || 1 < s.colons || s.afterUser || s.percent then .error .authority
  else .ok ()

def endsAuthority (c : Char) : Bool := c = '/' || c = '?' || c = '#'

def scanAll (s : Scan) : List Char → Except Fault Scan
  | [] => .ok s
  | c :: cs => do
    let s ← s.step c
    scanAll s cs

/-- The authority at the beginning, and what follows it. -/
def readAuthority (cs : List Char) : Except Fault (List Char × List Char) := do
  let authority := cs.takeWhile fun c => !endsAuthority c
  let s ← scanAll {} authority
  s.finish
  .ok (authority, cs.dropWhile fun c => !endsAuthority c)

/-! ## Path and query -/

def isPathChar (c : Char) : Bool :=
  let n := c.toNat
  n = 0x21 || n = 0x22 || (0x24 ≤ n && n ≤ 0x3B) || n = 0x3D || (0x40 ≤ n && n ≤ 0x5F) ||
    (0x61 ≤ n && n ≤ 0x7E) || 0x7F ≤ n

def isQueryChar (c : Char) : Bool :=
  let n := c.toNat
  n = 0x21 || (0x24 ≤ n && n ≤ 0x3B) || n = 0x3D || 0x3F ≤ n

/-- Path and query, up to the first `#`. -/
def readPath (cs : List Char) : Except Fault (String × Option String) :=
  let path := cs.takeWhile fun c => c ≠ '?' && c ≠ '#'
  if !path.all isPathChar then .error .character
  else match cs.drop path.length with
    | '?' :: rest =>
      let query := rest.takeWhile (· ≠ '#')
      if query.all isQueryChar then .ok (String.ofList path, some (String.ofList query))
      else .error .character
    | _ => .ok (String.ofList path, none)

/-! ## Addresses -/

def parse (text : String) : Except Fault Url :=
  if lengthLimit < text.utf8ByteSize then .error .tooLong
  else match text.toList with
    | [] => .error .empty
    | ['*'] => .ok ⟨none, "", "*", none⟩
    | '/' :: rest => do
      let (path, query) ← readPath ('/' :: rest)
      .ok ⟨none, "", path, query⟩
    | cs => do
      let (scheme, rest) ← readScheme cs
      if scheme.isSome && rest.isEmpty then .error .empty
      else
        let (authority, rest) ← readAuthority rest
        match scheme with
        | none =>
          if rest.isEmpty then .ok ⟨none, String.ofList authority, "", none⟩
          else if cs.length = 1 then .error .character
          else .error .format
        | some scheme =>
          if authority.isEmpty then .error .format
          else do
            let (path, query) ← readPath rest
            .ok ⟨some scheme, String.ofList authority, if path.isEmpty then "/" else path, query⟩

def text (u : Url) : String :=
  (match u.scheme with
    | some scheme => scheme ++ "://"
    | none => "") ++ u.authority ++ u.path ++
  (match u.query with
    | some query => "?" ++ query
    | none => "")

end Url

end PortTunnel.Text
