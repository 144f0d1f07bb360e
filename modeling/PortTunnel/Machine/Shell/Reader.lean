import PortTunnel.Machine.Shell.Syntax

/-!
# Reading scripts

* `tokens`: the words and signs of a script.
* `parse`: the commands of a script, if it is one.
-/

namespace PortTunnel.Machine.Shell

/-! ## Words and signs -/

def isNameChar (c : Char) : Bool := c.isAlphanum || c = '_'

/-- The text up to a closing character, and what follows it. -/
def upTo (close : Char) (cs : List Char) : List Char × List Char :=
  (cs.takeWhile (· ≠ close), (cs.dropWhile (· ≠ close)).drop 1)

/-- A parameter in braces: its name and what stands in for it. -/
def bracedParam (cs : List Char) (quoted : Bool) : Part :=
  let name := cs.takeWhile fun c => isNameChar c || c = '@' || c = '#' || c = '$' || c = '?'
  match cs.drop name.length with
  | '-' :: rest => .param (String.ofList name) (some (String.ofList rest)) quoted
  | ':' :: '-' :: rest => .param (String.ofList name) (some (String.ofList rest)) quoted
  | _ => .param (String.ofList name) none quoted

/-- A parameter after a dollar sign, and what follows it. -/
def readParam (quoted : Bool) : List Char → Part × List Char
  | '\x7b' :: rest =>
    let (inner, rest) := upTo '\x7d' rest
    (bracedParam inner quoted, rest)
  | c :: rest =>
    if c.isDigit || c = '@' || c = '#' || c = '$' || c = '?' then
      (.param c.toString none quoted, rest)
    else
      let name := (c :: rest).takeWhile isNameChar
      if name.isEmpty then (.text "$" quoted, c :: rest)
      else (.param (String.ofList name) none quoted, (c :: rest).drop name.length)
  | [] => (.text "$" quoted, [])

/-- The pieces between double quotes, and what follows them. -/
def readQuoted : (fuel : Nat) → (text : List Char) → List Char → Word × List Char
  | 0, text, cs => ([.text (String.ofList text.reverse) true], cs)
  | _ + 1, text, [] => ([.text (String.ofList text.reverse) true], [])
  | _ + 1, text, '"' :: rest => ([.text (String.ofList text.reverse) true], rest)
  | fuel + 1, text, '\\' :: c :: rest =>
    if c = '"' || c = '\\' || c = '$' then readQuoted fuel (c :: text) rest
    else readQuoted fuel (c :: '\\' :: text) rest
  | fuel + 1, text, '$' :: rest =>
    let (part, rest) := readParam true rest
    let (parts, rest) := readQuoted fuel [] rest
    (.text (String.ofList text.reverse) true :: part :: parts, rest)
  | fuel + 1, text, c :: rest => readQuoted fuel (c :: text) rest

/-- Whether a character ends a word. -/
def endsWord (c : Char) : Bool :=
  c = ' ' || c = '\t' || c = '\n' || c = ';' || c = '&' || c = '|' || c = '>' || c = '<'

/-- The pieces of a word, and what follows it. -/
def readWord : (fuel : Nat) → List Char → Word × List Char
  | 0, cs => ([], cs)
  | _ + 1, [] => ([], [])
  | fuel + 1, c :: cs =>
    if endsWord c then ([], c :: cs)
    else if c = '\'' then
      let (text, rest) := upTo '\'' cs
      let (parts, rest) := readWord fuel rest
      (.text (String.ofList text) true :: parts, rest)
    else if c = '"' then
      let (quoted, rest) := readQuoted fuel [] cs
      let (parts, rest) := readWord fuel rest
      (quoted ++ parts, rest)
    else if c = '$' then
      let (part, rest) := readParam false cs
      let (parts, rest) := readWord fuel rest
      (part :: parts, rest)
    else if c = '\\' then
      let (parts, rest) := readWord fuel (cs.drop 1)
      (.text (String.ofList (cs.take 1)) true :: parts, rest)
    else
      let (parts, rest) := readWord fuel cs
      (match parts with
        | .text t false :: more => .text (c.toString ++ t) false :: more
        | parts => .text c.toString false :: parts, rest)

/-- The sign of a redirection of a descriptor, behind its first character. -/
def readRedirect (fd : Nat) : List Char → Token × List Char
  | '>' :: rest => (.out fd true, rest)
  | '&' :: c :: rest => (.duplicate fd (c.toNat - '0'.toNat), rest)
  | rest => (.out fd false, rest)

def tokens : (fuel : Nat) → List Char → List Token
  | 0, _ => []
  | _ + 1, [] => []
  | fuel + 1, c :: cs =>
    if c = ' ' || c = '\t' then tokens fuel cs
    else if c = '\n' then .separator :: tokens fuel cs
    else if c = '#' then tokens fuel (cs.dropWhile (· ≠ '\n'))
    else match c, cs with
      | ';', cs => .separator :: tokens fuel cs
      | '&', '&' :: cs => .and :: tokens fuel cs
      | '&', cs => .separator :: tokens fuel cs
      | '|', '|' :: cs => .or :: tokens fuel cs
      | '>', cs =>
        let (t, cs) := readRedirect 1 cs
        t :: tokens fuel cs
      | '1', '>' :: cs =>
        let (t, cs) := readRedirect 1 cs
        t :: tokens fuel cs
      | '2', '>' :: cs =>
        let (t, cs) := readRedirect 2 cs
        t :: tokens fuel cs
      | '|', cs => tokens fuel cs
      | '<', cs => tokens fuel cs
      | c, cs =>
        let (parts, cs) := readWord (cs.length + 1) (c :: cs)
        .word parts :: tokens fuel cs

/-! ## Commands -/

def keywords : List String :=
  ["!", "for", "in", "while", "until", "do", "done", "if", "then", "elif", "else", "fi"]

/-- The keywords at which a list of commands ends. -/
def closers : List String := ["do", "done", "then", "elif", "else", "fi"]

/-- The keyword of a token, if it is one. -/
def keyword? : Token → Option String
  | .word [.text w false] =>
    if keywords.contains w then some w else none
  | _ => none

def skipSeparators : List Token → List Token
  | .separator :: ts => skipSeparators ts
  | ts => ts

/-- The keyword that is expected next. -/
def expect? (word : String) (ts : List Token) : Option (List Token) :=
  match skipSeparators ts with
  | t :: rest => if keyword? t = some word then some rest else none
  | [] => none

/-- The words of a list, up to a sign. -/
def readWords : List Token → List Word × List Token
  | .word parts :: ts =>
    let (words, rest) := readWords ts
    (parts :: words, rest)
  | ts => ([], ts)

/-- Words and redirections of a simple command, in any order. -/
def readSimple : List Token → List Word × List Redirect × List Token
  | .word parts :: ts =>
    let (words, redirects, rest) := readSimple ts
    (parts :: words, redirects, rest)
  | .out fd atEnd :: .word target :: ts =>
    let (words, redirects, rest) := readSimple ts
    (words, .toFile fd atEnd target :: redirects, rest)
  | .duplicate fd source :: ts =>
    let (words, redirects, rest) := readSimple ts
    (words, .duplicate fd source :: redirects, rest)
  | ts => ([], [], ts)

/-- A command of one plain word. -/
def plainCommand (name : String) : Command := .simple [[.text name false]] []

/-- Commands whose outcome is turned round. -/
def denied (cs : List Command) : Command :=
  .choice cs [plainCommand "false"] [plainCommand "true"]

mutual

/-- One command without what may be chained to it. -/
def readCommand : (fuel : Nat) → List Token → Option (Command × List Token)
  | 0, _ => none
  | fuel + 1, ts =>
    match ts with
    | [] => none
    | t :: rest =>
      match keyword? t with
      | some "for" =>
        match rest with
        | .word [.text name false] :: rest => do
          let rest ← expect? "in" rest
          let (words, rest) := readWords rest
          let rest ← expect? "do" rest
          let (body, rest) ← readList fuel rest
          let rest ← expect? "done" rest
          let (_, redirects, rest) := readSimple rest
          some (.each name words body redirects, rest)
        | _ => none
      | some "while" => readRepeated fuel id rest
      | some "until" => readRepeated fuel (fun condition => [denied condition]) rest
      | some "if" => readChoice fuel rest
      | some "!" => do
        let (c, rest) ← readCommand fuel rest
        some (denied [c], rest)
      | some _ => none
      | none =>
        match readSimple (t :: rest) with
        | ([], [], _) => none
        | (words, redirects, rest) => some (.simple words redirects, rest)

/-- A loop behind its keyword. -/
def readRepeated : (fuel : Nat) → (List Command → List Command) → List Token →
    Option (Command × List Token)
  | 0, _, _ => none
  | fuel + 1, sense, ts => do
    let (condition, rest) ← readList fuel ts
    let rest ← expect? "do" rest
    let (body, rest) ← readList fuel rest
    let rest ← expect? "done" rest
    let (_, redirects, rest) := readSimple rest
    some (.repeated (sense condition) body redirects, rest)

/-- A choice behind its keyword. -/
def readChoice : (fuel : Nat) → List Token → Option (Command × List Token)
  | 0, _ => none
  | fuel + 1, ts => do
    let (condition, rest) ← readList fuel ts
    let rest ← expect? "then" rest
    let (yes, rest) ← readList fuel rest
    match expect? "elif" rest, expect? "else" rest with
    | some rest, _ =>
      let (no, rest) ← readChoice fuel rest
      some (.choice condition yes [no], rest)
    | none, some rest =>
      let (no, rest) ← readList fuel rest
      let rest ← expect? "fi" rest
      some (.choice condition yes no, rest)
    | none, none =>
      let rest ← expect? "fi" rest
      some (.choice condition yes [], rest)

/-- A command with those that are chained to it. -/
def readChain : (fuel : Nat) → Command → List Token → Option (Command × List Token)
  | 0, _, _ => none
  | fuel + 1, first, ts =>
    match ts with
    | .and :: rest => do
      let (second, rest) ← readCommand fuel (skipSeparators rest)
      readChain fuel (.both first second) rest
    | .or :: rest => do
      let (second, rest) ← readCommand fuel (skipSeparators rest)
      readChain fuel (.either first second) rest
    | ts => some (first, ts)

/-- Commands up to the end or to a keyword that none of them begins with. -/
def readList : (fuel : Nat) → List Token → Option (List Command × List Token)
  | 0, _ => none
  | fuel + 1, ts =>
    match skipSeparators ts with
    | [] => some ([], [])
    | t :: rest =>
      if closers.contains ((keyword? t).getD "") then
        some ([], t :: rest)
      else do
        let (c, rest) ← readCommand fuel (t :: rest)
        let (c, rest) ← readChain fuel c rest
        let (cs, rest) ← readList fuel rest
        some (c :: cs, rest)

end

def parse (script : String) : Option (List Command) :=
  let cs := script.toList
  let ts := tokens (cs.length + 1) cs
  match readList (2 * ts.length + 2) ts with
  | some (commands, []) => some commands
  | _ => none

end PortTunnel.Machine.Shell
