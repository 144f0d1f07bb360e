import PortTunnel.Logging.Directive

/-!
# Filters of the log

A filter is a set of directives. The more specific come first, so that the first one that
applies decides; of two that apply to the same, the later one stands.

* `Entry`: a directive at its place in a filter. `Entry.before` is the order.
* `Filter.ofDirectives`: the filter of a list of directives.
* `Filter.strict?`, `Filter.lenient`: a filter from a text; one refuses a text with a
  directive that cannot be read, the other leaves it out.
* `Filter.text`: the text under which a filter is shown.
-/

namespace PortTunnel.Logging

/-- What a directive applies to, and its level. Directives that do not depend on spans are
kept apart; of those, only the name of a field counts. -/
structure Entry where
  target : Option String
  span : Option String
  field : Option String
  level : Level
  deriving DecidableEq, Repr

namespace Entry

def text (e : Entry) : String :=
  Directive.labelled (e.target.getD "" ++ Directive.brackets e.span e.field) e.level

/-- Compares things that may be missing; what is missing comes first. -/
def compareMaybe {α : Type} (compare : α → α → Ordering) : Option α → Option α → Ordering
  | none, none => .eq
  | none, some _ => .lt
  | some _, none => .gt
  | some a, some b => compare a b

def compareTexts (a b : String) : Ordering := compareOfLessAndEq a b

/-- How specific what two entries apply to is: first by the length of the target, then by
whether there is a span and a field, at last by the texts. -/
def compareScopes (a b : Entry) : Ordering :=
  (compareMaybe compare (a.target.map String.utf8ByteSize) (b.target.map String.utf8ByteSize)).then <|
  (compare a.span.isSome.toNat b.span.isSome.toNat).then <|
  (compare a.field.isSome.toNat b.field.isSome.toNat).then <|
  (compareMaybe compareTexts a.target b.target).then <|
  (compareMaybe compareTexts a.span b.span).then <|
  compareMaybe compareTexts a.field b.field

/-- Puts an entry in front of all that are less specific, in the place of the one that
applies to the same. -/
def put (e : Entry) : List Entry → List Entry
  | [] => [e]
  | x :: xs =>
    match compareScopes e x with
    | .gt => e :: x :: xs
    | .eq => e :: xs
    | .lt => x :: put e xs

end Entry

structure Filter where
  /-- Entries that hold everywhere. -/
  fixed : List Entry
  /-- Entries that look at what happens inside of spans. -/
  dynamic : List Entry
  deriving DecidableEq, Repr

namespace Filter

def putAll (es : List Entry) : List Entry := es.foldl (fun xs e => e.put xs) []

/-- The entry of a directive that needs neither the name of a span nor a value. -/
def fixed? (d : Directive) : Option Entry :=
  match d.span, d.field with
  | none, none => some ⟨d.target, none, none, d.level⟩
  | none, some ⟨name, none⟩ => some ⟨d.target, none, some name, d.level⟩
  | _, _ => none

def dynamic? (d : Directive) : Option Entry :=
  if d.isDynamic then some ⟨d.target, d.span, d.field.map Field.text, d.level⟩ else none

/-- A directive about a field without a value counts on both sides; on the fixed side such
directives come last. -/
def ofDirectives (ds : List Directive) : Filter where
  fixed := putAll ((ds.filter (!·.isDynamic) ++ ds.filter (·.isDynamic)).filterMap fixed?)
  dynamic := putAll (ds.filterMap dynamic?)

/-- The texts of directives; those between two commas with nothing in between are none. -/
def texts (s : String) : List String := (s.splitOn ",").filter (· ≠ "")

def strict? (s : String) : Option Filter := ((texts s).mapM Directive.parse).map ofDirectives

/-- Without any directive, errors are logged. -/
def lenient (s : String) : Filter :=
  match (texts s).filterMap Directive.parse with
  | [] => ofDirectives [{ level := .error }]
  | ds => ofDirectives ds

def text (f : Filter) : String := ",".intercalate ((f.fixed ++ f.dynamic).map Entry.text)

end Filter

end PortTunnel.Logging
