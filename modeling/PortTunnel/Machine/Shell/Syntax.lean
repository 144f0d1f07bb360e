/-!
# Scripts

The programs of the machine are scripts in a small part of the shell language: simple
commands with redirections, loops over words, loops and choices on a condition.

* `Command`: what a script is made of.
* `Word`: texts and parameters that are put together when a command runs.
-/

namespace PortTunnel.Machine.Shell

/-- A piece of a word. Quoted pieces are not split. -/
inductive Part where
  | text (value : String) (quoted : Bool)
  /-- A parameter, and what stands in for it where it is not set. -/
  | param (name : String) (fallback : Option String) (quoted : Bool)
  deriving DecidableEq, Repr

abbrev Word := List Part

inductive Redirect where
  /-- The output of a descriptor goes to a file, at its end or in place of its content. -/
  | toFile (fd : Nat) (atEnd : Bool) (target : Word)
  /-- The output of a descriptor goes where that of another goes. -/
  | duplicate (fd source : Nat)
  deriving DecidableEq, Repr

inductive Command where
  | simple (words : List Word) (redirects : List Redirect)
  | each (name : String) (words : List Word) (body : List Command) (redirects : List Redirect)
  | repeated (condition body : List Command) (redirects : List Redirect)
  | choice (condition yes no : List Command)
  /-- The second command runs if the first went well. -/
  | both (first second : Command)
  /-- The second command runs if the first did not go well. -/
  | either (first second : Command)
  deriving Repr

/-! ## Tokens -/

inductive Token where
  | word (parts : Word)
  | separator
  | and
  | or
  /-- The beginning of a redirection to a file, whose name comes next. -/
  | out (fd : Nat) (atEnd : Bool)
  | duplicate (fd source : Nat)
  deriving DecidableEq, Repr

end PortTunnel.Machine.Shell
