import PortTunnel.Schema.Shape

/-!
# Types with a written form

* `Recorded`: a type together with a shape whose values stand for its own.
* `Recorded.toJson`: the written form of a value.
-/

namespace PortTunnel.Schema

class Recorded (α : Type) where
  shape : Shape
  toVal : α → shape.Val
  ofVal : shape.Val → α
  ofVal_toVal : ∀ a, ofVal (toVal a) = a

def Recorded.toJson {α : Type} [Recorded α] (a : α) : Json :=
  (Recorded.shape α).write (Recorded.toVal a)

/-- A required text. -/
abbrev Fields.text (name : String) (rest : Fields) : Fields :=
  .required name (.text "a string") rest

/-- A text that may be null. -/
abbrev Fields.textOrNull (name : String) (rest : Fields) : Fields :=
  .required name (.nullable (.text "a string")) rest

/-- A list of texts. -/
abbrev Shape.texts : Shape := .list (.text "a string")

/-- A field that is not written where it has no value; null stands for none as well. -/
abbrev Fields.maybe (name : String) (shape : Shape) (rest : Fields) : Fields :=
  .optional name (.nullable shape) rest

/-- A text that is not written where there is none. -/
abbrev Fields.maybeText (name : String) (rest : Fields) : Fields :=
  .maybe name (.text "a string") rest

/-! ## Values of fields that may be left out -/

theorem join_map_some {α : Type} (x : Option α) : Option.join (x.map some) = x := by
  cases x <;> rfl

/-- The value of a field that may be left out, from that of its type. -/
def maybeVal {α β : Type} (f : α → β) (x : Option α) : Option (Option β) := (x.map f).map some

/-- The value of a type, from that of a field that may be left out. -/
def ofMaybeVal {α β : Type} (f : β → α) (x : Option (Option β)) : Option α := (Option.join x).map f

theorem ofMaybeVal_maybeVal {α β : Type} {f : α → β} {g : β → α} (h : ∀ a, g (f a) = a)
    (x : Option α) : ofMaybeVal g (maybeVal f x) = x := by
  cases x with
  | none => rfl
  | some a => exact congrArg some (h a)

theorem map_of_inverse {α β : Type} {f : α → β} {g : β → α} (h : ∀ a, g (f a) = a)
    (xs : List α) : (xs.map f).map g = xs := by
  induction xs with
  | nil => rfl
  | cons x xs ih => simp [h, ih]

end PortTunnel.Schema
