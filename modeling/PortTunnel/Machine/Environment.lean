import PortTunnel.Text.Table
import PortTunnel.Text.Utf8

/-!
# Environments

The variables of a process. The system does not look into them, so names and values are bytes;
those that are UTF-8 can be read as texts.

* `Environment.get?`, `Environment.set`, `Environment.remove`: one variable.
* `Environment.ofTable`, `Environment.texts`: environments and tables of texts.
-/

namespace PortTunnel.Machine

open Text (TextTable)

@[ext]
structure Environment where
  entries : List (List UInt8 × List UInt8)
  /-- A name stands for one value. -/
  distinct : (entries.map (·.1)).Nodup
  deriving DecidableEq, Repr

namespace Environment

def empty : Environment := ⟨[], .nil⟩

def get? (env : Environment) (name : List UInt8) : Option (List UInt8) :=
  (env.entries.find? (·.1 = name)).map (·.2)

def remove (env : Environment) (name : List UInt8) : Environment :=
  ⟨env.entries.filter (·.1 ≠ name),
    env.distinct.sublist (List.filter_sublist.map Prod.fst)⟩

/-- Gives a variable its value, in place of the one that it had. -/
def set (env : Environment) (name value : List UInt8) : Environment :=
  ⟨(env.remove name).entries ++ [(name, value)], by
    rw [List.map_append, List.nodup_append]
    refine ⟨(env.remove name).distinct, by simp, ?_⟩
    intro other hother _ hname heq
    rw [List.map_singleton, List.mem_singleton] at hname
    obtain ⟨e, he, rfl⟩ := List.mem_map.mp hother
    have hkept := (List.mem_filter.mp he).2
    simp [heq, hname] at hkept⟩

/-- The value of a variable, if it is a text. -/
def text? (env : Environment) (name : String) : Option String :=
  (env.get? (Text.Utf8.bytes name)).bind Text.Utf8.text?

/-- The variables whose names and values are texts. -/
def texts (env : Environment) : TextTable :=
  .ofList <| env.entries.filterMap fun e => do
    return (← Text.Utf8.text? e.1, ← Text.Utf8.text? e.2)

def ofTable (t : TextTable) : Environment :=
  t.entries.foldl (fun env e => env.set (Text.Utf8.bytes e.1) (Text.Utf8.bytes e.2)) empty

instance : Coe TextTable Environment := ⟨ofTable⟩

end Environment

end PortTunnel.Machine
