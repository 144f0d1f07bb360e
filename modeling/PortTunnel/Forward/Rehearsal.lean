import PortTunnel.Forward.Loop

/-!
# Rehearsals

What clients see of a forwarding loop that they dial one after another, each with a text
that the remote side is to send back.

* `Remote`: the remote side, and what it notes down about connections.
* `Rehearsal.dial`: the next client. Everything goes through `Loop.step`.
* `Rehearsal.leave`: the loop is told to shut down while the last client may still be there.
-/

namespace PortTunnel.Forward

/-- What becomes of a connection that was accepted. -/
inductive Fare where
  | carried
  | lost
  /-- The connection is lost, and the remote side is gone for good. -/
  | fatal (e : Error)
  deriving DecidableEq, Repr

structure Remote (α : Type) where
  carry : (text : String) → List α × Fare
  /-- What is reported before any client is there. -/
  gone : Option Error := none

structure Rehearsal (α : Type) where
  loop : Loop
  /-- How many connections will be lost before they are accepted. -/
  failing : Nat
  notes : List α := []
  /-- What each client got back; none where its connection died. -/
  echoes : List (Option String) := []

namespace Rehearsal

variable {α : Type}

def begin (remote : Remote α) (loop : Loop) (failing : Nat) : Rehearsal α :=
  match remote.gone with
  | none => { loop := loop, failing := failing }
  | some e => { loop := loop.run [.reported e, .noticed], failing := failing }

/-- The events of a connection with a number, up to its end unless it is kept open. -/
def events (id : Nat) (keep : Bool) : Fare → List Event
  | .carried => if keep then [.accepted] else [.accepted, .ended id]
  | .lost => [.accepted, .ended id]
  | .fatal e => [.accepted, .reported e, .ended id, .noticed]

def answered (text : String) : Fare → Option String
  | .carried => some text
  | _ => none

def dial (remote : Remote α) (reachable keep : Bool) (r : Rehearsal α) (text : String) :
    Rehearsal α :=
  if r.loop.phase ≠ .serving || !reachable then { r with echoes := r.echoes ++ [none] }
  else match r.failing with
    | n + 1 =>
      { r with
        loop := r.loop.step .acceptFailed, failing := n, echoes := r.echoes ++ [none] }
    | 0 =>
      let (notes, fare) := remote.carry text
      { r with
        loop := r.loop.run (events r.loop.handed.length keep fare)
        notes := r.notes ++ notes
        echoes := r.echoes ++ [answered text fare] }

/-- Dials with each text; the last connection may be kept open. -/
def dialAll (remote : Remote α) (reachable keepLast : Bool) (r : Rehearsal α) :
    List String → Rehearsal α
  | [] => r
  | [text] => r.dial remote reachable keepLast text
  | text :: texts => (r.dial remote reachable false text).dialAll remote reachable keepLast texts

/-- Whether the loop has ended although nobody told it to. -/
def stopped (r : Rehearsal α) : Bool := r.loop.phase ≠ .serving

/-! ## The end -/

/-- What is seen from the moment at which the loop is told to shut down. -/
structure Parting where
  loop : Loop
  /-- The milliseconds until both the loop and the last client are gone. -/
  lasted : Nat
  /-- Whether the last client could still send something and got it back. -/
  answered : Bool
  deriving DecidableEq, Repr

/-- The last client goes after a time, if it goes at all; until then its connection is open. -/
def leave (r : Rehearsal α) (release : Option Nat) : Parting :=
  let loop := r.loop.run [.asked, .shutdown]
  match loop.live with
  | [] => ⟨loop, release.getD 0, false⟩
  | id :: _ =>
    match release with
    | none => ⟨loop.step .expired, Lifecycle.closingLimit, false⟩
    | some t =>
      if t < Lifecycle.closingLimit then ⟨loop.step (.ended id), t, true⟩
      else ⟨loop.step .expired, t, false⟩

end Rehearsal

end PortTunnel.Forward
