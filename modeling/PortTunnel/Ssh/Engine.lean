import PortTunnel.Forward.Engine
import PortTunnel.Forward.Listener
import PortTunnel.Forward.Rehearsal
import PortTunnel.Ssh.Key
import PortTunnel.Ssh.Settings

/-!
# The engine of an SSH tunnel

One session to a bastion carries all connections, each over a channel of its own. Before the
tunnel runs, the session is there, the listener is bound, and a dial to it has succeeded.

* `Bastion`: how a bastion treats whoever connects, and what it notes down.
* `Engine.login`: the session, or why there is none.
* `Engine.prepare`, `Engine.Startup`: what is done before the tunnel runs, and how it goes.
* `Engine.remote`, `Engine.begin`: the bastion as clients of the tunnel see it.
-/

namespace PortTunnel.Ssh

open Forward (Fare Listener Loop Rehearsal Remote)
open Machine (Files Network)

/-! ## Bastions -/

/-- When a bastion breaks a session off. -/
inductive Break where
  | afterLogin
  /-- As soon as a client says farewell. -/
  | atFarewell
  deriving DecidableEq, Repr

structure Rules where
  /-- The password that is accepted. -/
  password : Option String
  acceptsKeys : Bool
  opensChannels : Bool
  breaks : Option Break
  deriving DecidableEq, Repr

inductive Bastion where
  /-- Nobody listens. -/
  | closed
  /-- Whoever listens speaks another protocol. -/
  | foreign
  /-- Whoever listens says nothing. -/
  | silent
  | serving (rules : Rules)
  deriving DecidableEq, Repr

/-- What a bastion notes down. -/
inductive Note where
  | password (user password : String)
  | key (user algorithm : String)
  | channel (host : String) (port : UInt16) (originator : String)
  deriving DecidableEq, Repr

/-- The text at which a session may be broken off. -/
def farewell : String := "bye"

namespace Engine

/-! ## The session -/

def unreachable (s : Settings) : Error := .engine s!"cannot connect to {s.bastionHost}"

def rejected (s : Settings) : Error := .engine s!"ssh authentication rejected for user {s.user}"

/-- The error of a session that is gone. -/
def lost (s : Settings) : Error := .engine s!"ssh session to {s.bastionHost} was closed"

/-- The rules of a bastion with which one can talk. -/
def connect (n : Network) (b : Bastion) (s : Settings) : Except Error Rules :=
  match n.connect (fun _ => b ≠ .closed) s.bastionHost s.bastionPort, b with
  | .ok _, .serving rules => .ok rules
  | .ok _, .silent => .error (.engine s!"timed out connecting to {s.bastionHost}")
  | _, _ => .error (unreachable s)

/-- Shows a credential to a bastion. A key is loaded first. -/
def authenticate (files : Files) (rules : Rules) (s : Settings) : List Note × Except Error Unit :=
  let byKey (material : String) : List Note × Except Error Unit :=
    match Key.load files material with
    | .error e => ([], .error e)
    | .ok key =>
      ([.key s.user key.algorithm], if rules.acceptsKeys then .ok () else .error (rejected s))
  match s.credential with
  | .password password =>
    ([.password s.user password],
      if rules.password = some password then .ok () else .error (rejected s))
  | .privateKey material => byKey material
  | .encryptedPrivateKey material _ => byKey material

def login (n : Network) (files : Files) (b : Bastion) (s : Settings) :
    List Note × Except Error Rules :=
  match connect n b s with
  | .error e => ([], .error e)
  | .ok rules =>
    match authenticate files rules s with
    | (notes, .error e) => (notes, .error e)
    | (notes, .ok _) => (notes, .ok rules)

/-! ## Before the tunnel runs -/

/-- Dials the listener; `dialable` says to which ports of the machine one gets through. -/
def selfTest (n : Network) (dialable : UInt16 → Bool) (l : Listener) : Except Error Unit :=
  match n.connect dialable l.address.text l.port with
  | .ok _ => .ok ()
  | .error f => .error (.engine s!"self-test dial to {l.text} failed: {f.message}")

/-- The session and the listener of a tunnel, with what the bastion notes down. -/
def prepare (n : Network) (dialable : UInt16 → Bool) (files : Files) (b : Bastion) (s : Settings) :
    List Note × Except Error (Rules × Listener) :=
  match login n files b s with
  | (notes, .error e) => (notes, .error e)
  | (notes, .ok rules) =>
    (notes, do
      let listener ← Listener.bind n s.localHost s.localPort
      selfTest n dialable listener
      .ok (rules, listener))

/-- How the steps before the tunnel runs go. -/
structure Startup where
  connected : Attempt
  bound : Attempt
  tested : Attempt

def Startup.steps (s : Startup) : List (Milestone × Attempt) :=
  [(.connected, s.connected), (.bound, s.bound), (.tested, s.tested)]

theorem connect_engines (n : Network) (b : Bastion) (s : Settings) :
    Error.OnlyEngines (connect n b s) := by
  unfold connect
  split
  · exact .ok _
  · exact .error rfl
  · exact .error rfl

theorem authenticate_engines (files : Files) (rules : Rules) (s : Settings) :
    Error.OnlyEngines (authenticate files rules s).2 := by
  have hrejected (b : Bool) :
      Error.OnlyEngines (if b then .ok () else .error (rejected s) : Except Error Unit) := by
    cases b
    · exact .error rfl
    · exact .ok ()
  have hkey (material : String) := Key.load_engines files material
  unfold authenticate
  cases s.credential with
  | password password => simpa using hrejected (decide (rules.password = some password))
  | privateKey material =>
    dsimp only
    split
    next e hload => exact .error (hkey material e hload)
    next => exact hrejected rules.acceptsKeys
  | encryptedPrivateKey material passphrase =>
    dsimp only
    split
    next e hload => exact .error (hkey material e hload)
    next => exact hrejected rules.acceptsKeys

theorem login_engines (n : Network) (files : Files) (b : Bastion) (s : Settings) :
    Error.OnlyEngines (login n files b s).2 := by
  rw [login]
  split
  next e hconnect => exact .error (connect_engines n b s e hconnect)
  next rules hconnect =>
    have hauth := authenticate_engines files rules s
    split
    next notes e heq =>
      rw [heq] at hauth
      exact .error (hauth e rfl)
    next => exact .ok rules

theorem selfTest_engines (n : Network) (dialable : UInt16 → Bool) (l : Listener) :
    Error.OnlyEngines (selfTest n dialable l) := by
  rw [selfTest]
  split
  · exact .ok ()
  · exact .error rfl

/-- How the steps go on a network. Without a listener there is nothing to dial. -/
def startup (n : Network) (dialable : UInt16 → Bool) (files : Files) (b : Bastion)
    (s : Settings) : Startup where
  connected := .of (login n files b s).2 (login_engines n files b s)
  bound := .of (Listener.bind n s.localHost s.localPort) (Listener.bind_engines n _ _)
  tested := .of (Listener.bind n s.localHost s.localPort >>= selfTest n dialable)
    (.bind (Listener.bind_engines n _ _) (selfTest_engines n dialable))

/-! ## The bastion behind the tunnel -/

/-- What becomes of a connection whose client sends a text. -/
def fare (rules : Rules) (s : Settings) (text : String) : Fare :=
  if !rules.opensChannels then .lost
  else if rules.breaks = some .atFarewell && text = farewell then .fatal (lost s)
  else .carried

/-- Clients come from the machine itself. -/
def remote (rules : Rules) (s : Settings) : Remote Note where
  carry text :=
    ([.channel s.targetHost s.targetPort Machine.Address.loopback.text], fare rules s text)
  gone := if rules.breaks = some .afterLogin then some (lost s) else none

theorem eq_lost_of_gone {rules : Rules} {s : Settings} {e : Error}
    (h : (remote rules s).gone = some e) : e = lost s := by
  simp only [remote] at h
  split at h
  · exact (Option.some.inj h).symm
  · cases h

/-- The first connection of a tunnel is that of the dial that has tested it. Nobody waits for
an answer to it. -/
def begin (remote : Remote Note) (loop : Loop) (failing : Nat) : Rehearsal Note :=
  { (Rehearsal.begin remote loop failing).dial remote true false "" with echoes := [] }

end Engine

end PortTunnel.Ssh
