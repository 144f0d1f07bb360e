import PortTunnel.Schema.Recorded

/-!
# Settings of an SSH tunnel

* `Ssh.Credential`: how the bastion is told who connects.
* `Ssh.Settings`: a listener, a bastion and the target behind it.
-/

namespace PortTunnel.Ssh

open Schema

/-- A password or a private key. Key material is the text of a key or the path of a file
that holds it. -/
inductive Credential where
  | password (password : String)
  | privateKey (material : String)
  | encryptedPrivateKey (material passphrase : String)
  deriving DecidableEq, Repr

structure Settings where
  localHost : String
  localPort : UInt16
  bastionHost : String
  bastionPort : UInt16
  user : String
  credential : Credential
  targetHost : String
  targetPort : UInt16
  deriving DecidableEq, Repr

/-- The port of a bastion for which none is given. -/
def defaultPort : UInt16 := 22

/-! ## Written form -/

abbrev Credential.shape : Shape :=
  .union "SshCredential" "kind" <|
    .case "password" "struct variant SshCredential::Password" (.text "password" .nil) <|
    .case "private_key" "struct variant SshCredential::PrivateKey" (.text "material" .nil) <|
    .case "encrypted_private_key" "struct variant SshCredential::EncryptedPrivateKey"
      (.text "material" <| .text "passphrase" .nil) .nil

def Credential.toVal : Credential → Credential.shape.Val
  | .password p => .inl (p, ())
  | .privateKey m => .inr (.inl (m, ()))
  | .encryptedPrivateKey m p => .inr (.inr (.inl (m, p, ())))

def Credential.ofVal : Credential.shape.Val → Credential
  | .inl (p, ()) => .password p
  | .inr (.inl (m, ())) => .privateKey m
  | .inr (.inr (.inl (m, p, ()))) => .encryptedPrivateKey m p

instance : Recorded Credential where
  shape := Credential.shape
  toVal := Credential.toVal
  ofVal := Credential.ofVal
  ofVal_toVal c := by cases c <;> rfl

abbrev Settings.fields : Fields :=
  .optional "local_host" (.text "a string") <| .optional "local_port" .word16 <|
  .text "bastion_host" <| .optional "bastion_port" .word16 <| .text "user" <|
  .required "credential" Credential.shape <| .text "target_host" <|
  .required "target_port" .word16 .nil

def Settings.toVal (s : Settings) : Settings.fields.Val :=
  (some s.localHost, some s.localPort, s.bastionHost, some s.bastionPort, s.user,
    s.credential.toVal, s.targetHost, s.targetPort, ())

def Settings.ofVal : Settings.fields.Val → Settings
  | (lh, lp, bh, bp, u, c, th, tp, ()) =>
    ⟨lh.getD "localhost", lp.getD (0 : UInt16), bh, bp.getD defaultPort, u, .ofVal c, th, tp⟩

theorem Settings.ofVal_toVal (s : Settings) : ofVal s.toVal = s := by
  cases s with
  | mk lh lp bh bp u c th tp => cases c <;> rfl

instance : Recorded Settings where
  shape := .record "struct SshConfig" Settings.fields
  toVal := Settings.toVal
  ofVal := Settings.ofVal
  ofVal_toVal := Settings.ofVal_toVal

end PortTunnel.Ssh
