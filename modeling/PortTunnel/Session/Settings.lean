import PortTunnel.Schema.Recorded

/-!
# Settings of a managed session

* `Session.Settings`: the instance a session runs on and the target behind it.
* `Session.Grant`: what the session service hands out for a session it started.
* `Session.Receipt`: where a session lives, kept by whoever has to end it.
* `Session.Assignment`: the settings together with the session they were given.
-/

namespace PortTunnel.Session

open Schema

structure Settings where
  inst : String
  region : String
  profile : Option String
  roleArn : Option String
  targetHost : String
  targetPort : UInt16
  localPort : UInt16
  /-- The program that carries the session; looked up by its usual name if absent. -/
  plugin : Option String
  deriving DecidableEq, Repr

/-- The token in it is a secret. -/
structure Grant where
  sessionId : String
  tokenValue : String
  streamUrl : String
  deriving DecidableEq, Repr

structure Receipt where
  sessionId : String
  region : String
  profile : Option String
  roleArn : Option String
  deriving DecidableEq, Repr

structure Assignment where
  settings : Settings
  grant : Grant
  deriving DecidableEq, Repr

/-- The receipt for a session started under these settings. -/
def Settings.receipt (s : Settings) (sessionId : String) : Receipt :=
  ⟨sessionId, s.region, s.profile, s.roleArn⟩

/-! ## Written form -/

abbrev Settings.fields : Fields :=
  .text "instance" <| .text "region" <| .textOrNull "profile" <| .textOrNull "role_arn" <|
  .text "target_host" <| .required "target_port" .word16 <| .optional "local_port" .word16 <|
  .textOrNull "plugin" .nil

def Settings.toVal (s : Settings) : Settings.fields.Val :=
  (s.inst, s.region, s.profile, s.roleArn, s.targetHost, s.targetPort, some s.localPort,
    s.plugin, ())

def Settings.ofVal : Settings.fields.Val → Settings
  | (i, r, p, a, th, tp, lp, pl, ()) => ⟨i, r, p, a, th, tp, lp.getD (0 : UInt16), pl⟩

abbrev Settings.shape : Shape := .record "struct SessionConfig" Settings.fields

instance : Recorded Settings where
  shape := Settings.shape
  toVal := Settings.toVal
  ofVal := Settings.ofVal
  ofVal_toVal _ := rfl

abbrev Grant.shape : Shape :=
  .record "struct RemoteSession" <|
    .text "SessionId" <| .text "TokenValue" <| .text "StreamUrl" .nil

def Grant.toVal (g : Grant) : Grant.shape.Val := (g.sessionId, g.tokenValue, g.streamUrl, ())

def Grant.ofVal : Grant.shape.Val → Grant
  | (s, t, u, ()) => ⟨s, t, u⟩

instance : Recorded Grant where
  shape := Grant.shape
  toVal := Grant.toVal
  ofVal := Grant.ofVal
  ofVal_toVal _ := rfl

abbrev Receipt.shape : Shape :=
  .record "struct SessionRecord" <|
    .text "session_id" <| .text "region" <|
    .optional "profile" (.nullable (.text "a string")) <|
    .optional "role_arn" (.nullable (.text "a string")) .nil

def Receipt.toVal (r : Receipt) : Receipt.shape.Val :=
  (r.sessionId, r.region, r.profile.map some, r.roleArn.map some, ())

def Receipt.ofVal : Receipt.shape.Val → Receipt
  | (s, r, p, a, ()) => ⟨s, r, Option.join p, Option.join a⟩

theorem Receipt.ofVal_toVal (r : Receipt) : ofVal r.toVal = r := by
  cases r with
  | mk s r p a => cases p <;> cases a <;> rfl

instance : Recorded Receipt where
  shape := Receipt.shape
  toVal := Receipt.toVal
  ofVal := Receipt.ofVal
  ofVal_toVal := Receipt.ofVal_toVal

abbrev Assignment.fields : Fields :=
  .required "config" Settings.shape <| .required "session" Grant.shape .nil

def Assignment.toVal (a : Assignment) : Assignment.fields.Val := (a.settings.toVal, a.grant.toVal, ())

def Assignment.ofVal : Assignment.fields.Val → Assignment
  | (s, g, ()) => ⟨.ofVal s, .ofVal g⟩

instance : Recorded Assignment where
  shape := .record "struct SessionWorker" Assignment.fields
  toVal := Assignment.toVal
  ofVal := Assignment.ofVal
  ofVal_toVal _ := rfl

end PortTunnel.Session
