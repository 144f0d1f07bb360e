import PortTunnel.Json.Printer
import PortTunnel.Session.Settings

/-!
# Requests for a session

* `Session.Request`: what the session service is asked to start.
* `Session.endpoint`: where the service of a region is found.
* `Session.pluginArguments`, `Session.pluginResponse`: what the program that carries the
  session is told.
-/

namespace PortTunnel.Session

open Schema

/-- The kind of session that forwards a port to a host behind the instance. -/
def documentName : String := "AWS-StartPortForwardingSessionToRemoteHost"

/-- The variable in which the program is handed the session. -/
def responseVariable : String := "AWS_SSM_START_SESSION_RESPONSE"

/-- The program that carries a session where the settings name none. -/
def defaultPlugin : String := "session-manager-plugin"

structure Request where
  target : String
  document : String
  host : String
  localPort : UInt16
  targetPort : UInt16
  deriving DecidableEq, Repr

namespace Request

def ofSettings (s : Settings) : Request :=
  ⟨s.inst, documentName, s.targetHost, s.localPort, s.targetPort⟩

def portText (p : UInt16) : String := toString p.toNat

/-- Every parameter is a list of one text. -/
def toJson (r : Request) : Json :=
  .object [
    ("Target", .string r.target),
    ("DocumentName", .string r.document),
    ("Parameters", .object [
      ("host", Json.ofTexts [r.host]),
      ("localPortNumber", Json.ofTexts [portText r.localPort]),
      ("portNumber", Json.ofTexts [portText r.targetPort])])]

def text (r : Request) : String := Json.compact r.toJson

end Request

/-- Regions of one country have a domain of their own. -/
def endpoint (region : String) : String :=
  if "cn-".toList.isPrefixOf region.toList then s!"https://ssm.{region}.amazonaws.com.cn"
  else s!"https://ssm.{region}.amazonaws.com"

def Assignment.request (a : Assignment) : Request := .ofSettings a.settings

/-- The program of a session. -/
def Assignment.plugin (a : Assignment) : String := a.settings.plugin.getD defaultPlugin

/-- The arguments of the program, by position. -/
def pluginArguments (a : Assignment) : List String :=
  [responseVariable, a.settings.region, "StartSession", a.settings.profile.getD "",
    a.request.text, endpoint a.settings.region]

/-- The session as the program reads it from its variable. -/
def pluginResponse (a : Assignment) : String := Json.compact (Recorded.toJson a.grant)

end PortTunnel.Session
