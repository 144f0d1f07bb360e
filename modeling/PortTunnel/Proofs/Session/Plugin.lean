import PortTunnel.Proofs.Handoff
import PortTunnel.Proofs.Open
import PortTunnel.Session.Rehearsal

/-!
# What the program of a session is told

A session is asked for by one process and carried by another, which makes up the request for it
again. Both requests are the same one, and the session arrives as it was granted.

* `isPassable_compact`: the texts of values can be handed to any program.
* `PluginCommand`: what the command of such a program says, by the settings of the tunnel and by what
  the broker was asked for and has granted.
* `plugin_command_of_grant`: every session that is granted is handed on so, from the check before the
  launch through the payload to the command.
-/

namespace PortTunnel.Session

open Machine (Command Environment Files isPassable)
open Text.Utf8 (bytes text?_bytes)

/-! ## Texts that a system passes on -/

theorem isPassable_iff {text : String} : isPassable text ↔ '\x00' ∉ text.toList := by
  simp [isPassable]

theorem isPassable_append {a b : String} (ha : isPassable a) (hb : isPassable b) :
    isPassable (a ++ b) := by
  rw [isPassable_iff] at ha hb ⊢
  rw [String.toList_append]
  exact fun h => (List.mem_append.mp h).elim ha hb

theorem isPassable_compact {j : Json} (hj : j.Integral) : isPassable (Json.compact j) := by
  rw [isPassable_iff, Json.compact, String.toList_ofList]
  exact Json.nul_not_mem_compactChars hj

theorem isPassable_endpoint {region : String} (h : isPassable region) :
    isPassable (endpoint region) := by
  have hdomain : isPassable ("https://ssm." ++ region) := isPassable_append (by decide) h
  unfold endpoint
  split
  · exact isPassable_append hdomain (by decide)
  · exact isPassable_append hdomain (by decide)

/-! ## Requests -/

/-- The value of a request, by the texts of its ports. -/
def requestJson (s : Settings) (localPort targetPort : String) : Json :=
  .object [
    ("Target", .string s.inst),
    ("DocumentName", .string documentName),
    ("Parameters", .object [
      ("host", .array [.string s.targetHost]),
      ("localPortNumber", .array [.string localPort]),
      ("portNumber", .array [.string targetPort])])]

theorem integral_request (r : Request) : r.toJson.Integral := by
  simp [Request.toJson, Json.Integral, Json.MembersIntegral, Json.ItemsIntegral, Json.ofTexts]

theorem parse_request (r : Request) : Json.parse r.text.toList = .ok r.toJson := by
  rw [Request.text, Json.compact, String.toList_ofList]
  exact Json.parse_compactChars (integral_request r) (show 3 < 128 by decide)

theorem parse_portText (p : UInt16) :
    Decimal.Word.parse UInt16.size (Request.portText p) = .ok p.toNat :=
  Decimal.Word.parse_toString p.toNat_lt

/-! ## Sessions -/

/-- The value of a session. -/
def grantJson (g : Grant) : Json :=
  .object [
    ("SessionId", .string g.sessionId), ("TokenValue", .string g.tokenValue),
    ("StreamUrl", .string g.streamUrl)]

theorem toJson_grant (g : Grant) : Schema.Recorded.toJson g = grantJson g := rfl

theorem integral_grant (g : Grant) : (grantJson g).Integral := by
  simp [grantJson, Json.Integral, Json.MembersIntegral]

theorem parse_grant (g : Grant) : Json.parse (Json.compactChars (grantJson g)) = .ok (grantJson g) :=
  Json.parse_compactChars (integral_grant g) (show 1 < 128 by decide)

/-! ## The command -/

/-- An environment that a system could have passed on. -/
def Systemic (env : Environment) : Prop := ∀ e ∈ env.entries, 0 ∉ e.1 ∧ 0 ∉ e.2

theorem Systemic.set {env : Environment} {name value : List UInt8} (h : Systemic env)
    (hname : 0 ∉ name) (hvalue : 0 ∉ value) : Systemic (env.set name value) := by
  intro e he
  rw [Environment.entries_set] at he
  rcases List.mem_append.mp he with hold | hnew
  · exact h e (List.mem_filter.mp hold).1
  · rw [List.mem_singleton.mp hnew]
    exact ⟨hname, hvalue⟩

theorem zero_not_mem_bytes {text : String} (h : isPassable text) : 0 ∉ bytes text :=
  Text.Utf8.zero_not_mem_encode (isPassable_iff.mp h)

theorem isPassable_of_systemic {c : Command} (hprogram : isPassable c.program)
    (hargs : ∀ arg ∈ c.args, isPassable arg) (henv : Systemic c.env) : c.isPassable := by
  have hentries : ∀ e ∈ c.env.entries, (!e.1.contains 0 && !e.2.contains 0) = true := by
    intro e he
    obtain ⟨hname, hvalue⟩ := henv e he
    simp [hname, hvalue]
  rw [Command.isPassable, hprogram, List.all_eq_true.mpr hargs, List.all_eq_true.mpr hentries]
  rfl

variable {env : Environment} {a : Assignment}

theorem text?_command : (command env a).env.text? responseVariable = some (pluginResponse a) := by
  rw [Environment.text?, command, Environment.get?_set_self, Option.bind_some, text?_bytes]

theorem isPassable_command (henv : Systemic env) (hregion : isPassable a.settings.region)
    (hprofile : isPassable (a.settings.profile.getD "")) (hplugin : isPassable a.plugin) :
    (command env a).isPassable := by
  have hresponse : isPassable (pluginResponse a) := isPassable_compact (integral_grant a.grant)
  have hrequest : isPassable a.request.text := isPassable_compact (integral_request a.request)
  refine isPassable_of_systemic hplugin ?_ ?_
  · have hargs : ∀ arg ∈ pluginArguments a, isPassable arg := by
      simp only [pluginArguments, List.forall_mem_cons]
      exact ⟨by decide, hregion, by decide, hprofile, hrequest, isPassable_endpoint hregion, nofun⟩
    exact hargs
  · exact henv.set (zero_not_mem_bytes (by decide)) (zero_not_mem_bytes hresponse)

theorem encounter_started (env : Environment) (a : Assignment) (files : Files) (shutdown : Shutdown)
    (guarded : Bool) (limit : Nat) :
    (encounter files env shutdown guarded limit a).1 =
      (files.accept (command env a)).map (Plugin.ofScript files (command env a)) := by
  unfold encounter
  dsimp only
  cases files.accept (command env a) with
  | error f => rfl
  | ok script => rfl

/-! ## The whole -/

/-- What the program of a session is told by its command `c`, where `calls` are what the broker has
received, and `grant` is what it has answered. The engine works for `work`. -/
structure PluginCommand (env : Environment) (s : Settings) (grant : Grant) (calls : List Call)
    (work : Assignment) (c : Command) : Prop where
  /-- The command is the one that the engine starts. -/
  started : ∀ files shutdown guarded limit,
    (encounter files env shutdown guarded limit work).1 =
      (files.accept c).map (Plugin.ofScript files c)
  program : c.program = s.plugin.getD defaultPlugin
  /-- The session is in its variable, and read there as it was granted. -/
  session : ∃ text, c.env.text? responseVariable = some text ∧
    Json.parse text.toList = .ok (grantJson grant) ∧ Payload.decodeChars text.toList = .ok grant
  /-- All other variables are left as they were. -/
  others : ∀ name, name ≠ bytes responseVariable → c.env.get? name = env.get? name
  /-- The broker has received one request. -/
  asked : calls = [.start (.ofSettings s)]
  /-- The request that was sent is among the arguments, with the place where it was sent. -/
  arguments : ∃ text, c.args = [responseVariable, s.region, "StartSession", s.profile.getD "", text,
      endpoint s.region] ∧ Json.parse text.toList = .ok (Request.ofSettings s).toJson
  /-- The request says where the settings lead to. -/
  request : ∃ localPort targetPort,
    (Request.ofSettings s).toJson = requestJson s localPort targetPort ∧
      Decimal.Word.parse UInt16.size localPort = .ok s.localPort.toNat ∧
      Decimal.Word.parse UInt16.size targetPort = .ok s.targetPort.toNat
  /-- No text in the command keeps a system from starting the program. -/
  accepted : Systemic env → isPassable s.region → isPassable (s.profile.getD "") →
    isPassable (s.plugin.getD defaultPlugin) →
      ∀ files : Files, files.accept c = files.script c.program

theorem pluginCommand_command (env : Environment) (s : Settings) (grant : Grant) :
    PluginCommand env s grant [.start (.ofSettings s)] ⟨s, grant⟩ (command env ⟨s, grant⟩) where
  started := encounter_started env ⟨s, grant⟩
  program := rfl
  session := by
    have htext : (pluginResponse ⟨s, grant⟩).toList = Json.compactChars (grantJson grant) :=
      String.toList_ofList
    refine ⟨_, text?_command, ?_, ?_⟩
    · rw [htext]
      exact parse_grant grant
    · rw [htext, ← toJson_grant]
      exact Payload.decodeChars_compactChars grant
  others _ := Environment.get?_set_of_ne
  asked := rfl
  arguments := ⟨(Request.ofSettings s).text, rfl, parse_request _⟩
  request := ⟨Request.portText s.localPort, Request.portText s.targetPort, rfl,
    parse_portText s.localPort, parse_portText s.targetPort⟩
  accepted henv hregion hprofile hplugin files := by
    have hpassable : (command env ⟨s, grant⟩).isPassable :=
      isPassable_command henv hregion hprofile hplugin
    rw [Files.accept, if_pos hpassable]

theorem plugin_command_of_grant (broker : Broker) (s : Settings) (grant : Grant) (env : Environment)
    (hgrant : broker.start (.ofSettings s) = .ok grant) :
    ∃ found calls work,
      broker.preflight s [] = (.ok found, calls) ∧
      Payload.decode (Payload.encode (PortTunnel.Assignment.session found)) =
        .ok (PortTunnel.Assignment.session work) ∧
      PluginCommand env s grant calls work (command env work) := by
  have hfound : broker.preflight s [] = (.ok ⟨s, grant⟩, [.start (.ofSettings s)]) := by
    rw [preflight_run, Open.preflight_granted hgrant]
    rfl
  have hcarried : Payload.decode (Payload.encode (PortTunnel.Assignment.session ⟨s, grant⟩)) =
      .ok (PortTunnel.Assignment.session ⟨s, grant⟩) := by
    have hnone : ∀ c ∈ ([] : List Char), Text.isBlank c := nofun
    simpa using Payload.decode_between_blanks (PortTunnel.Assignment.session ⟨s, grant⟩) hnone hnone
  exact ⟨_, _, _, hfound, hcarried, pluginCommand_command env s grant⟩

/-- A session whose texts need quoting. -/
def quoted : Settings :=
  ⟨"i-\"0\\abc", "cn-north-1", some "prod\n", none, "db\tλ", 5432, 65535, none⟩

theorem plugin_command_of_grant_quoted :
    endpoint quoted.region = "https://ssm.cn-north-1.amazonaws.com.cn" ∧
    ∃ found calls work,
      Broker.preflight ⟨fun _ => .ok ⟨"s\"1", "tok\x00en", "wss://π"⟩, fun _ => .ok ()⟩ quoted [] =
        (.ok found, calls) ∧
      Payload.decode (Payload.encode (PortTunnel.Assignment.session found)) =
        .ok (PortTunnel.Assignment.session work) ∧
      PluginCommand .empty quoted ⟨"s\"1", "tok\x00en", "wss://π"⟩ calls work
        (command .empty work) :=
  ⟨by decide, plugin_command_of_grant
    ⟨fun _ => .ok ⟨"s\"1", "tok\x00en", "wss://π"⟩, fun _ => .ok ()⟩ quoted
    ⟨"s\"1", "tok\x00en", "wss://π"⟩ .empty rfl⟩

end PortTunnel.Session
