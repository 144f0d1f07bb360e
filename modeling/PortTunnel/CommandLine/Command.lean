import PortTunnel.CommandLine.Access
import PortTunnel.CommandLine.Reading
import PortTunnel.Session.Settings
import PortTunnel.Ssh.Settings

/-!
# Commands

* `Command`: what the program can be told to do, with the arguments of each.
* `Command.read`: the command of a command line.
-/

namespace PortTunnel.CommandLine

open Text (TextTable)

/-- Arguments of all commands that open a tunnel. -/
structure LaunchArguments where
  logDirectory : Option String
  /-- The process that the tunnel belongs to; the caller if none is given. -/
  watchPid : Option UInt32
  deriving DecidableEq, Repr

structure SshArguments where
  host : String
  port : UInt16
  user : Option String
  password : Option String
  key : Option String
  passphrase : Option String
  targetHost : String
  targetPort : UInt16
  localHost : String
  localPort : UInt16
  deriving DecidableEq, Repr

structure ClusterArguments where
  localHost : String
  localPort : UInt16
  nspace : String
  service : String
  targetPort : UInt16
  access : AccessArguments
  deriving DecidableEq, Repr

structure CloseArguments where
  pid : UInt32
  sessionId : Option String
  region : Option String
  profile : Option String
  roleArn : Option String
  deriving DecidableEq, Repr

inductive Command where
  | ssh (arguments : SshArguments) (launch : LaunchArguments)
  | session (settings : Session.Settings) (launch : LaunchArguments)
  | cluster (arguments : ClusterArguments) (launch : LaunchArguments)
  | close (arguments : CloseArguments)
  | version
  deriving DecidableEq, Repr

/-! ## Parameters -/

/-- A port, which is a number of 16 bits. -/
def port (name : String) (required : Bool) : Parameter :=
  { name := name, arity := .once (.number UInt16.size), required := required }

/-- A text that may come from the environment. -/
def named (name envName : String) : Parameter := { name := name, envName := some envName }

def optional (name : String) : Parameter := { name := name }

def required (name : String) : Parameter := { name := name, required := true }

def launchParameters : List Parameter := [
  { name := "log-dir", arity := .once .path, envName := some "TUNNELWARD_LOG_DIR" },
  { name := "watch-pid", arity := .once (.number UInt32.size), envName := some "TUNNELWARD_WATCH_PID" }]

def sshParameters : List Parameter := [
  required "ssh-host",
  port "ssh-port" false,
  named "ssh-user" "TUNNELWARD_SSH_USER",
  named "ssh-password" "TUNNELWARD_SSH_PASSWORD",
  named "ssh-key" "TUNNELWARD_SSH_KEY",
  named "ssh-key-passphrase" "TUNNELWARD_SSH_KEY_PASSPHRASE",
  required "target-host",
  port "target-port" true,
  optional "local-host",
  port "local-port" false] ++ launchParameters

def sessionParameters : List Parameter := [
  required "instance",
  { name := "region", envName := some "AWS_REGION", required := true },
  named "profile" "AWS_PROFILE",
  named "role-arn" "TUNNELWARD_SSM_ROLE_ARN",
  optional "target-host",
  port "target-port" true,
  port "local-port" false,
  named "plugin" "TUNNELWARD_SSM_PLUGIN"] ++ launchParameters

/-- A parameter about a program that prints credentials. -/
def aboutLogin (name : String) (arity : Arity) : Parameter :=
  { name := name, arity := arity, needs := some "exec-command" }

def accessParameters : List Parameter := [
  named "host" "KUBE_HOST",
  named "username" "KUBE_USER",
  named "password" "KUBE_PASSWORD",
  { name := "insecure", arity := .flag, envName := some "KUBE_INSECURE" },
  named "tls-server-name" "KUBE_TLS_SERVER_NAME",
  named "client-certificate" "KUBE_CLIENT_CERT_DATA",
  named "client-key" "KUBE_CLIENT_KEY_DATA",
  named "cluster-ca-certificate" "KUBE_CLUSTER_CA_CERT_DATA",
  named "config-paths" "KUBE_CONFIG_PATHS",
  named "config-path" "KUBE_CONFIG_PATH",
  named "config-context" "KUBE_CTX",
  named "config-context-auth-info" "KUBE_CTX_AUTH_INFO",
  named "config-context-cluster" "KUBE_CTX_CLUSTER",
  named "token" "KUBE_TOKEN",
  named "proxy-url" "KUBE_PROXY_URL",
  optional "exec-command",
  aboutLogin "exec-api-version" (.once .text),
  aboutLogin "exec-arg" .many,
  aboutLogin "exec-env" .many]

def clusterParameters : List Parameter := [
  optional "namespace",
  required "service",
  port "target-port" true,
  optional "local-host",
  port "local-port" false] ++ accessParameters ++ launchParameters

def closeParameters : List Parameter := [
  { name := "pid", arity := .once (.number UInt32.size), required := true },
  optional "session-id",
  named "region" "AWS_REGION",
  named "profile" "AWS_PROFILE",
  named "role-arn" "TUNNELWARD_SSM_ROLE_ARN"]

/-! ## Arguments -/

/-- Where a tunnel listens, and where its target is, if nothing is given. -/
def defaultHost : String := "localhost"

namespace Given

def port (g : Given) (name : String) (standard : UInt16) : UInt16 :=
  ((g.number? name).map UInt16.ofNat).getD standard

def launch (g : Given) : LaunchArguments where
  logDirectory := g.text? "log-dir"
  watchPid := (g.number? "watch-pid").map UInt32.ofNat

def ssh (g : Given) : SshArguments where
  host := g.text "ssh-host" ""
  port := g.port "ssh-port" Ssh.defaultPort
  user := g.text? "ssh-user"
  password := g.text? "ssh-password"
  key := g.text? "ssh-key"
  passphrase := g.text? "ssh-key-passphrase"
  targetHost := g.text "target-host" ""
  targetPort := g.port "target-port" 0
  localHost := g.text "local-host" defaultHost
  localPort := g.port "local-port" 0

def session (g : Given) : Session.Settings where
  inst := g.text "instance" ""
  region := g.text "region" ""
  profile := g.text? "profile"
  roleArn := g.text? "role-arn"
  targetHost := g.text "target-host" defaultHost
  targetPort := g.port "target-port" 0
  localPort := g.port "local-port" 0
  plugin := g.text? "plugin"

def access (g : Given) : AccessArguments where
  host := g.text? "host"
  username := g.text? "username"
  password := g.text? "password"
  insecure := g.isTrue "insecure"
  tlsServerName := g.text? "tls-server-name"
  clientCertificate := g.text? "client-certificate"
  clientKey := g.text? "client-key"
  authority := g.text? "cluster-ca-certificate"
  paths := g.text? "config-paths"
  path := g.text? "config-path"
  context := g.text? "config-context"
  contextUser := g.text? "config-context-auth-info"
  contextCluster := g.text? "config-context-cluster"
  token := g.text? "token"
  proxyUrl := g.text? "proxy-url"
  execCommand := g.text? "exec-command"
  execApiVersion := g.text? "exec-api-version"
  execArgs := g.texts "exec-arg"
  execEnv := g.texts "exec-env"

/-- The namespace of a service for which none is given. -/
def defaultNamespace : String := "default"

def cluster (g : Given) : ClusterArguments where
  localHost := g.text "local-host" defaultHost
  localPort := g.port "local-port" 0
  nspace := g.text "namespace" defaultNamespace
  service := g.text "service" ""
  targetPort := g.port "target-port" 0
  access := g.access

def close (g : Given) : CloseArguments where
  pid := ((g.number? "pid").map UInt32.ofNat).getD 0
  sessionId := g.text? "session-id"
  region := g.text? "region"
  profile := g.text? "profile"
  roleArn := g.text? "role-arn"

end Given

/-! ## Reading -/

namespace Command

/-- A command under its name: its parameters, and what it makes of them. -/
structure Entry where
  name : String
  parameters : List Parameter
  make : Given → Command

def entries : List Entry := [
  ⟨"ssh", sshParameters, fun g => .ssh g.ssh g.launch⟩,
  ⟨"ssm", sessionParameters, fun g => .session g.session g.launch⟩,
  ⟨"kubernetes", clusterParameters, fun g => .cluster g.cluster g.launch⟩,
  ⟨"close", closeParameters, fun g => .close g.close⟩,
  ⟨"version", [], fun _ => .version⟩]

def named? (name : String) : Option Entry := entries.find? (·.name = name)

/-- The command that helps with another one. -/
def helpName : String := "help"

def isName (name : String) : Bool := (named? name).isSome || name = helpName

/-- No command has commands of its own. -/
def readHelp : List String → Usage
  | [] => .help
  | [name] => if isName name then .help else .unknownCommand
  | _ => .unknownCommand

/-- Behind an escape there is no command. -/
def readEscaped : List String → Usage
  | [] => .incomplete
  | name :: _ => if isName name then .unknownArgument else .unknownCommand

/-- The command comes first; before it, there may be a request for a text. -/
def read (env : TextTable) : List String → Except Usage Command
  | [] => .error .incomplete
  | first :: rest =>
    match Argument.ofText first with
    | .escape => .error (readEscaped rest)
    | .long "help" none => .error .help
    | .long "version" none => .error (.version none)
    | .long "help" (some _) => .error .surplusValue
    | .long "version" (some _) => .error .surplusValue
    | .long _ _ => .error .unknownArgument
    | .short 'h' => .error .help
    | .short 'V' => .error (.version none)
    | .short _ => .error .unknownArgument
    | .word name =>
      match named? name with
      | some e => (CommandLine.read e.parameters e.name env rest).map e.make
      | none => .error (if name = helpName then readHelp rest else .unknownCommand)

end Command

end PortTunnel.CommandLine
