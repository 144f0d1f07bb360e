import PortTunnel.Schema.Recorded

/-!
# Kubeconfig documents

What a configuration file of the cluster tools says: clusters, users, and contexts that
pair one of each under a name.

* `Kubeconfig`: a whole document.
* `Kubeconfig.Cluster`, `Kubeconfig.User`, `Kubeconfig.Context`: its entries.
-/

namespace PortTunnel

open Schema
open Text (TextTable)

namespace Kubeconfig

/-- A remark of some tool, which nobody else reads. -/
structure Extension where
  name : String
  extension : Json
  deriving Repr

/-- An entry of one of the lists. -/
structure Named (α : Type) where
  name : String
  body : Option α
  deriving DecidableEq, Repr

structure Cluster where
  server : Option String
  insecure : Option Bool
  authorityFile : Option String
  authorityData : Option String
  proxyUrl : Option String
  disableCompression : Option Bool
  tlsServerName : Option String
  extensions : Option (List Extension)
  deriving Repr

structure AuthProvider where
  name : String
  config : TextTable
  deriving DecidableEq, Repr

/-- A program that prints credentials. -/
structure Exec where
  apiVersion : Option String
  command : Option String
  args : Option (List String)
  env : Option (List TextTable)
  interactiveMode : Option String
  provideClusterInfo : Bool
  deriving DecidableEq, Repr

structure User where
  username : Option String
  password : Option String
  token : Option String
  tokenFile : Option String
  certificateFile : Option String
  certificateData : Option String
  keyFile : Option String
  keyData : Option String
  impersonate : Option String
  impersonateGroups : Option (List String)
  authProvider : Option AuthProvider
  exec : Option Exec
  deriving DecidableEq, Repr

/-- A user about whom nothing is said. -/
def User.nobody : User := ⟨none, none, none, none, none, none, none, none, none, none, none, none⟩

structure Context where
  cluster : String
  user : Option String
  nspace : Option String
  extensions : Option (List Extension)
  deriving Repr

structure Preferences where
  colors : Option Bool
  extensions : Option (List Extension)
  deriving Repr

end Kubeconfig

structure Kubeconfig where
  preferences : Option Kubeconfig.Preferences := none
  clusters : List (Kubeconfig.Named Kubeconfig.Cluster) := []
  users : List (Kubeconfig.Named Kubeconfig.User) := []
  contexts : List (Kubeconfig.Named Kubeconfig.Context) := []
  currentContext : Option String := none
  extensions : Option (List Kubeconfig.Extension) := none
  kind : Option String := none
  apiVersion : Option String := none
  deriving Repr, Inhabited

namespace Kubeconfig

/-! ## Written form -/

abbrev Extension.shape : Shape :=
  .record "struct NamedExtension" <| .text "name" <| .required "extension" .any .nil

def Extension.toVal (e : Extension) : Extension.shape.Val := (e.name, e.extension, ())

def Extension.ofVal : Extension.shape.Val → Extension
  | (n, x, ()) => ⟨n, x⟩

/-- The remarks on a part of the document. -/
abbrev Extension.field (rest : Fields) : Fields :=
  .maybe "extensions" (.list Extension.shape) rest

def extensionsVal : Option (List Extension) → Option (Option (List Extension.shape.Val)) :=
  maybeVal (List.map Extension.toVal)

def ofExtensionsVal : Option (Option (List Extension.shape.Val)) → Option (List Extension) :=
  ofMaybeVal (List.map Extension.ofVal)

theorem ofExtensionsVal_extensionsVal (x : Option (List Extension)) :
    ofExtensionsVal (extensionsVal x) = x :=
  ofMaybeVal_maybeVal (map_of_inverse fun _ => rfl) x

abbrev Cluster.shape : Shape :=
  .record "struct Cluster" <|
    .maybeText "server" <| .maybe "insecure-skip-tls-verify" .flag <|
    .maybeText "certificate-authority" <| .maybeText "certificate-authority-data" <|
    .maybeText "proxy-url" <| .maybe "disable-compression" .flag <|
    .maybeText "tls-server-name" <| Extension.field .nil

def Cluster.toVal (c : Cluster) : Cluster.shape.Val :=
  (c.server.map some, c.insecure.map some, c.authorityFile.map some, c.authorityData.map some,
    c.proxyUrl.map some, c.disableCompression.map some, c.tlsServerName.map some,
    extensionsVal c.extensions, ())

def Cluster.ofVal : Cluster.shape.Val → Cluster
  | (s, i, af, ad, p, d, t, x, ()) =>
    ⟨Option.join s, Option.join i, Option.join af, Option.join ad, Option.join p, Option.join d,
      Option.join t, ofExtensionsVal x⟩

theorem Cluster.ofVal_toVal (c : Cluster) : ofVal c.toVal = c := by
  cases c
  simp only [ofVal, toVal, ofExtensionsVal_extensionsVal]
  congr 1 <;> exact join_map_some _

abbrev AuthProvider.shape : Shape :=
  .record "struct AuthProviderConfig" <| .text "name" <| .optional "config" .table .nil

def AuthProvider.toVal (a : AuthProvider) : AuthProvider.shape.Val := (a.name, some a.config, ())

def AuthProvider.ofVal : AuthProvider.shape.Val → AuthProvider
  | (n, c, ()) => ⟨n, c.getD TextTable.empty⟩

theorem AuthProvider.ofVal_toVal (a : AuthProvider) : ofVal a.toVal = a := rfl

abbrev Exec.shape : Shape :=
  .record "struct ExecConfig" <|
    .maybeText "apiVersion" <| .maybeText "command" <| .maybe "args" .texts <|
    .maybe "env" (.list .table) <|
    .maybe "interactiveMode"
      (.choice "ExecInteractiveMode" ["Never", "IfAvailable", "Always"]) <|
    .optional "provideClusterInfo" .flag .nil

def Exec.toVal (e : Exec) : Exec.shape.Val :=
  (e.apiVersion.map some, e.command.map some, e.args.map some, e.env.map some,
    e.interactiveMode.map some, some e.provideClusterInfo, ())

def Exec.ofVal : Exec.shape.Val → Exec
  | (v, c, a, n, m, p, ()) =>
    ⟨Option.join v, Option.join c, Option.join a, Option.join n, Option.join m, p.getD false⟩

theorem Exec.ofVal_toVal (e : Exec) : ofVal e.toVal = e := by
  cases e
  simp only [ofVal, toVal]
  congr 1 <;> exact join_map_some _

abbrev User.shape : Shape :=
  .record "struct AuthInfo" <|
    .maybeText "username" <| .maybeText "password" <| .maybeText "token" <|
    .maybeText "tokenFile" <| .maybeText "client-certificate" <|
    .maybeText "client-certificate-data" <| .maybeText "client-key" <|
    .maybeText "client-key-data" <| .maybeText "as" <| .maybe "as-groups" .texts <|
    .maybe "auth-provider" AuthProvider.shape <| .maybe "exec" Exec.shape .nil

def User.toVal (u : User) : User.shape.Val :=
  (u.username.map some, u.password.map some, u.token.map some, u.tokenFile.map some,
    u.certificateFile.map some, u.certificateData.map some, u.keyFile.map some,
    u.keyData.map some, u.impersonate.map some, u.impersonateGroups.map some,
    maybeVal AuthProvider.toVal u.authProvider, maybeVal Exec.toVal u.exec, ())

def User.ofVal : User.shape.Val → User
  | (n, p, t, tf, cf, cd, kf, kd, a, g, pr, e, ()) =>
    ⟨Option.join n, Option.join p, Option.join t, Option.join tf, Option.join cf, Option.join cd,
      Option.join kf, Option.join kd, Option.join a, Option.join g,
      ofMaybeVal AuthProvider.ofVal pr, ofMaybeVal Exec.ofVal e⟩

theorem User.ofVal_toVal (u : User) : ofVal u.toVal = u := by
  cases u
  simp only [ofVal, toVal, ofMaybeVal_maybeVal Exec.ofVal_toVal,
    ofMaybeVal_maybeVal AuthProvider.ofVal_toVal]
  congr 1 <;> exact join_map_some _

instance : Recorded User where
  shape := User.shape
  toVal := User.toVal
  ofVal := User.ofVal
  ofVal_toVal := User.ofVal_toVal

abbrev Context.shape : Shape :=
  .record "struct Context" <|
    .text "cluster" <| .maybeText "user" <| .maybeText "namespace" <| Extension.field .nil

def Context.toVal (c : Context) : Context.shape.Val :=
  (c.cluster, c.user.map some, c.nspace.map some, extensionsVal c.extensions, ())

def Context.ofVal : Context.shape.Val → Context
  | (c, u, n, x, ()) => ⟨c, Option.join u, Option.join n, ofExtensionsVal x⟩

theorem Context.ofVal_toVal (c : Context) : ofVal c.toVal = c := by
  cases c
  simp only [ofVal, toVal, ofExtensionsVal_extensionsVal]
  congr 1 <;> exact join_map_some _

abbrev Preferences.shape : Shape :=
  .record "struct Preferences" <| .maybe "colors" .flag <| Extension.field .nil

def Preferences.toVal (p : Preferences) : Preferences.shape.Val :=
  (p.colors.map some, extensionsVal p.extensions, ())

def Preferences.ofVal : Preferences.shape.Val → Preferences
  | (c, x, ()) => ⟨Option.join c, ofExtensionsVal x⟩

theorem Preferences.ofVal_toVal (p : Preferences) : ofVal p.toVal = p := by
  cases p
  simp only [ofVal, toVal, ofExtensionsVal_extensionsVal]
  congr 1
  exact join_map_some _

/-- An entry with its body under a name of its list. -/
abbrev Named.shape (title body : String) (s : Shape) : Shape :=
  .record title <| .text "name" <| .maybe body s .nil

def Named.toVal {α β : Type} (f : α → β) (n : Named α) : String × Option (Option β) × Unit :=
  (n.name, maybeVal f n.body, ())

def Named.ofVal {α β : Type} (f : β → α) : String × Option (Option β) × Unit → Named α
  | (n, b, ()) => ⟨n, ofMaybeVal f b⟩

theorem Named.ofVal_toVal {α β : Type} {f : α → β} {g : β → α} (h : ∀ a, g (f a) = a)
    (n : Named α) : ofVal g (n.toVal f) = n :=
  congrArg (Named.mk n.name) (ofMaybeVal_maybeVal h n.body)

/-- A list that may be left out or null and is then empty. -/
def entriesVal {α β : Type} (f : α → β) (xs : List (Named α)) :
    Option (Option (List (String × Option (Option β) × Unit))) := some (some (xs.map (Named.toVal f)))

def ofEntriesVal {α β : Type} (f : β → α)
    (x : Option (Option (List (String × Option (Option β) × Unit)))) : List (Named α) :=
  ((Option.join x).getD []).map (Named.ofVal f)

theorem ofEntriesVal_entriesVal {α β : Type} {f : α → β} {g : β → α} (h : ∀ a, g (f a) = a)
    (xs : List (Named α)) : ofEntriesVal g (entriesVal f xs) = xs :=
  map_of_inverse (Named.ofVal_toVal h) xs

abbrev shape : Shape :=
  .record "struct Kubeconfig" <|
    .maybe "preferences" Preferences.shape <|
    .maybe "clusters" (.list (Named.shape "struct NamedCluster" "cluster" Cluster.shape)) <|
    .maybe "users" (.list (Named.shape "struct NamedAuthInfo" "user" User.shape)) <|
    .maybe "contexts" (.list (Named.shape "struct NamedContext" "context" Context.shape)) <|
    .maybeText "current-context" <| Extension.field <|
    .maybeText "kind" <| .maybeText "apiVersion" .nil

def toVal (k : Kubeconfig) : shape.Val :=
  (maybeVal Preferences.toVal k.preferences, entriesVal Cluster.toVal k.clusters,
    entriesVal User.toVal k.users, entriesVal Context.toVal k.contexts,
    k.currentContext.map some, extensionsVal k.extensions, k.kind.map some,
    k.apiVersion.map some, ())

def ofVal : shape.Val → Kubeconfig
  | (p, c, u, x, cc, e, k, v, ()) =>
    ⟨ofMaybeVal Preferences.ofVal p, ofEntriesVal Cluster.ofVal c, ofEntriesVal User.ofVal u,
      ofEntriesVal Context.ofVal x, Option.join cc, ofExtensionsVal e, Option.join k,
      Option.join v⟩

theorem ofVal_toVal (k : Kubeconfig) : ofVal k.toVal = k := by
  cases k
  simp only [ofVal, toVal, ofExtensionsVal_extensionsVal,
    ofMaybeVal_maybeVal Preferences.ofVal_toVal, ofEntriesVal_entriesVal Cluster.ofVal_toVal,
    ofEntriesVal_entriesVal User.ofVal_toVal, ofEntriesVal_entriesVal Context.ofVal_toVal]
  congr 1 <;> exact join_map_some _

instance : Recorded Kubeconfig where
  shape := shape
  toVal := toVal
  ofVal := ofVal
  ofVal_toVal := ofVal_toVal

end Kubeconfig

end PortTunnel
