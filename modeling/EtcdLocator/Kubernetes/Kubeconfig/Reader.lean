import EtcdLocator.Kubernetes.Kubeconfig.Basic
import EtcdLocator.Yaml.Reader

namespace EtcdLocator.Kubernetes

abbrev Fields := List (String × Yaml)

namespace Fields

/-- A field that may be left out or hold nothing. -/
def optional {α : Type} (l : Fields) (name : String) (read : Yaml → Option α) :
    Option (Option α) :=
  match l.lookup name with
  | none | some .null => some none
  | some v => (read v).map some

def required {α : Type} (l : Fields) (name : String) (read : Yaml → Option α) : Option α :=
  (l.lookup name).bind read

/-- A field that may be left out, but not hold nothing. -/
def orElse {α : Type} (l : Fields) (name : String) (default : α) (read : Yaml → Option α) :
    Option α :=
  match l.lookup name with
  | none => some default
  | some v => read v

def text (l : Fields) (name : String) : Option (Option String) := l.optional name Yaml.text?

def list {α : Type} (l : Fields) (name : String) (read : Yaml → Option α) : Option (List α) :=
  (l.optional name (Yaml.items? read)).map (·.getD [])

def source (l : Fields) (name : String) : Option Source := do
  return { path := ← l.text name, data := ← l.text (name ++ "-data") }

end Fields

def named {α : Type} (field : String) (read : Yaml → Option α) (v : Yaml) :
    Option (String × Option α) := do
  let l : Fields ← v.fields?
  return (← l.required "name" Yaml.text?, ← l.optional field read)

/-- Checks what a field is used for elsewhere. -/
def extensions (l : Fields) : Option Unit := do
  let _ ← l.list "extensions" fun v => do
    let l : Fields ← v.fields?
    let _ ← l.required "name" Yaml.text?
    let _ ← l.required "extension" some
  return ()

def Plugin.ofYaml? (v : Yaml) : Option Plugin := do
  let l : Fields ← v.fields?
  let _ ← l.text "apiVersion"
  let _ ← l.list "args" Yaml.text?
  let _ ← l.list "env" fun v => do (← v.fields?).mapM fun p => p.2.text?
  let mode ← l.text "interactiveMode"
  if !mode.all ["Never", "IfAvailable", "Always"].contains then none
  return {
    command := ← l.text "command"
    wantsCluster := ← l.orElse "provideClusterInfo" false Yaml.flag? }

def Provider.ofYaml? (v : Yaml) : Option Provider := do
  let l : Fields ← v.fields?
  let settings : Fields ← l.orElse "config" [] Yaml.fields?
  return {
    name := ← l.required "name" Yaml.text?
    settings := ← settings.mapM fun (name, v) => v.text?.map (name, ·) }

def User.ofYaml? (v : Yaml) : Option User := do
  let l : Fields ← v.fields?
  return {
    username := ← l.text "username"
    password := ← l.text "password"
    token := ← l.text "token"
    tokenFile := ← l.text "tokenFile"
    certificate := ← l.source "client-certificate"
    key := ← l.source "client-key"
    impersonated := ← l.text "as"
    groups := ← l.list "as-groups" Yaml.text?
    provider := ← l.optional "auth-provider" Provider.ofYaml?
    plugin := ← l.optional "exec" Plugin.ofYaml? }

def ClusterEntry.ofYaml? (v : Yaml) : Option ClusterEntry := do
  let l : Fields ← v.fields?
  let _ ← l.optional "insecure-skip-tls-verify" Yaml.flag?
  let _ ← l.optional "disable-compression" Yaml.flag?
  extensions l
  return {
    server := ← l.text "server"
    authority := ← l.source "certificate-authority"
    proxy := ← l.text "proxy-url"
    serverName := ← l.text "tls-server-name" }

def Context.ofYaml? (v : Yaml) : Option Context := do
  let l : Fields ← v.fields?
  let _ ← l.text "namespace"
  extensions l
  return { cluster := ← l.required "cluster" Yaml.text?, user := ← l.text "user" }

def preferences (v : Yaml) : Option Unit := do
  let l : Fields ← v.fields?
  let _ ← l.optional "colors" Yaml.flag?
  extensions l

namespace Kubeconfig

def ofYaml? (v : Yaml) : Option Kubeconfig := do
  let l : Fields ← v.fields?
  let _ ← l.optional "preferences" preferences
  extensions l
  return {
    kind := ← l.text "kind"
    version := ← l.text "apiVersion"
    currentContext := ← l.text "current-context"
    contexts := ← l.list "contexts" (named "context" Context.ofYaml?)
    clusters := ← l.list "clusters" (named "cluster" ClusterEntry.ofYaml?)
    users := ← l.list "users" (named "user" User.ofYaml?) }

def ofText? (s : String) : Option (List Kubeconfig) := (Yaml.flow? s).bind (·.mapM ofYaml?)

end Kubeconfig

end EtcdLocator.Kubernetes
