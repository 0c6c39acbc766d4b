import EtcdLocator.CommandLine.Grammar
import EtcdLocator.Report.Format

namespace EtcdLocator.CommandLine

/-- The command, with the candidate nodes in the order in which they are tried. -/
inductive Command where
  | leader (nodes : List String)
  | firstAvailable (nodes : List String)
  | pods
deriving DecidableEq, Repr

structure Invocation where
  config : Option String := none
  kubeconfig : Option String := none
  context : Option String := none
  ca : Option String := none
  cert : Option String := none
  key : Option String := none
  serverName : Option String := none
  dialTimeout : Option String := none
  callTimeout : Option String := none
  /-- How long the command may take, as it was given. -/
  timeout : String := "60s"
  output : Report.Format := .text
  logFormat : Report.Format := .text
  command : Command
deriving DecidableEq, Repr

def isFormat (s : String) : Bool := s = "text" || s = "json"

def formatOf (s : Option String) : Report.Format := if s = some "json" then .json else .text

def pathOption (name : String) : Switch := { name, use := .option (· ≠ "") false }

def textOption (name : String) : Switch := { name, use := .option (fun _ => true) false }

def helpFlag : Switch := { name := "help", letter := some 'h', use := .flag .displayHelp }

def grammar : Grammar where
  switches := [
    pathOption "config",
    pathOption "kubeconfig",
    textOption "context",
    pathOption "ca",
    pathOption "cert",
    pathOption "key",
    textOption "server-name",
    textOption "dial-timeout",
    textOption "call-timeout",
    textOption "timeout",
    { name := "output", letter := some 'o', use := .option isFormat false },
    { name := "log-format", use := .option isFormat false },
    helpFlag,
    { name := "version", letter := some 'V', use := .flag .displayVersion }]
  commands := ["leader", "first-available", "pods", "help"]

def nodesGrammar : Grammar where
  switches := [{ name := "node", use := .option (fun _ => true) true }, helpFlag]

def podsGrammar : Grammar where
  switches := [helpFlag]

/-- The help on a command, or on the program. No command has commands of its own. -/
def help : List String → Rejection
  | [] => .displayHelp
  | [name] => if grammar.commands.contains name then .displayHelp else .invalidCommand
  | _ => .invalidCommand

def readAll (g : Grammar) (words : List String) : Except Rejection Draft := do
  let (d, _) ← g.read {} words
  d.settle

def readNodes (words : List String) : Except Rejection (List String) := do
  match (← readAll nodesGrammar words).valuesOf "node" with
  | [] => .error .missingRequired
  | nodes => .ok nodes

def readCommand (name : String) (words : List String) : Except Rejection Command :=
  if name = "leader" then (readNodes words).map .leader
  else if name = "first-available" then (readNodes words).map .firstAvailable
  else if name = "pods" then (readAll podsGrammar words).map fun _ => .pods
  else .error (help words)

def withEnvironment (config : Option String) (d : Draft) : Except Rejection Draft :=
  match config with
  | none => .ok d
  | some path => if d.has "config" then .ok d else d.enter (pathOption "config") path

def isComplete (d : Draft) : Bool :=
  d.has "ca" == d.has "cert" && d.has "cert" == d.has "key"

/-- Reads the words after the program's name. `config` is the path that the environment gives. The
options before the command count once the command itself is read. -/
def parse (config : Option String) (words : List String) : Except Rejection Invocation := do
  let (d, rest) ← grammar.read {} words
  let command ← match rest with
    | none => pure none
    | some (name, words) => (readCommand name words).map some
  let d ← d.settle
  let d ← withEnvironment config d
  match command with
  | none => .error (if d.values.isEmpty then .displayHelpOnMissing else .missingCommand)
  | some command =>
    if isComplete d then
      return {
        config := d.value? "config"
        kubeconfig := d.value? "kubeconfig"
        context := d.value? "context"
        ca := d.value? "ca"
        cert := d.value? "cert"
        key := d.value? "key"
        serverName := d.value? "server-name"
        dialTimeout := d.value? "dial-timeout"
        callTimeout := d.value? "call-timeout"
        timeout := (d.value? "timeout").getD "60s"
        output := formatOf (d.value? "output")
        logFormat := formatOf (d.value? "log-format")
        command }
    else .error .missingRequired

end EtcdLocator.CommandLine
