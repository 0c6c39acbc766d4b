import EtcdLocator.Program

namespace EtcdLocator

def faultOfError : IO.Error → ReadFault
  | .noFileOrDirectory .. => .notFound
  | .inappropriateType _ 21 _ => .isDirectory
  | .inappropriateType .. => .notDirectory
  | .permissionDenied .. => .other "Permission denied (os error 13)"
  | e => .other (toString e)

def readFile (path : String) : IO (Except ReadFault (List UInt8)) := do
  try
    let content ← IO.FS.readBinFile path
    return .ok content.data.toList
  catch e => return .error (faultOfError e)

def filesOf (read : List (String × Except ReadFault (List UInt8))) : Files := fun path =>
  ((read.find? (·.1 = path)).map (·.2)).getD (.error .notFound)

def pathsOf (around : Program.Surroundings) (words : List String) : List String :=
  match CommandLine.parse around.config words with
  | .error _ => []
  | .ok i =>
    i.config.toList ++
      match around.settings i with
      | .error _ => []
      | .ok s =>
        (match s.tls with
          | none => []
          | some t => [t.ca, t.cert, t.key]) ++
        let kubeconfigs := match s.kubernetes.kubeconfig with
          | some path => [path]
          | none => Kubernetes.Kubeconfig.usualPaths around.kubeconfig around.home
        kubeconfigs ++ kubeconfigs.flatMap fun path =>
          match Kubernetes.Kubeconfig.ofFile around.files path with
          | .error _ => []
          | .ok k => k.paths

/-- Reads the files that a run asks for. The configuration comes first and names a kubeconfig, which
names the others. -/
def readFiles (around : Files → Program.Surroundings) (words : List String) : IO Files := do
  let read (files : Files) : IO Files := do
    let paths := pathsOf (around files) words
    return filesOf (← paths.mapM fun path => do return (path, ← readFile path))
  read (← read (← read (filesOf [])))

/-- Runs the program as it was called. It brings no way to reach a cluster along. -/
def callWith (words : List String) : IO UInt32 := do
  let config ← IO.getEnv "KTHREES_ETCDCTL_CONFIG"
  let kubeconfig ← IO.getEnv "KUBECONFIG"
  let home ← IO.getEnv "HOME"
  let around (files : Files) : Program.Surroundings :=
    { files, network := .offline, config, kubeconfig, home }
  let files ← readFiles around words
  let outcome := Program.call (around files) words
  IO.print outcome.output
  match outcome.error with
  | none => pure ()
  | some cause =>
    IO.eprintln ("Error: " ++ cause.brief)
    unless cause.inner.isEmpty do
      IO.eprintln "\nCaused by:"
      cause.inner.forM fun message => IO.eprintln ("    " ++ message)
  return outcome.exitCode

end EtcdLocator

def main (words : List String) : IO UInt32 := EtcdLocator.callWith words
