import MetricPaths.CommandLine

/-! The program: reads the files that its command line and its settings name, and writes
what the command shows. -/
namespace MetricPaths
namespace CommandLine

def contentAt? (path : String) : IO (Option Content) := do
  try
    let data ← IO.FS.readBinFile path
    return some (.bytes data.toList)
  catch
    | .noFileOrDirectory _ _ _ => return none
    | _ => return some .directory

def filesAt (paths : List String) : IO Files :=
  paths.filterMapM fun path => do
    return (← contentAt? path).map fun content => (path, content)

def environmentNames : List String :=
  Settings.fieldNames.map fun field => String.ofList (Letters.upper (Settings.variableOf field).toList)

def currentEnvironment : IO (List (String × String)) :=
  environmentNames.filterMapM fun name => do
    return (← IO.getEnv name).map fun value => (name, value)

/-- The paths that a request can read. -/
def pathsOf (environment : List (String × String)) (files : Files) (line : Line) : List String :=
  let fromSettings := match Settings.read environment files with
    | .ok settings => settings.configFile.toList
    | .error _ => []
  match line.request with
  | some (.translate a) => a.config.toList ++ fromSettings
  | some (.check file) => file :: fromSettings
  | _ => []

def display : Shown → IO Unit
  | .text s => IO.print s
  | .line s => IO.println s
  | .table title headers rows => do
    match title with
    | some title => IO.println title
    | none => pure ()
    for cells in headers :: rows do IO.println (String.intercalate "\t" cells)

def execute (arguments : List String) : IO UInt32 := do
  let environment ← currentEnvironment
  let own ← filesAt [Settings.fileName]
  let files ← match lineOf arguments with
    | .ok line => do
      let more ← filesAt (pathsOf environment own line)
      pure (own ++ more)
    | .error _ => pure own
  match run ⟨environment, files⟩ arguments with
  | .usage code =>
    IO.eprintln "usage: translate NAME [-l KEY=VALUE] | parse PATH | check-config FILE"
    return code.toUInt32
  | .ran r =>
    for s in r.shown do display s
    for e in r.log do IO.eprintln (e.event ++ " " ++ Value.literal (.map (e.fields.map fun f => (.str f.1, f.2))))
    IO.eprint r.message
    match r.exit with
    | .ok n => return n.toNat.toUInt32
    | .error accident =>
      IO.eprintln accident.label
      return 1

end CommandLine
end MetricPaths

def main (arguments : List String) : IO UInt32 := MetricPaths.CommandLine.execute arguments
