import ProxyAutoConfig.CommandLine
import Std.Time

/-!
# The program

The outer layer: it reads the variables, the clock and the file that the specifier names, runs
the command line on them and prints its report. There is no resolver and no way to download.
-/

open ProxyAutoConfig

/-- The variables that the program looks at. -/
def readEnvironment : IO Environment := do
  let names := [Overrides.authoritiesVariable, Overrides.downloadVariable,
    Overrides.logLevelVariable]
  let values ← names.mapM fun name => do return (name, ← IO.getEnv name)
  return values.filterMap fun (name, value) => value.map fun v => (name, v)

/-- The world at this moment. -/
def readWorld : IO World := do
  let now ← Std.Time.DateTime.now
  return World.isolated now.toTimestamp.toSecondsSinceUnixEpoch.val now.offset.second.val

/-- The file that a specifier names, if it names one that can be read. -/
def readSupply (specifier : String) : IO Source.Supply := do
  match Source.Origin.ofSpecifier specifier, Source.filePath specifier with
  | .file, .ok path =>
    try
      let bytes ← IO.FS.readBinFile path
      return Source.Supply.ofFiles [(path, bytes.toList)]
    catch _ => return Source.Supply.ofFiles []
  | _, _ => return Source.Supply.ofFiles []

def main (args : List String) : IO UInt32 := do
  let supply ← readSupply (args.headD "")
  let report := CommandLine.run supply (← readWorld) (← readEnvironment) args
  for e in report.events do
    IO.eprintln (CommandLine.eventLine e)
  IO.print report.output
  IO.eprint report.errors
  return report.exit.toUInt32
