import DeviceGrant.CommandLine
import DeviceGrant.Deployment
set_option autoImplicit false

/-! # The command

Reads the arguments, the environment and the environment file, sets the site up and says where the
service is to listen. Requests reach the site through the web server that hosts it. -/

namespace DeviceGrant

/-- The variables of the environment that name settings, in either case. -/
def environment : IO (List (String × String)) := do
  let names := Settings.names ++ Settings.names.map Text.upperAscii
  let found ← names.mapM fun n => do return (← IO.getEnv n).map fun v => (n, v)
  return found.filterMap id

/-- The text of the environment file, if there is one. -/
def environmentFile : IO (Option String) := do
  try
    return some (← IO.FS.readFile ".env")
  catch _ => return none

/-- Writes the lines of events to the standard error. -/
def report (events : List Event) : IO Unit :=
  events.forM fun e => IO.eprintln (e.level.word ++ ": " ++ e.line)

/-- Sets the site up and says where the service is to listen. -/
def serve (o : CommandLine.Options) : IO UInt32 := do
  match Settings.load [] (← environment) (← environmentFile) with
  | .error r =>
    IO.eprintln r.summary
    return 1
  | .ok settings =>
    let site := Http.Site.start settings
    report site.events
    match site.value with
    | .error f =>
      IO.eprintln (f.word ++ ": " ++ f.message)
      return 1
    | .ok _ =>
      report [.serverStarting o.host o.port]
      return 0

end DeviceGrant

/-- The command. -/
def main (arguments : List String) : IO UInt32 := do
  match DeviceGrant.CommandLine.read arguments with
  | .help =>
    IO.println DeviceGrant.CommandLine.helpText
    return 0
  | .fault f =>
    IO.eprintln f.report
    return 2
  | .serve o => DeviceGrant.serve o
