import LiveSurface.Command.Run
/-!
# The command

Reads a batch, applies it and prints the drawn surfaces. Settings come from the environment and from the
file `.env` in the working directory.
-/
namespace LiveSurface.Terminal

/-- The text of a file, or none if it cannot be read. -/
def readText? (name : String) : IO (Option String) := do
  try
    let text ← IO.FS.readFile name
    return some text
  catch _ => return none

/-- All that is left on a stream. -/
partial def readRest (stream : IO.FS.Stream) (before : ByteArray) : IO ByteArray := do
  let more ← stream.read 65536
  if more.isEmpty then return before else readRest stream (before ++ more)

/-- The text of a batch: of standard input for `-`, else of the file with that name. -/
def readBatch? (name : String) : IO (Option String) := do
  if name = "-" then
    let octets ← readRest (← IO.getStdin) ByteArray.empty
    return String.fromUTF8? octets
  else readText? name

/-- The variables of the environment that give settings. -/
def environment : IO (List (String × String)) := do
  let mut found := []
  for f in SettingsField.all do
    for name in [f.variableName.toUpper, f.variableName] do
      match ← IO.getEnv name with
      | some value => found := found ++ [(name, value)]
      | none => pure ()
  return found

/-- Runs the command and gives the status with which it ends. -/
def run (args : List String) : IO UInt32 := do
  let text? ← match Request.ofArguments args with
    | .ok (some request) => readBatch? request.batch
    | _ => pure none
  let envFile ← readText? ".env"
  let sources : SettingsSources := { environment := ← environment, envFile := envFile.getD "" }
  match (Command.run args (fun _ => text?) sources).result with
  | .ok text => do
    (← IO.getStdout).putStr text
    return 0
  | .error refusal => do
    let stream ← if refusal = .help then IO.getStdout else IO.getStderr
    stream.putStr refusal.message
    return UInt32.ofNat refusal.status

end LiveSurface.Terminal

def main (args : List String) : IO UInt32 := LiveSurface.Terminal.run args
