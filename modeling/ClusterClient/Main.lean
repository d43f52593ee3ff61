import ClusterClient.CommandLine.Run

open ClusterClient CommandLine

def apiKeyVariable : String := "VELLUM_API_KEY"

def outOfReach : Script :=
  { rules := [{ pattern := .any, reply := .error .refused }] }

def readText (path : String) : IO (Option String) := do
  try
    return String.fromUTF8? (← IO.FS.readBinFile path)
  catch _ => return none

def printOutput (o : Output) : IO UInt32 := do
  IO.print o.stdout
  IO.eprint o.stderr
  return o.status.toUInt32

def main (args : List String) : IO UInt32 := do
  let apiKey ← IO.getEnv apiKeyVariable
  match Invocation.ofArgs args apiKey with
  | .error refusal => printOutput refusal.output
  | .ok invocation =>
    let configText ← match invocation.connection.config with
      | some path => readText path
      | none => pure none
    let state := mkStdGen (← IO.rand 0 (1 <<< 62))
    printOutput (invocation.run
      { apiKey, configText, servers := outOfReach, ids := .random state })
