import SqlEmit.Command

/-! The program: reads files, runs the command and prints. -/
namespace SqlEmit

def usage : String :=
  "usage: sqlemit [--config FILE] transpile|explain SCRIPT [--metadata FILE] [--dialect NAME]\n" ++
  "               [--year-offset YEARS] [--json]\n" ++
  "       sqlemit dialects\n"

def readText (path : String) : IO (Option String) := do
  try return some (← IO.FS.readFile path) catch _ => return none

def readScript (path : String) : IO (Option String) := do
  if path = "-" then
    try return some (← (← IO.getStdin).readToEnd) catch _ => return none
  else readText path

def userConfig : IO (Option String) := do
  match ← IO.getEnv "XDG_CONFIG_HOME", ← IO.getEnv "HOME" with
  | some base, _ => readText (base ++ "/sqlemit/config.toml")
  | none, some home => readText (home ++ "/.config/sqlemit/config.toml")
  | none, none => return none

def randomUuid : IO Uuid := do
  let bytes ← IO.getRandomBytes 16
  let n := bytes.foldl (fun n byte => n * 256 + byte.toNat) 0
  return {
    timeLow := BitVec.ofNat 32 n
    timeMid := BitVec.ofNat 16 (n / Nat.pow 2 32)
    timeHigh := BitVec.ofNat 16 (n / Nat.pow 2 48 % 4096 + 0x4000)
    clock := BitVec.ofNat 16 (n / Nat.pow 2 64 % 0x4000 + 0x8000)
    node := BitVec.ofNat 48 (n / Nat.pow 2 80) }

/-- Identifiers that differ for different calls: a random one with the node of the call in it. -/
def freshIds : IO (NodeId → Uuid) := do
  let base ← randomUuid
  return fun node => { base with timeLow := base.timeLow ^^^ BitVec.ofNat 32 node.index.toNat }

def execute (invocation : Command.Invocation) : IO (Except Command.Failure String) := do
  let path ← match invocation.config with
    | some path => pure (some path)
    | none => IO.getEnv "SQLEMIT_CONFIG"
  let named ← match path with
    | some path => pure (some (← readText path))
    | none => pure none
  match Command.loadConfig named (← readText "sqlemit.toml") (← userConfig) with
  | .error failure => return .error failure
  | .ok config =>
    match invocation.action with
    | .dialects => return Command.run .dialects config none none fun _ => default
    | .script report args =>
      let script ← readScript args.script
      let catalogPath ← match args.catalog with
        | some path => pure (some path)
        | none => IO.getEnv "SQLEMIT_METADATA"
      let catalog ← match catalogPath with
        | some path => pure (some (← readText path))
        | none => pure none
      return Command.run (.script report args) config script catalog (← freshIds)

end SqlEmit

def main (args : List String) : IO UInt32 := do
  match SqlEmit.Command.parse args with
  | none =>
    IO.eprint SqlEmit.usage
    return SqlEmit.Command.Failure.exitCode .usage
  | some invocation =>
    match ← SqlEmit.execute invocation with
    | .ok text =>
      IO.print text
      return 0
    | .error failure =>
      IO.eprintln ("Error: " ++ failure.message)
      return failure.exitCode
