import RedemptionRelay.CommandLine
import RedemptionRelay.Http.Offline

/-! # The program

Reads the variables, files and database that a command may need, runs it, and
keeps the database. A database is a text file with one record per line. This
program brings no transport of its own, so requests fail as they do without a
network.
-/

namespace RedemptionRelay.Program

def variableNames : List String :=
  ["RELAYER_NETWORK", "RELAYER_CHAINS", "RELAYER_DB_PATH", "RELAYER_WORMHOLESCAN_URL",
    "RELAYER_SIGNER_URL", "RELAYER_POLL_INTERVAL_SECS", "RELAYER_MAX_RETRIES",
    "RELAYER_RETRY_BACKOFF_SECS", "RELAYER_ATTESTATION_DEADLINE_SECS",
    "RELAYER_FETCH_TIMEOUT_SECS", "RELAYER_SUBMIT_TIMEOUT_SECS", "RELAYER_LOG_LEVEL",
    "RELAYER_LOG_JSON"]

def readEnvironment : IO VariableFile.Environment := do
  let mut environment := []
  for name in variableNames do
    if let some value ← IO.getEnv name then
      environment := (name, value) :: environment
  return environment

def readFile? (path : String) : IO (Option String) := do
  try
    return some (← IO.FS.readFile path)
  catch _ =>
    return none

def readFiles (paths : List String) : IO FileTree := do
  let mut files := []
  for path in paths do
    if let some text ← readFile? path then
      files := (path, text) :: files
  return .ofFiles files

/-- Milliseconds since the start of 1970, as the file system tells them. -/
def readClock : IO Nat := do
  let (_, path) ← IO.FS.createTempFile
  let modified := (← path.metadata).modified
  IO.FS.removeFile path
  return modified.sec.toNat * 1000 + modified.nsec.toNat / 1000000

/-- A text with a line that is no record is no database. -/
def entryOfText (text : String) : Entry :=
  let lines := (text.splitOn "\n").filter fun line => !line.isEmpty
  match lines.mapM Redemption.read? with
  | some records => .database { rows := records.map Row.ofRecord }
  | none => .text text

def textOfStore (store : TableStore) : String :=
  String.join ((store.rows.filterMap Row.record?).map fun record => record.write ++ "\n")

def readDatabase (tree : FileTree) (path : String) : IO FileTree := do
  match DatabaseLocation.ofText? path with
  | some (.file name) =>
      let place := Place.ofPath name
      match ← readFile? place.path with
      | some text => return (tree.makeFoldersFor place.path).put place (entryOfText text)
      | none => return tree
  | _ => return tree

def writeDatabases (tree : FileTree) : IO Unit := do
  for (place, entry) in tree.entries do
    if let .database store := entry then
      IO.FS.createDirAll place.outside.path
      IO.FS.writeFile place.path (textOfStore store)

def openWorkspace (environment : VariableFile.Environment) (arguments : List String) :
    IO (Workspace Unit) := do
  let workspace : Workspace Unit := {
    tree := ← readFiles (".env" :: arguments)
    clock := ← readClock
    transport := .offline
    network := () }
  let environment := CommandLine.environmentOf workspace environment
  match Configuration.load (environment.lookup ·) with
  | .ok configuration =>
      return { workspace with tree := ← readDatabase workspace.tree configuration.databasePath }
  | .error _ => return workspace

def runtime : Runtime where
  thread := 1
  place phase _ := s!"the lease for the {phase.text} call"
  note := "shorter time limits leave room for leases"

def conclude (report : Report) : IO UInt32 := do
  IO.eprint (report.errorOutput runtime)
  return report.exitCode.toUInt32

/-- Ticks until the program is interrupted or breaks off. -/
def serve (workspace : Workspace Unit) (configuration : Configuration) : IO UInt32 := do
  let mut workspace := workspace
  repeat
    workspace := { workspace with clock := ← readClock }
    let (report, later) := CommandLine.carryOut workspace configuration .tick
    workspace := later
    writeDatabases workspace.tree
    if let .overflow _ _ := report.ending then
      return ← conclude report
    IO.sleep (configuration.pollSeconds * 1000).toUInt32
  return 0

end RedemptionRelay.Program

open RedemptionRelay in
def main (arguments : List String) : IO UInt32 := do
  let environment ← Program.readEnvironment
  let workspace ← Program.openWorkspace environment arguments
  let (report, workspace) := CommandLine.execute workspace environment arguments
  IO.print report.output
  Program.writeDatabases workspace.tree
  if let .serve configuration := report.ending then
    return ← Program.serve workspace configuration
  Program.conclude report
