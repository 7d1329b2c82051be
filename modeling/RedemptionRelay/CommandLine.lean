import RedemptionRelay.Amount
import RedemptionRelay.FileTree.Database
import RedemptionRelay.Json.Document
import RedemptionRelay.RelayError
import RedemptionRelay.Service
import RedemptionRelay.VariableFile

/-! # The command line

A command runs in a workspace: files and databases on disk, a clock, and a
transport to the network. Settings are read before the command is looked
at. What a command prints and how it ends is its report.
-/

namespace RedemptionRelay

structure Workspace (ω : Type) where
  tree : FileTree
  /-- Milliseconds since the start of 1970. -/
  clock : Nat
  transport : Transport ω
  network : ω

inductive Ending where
  | success
  | failure (error : RelayError)
  /-- The service is to run until it is interrupted. -/
  | serve (configuration : Configuration)
  /-- There was no lease for a call of this phase. -/
  | overflow (phase : Phase) (addition : Overflow)
deriving DecidableEq, Repr

/-- What a runtime says about a program that breaks off. -/
structure Runtime where
  /-- The number of the main thread. -/
  thread : Nat
  /-- Where in the program the addition is made. -/
  place : Phase → Overflow → String
  note : String

def Runtime.lastWords (runtime : Runtime) (phase : Phase) (addition : Overflow) : String :=
  s!"\nthread 'main' ({runtime.thread}) panicked at {runtime.place phase addition}:\n" ++
  s!"{addition.message}\nnote: {runtime.note}\n"

structure Report where
  lines : List String := []
  ending : Ending := .success
deriving DecidableEq, Repr

namespace Report

def output (report : Report) : String :=
  String.join (report.lines.map (· ++ "\n"))

def errorOutput (report : Report) (runtime : Runtime) : String :=
  match report.ending with
  | .failure error => s!"Error [{error.code}]: {error.message}\n"
  | .overflow phase addition => runtime.lastWords phase addition
  | _ => ""

def exitCode (report : Report) : Nat :=
  match report.ending with
  | .failure _ => 1
  | .overflow _ _ => 101
  | _ => 0

def failed (error : RelayError) : Report :=
  { ending := .failure error }

end Report

namespace CommandLine

/-! ## Arguments

An argument that begins with two dashes is a flag and takes the argument after
it as its value. -/

def isFlag (argument : String) : Bool :=
  "--".toList.isPrefixOf argument.toList

def flagValue? (flag : String) : List String → Option String
  | [] => none
  | argument :: rest => if argument = flag then rest.head? else flagValue? flag rest

def positionals : List String → List String
  | [] => []
  | [argument] => if isFlag argument then [] else [argument]
  | argument :: following :: rest =>
      if isFlag argument then positionals rest
      else argument :: positionals (following :: rest)

def positional (arguments : List String) (index : Nat) (what : String) :
    Except RelayError String :=
  match (positionals arguments)[index]? with
  | some argument => .ok argument
  | none => .error (.validation s!"missing {what}")

/-! ## Commands -/

inductive Command where
  | run (interval : Option Nat)
  | tick
  | counts (chain : Option String)
  | display (id : String)
  | list (status : Status) (chain : Option String)
  | ingest (chain path : String)
  | usage
deriving DecidableEq, Repr

def interval (text : String) : Except RelayError Nat :=
  match Digits.readSigned? 10 text.toList with
  | some seconds =>
      if 0 < seconds ∧ seconds < Width.bound64 then .ok seconds
      else .error (.validation s!"invalid interval: {text}")
  | none => .error (.validation s!"invalid interval: {text}")

def Command.parse (name : String) (arguments : List String) : Except RelayError Command :=
  match name with
  | "run" =>
      match flagValue? "--interval" arguments with
      | some text => (interval text).map fun seconds => .run (some seconds)
      | none => .ok (.run none)
  | "tick" => .ok .tick
  | "status" => .ok (.counts (flagValue? "--chain" arguments))
  | "show" => (positional arguments 0 "redemption id").map .display
  | "list" => do
      let text ← positional arguments 0 "status"
      match Status.ofText? text with
      | some status => return .list status (flagValue? "--chain" arguments)
      | none => .error (.validation (Status.unknownMessage text))
  | "ingest" => do
      let chain ← positional arguments 0 "chain name"
      let path ← positional arguments 1 "event file"
      return .ingest chain path
  | _ => .ok .usage

/-! ## Printed texts -/

def usageLines : List String :=
  ["tBTC Relayer - Redemption relaying to L1",
    "",
    "Usage:",
    "  relayer run [--interval <secs>]          Start the relayer loop",
    "  relayer tick                             Run both batches once",
    "  relayer status [--chain <name>]          Show counts by status",
    "  relayer show <id>                        Show one redemption",
    "  relayer list <status> [--chain <name>]   List redemptions in a status",
    "  relayer ingest <chain> <event.json>      Record one raw chain event",
    "",
    "Statuses: pending, fetch_failed, fetched, submit_failed, completed, failed",
    "",
    "Environment Variables:",
    "  RELAYER_NETWORK           mainnet, testnet or devnet (default: testnet)",
    "  RELAYER_CHAINS            name:kind list (default: ArbitrumSepolia:evm,BaseSepolia:evm)",
    "  RELAYER_DB_PATH           SQLite file (default: data/redemptions.db)",
    "  RELAYER_WORMHOLESCAN_URL  Attestation API",
    "  RELAYER_SIGNER_URL        Settlement signer service (required on mainnet)",
    "  RELAYER_LOG_LEVEL         Logging level (default: info)"]

def optionalLine (label : String) : Option String → List String
  | some text => [label ++ text]
  | none => []

def recordLines (record : Redemption) : List String :=
  let amount := record.event.amount
  [s!"ID:          {record.id}",
    s!"Chain:       {record.chain}",
    s!"Status:      {record.status.text} (version {record.version})",
    s!"Amount:      {Amount.displayText (Amount.toSats amount)} ({amount} tBTC units)",
    s!"Wallet PKH:  {record.event.walletPubKeyHash}",
    s!"Attestation: {record.attestation.text}"] ++
  optionalLine "Settlement:  " record.settlement ++
  (if record.retryCount > 0 then [s!"Retries:     {record.retryCount}"] else []) ++
  optionalLine "Error:       " record.error

def logLine (entry : LogEntry) : String :=
  s!"  [{entry.time}] {entry.message}"

/-! ## Carrying out commands -/

/-- The world of one command: its database and its way to the network. -/
structure Session (ω : Type) where
  store : TableStore
  network : ω

def settings (configuration : Configuration) : ServiceSettings :=
  { chains := configuration.chains
    policy := configuration.policy
    pollMilliseconds := configuration.pollSeconds * 1000 }

variable {ω : Type}

def answer (configuration : Configuration) (clock : Nat) (transport : Transport ω) :
    Surroundings (Session ω)
  | session, .listRecords status chain => (Store.withStatus session.store status chain, session)
  | session, .readClock => (clock / 1000, session)
  | session, .create record =>
      match Store.create session.store record with
      | .ok (creation, store) => (.ok creation, { session with store := store })
      | .error error => (.error error, session)
  | session, .update record expected =>
      match Store.update session.store record expected with
      | .ok (version, store) => (.ok version, { session with store := store })
      | .error error => (.error error, session)
  | session, .perform (.fetch transaction) limit =>
      let request := Attestation.lookupRequest configuration.attestationUrl transaction
      let (result, network) :=
        Attestation.fetch transport session.network configuration.attestationUrl transaction
      (if transport.isHeard session.network limit request then some result else none,
        { session with network := network })
  | session, .perform (.submit payload event) limit =>
      let request := Settlement.submitRequest configuration.signerUrl payload event
      let (result, network) :=
        Settlement.submit transport session.network configuration.signerUrl payload event
      (if transport.isHeard session.network limit request then some result else none,
        { session with network := network })
  | session, .announce _ => ((), session)

namespace Session

def tick (session : Session ω) (configuration : Configuration) (clock : Nat)
    (transport : Transport ω) : Report × Session ω :=
  let surroundings := answer configuration clock transport
  let settings := settings configuration
  match settings.tick surroundings session with
  | (none, ended) =>
      let policy := settings.policy
      let phase :=
        ServiceSettings.lastPhase surroundings policy .attestation session settings.batches
      ({ ending := .overflow phase (policy.overflow (policy.timeout phase)) }, ended)
  | (some report, session) =>
      let ending : Ending :=
        if report.failedBatches > 0 then
          .failure (.validation s!"{report.failedBatches} batch(es) could not be read")
        else .success
      ({ lines := [report.text], ending := ending }, session)

def status (session : Session ω) (chain : Option String) : Report :=
  match Store.countByStatus session.store chain with
  | .ok counts =>
      let scope := chain.getD "all chains"
      { lines := [s!"=== Redemption Status ({scope}) ===", (Statistics.ofCounts counts).text] }
  | .error error => .failed (.storage error)

def display (session : Session ω) (id : String) : Report :=
  match Store.get? session.store id with
  | .ok (some record) =>
      { lines := recordLines record ++ ["", "Log:"] ++ record.logs.map logLine }
  | .ok none => .failed (.notFound id)
  | .error error => .failed (.storage error)

def list (session : Session ω) (status : Status) (chain : Option String) : Report :=
  match Store.withStatus session.store status chain with
  | .ok records =>
      { lines := s!"{records.length} redemption(s) in {status.text}" ::
          records.flatMap fun record => "" :: recordLines record }
  | .error error => .failed (.storage error)

def record (session : Session ω) (configuration : Configuration) (clock : Nat)
    (transport : Transport ω) (event : RawEvent) : Report × Session ω :=
  let surroundings := answer configuration clock transport
  let intake := Intake.start (settings configuration).listener event
  match Activity.run surroundings session intake with
  | (.ok (.created id), session) => ({ lines := [s!"Recorded redemption {id}"] }, session)
  | (.ok (.duplicate id), session) =>
      ({ lines := [s!"Redemption {id} already recorded"] }, session)
  | (.ok (.skipped reason), session) =>
      (.failed (.validation s!"event skipped: {reason}"), session)
  | (.error error, session) => (.failed (.listener error), session)

end Session

/-- The event that a command names, if its chain is configured and its file can
be read. -/
def eventFrom (workspace : Workspace ω) (configuration : Configuration) (chain path : String) :
    Except RelayError RawEvent :=
  match configuration.chain? chain with
  | none => .error (.validation s!"chain {chain} is not configured")
  | some chain =>
      match workspace.tree.read path with
      | .error error => .error (.io error.message)
      | .ok text =>
          match Json.read text with
          | .ok payload => .ok { chain := chain.name, payload := payload }
          | .error error => .error (.validation s!"{path}: {error.message}")

/-- Opens the configured database for one command and keeps what became of it. -/
def withSession (workspace : Workspace ω) (configuration : Configuration)
    (act : Session ω → Report × Session ω) : Report × Workspace ω :=
  let path := configuration.databasePath
  let tree := workspace.tree.makeFoldersFor path
  match tree.openDatabase path with
  | .error error => (.failed (.storage error), { workspace with tree := tree })
  | .ok database =>
      let (report, session) := act { store := database.store, network := workspace.network }
      let tree := tree.keep { database with store := session.store }
      (report, { workspace with tree := tree, network := session.network })

def startService (workspace : Workspace ω) (configuration : Configuration) :
    Report × Workspace ω :=
  match configuration.checkForRun with
  | .error error => (.failed (.configuration error), workspace)
  | .ok () =>
      let lines := configuration.summaryLines ++ ["", "Press Ctrl+C to stop", ""]
      let (report, workspace) := withSession workspace configuration fun session =>
        ({ ending := .serve configuration }, session)
      ({ report with lines := lines ++ report.lines }, workspace)

def carryOut (workspace : Workspace ω) (configuration : Configuration) :
    Command → Report × Workspace ω
  | .run interval =>
      let configuration :=
        { configuration with pollSeconds := interval.getD configuration.pollSeconds }
      startService workspace configuration
  | .tick =>
      withSession workspace configuration fun session =>
        session.tick configuration workspace.clock workspace.transport
  | .counts chain =>
      withSession workspace configuration fun session => (session.status chain, session)
  | .display id =>
      withSession workspace configuration fun session => (session.display id, session)
  | .list status chain =>
      withSession workspace configuration fun session => (session.list status chain, session)
  | .ingest chain path =>
      match eventFrom workspace configuration chain path with
      | .error error => (.failed error, workspace)
      | .ok event =>
          withSession workspace configuration fun session =>
            session.record configuration workspace.clock workspace.transport event
  | .usage => ({ lines := usageLines }, workspace)

def isHelp (name : String) : Bool :=
  name == "help" || name == "--help" || name == "-h"

/-- The variables that a command sees: its own, then those of the file `.env`. -/
def environmentOf (workspace : Workspace ω) (environment : VariableFile.Environment) :
    VariableFile.Environment :=
  match workspace.tree.read ".env" with
  | .ok text => VariableFile.extend environment text
  | .error _ => environment

def execute (workspace : Workspace ω) (environment : VariableFile.Environment) :
    List String → Report × Workspace ω
  | [] => ({ lines := usageLines }, workspace)
  | name :: arguments =>
      if isHelp name then ({ lines := usageLines }, workspace)
      else
        let environment := environmentOf workspace environment
        match Configuration.load (environment.lookup ·) with
        | .error error => (.failed (.configuration error), workspace)
        | .ok configuration =>
            match Command.parse name arguments with
            | .error error => (.failed error, workspace)
            | .ok command => carryOut workspace configuration command

end CommandLine

end RedemptionRelay
