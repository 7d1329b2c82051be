import RedemptionRelay.Attestation
import RedemptionRelay.Chain
import RedemptionRelay.Policy

/-! # Configuration

Settings come from named variables. A variable that is absent has a default,
except for the signer of the main network. The first fault in the order of
`Configuration.load` is the one reported.
-/

namespace RedemptionRelay

inductive ConfigurationError where
  | missingVariable (name : String)
  | invalidValue (name reason : String)
  | networkMismatch (expected actual : String)
deriving DecidableEq, Repr

def ConfigurationError.message : ConfigurationError → String
  | .missingVariable name => s!"missing required environment variable: {name}"
  | .invalidValue name reason => s!"invalid value for {name}: {reason}"
  | .networkMismatch expected actual => s!"network mismatch: expected {expected}, got {actual}"

inductive Network where
  | mainnet
  | testnet
  | devnet
deriving DecidableEq, Repr

namespace Network

def name : Network → String
  | .mainnet => "Mainnet"
  | .testnet => "Testnet"
  | .devnet => "Devnet"

def ofText (text : String) : Except ConfigurationError Network :=
  match Word.lower text with
  | "mainnet" | "main" => .ok .mainnet
  | "testnet" | "test" => .ok .testnet
  | "devnet" | "dev" => .ok .devnet
  | _ => .error (.invalidValue "RELAYER_NETWORK" s!"unknown network: {text}")

def attestationUrl : Network → String
  | .mainnet => Attestation.mainnetUrl
  | .testnet | .devnet => Attestation.testnetUrl

end Network

structure Configuration where
  network : Network
  chains : List Chain
  databasePath : String
  attestationUrl : String
  signerUrl : String
  pollSeconds : Nat
  maxRetries : Nat
  retryBackoff : Nat
  attestationDeadline : Nat
  fetchTimeout : Nat
  submitTimeout : Nat
  logLevel : String
  logJson : Bool
deriving DecidableEq, Repr

namespace Configuration

def defaultChains : String := "ArbitrumSepolia:evm,BaseSepolia:evm"

def defaultDatabasePath : String := "data/redemptions.db"

def defaultSignerUrl : String := "http://127.0.0.1:8090"

def inVariable {α : Type} (name : String) : Except ChainError α → Except ConfigurationError α
  | .ok value => .ok value
  | .error error => .error (.invalidValue name error.message)

/-- A whole number below `bound`, with blanks around it and at most a plus sign. -/
def number (lookup : String → Option String) (name : String) (bound fallback : Nat) :
    Except ConfigurationError Nat :=
  match lookup name with
  | none => .ok fallback
  | some text =>
      match Digits.readSigned? 10 (Blank.trimChars text.toList) with
      | some value =>
          if value < bound then .ok value
          else .error (.invalidValue name s!"not a valid number: {text}")
      | none => .error (.invalidValue name s!"not a valid number: {text}")

def signer (lookup : String → Option String) (network : Network) :
    Except ConfigurationError String :=
  match lookup "RELAYER_SIGNER_URL" with
  | some url => .ok url
  | none =>
      if network = .mainnet then .error (.missingVariable "RELAYER_SIGNER_URL")
      else .ok defaultSignerUrl

def pollInterval (lookup : String → Option String) : Except ConfigurationError Nat := do
  let name := "RELAYER_POLL_INTERVAL_SECS"
  let seconds ← number lookup name Width.bound64 60
  if seconds = 0 then .error (.invalidValue name "must be at least 1") else return seconds

def load (lookup : String → Option String) : Except ConfigurationError Configuration := do
  let defaults : RetryPolicy := {}
  let network ← Network.ofText ((lookup "RELAYER_NETWORK").getD "testnet")
  let chains ← inVariable "RELAYER_CHAINS"
    (Chain.ofList ((lookup "RELAYER_CHAINS").getD defaultChains))
  let databasePath := (lookup "RELAYER_DB_PATH").getD defaultDatabasePath
  let attestationUrl := (lookup "RELAYER_WORMHOLESCAN_URL").getD network.attestationUrl
  let signerUrl ← signer lookup network
  let pollSeconds ← pollInterval lookup
  let maxRetries ← number lookup "RELAYER_MAX_RETRIES" Width.bound32 defaults.maxRetries
  let retryBackoff ← number lookup "RELAYER_RETRY_BACKOFF_SECS" Width.bound64 defaults.backoff
  let attestationDeadline ←
    number lookup "RELAYER_ATTESTATION_DEADLINE_SECS" Width.bound64 defaults.attestationDeadline
  let fetchTimeout ←
    number lookup "RELAYER_FETCH_TIMEOUT_SECS" Width.bound64 defaults.fetchTimeout.wholeSeconds
  let submitTimeout ←
    number lookup "RELAYER_SUBMIT_TIMEOUT_SECS" Width.bound64 defaults.submitTimeout.wholeSeconds
  let logLevel := (lookup "RELAYER_LOG_LEVEL").getD "info"
  let logJson :=
    match lookup "RELAYER_LOG_JSON" with
    | some text => text == "1" || Word.sameAscii text "true"
    | none => network = .mainnet
  return {
    network, chains, databasePath, attestationUrl, signerUrl, pollSeconds, maxRetries,
    retryBackoff, attestationDeadline, fetchTimeout, submitTimeout, logLevel, logJson }

def policy (configuration : Configuration) : RetryPolicy :=
  { maxRetries := configuration.maxRetries
    backoff := configuration.retryBackoff
    attestationDeadline := configuration.attestationDeadline
    fetchTimeout := .ofSeconds configuration.fetchTimeout
    submitTimeout := .ofSeconds configuration.submitTimeout }

def chain? (configuration : Configuration) (name : String) : Option Chain :=
  configuration.chains.find? (·.name == name)

/-! ## Fitness for running -/

def checkForProduction (configuration : Configuration) : Except ConfigurationError Unit :=
  if configuration.network ≠ .mainnet then
    .error (.networkMismatch "mainnet" configuration.network.name)
  else if !"https://".toList.isPrefixOf configuration.signerUrl.toList then
    .error (.invalidValue "RELAYER_SIGNER_URL" "must use https on mainnet")
  else .ok ()

def checkForRun (configuration : Configuration) : Except ConfigurationError Unit :=
  if configuration.network = .mainnet then configuration.checkForProduction else .ok ()

/-! ## Summary -/

def chainText (chain : Chain) : String :=
  s!"{chain.name} ({chain.kind.text})"

def summaryLines (configuration : Configuration) : List String :=
  let chains := ", ".intercalate (configuration.chains.map chainText)
  ["=== tBTC Relayer Configuration ===",
    s!"Network: {configuration.network.name}",
    s!"Chains: {chains}",
    s!"Database: {configuration.databasePath}",
    s!"Wormholescan: {configuration.attestationUrl}",
    s!"Signer: {configuration.signerUrl}",
    s!"Poll Interval: {configuration.pollSeconds}s",
    s!"Retries: {configuration.maxRetries} (backoff {configuration.retryBackoff}s, " ++
      s!"attestation deadline {configuration.attestationDeadline}s)",
    s!"Timeouts: fetch {configuration.fetchTimeout}s, submit {configuration.submitTimeout}s",
    s!"Log Level: {configuration.logLevel} (json: {configuration.logJson})",
    "=================================="]

end Configuration

end RedemptionRelay
