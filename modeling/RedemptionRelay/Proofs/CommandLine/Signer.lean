import RedemptionRelay.CommandLine
import RedemptionRelay.Proofs.Chain.Adaptation
import RedemptionRelay.Proofs.Course
import RedemptionRelay.Proofs.Http.Query
import RedemptionRelay.Proofs.Service

/-! # Which commands ask the signer

On the main network the signer is to be reached over a protected line. The rule
is checked where the service is started and nowhere else. So with an address
that breaks it the service does not start, and no command but the single tick
sends a request at all; the tick settles as it would with any other address.
-/

namespace RedemptionRelay

/-- The address of the signer breaks the rule of the main network. -/
def Configuration.exposesSigner (configuration : Configuration) : Bool :=
  configuration.network == .mainnet &&
    !"https://".toList.isPrefixOf configuration.signerUrl.toList

theorem Configuration.checkForRun_of_exposesSigner {configuration : Configuration}
    (exposed : configuration.exposesSigner = true) :
    configuration.checkForRun =
      .error (.invalidValue "RELAYER_SIGNER_URL" "must use https on mainnet") := by
  unfold exposesSigner at exposed
  rcases Bool.and_eq_true_iff.mp exposed with ⟨main, plain⟩
  have isMain : configuration.network = .mainnet := eq_of_beq main
  unfold checkForRun checkForProduction
  rw [if_pos isMain, if_neg (fun other => other isMain), if_pos plain]

/-! ## Requests on record -/

def Transport.recording {ω : Type} (transport : Transport ω) :
    Transport (ω × List HttpRequest) where
  send network request :=
    ((transport.send network.1 request).1,
      ((transport.send network.1 request).2, network.2 ++ [request]))
  delay network := transport.delay network.1
  complaint := transport.complaint

theorem Intake.ne_perform_of_asked {intake : Intake} {request : Request}
    {resume : request.Answer → Intake} (asks : intake.next = .ask request resume) (call : Call)
    (limit : Duration) : request ≠ .perform call limit := by
  rintro rfl
  cases intake <;> cases asks

def Transport.dispatch {ω : Type} (transport : Transport ω) (network : ω) :
    Except TransportError HttpRequest → ω
  | .error _ => network
  | .ok request => (transport.send network request).2

section

variable {ω : Type} (transport : Transport ω) (network : ω) (base : String)

theorem Attestation.network_fetch (hash : String) :
    (fetch transport network base hash).2 =
      transport.dispatch network (lookupRequest base hash) := by
  unfold fetch
  cases lookupRequest base hash with
  | error error => rfl
  | ok request =>
      dsimp only [Transport.dispatch]
      rcases transport.send network request with ⟨error | response, network⟩ <;> rfl

theorem Settlement.network_submit (payload : Bytes) (event : Event) :
    (submit transport network base payload event).2 =
      transport.dispatch network (submitRequest base payload event) := by
  unfold submit
  cases submitRequest base payload event with
  | error error => rfl
  | ok request =>
      dsimp only [Transport.dispatch]
      rcases transport.send network request with ⟨error | response, network⟩ <;> rfl

end

theorem Transport.mem_recording {ω : Type} {transport : Transport ω}
    {network : ω × List HttpRequest} {made : Except TransportError HttpRequest} {sent : HttpRequest}
    (isSent : sent ∈ (transport.recording.dispatch network made).2) :
    sent ∈ network.2 ∨ made = .ok sent := by
  cases made with
  | error error => exact .inl isSent
  | ok request =>
      rcases List.mem_append.mp isSent with before | new
      · exact .inl before
      · exact .inr (List.mem_singleton.mp new ▸ rfl)

theorem Place.fromTop_follow (place : Place) (name : String) :
    (place.follow name).fromTop = place.fromTop := by
  unfold follow
  split
  · rfl
  · split
    · unfold outside
      split
      · split <;> rfl
      · rfl
      · rfl
    · rfl

theorem Place.fromTop_ofPath (path : String) : (ofPath path).fromTop = (start path).fromTop := by
  have kept (names : List String) (place : Place) :
      (names.foldl follow place).fromTop = place.fromTop := by
    induction names generalizing place with
    | nil => rfl
    | cons name rest induction => exact (induction _).trans (fromTop_follow place name)
  exact kept _ _

namespace CommandLine

variable {ω : Type}

def recorded (workspace : Workspace ω) : Workspace (ω × List HttpRequest) :=
  { tree := workspace.tree
    clock := workspace.clock
    transport := workspace.transport.recording
    network := (workspace.network, []) }

def requests (workspace : Workspace ω) (environment : VariableFile.Environment)
    (arguments : List String) : List HttpRequest :=
  (execute (recorded workspace) environment arguments).2.network.2

/-- The request looks up an attestation or hands a settlement to the signer. -/
def Concerns (configuration : Configuration) (request : HttpRequest) : Prop :=
  (∃ hash, Attestation.lookupRequest configuration.attestationUrl hash = .ok request) ∨
    ∃ payload event, Settlement.submitRequest configuration.signerUrl payload event = .ok request

/-! ## One session -/

section

variable {workspace : Workspace ω} {configuration : Configuration}
  {act : Session ω → Report × Session ω}

theorem network_withSession (Holds : ω → Prop) (before : Holds workspace.network)
    (kept : ∀ session : Session ω, session.network = workspace.network →
      Holds (act session).2.network) :
    Holds (withSession workspace configuration act).2.network := by
  unfold withSession
  dsimp only
  split
  · exact before
  · exact kept _ rfl

theorem ending_withSession (Holds : Ending → Prop)
    (failing : ∀ error, Holds (.failure error))
    (ends : ∀ session : Session ω, Holds (act session).1.ending) :
    Holds (withSession workspace configuration act).1.ending := by
  unfold withSession
  dsimp only
  split
  · exact failing _
  · exact ends _

end

section

variable {configuration : Configuration} {clock : Nat} {transport : Transport ω}

theorem network_answer (session : Session ω) (request : Request)
    (inside : ∀ call limit, request ≠ .perform call limit) :
    (answer configuration clock transport session request).2.network = session.network := by
  cases request with
  | listRecords | readClock | announce => rfl
  | create record =>
      unfold answer
      dsimp only
      split <;> rfl
  | update record expected =>
      unfold answer
      dsimp only
      split <;> rfl
  | perform call limit => exact absurd rfl (inside call limit)

theorem network_record (session : Session ω) (event : RawEvent) :
    (session.record configuration clock transport event).2.network = session.network := by
  have ran : (Activity.run (answer configuration clock transport) session
      (Intake.start (settings configuration).listener event)).2.network = session.network :=
    Activity.holds_run_of_asked (fun other : Session ω => other.network = session.network)
      (fun other _ request _ asks same =>
        (network_answer other request (Intake.ne_perform_of_asked asks)).trans same) rfl
  unfold Session.record
  dsimp only
  split <;> simp_all

theorem concerns_answer (session : Session (ω × List HttpRequest)) (request : Request)
    (soFar : ∀ sent ∈ session.network.2, Concerns configuration sent) :
    ∀ sent ∈ (answer configuration clock transport.recording session request).2.network.2,
      Concerns configuration sent := by
  intro sent isSent
  cases request with
  | perform call limit =>
      cases call with
      | fetch hash =>
          simp only [answer] at isSent
          rw [Attestation.network_fetch] at isSent
          rcases Transport.mem_recording isSent with before | looksUp
          · exact soFar sent before
          · exact .inl ⟨hash, looksUp⟩
      | submit payload event =>
          simp only [answer] at isSent
          rw [Settlement.network_submit] at isSent
          rcases Transport.mem_recording isSent with before | submits
          · exact soFar sent before
          · exact .inr ⟨payload, event, submits⟩
  | listRecords | readClock | create | update | announce =>
      rw [network_answer] at isSent
      · exact soFar sent isSent
      · exact fun _ _ => nofun

theorem snd_tick (session : Session ω) :
    (session.tick configuration clock transport).2 =
      ((settings configuration).tick (answer configuration clock transport) session).2 := by
  unfold Session.tick
  dsimp only
  split <;> next ticked => exact (congrArg Prod.snd ticked).symm

theorem concerns_tick (session : Session (ω × List HttpRequest))
    (soFar : ∀ sent ∈ session.network.2, Concerns configuration sent) :
    ∀ sent ∈ (session.tick configuration clock transport.recording).2.network.2,
      Concerns configuration sent := by
  rw [snd_tick]
  exact ServiceSettings.holds_tick
    (fun other : Session (ω × List HttpRequest) =>
      ∀ sent ∈ other.network.2, Concerns configuration sent)
    concerns_answer soFar (settings configuration)

end

/-! ## One command -/

section

variable {workspace : Workspace ω} {configuration : Configuration} {command : Command}

theorem ne_serve_of_tick {clock : Nat} {transport : Transport ω} (session : Session ω)
    (served : Configuration) :
    (session.tick configuration clock transport).1.ending ≠ .serve served := by
  unfold Session.tick
  dsimp only
  split
  · exact nofun
  · dsimp only
    split <;> exact nofun

theorem network_carryOut (other : command ≠ .tick) :
    (carryOut workspace configuration command).2.network = workspace.network := by
  cases command with
  | tick => exact absurd rfl other
  | run interval =>
      unfold carryOut startService
      dsimp only
      split
      · rfl
      · exact network_withSession (· = workspace.network) rfl fun _ same => same
  | counts | display | list =>
      exact network_withSession (· = workspace.network) rfl fun _ same => same
  | ingest chain path =>
      unfold carryOut
      dsimp only
      split
      · rfl
      · exact network_withSession (· = workspace.network) rfl fun session same =>
          (network_record session _).trans same
  | usage => rfl

theorem carryOut_run (exposed : configuration.exposesSigner = true) (interval : Option Nat) :
    carryOut workspace configuration (.run interval) =
      (.failed (.configuration
        (.invalidValue "RELAYER_SIGNER_URL" "must use https on mainnet")), workspace) := by
  have exposed' : Configuration.exposesSigner
      { configuration with pollSeconds := interval.getD configuration.pollSeconds } = true :=
    exposed
  unfold carryOut startService
  dsimp only
  rw [Configuration.checkForRun_of_exposesSigner exposed']

theorem ne_serve_of_carryOut (exposed : configuration.exposesSigner = true)
    (served : Configuration) :
    (carryOut workspace configuration command).1.ending ≠ .serve served := by
  cases command with
  | run interval =>
      rw [carryOut_run exposed]
      exact nofun
  | tick =>
      exact ending_withSession (· ≠ .serve served) nofun fun session =>
        ne_serve_of_tick session served
  | counts chain =>
      refine ending_withSession (· ≠ .serve served) nofun fun session => ?_
      unfold Session.status
      dsimp only
      split <;> exact nofun
  | display id =>
      refine ending_withSession (· ≠ .serve served) nofun fun session => ?_
      unfold Session.display
      dsimp only
      split <;> exact nofun
  | list status chain =>
      refine ending_withSession (· ≠ .serve served) nofun fun session => ?_
      unfold Session.list
      dsimp only
      split <;> exact nofun
  | ingest chain path =>
      unfold carryOut
      dsimp only
      split
      · exact nofun
      · refine ending_withSession (· ≠ .serve served) nofun fun session => ?_
        unfold Session.record
        dsimp only
        split <;> exact nofun
  | usage => exact nofun

end

theorem eq_tick_of_parse {name : String} {arguments : List String}
    (parsed : Command.parse name arguments = .ok .tick) : name = "tick" := by
  unfold Command.parse at parsed
  split at parsed
  case h_2 => rfl
  case h_1 =>
    split at parsed
    · next text _ => cases read : interval text <;> rw [read] at parsed <;> cases parsed
    · cases parsed
  case h_4 =>
    cases read : positional arguments 0 "redemption id" <;> rw [read] at parsed <;> cases parsed
  case h_5 =>
    rcases Except.bind_eq_ok.mp parsed with ⟨text, -, listed⟩
    split at listed <;> cases listed
  case h_6 =>
    rcases Except.bind_eq_ok.mp parsed with ⟨chain, -, named⟩
    rcases Except.bind_eq_ok.mp named with ⟨path, -, ingested⟩
    cases ingested
  case h_3 | h_7 => cases parsed

/-! ## One run of the program -/

section

variable (workspace : Workspace ω) {environment : VariableFile.Environment}
  {configuration : Configuration}
  (loaded : Configuration.load ((environmentOf workspace environment).lookup ·) =
    .ok configuration)
include loaded

theorem execute_of_parse {name : String} {rest : List String} {command : Command}
    (noHelp : isHelp name = false) (parsed : Command.parse name rest = .ok command) :
    execute workspace environment (name :: rest) = carryOut workspace configuration command := by
  simp only [execute, noHelp, loaded, parsed]
  rfl

theorem execute_cases (arguments : List String) :
    (∃ report, execute workspace environment arguments = (report, workspace) ∧
        ∀ served, report.ending ≠ .serve served) ∨
      ∃ name rest command, arguments = name :: rest ∧ Command.parse name rest = .ok command ∧
        execute workspace environment arguments = carryOut workspace configuration command := by
  cases arguments with
  | nil => exact .inl ⟨{ lines := usageLines }, rfl, fun _ => nofun⟩
  | cons name rest =>
      cases help : isHelp name with
      | true =>
          refine .inl ⟨{ lines := usageLines }, ?_, fun _ => nofun⟩
          simp only [execute, help, if_true]
      | false =>
          cases parsed : Command.parse name rest with
          | error error =>
              refine .inl ⟨.failed error, ?_, fun _ => nofun⟩
              simp only [execute, help, loaded, parsed]
              rfl
          | ok command =>
              exact .inr ⟨name, rest, command, rfl, parsed,
                execute_of_parse workspace loaded help parsed⟩

end

/-- What becomes of a run of the program whose settings break the rule. -/
structure Unheard (workspace : Workspace ω) (environment : VariableFile.Environment)
    (configuration : Configuration) (arguments : List String) : Prop where
  /-- Nobody is asked for anything but by a tick. -/
  silent : arguments.head? ≠ some "tick" → requests workspace environment arguments = []
  /-- A tick asks for attestations and settlements only. -/
  concerns : ∀ sent ∈ requests workspace environment arguments, Concerns configuration sent
  /-- The service is not started. -/
  unserved : ∀ served, (execute workspace environment arguments).1.ending ≠ .serve served
  /-- The rule is named, and nothing has been touched. -/
  refused : ∀ rest interval, arguments = "run" :: rest →
    Command.parse "run" rest = .ok (.run interval) →
      execute workspace environment arguments =
        (.failed (.configuration
          (.invalidValue "RELAYER_SIGNER_URL" "must use https on mainnet")), workspace)

/-- If the rule of the main network is broken, the signer can be asked by a tick
alone. -/
theorem exposed_signer_unheard {workspace : Workspace ω} {environment : VariableFile.Environment}
    {configuration : Configuration}
    (loaded : Configuration.load ((environmentOf workspace environment).lookup ·) =
      .ok configuration) (exposed : configuration.exposesSigner = true)
    (arguments : List String) : Unheard workspace environment configuration arguments := by
  have onRecord := execute_cases (recorded workspace) loaded arguments
  have nothing : ∀ sent ∈ (recorded workspace).network.2, Concerns configuration sent :=
    fun _ isSent => nomatch isSent
  constructor
  · intro other
    unfold requests
    rcases onRecord with ⟨report, ran, -⟩ | ⟨name, rest, command, rfl, parsed, ran⟩
    · rw [ran]
      rfl
    · have notTick : command ≠ .tick := by
        rintro rfl
        exact other (congrArg some (eq_tick_of_parse parsed))
      rw [ran, network_carryOut notTick]
      rfl
  · unfold requests
    rcases onRecord with ⟨report, ran, -⟩ | ⟨name, rest, command, rfl, parsed, ran⟩
    · rw [ran]
      exact nothing
    · rw [ran]
      by_cases isTick : command = .tick
      · subst isTick
        refine network_withSession
          (fun network : ω × List HttpRequest =>
            ∀ sent ∈ network.2, Concerns configuration sent) nothing ?_
        intro session same
        exact concerns_tick session (same ▸ nothing)
      · rw [network_carryOut isTick]
        exact nothing
  · intro served
    rcases execute_cases workspace loaded arguments with
      ⟨report, ran, ends⟩ | ⟨_, _, command, -, -, ran⟩
    · rw [ran]
      exact ends served
    · rw [ran]
      exact ne_serve_of_carryOut exposed served
  · rintro rest interval rfl parsed
    rw [execute_of_parse workspace loaded rfl parsed, carryOut_run exposed]

/-! ## A record that is to be settled -/

section

variable {configuration : Configuration} {clock : Nat} {transport : Transport ω}

theorem answer_readClock (session : Session ω) :
    answer configuration clock transport session .readClock = (clock / 1000, session) :=
  rfl

theorem network_conclude (record : Redemption) (mark : Mark) (outcome : Outcome)
    (session : Session ω) :
    (Batch.conclude (answer configuration clock transport) record mark outcome session).2.network =
      session.network := by
  unfold Batch.conclude
  dsimp only [answer_readClock]
  split
  · rfl
  · next next changed =>
      have updated : (answer configuration clock transport session
          (.update next next.version)).2.network = session.network :=
        network_answer session _ fun _ _ => nofun
      split
      · next answered => rw [answered] at updated; exact updated
      · next answered =>
          rw [answered] at updated
          split <;> exact updated

theorem network_pursue {policy : RetryPolicy} {record : Redemption} {leaseUntil version : Nat}
    {attempt : Attempt} {session claimed : Session ω}
    (claims : answer configuration clock transport session
      (.update (record.claim leaseUntil (clock / 1000)) record.version) = (.ok version, claimed)) :
    (Batch.pursue (answer configuration clock transport) policy record leaseUntil attempt
        session).2.network =
      (answer configuration clock transport claimed
        (.perform attempt.call attempt.limit)).2.network := by
  rw [Batch.pursue_eq]
  dsimp only [answer_readClock]
  rw [claims]
  exact network_conclude ..

end

namespace Sample

def record : Redemption :=
  let observed := Redemption.observed "A"
    { walletPubKeyHash := "0x00", mainUtxo := ⟨"0x01", 1, 2⟩, redeemerOutputScript := "0x76",
      amount := 5, sourceTxHash := "0xa1" } 1700000000 1700000000
  { observed with
    status := .fetched
    attestation := .fetched
    payload := some [1]
    dates := { observed.dates with attestationFetchedAt := some 1700000001 } }

def store : TableStore where
  rows := [Row.ofRecord record]

def place : Place where
  names := ["r.db"]

def environment : VariableFile.Environment :=
  [("RELAYER_NETWORK", "mainnet"), ("RELAYER_CHAINS", "A:evm"),
    ("RELAYER_SIGNER_URL", "http://[::1]"), ("RELAYER_DB_PATH", "r.db")]

def configuration : Configuration where
  network := .mainnet
  chains := [⟨"A", .evm⟩]
  databasePath := "r.db"
  attestationUrl := Attestation.mainnetUrl
  signerUrl := "http://[::1]"
  pollSeconds := 60
  maxRetries := 5
  retryBackoff := 60
  attestationDeadline := 86400
  fetchTimeout := 30
  submitTimeout := 120
  logLevel := "info"
  logJson := true

def workspace : Workspace Unit where
  tree := { entries := [(place, .database store)] }
  clock := 1700000100000
  transport :=
    { send := fun world _ => (.ok ⟨200, []⟩, world)
      delay := fun _ _ => ⟨0⟩
      complaint := fun _ body => body }
  network := ()

def address : Url where
  scheme := "http"
  authority := some
    { credentials := none, host := .ipv6 [0, 0, 0, 0, 0, 0, 0, 1], portNumber := none }
  path := "/submit"
  query := none
  fragment := none

/-! ### On disk -/

theorem given?_of_inside {place : Place} (inside : place.fromTop = false)
    (named : place.isAround = false) : FileTree.given? place = none := by
  have elsewhere {path : String} (fromTop : (Place.start path).fromTop = true) :
      place ≠ .ofPath path := by
    rintro rfl
    rw [Place.fromTop_ofPath, fromTop] at inside
    cases inside
  unfold FileTree.given?
  rw [named, decide_eq_false (elsewhere (rfl : (Place.start "/dev").fromTop = true)),
    decide_eq_false (elsewhere (rfl : (Place.start "/tmp").fromTop = true)),
    if_neg (elsewhere (rfl : (Place.start "/dev/null").fromTop = true))]
  rfl

theorem entry?_place : workspace.tree.entry? place = some (.database store) := by
  unfold FileTree.entry?
  rw [given?_of_inside rfl rfl]
  rfl

theorem opens : (workspace.tree.makeFoldersFor "r.db").openDatabase "r.db" =
    .ok ⟨store, some place⟩ := by
  have names : Place.namesIn "r.db" = ["r.db"] := rfl
  have start : Place.start "r.db" = {} := rfl
  have shortens : workspace.tree.shorten {} "r.db" = some place := rfl
  have located : DatabaseLocation.ofText? "r.db" = some (.file "r.db") := rfl
  have makesNone : workspace.tree.makeFoldersFor "r.db" = workspace.tree := by
    unfold FileTree.makeFoldersFor
    rw [names]
    rfl
  have found : workspace.tree.databasePlace? "r.db" = some place := by
    unfold FileTree.databasePlace?
    rw [names, start]
    simp only [List.foldlM_cons, List.foldlM_nil, shortens]
    simp [FileTree.isFolder, entry?_place]
    rfl
  rw [makesNone]
  unfold FileTree.openDatabase
  rw [located]
  dsimp only
  rw [found]
  dsimp only
  unfold FileTree.databaseAt
  rw [entry?_place]

/-! ### Settings -/

theorem environmentOf_workspace : environmentOf workspace environment = environment := by
  have names : Place.namesIn ".env" = [".env"] := rfl
  have start : Place.start ".env" = {} := rfl
  have absent : workspace.tree.read ".env" = .error .missing := by
    have located : workspace.tree.locate ".env" = .ok { names := [".env"] } := by
      unfold FileTree.locate
      rw [names, start]
      rfl
    unfold FileTree.read
    rw [located]
    dsimp only
    unfold FileTree.entry?
    rw [given?_of_inside rfl rfl]
    rfl
  unfold environmentOf
  rw [absent]

theorem loads : Configuration.load ((environmentOf workspace environment).lookup ·) =
    .ok configuration := by
  rw [environmentOf_workspace]
  rfl

/-! ### The call -/

def request : HttpRequest where
  method := .post
  url := address
  body := some (Settlement.requestJson [1] record.event).write

theorem submits : Settlement.submitRequest configuration.signerUrl [1] record.event =
    .ok request := by
  have written : Settlement.submitAddress configuration.signerUrl = "http://[::1]/submit" :=
    rfl
  have parsed : Url.parse "http://[::1]/submit" = .ok address := rfl
  rw [Settlement.submitRequest, written]
  exact HttpRequest.make_eq_ok_iff.mpr
    ⟨address, parsed, rfl, rfl, rfl⟩

def session : Session (Unit × List HttpRequest) := ⟨store, ((), [])⟩

abbrev surroundings : Surroundings (Session (Unit × List HttpRequest)) :=
  answer configuration workspace.clock workspace.transport.recording

theorem listed (phase : Phase) :
    surroundings session (.listRecords phase.waiting (some "A")) =
      (.ok (if phase = .settlement then [record] else []), session) := by
  have rows : store.withStatus phase.waiting (some "A") =
      if phase = .settlement then [record] else [] := by
    cases phase <;> decide +kernel
  exact congrArg (fun records => (Except.ok records, session)) rows

theorem listed_to_retry (phase : Phase) :
    surroundings session (.listRecords phase.retrying (some "A")) = (.ok [], session) := by
  have rows : store.withStatus phase.retrying (some "A") = [] := by
    cases phase <;> decide +kernel
  exact congrArg (fun records => (Except.ok records, session)) rows

theorem run_start (phase : Phase) :
    Activity.run surroundings session
        (Batch.start phase (settings configuration).policy (some "A")) =
      Batch.attendAll surroundings phase (settings configuration).policy {}
        (if phase = .settlement then [record] else []) session := by
  rw [Batch.run_start, listed]
  dsimp only
  rw [listed_to_retry]
  dsimp only
  rw [List.append_nil]

def claim : Redemption :=
  record.claim 1700000250 1700000100

theorem network_attend :
    (Batch.attend surroundings .settlement (settings configuration).policy record
      session).2.network.2 = [request] := by
  have decided : (settings configuration).policy.decide .settlement record
      (workspace.clock / 1000) =
        .attempt (.submit [1] record.event) (settings configuration).policy.submitTimeout
          1700000250 :=
    rfl
  have claims : ∃ version claimed,
      surroundings session (.update claim record.version) = (.ok version, claimed) ∧
        claimed.network = session.network := by
    have current : store.rows.any (TableStore.isVersion · claim.id record.version) = true :=
      rfl
    have updated : ∃ next, store.update claim record.version = .ok (record.version + 1, next) := by
      unfold TableStore.update
      rw [if_pos current]
      exact ⟨_, rfl⟩
    rcases updated with ⟨next, updated⟩
    refine ⟨record.version + 1, { session with store := next }, ?_, rfl⟩
    simp only [surroundings, answer]
    rw [show Store.update session.store claim record.version = .ok (record.version + 1, next)
      from updated]
  rcases claims with ⟨version, claimed, claims, untouched⟩
  unfold Batch.attend
  dsimp only [answer_readClock]
  rw [decided]
  dsimp only [Prod.map_snd, id]
  rw [network_pursue claims]
  simp only [answer]
  rw [Settlement.network_submit, submits, untouched]
  rfl

theorem network_tick :
    (session.tick configuration workspace.clock
      workspace.transport.recording).2.network.2 = [request] := by
  have batches : (settings configuration).batches = [(.attestation, "A"), (.settlement, "A")] := rfl
  have attended := network_attend
  rw [snd_tick, ServiceSettings.tick, batches]
  dsimp only [ServiceSettings.runBatches]
  rw [run_start]
  simp only [reduceCtorEq, if_false]
  dsimp only [Batch.attendAll, TickReport.addBatch?]
  rw [run_start]
  simp only [if_true]
  dsimp only [Batch.attendAll]
  generalize Batch.attend surroundings .settlement (settings configuration).policy record session =
    attending at attended
  rcases attending with ⟨_ | outcome, after⟩ <;> exact attended

end Sample

open Sample in
/-- The single tick hands a settlement to a signer that breaks the rule. -/
theorem plain_signer_asked_by_tick :
    Configuration.load ((environmentOf workspace environment).lookup ·) = .ok configuration ∧
      configuration.exposesSigner = true ∧
        Settlement.submitRequest configuration.signerUrl [1] record.event = .ok request ∧
          requests workspace environment ["tick"] = [request] := by
  refine ⟨loads, rfl, submits, ?_⟩
  have onRecord : Configuration.load ((environmentOf (recorded workspace) environment).lookup ·) =
      .ok configuration := loads
  unfold requests
  rw [execute_of_parse _ onRecord rfl rfl]
  unfold carryOut withSession
  dsimp only
  rw [show ((recorded workspace).tree.makeFoldersFor configuration.databasePath).openDatabase
    configuration.databasePath = .ok ⟨store, some place⟩ from opens]
  exact network_tick

open Sample in
theorem exposed_signer_unheard_by_run :
    Configuration.load ((environmentOf workspace environment).lookup ·) = .ok configuration ∧
      configuration.exposesSigner = true ∧
        Unheard workspace environment configuration ["run"] :=
  have exposed : configuration.exposesSigner = true := rfl
  ⟨loads, exposed, exposed_signer_unheard loads exposed ["run"]⟩

end CommandLine

end RedemptionRelay
