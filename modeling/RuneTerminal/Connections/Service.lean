import RuneTerminal.Go.Filepath
import RuneTerminal.Kit.Transition

/-! The operations of `core/connections/service.go` on the persisted state, and what
`ssh_config_import.go` does with its candidates. What an operation returns is read off the next
state. -/

namespace RuneTerminal.Connections

open Go (Filepath.joinTexts Filepath.absText Filepath.clean)
open Go.Strings
open Kit (Stored)

abbrev Instant := Nat

inductive Kind where
  | localMachine
  | ssh

inductive Status where
  | ready
  | configured

/-- The status that no check has set is `other ""`. -/
inductive CheckStatus where
  | unchecked
  | passed
  | failed
  | other (raw : String)
  deriving DecidableEq

inductive LaunchStatus where
  | idle
  | succeeded
  | failed
  | other (raw : String)
  deriving DecidableEq

inductive Usability where
  | available
  | attention
  | unknown

/-- `RuntimeState` and `persistedRuntimeState`, which have the same fields. -/
structure RuntimeState where
  checkStatus : CheckStatus := .other ""
  checkError : String := ""
  lastCheckedAt : Option Instant := none
  launchStatus : LaunchStatus := .other ""
  launchError : String := ""
  lastLaunchedAt : Option Instant := none
  deriving DecidableEq

structure SSHConfig where
  host : String
  user : String := ""
  port : Int := 0
  identityFile : String := ""
  launchMode : String := ""
  tmuxSession : String := ""
  deriving DecidableEq

structure Connection where
  id : String
  kind : Kind
  name : String
  description : String
  status : Status
  active : Bool := false
  builtin : Bool := false
  usability : Usability
  runtime : RuntimeState
  ssh : Option SSHConfig := none

structure SavedSSH where
  id : String
  name : String
  host : String
  user : String := ""
  port : Int := 0
  identityFile : String := ""
  launchMode : String := ""
  tmuxSession : String := ""
  runtime : RuntimeState := {}
  deriving DecidableEq

structure PersistedState where
  activeConnectionID : String
  sshConnections : List SavedSSH := []
  deriving DecidableEq

structure Snapshot where
  connections : List Connection
  activeConnectionID : String

structure RemoteProfile where
  id : String
  name : String
  host : String
  user : String := ""
  port : Int := 0
  identityFile : String := ""
  launchMode : String := ""
  tmuxSession : String := ""
  description : String := ""

structure SaveSSHInput where
  id : String := ""
  name : String := ""
  host : String
  user : String := ""
  port : Int := 0
  identityFile : String := ""
  launchMode : String := ""
  tmuxSession : String := ""

structure CheckResult where
  status : CheckStatus
  error : String := ""
  checkedAt : Instant

abbrev Checker := Connection → CheckResult

inductive ConnectionError where
  | notFound (id : String)
  | invalid (reason : String)

def ConnectionError.text : ConnectionError → String
  | .notFound id => "connection not found: " ++ id
  | .invalid reason => "invalid connection: " ++ reason

/-- What the process knows of its surroundings. -/
structure Surroundings where
  userHomeDir : Option String := none
  getwd : Option String := none

def normalizeIdentityFile (env : Surroundings) (raw : String) : String :=
  let path := trimSpace raw
  if path = "" then ""
  else
    let path :=
      if hasPrefix path "~/" then
        match env.userHomeDir with
        | some home => Filepath.joinTexts [home, String.ofList (path.toList.drop 2)]
        | none => path
      else path
    let path := (Filepath.absText env.getwd path).getD path
    Filepath.clean path

def isTmuxSessionChar (c : Char) : Bool :=
  c.isAlphanum || c == '.' || c == '_' || c == '-'

/-- `ReplaceAllString` of the runs of other characters by a dash. -/
def sanitizeTmuxChars : Bool → List Char → List Char
  | _, [] => []
  | inRun, c :: rest =>
    if isTmuxSessionChar c then c :: sanitizeTmuxChars false rest
    else if inRun then sanitizeTmuxChars true rest
    else '-' :: sanitizeTmuxChars true rest

/-- `ReplaceAll` of two dashes by one. -/
def replaceDashPairs : List Char → List Char
  | '-' :: '-' :: rest => '-' :: replaceDashPairs rest
  | c :: rest => c :: replaceDashPairs rest
  | [] => []

def trimDashesAndDots (chars : List Char) : List Char :=
  let cut := fun c => c == '-' || c == '.'
  (chars.dropWhile cut).rdropWhile cut

/-- Each replacement of pairs shortens a text that has one, so that as many passes
as there are characters are enough for the loop of the source. -/
def normalizeTmuxSessionName (raw : String) : String :=
  if trimSpace raw = "" then ""
  else
    let sanitized := trimDashesAndDots (sanitizeTmuxChars false (trimSpace raw).toList)
    let value := trimSpace (String.ofList sanitized)
    String.ofList (replaceDashPairs^[value.toList.length] value.toList)

def launchModeShell : String := "shell"
def launchModeTmux : String := "tmux"

def normalizeRemoteLaunchPolicy (lib : TextLibrary) (mode tmuxSession name host id : String) :
    Except ConnectionError (String × String) :=
  let normalizedMode := trimSpace (lib.toLower mode)
  if normalizedMode = "" ∨ normalizedMode = launchModeShell then .ok (launchModeShell, "")
  else if normalizedMode = launchModeTmux then
    let candidates := [tmuxSession, name, host, id].map normalizeTmuxSessionName
    match candidates.find? (· ≠ "") with
    | some session => .ok (launchModeTmux, session)
    | none => .error (.invalid "tmux session name is required")
  else .error (.invalid "invalid remote launch mode")

/-- `newID` is the identifier that `ids.New` gives where the input has none. -/
def normalizeSSHInput (lib : TextLibrary) (env : Surroundings) (newID : String)
    (input : SaveSSHInput) : Except ConnectionError SavedSSH := do
  let host := trimSpace input.host
  if host = "" then throw (.invalid "host is required")
  let name := if trimSpace input.name = "" then host else trimSpace input.name
  if input.port < 0 ∨ input.port > 65535 then throw (.invalid "invalid ssh port")
  let id := if trimSpace input.id = "" then newID else trimSpace input.id
  let (launchMode, tmuxSession) ←
    normalizeRemoteLaunchPolicy lib input.launchMode input.tmuxSession name host id
  return {
    id := id
    name := name
    host := host
    user := trimSpace input.user
    port := input.port
    identityFile := normalizeIdentityFile env input.identityFile
    launchMode := launchMode
    tmuxSession := tmuxSession
    runtime := { checkStatus := .unchecked, launchStatus := .idle } }

def RuntimeState.usability (r : RuntimeState) : Usability :=
  if r.launchStatus = .failed ∨ r.checkStatus = .failed then .attention
  else if r.launchStatus = .succeeded ∨ r.checkStatus = .passed then .available
  else .unknown

def localConnection : Connection where
  id := "local"
  kind := .localMachine
  name := "Local Machine"
  description := "Local shell sessions launched through the Go runtime"
  status := .ready
  builtin := true
  usability := .available
  runtime := { checkStatus := .passed, launchStatus := .idle }

/-- The runtime that is shown, where what was never set is unchecked and idle. -/
def RuntimeState.shown (r : RuntimeState) : RuntimeState :=
  { r with
    checkStatus := if r.checkStatus = .other "" then .unchecked else r.checkStatus
    launchStatus := if r.launchStatus = .other "" then .idle else r.launchStatus }

def SavedSSH.config (s : SavedSSH) : SSHConfig where
  host := s.host
  user := s.user
  port := s.port
  identityFile := s.identityFile
  launchMode := s.launchMode
  tmuxSession := s.tmuxSession

def SavedSSH.toConnection (s : SavedSSH) : Connection where
  id := s.id
  kind := .ssh
  name := s.name
  description := if s.user ≠ "" then s.user ++ "@" ++ s.host else s.host
  status := .configured
  usability := s.runtime.shown.usability
  runtime := s.runtime.shown
  ssh := some s.config

def describeRemoteProfile (user host : String) : String :=
  if trimSpace user = "" then trimSpace host else trimSpace user ++ "@" ++ trimSpace host

def snapshotFromState (state : PersistedState) : Snapshot where
  connections := (localConnection :: state.sshConnections.map SavedSSH.toConnection).map
    fun connection => { connection with active := connection.id == state.activeConnectionID }
  activeConnectionID := state.activeConnectionID

def resolveFromState (state : PersistedState) (id : String) :
    Except ConnectionError Connection :=
  match (snapshotFromState state).connections.find? (·.id == id) with
  | some connection => .ok connection
  | none => .error (.notFound id)

def savedIndex (connections : List SavedSSH) (id : String) : Option Nat :=
  connections.findIdx? (·.id == id)

def PersistedState.changeSaved (state : PersistedState) (id : String)
    (change : SavedSSH → SavedSSH) : PersistedState :=
  match savedIndex state.sshConnections id with
  | some index => { state with sshConnections := state.sshConnections.modify index change }
  | none => state

def SavedSSH.withCheckResult (result : CheckResult) (saved : SavedSSH) : SavedSSH :=
  { saved with
    runtime :=
      { saved.runtime with
        checkStatus := result.status
        checkError := if result.status = .passed then "" else trimSpace result.error
        lastCheckedAt := some result.checkedAt } }

def applyCheckResultToState (id : String) (result : CheckResult) (state : PersistedState) :
    PersistedState :=
  if id = localConnection.id then state
  else state.changeSaved id (SavedSSH.withCheckResult result)

def launchErrorMessages : List (List (List String) × String) :=
  [([["tmux", "not found"]],
      "Remote host does not have tmux installed for this profile's resume mode."),
    ([["host key verification failed"]],
      "SSH host key verification failed. Confirm the host fingerprint or refresh the " ++
        "known_hosts entry."),
    ([["permission denied"]],
      "SSH authentication failed. Check the username, key, agent, or passphrase setup."),
    ([["enter passphrase"], ["incorrect passphrase"], ["passphrase"]],
      "SSH key access requires an unlocked passphrase or agent."),
    ([["unprotected private key file"], ["bad permissions"]],
      "SSH rejected the identity file because its permissions are too open."),
    ([["identity file", "not accessible"]],
      "SSH could not access the configured identity file."),
    ([["connection refused"]], "SSH connection was refused by the remote host or port."),
    ([["could not resolve hostname"], ["name or service not known"],
        ["temporary failure in name resolution"], ["nodename nor servname provided"]],
      "SSH could not resolve the remote hostname."),
    ([["no route to host"], ["network is unreachable"]],
      "SSH could not reach the remote host."),
    ([["operation timed out"], ["connection timed out"], ["timed out"]],
      "SSH connection timed out before the shell became usable.")]

def normalizeLaunchError (lib : TextLibrary) (error : String) : String :=
  let raw := trimSpace error
  if raw = "" then ""
  else
    let lower := lib.toLower raw
    match launchErrorMessages.find? fun entry =>
        entry.1.any fun parts => parts.all (contains lower) with
    | some entry => entry.2
    | none => raw

def SavedSSH.withLaunchResult (lib : TextLibrary) (now : Instant) (launchError : Option String)
    (saved : SavedSSH) : SavedSSH :=
  { saved with
    runtime :=
      match launchError with
      | some error =>
        { saved.runtime with
          lastLaunchedAt := some now
          launchStatus := .failed
          launchError := normalizeLaunchError lib error }
      | none =>
        { saved.runtime with
          lastLaunchedAt := some now
          launchStatus := .succeeded
          launchError := "" } }

def applyLaunchResultToState (lib : TextLibrary) (now : Instant) (id : String)
    (launchError : Option String) (state : PersistedState) : PersistedState :=
  if id = localConnection.id then state
  else state.changeSaved id (SavedSSH.withLaunchResult lib now launchError)

def hasMaterialSSHProfileChange (current next : SavedSSH) : Bool :=
  current.config ≠ next.config

def RuntimeState.resetLaunch (r : RuntimeState) : RuntimeState :=
  { r with launchStatus := .idle, launchError := "", lastLaunchedAt := none }

def SavedSSH.keepRuntime (current normalized : SavedSSH) : SavedSSH :=
  { normalized with
    runtime :=
      if hasMaterialSSHProfileChange current normalized then current.runtime.resetLaunch
      else current.runtime }

def putSaved (state : PersistedState) (normalized : SavedSSH) : PersistedState × SavedSSH :=
  match state.sshConnections.findIdx? (·.id == normalized.id) with
  | some index =>
    match state.sshConnections[index]? with
    | some current =>
      let kept := current.keepRuntime normalized
      ({ state with sshConnections := state.sshConnections.set index kept }, kept)
    | none => (state, normalized)
  | none =>
    ({ state with sshConnections := state.sshConnections ++ [normalized] }, normalized)

def saveSSHInState (lib : TextLibrary) (env : Surroundings) (check : Checker) (newID : String)
    (input : SaveSSHInput) (state : PersistedState) :
    Except ConnectionError (Connection × PersistedState) := do
  let normalized ← normalizeSSHInput lib env newID input
  let (state, saved) := putSaved state normalized
  let state : PersistedState :=
    if state.activeConnectionID = "" then { state with activeConnectionID := saved.id }
    else state
  let state := applyCheckResultToState saved.id (check saved.toConnection) state
  let connection ← resolveFromState state saved.id
  return (connection, state)

structure SSHConfigProfileCandidate where
  hostAlias : String
  host : String
  user : String := ""
  port : Int := 0
  identityFile : String := ""
  deriving DecidableEq

structure SSHConfigImportSkipped where
  host : String := ""
  reason : String
  deriving DecidableEq

def findSSHIDByNameInState (state : PersistedState) (name : String) : String :=
  match state.sshConnections.find? (·.name == trimSpace name) with
  | some connection => connection.id
  | none => ""

def SSHConfigProfileCandidate.toInput (state : PersistedState)
    (candidate : SSHConfigProfileCandidate) : SaveSSHInput where
  id := findSSHIDByNameInState state candidate.hostAlias
  name := candidate.hostAlias
  host := candidate.host
  user := candidate.user
  port := candidate.port
  identityFile := candidate.identityFile

def importedProfile (connection : Connection) (config : SSHConfig) : RemoteProfile where
  id := connection.id
  name := connection.name
  host := config.host
  user := config.user
  port := config.port
  identityFile := config.identityFile
  description := describeRemoteProfile config.user config.host

structure ImportState where
  state : PersistedState
  imported : List RemoteProfile := []
  skipped : List SSHConfigImportSkipped := []

/-- One round of the loop, with the identifier that `ids.New` would give in it. A
candidate that is refused is skipped. -/
def importCandidate (lib : TextLibrary) (env : Surroundings) (check : Checker) (s : ImportState)
    (candidate : SSHConfigProfileCandidate × String) : ImportState :=
  match saveSSHInState lib env check candidate.2 (candidate.1.toInput s.state) s.state with
  | .error err =>
    { s with skipped := s.skipped ++ [{ host := candidate.1.hostAlias, reason := err.text }] }
  | .ok (connection, next) =>
    match connection.ssh with
    | none => { s with state := next }
    | some config =>
      { s with state := next, imported := s.imported ++ [importedProfile connection config] }

/-! What an operation gives is the next state, to be written and swapped in. Where
nothing is imported, nothing is written. -/

def importSSHConfig (lib : TextLibrary) (env : Surroundings) (check : Checker)
    (candidates : List (SSHConfigProfileCandidate × String)) (state : PersistedState) :
    Option PersistedState :=
  let result := candidates.foldl (importCandidate lib env check) { state := state }
  if 0 < result.imported.length then some result.state else none

def saveSSH (lib : TextLibrary) (env : Surroundings) (check : Checker) (newID : String)
    (input : SaveSSHInput) (state : PersistedState) : Except ConnectionError PersistedState := do
  let (_, next) ← saveSSHInState lib env check newID input state
  return next

def deleteRemoteProfile (raw : String) (state : PersistedState) :
    Except ConnectionError PersistedState :=
  let id := trimSpace raw
  if id = "" ∨ id = localConnection.id then .error (.invalid "invalid remote profile id")
  else
    match savedIndex state.sshConnections id with
    | none => .error (.notFound id)
    | some index =>
      .ok {
        sshConnections := state.sshConnections.eraseIdx index
        activeConnectionID :=
          if state.activeConnectionID = id then localConnection.id
          else state.activeConnectionID }

def selectConnection (id : String) (state : PersistedState) :
    Except ConnectionError PersistedState := do
  let _ ← resolveFromState state id
  return { state with activeConnectionID := id }

def checkConnection (check : Checker) (id : String) (state : PersistedState) :
    Except ConnectionError PersistedState := do
  let connection ← resolveFromState state id
  return applyCheckResultToState id (check connection) state

def reportLaunchResult (lib : TextLibrary) (now : Instant) (id : String)
    (launchError : Option String) (state : PersistedState) :
    Except ConnectionError PersistedState := do
  let _ ← resolveFromState state id
  return applyLaunchResultToState lib now id launchError state

def newService : PersistedState where
  activeConnectionID := localConnection.id

inductive ConnectionRequest where
  | saveSSH (check : Checker) (newID : String) (input : SaveSSHInput)
  | delete (id : String)
  | select (id : String)
  | check (checker : Checker) (id : String)
  | reportLaunch (now : Instant) (id : String) (launchError : Option String)
  | importConfig (check : Checker) (candidates : List (SSHConfigProfileCandidate × String))

def ConnectionRequest.edit (lib : TextLibrary) (env : Surroundings) (state : PersistedState) :
    ConnectionRequest → Option PersistedState
  | .saveSSH checker newID input =>
    (Connections.saveSSH lib env checker newID input state).toOption
  | .delete id => (deleteRemoteProfile id state).toOption
  | .select id => (selectConnection id state).toOption
  | .check checker id => (checkConnection checker id state).toOption
  | .reportLaunch now id launchError => (reportLaunchResult lib now id launchError state).toOption
  | .importConfig checker candidates => importSSHConfig lib env checker candidates state

def ConnectionRequest.newIDs : ConnectionRequest → List String
  | .saveSSH _ newID _ => [newID]
  | .importConfig _ candidates => candidates.map Prod.snd
  | _ => []

/-- `ids.New` draws identifiers without surrounding white space that are used nowhere. -/
def drawsNewIDs (state : PersistedState) (newIDs : List String) : Bool :=
  decide newIDs.Nodup && newIDs.all fun newID =>
    decide (CleanID newID) && newID ≠ localConnection.id &&
      !(state.sshConnections.map (·.id)).contains newID

structure ConnectionStep where
  request : ConnectionRequest
  written : Bool

def connectionStep (lib : TextLibrary) (env : Surroundings) (s : Stored PersistedState)
    (action : ConnectionStep) : Option (Stored PersistedState) :=
  if drawsNewIDs s.data action.request.newIDs then
    some (s.commit (fun state => action.request.edit lib env state) action.written)
  else none

end RuneTerminal.Connections
