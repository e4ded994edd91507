import Mathlib.Data.List.Sort
import RuneTerminal.Go.Strings
import RuneTerminal.Kit.Table

/-! How `core/app/mcp_onboarding.go` normalises the request for a remote server, and the calls of
`mcp_runtime.go`. A call edits the registry first and undoes the edit by hand where the file cannot
be written. -/

namespace RuneTerminal.McpServers

open Go.Strings (trimSpace trim_space_twice contains)
open Kit List

inductive McpProcessState where
  | stopped
  | starting
  | active
  | idle
  | stoppedAuto

/-- The unset type is `other ""`. -/
inductive McpServerType where
  | process
  | remote
  | other (raw : String)
  deriving DecidableEq

inductive McpError where
  | invalidPluginSpec (reason : String)
  | serverNotFound
  | serverRegistered
  | serverBusy
  | serverDisabled
  | spawnFailed
  | notWritten
  | notRead
  /-- `errors.Join` of a failed write and a failed start. -/
  | notWrittenNorStarted (start : McpError)
  deriving DecidableEq

abbrev Headers := List (String × String)

structure ProcessConfig where
  command : String := ""
  args : List String := []
  dir : String := ""
  env : List String := []

structure McpRemoteConfig where
  endpoint : String
  headers : Headers

structure McpServerSpec where
  id : String
  serverType : McpServerType := .other ""
  process : ProcessConfig := {}
  remote : Option McpRemoteConfig := none

structure McpServerSnapshot where
  id : String
  serverType : McpServerType
  endpoint : String
  state : McpProcessState
  lastUsed : Option Nat
  active : Bool
  enabled : Bool

structure McpRegistryEntry where
  spec : McpServerSpec
  state : McpProcessState := .stopped
  lastUsed : Option Nat := none
  active : Bool := false
  enabled : Bool := true

abbrev McpRegistry := Keyed fun entry : McpRegistryEntry => entry.spec.id

def normalizeMCPServerSpec (spec : McpServerSpec) : Except McpError McpServerSpec :=
  let id := trimSpace spec.id
  let serverType := if spec.serverType = .other "" then .process else spec.serverType
  if id = "" then .error (.invalidPluginSpec "")
  else
    match serverType with
    | .process =>
      if trimSpace spec.process.command = "" then .error (.invalidPluginSpec "")
      else .ok { id := id, serverType := .process, process := spec.process }
    | .remote =>
      match spec.remote with
      | none => .error (.invalidPluginSpec "")
      | some remote =>
        if trimSpace remote.endpoint = "" then .error (.invalidPluginSpec "")
        else
          .ok {
            id := id
            serverType := .remote
            remote := some { remote with endpoint := trimSpace remote.endpoint } }
    | .other _ => .error (.invalidPluginSpec "")

namespace McpRegistry

variable (registry : McpRegistry)

def register (spec : McpServerSpec) : Except McpError McpRegistry :=
  match normalizeMCPServerSpec spec with
  | .error err => .error err
  | .ok normalized =>
    if absent : registry.find normalized.id = none then
      .ok (registry.push { spec := normalized } absent)
    else .error .serverRegistered

def update (spec : McpServerSpec) : Except McpError McpRegistry :=
  match normalizeMCPServerSpec spec with
  | .error err => .error err
  | .ok normalized =>
    if registry.find normalized.id = none then .error .serverNotFound
    else
      .ok (registry.modify normalized.id (fun entry => { entry with spec := normalized })
        fun _ _ => rfl)

def delete (id : String) : Except McpError McpRegistry :=
  if registry.find (trimSpace id) = none then .error .serverNotFound
  else .ok (registry.erase (trimSpace id))

def snapshotEndpoint (spec : McpServerSpec) : String :=
  match spec.remote with
  | none => ""
  | some remote => trimSpace remote.endpoint

def snapshot (entry : McpRegistryEntry) : McpServerSnapshot where
  id := entry.spec.id
  serverType := entry.spec.serverType
  endpoint := snapshotEndpoint entry.spec
  state := entry.state
  lastUsed := entry.lastUsed
  active := entry.active
  enabled := entry.enabled

/-- `List`, in the order of the identifiers. -/
def list : List McpServerSnapshot :=
  (registry.items.insertionSort fun first second => first.spec.id ≤ second.spec.id).map snapshot

def get (id : String) : Except McpError McpServerSnapshot :=
  match registry.find (trimSpace id) with
  | none => .error .serverNotFound
  | some entry => .ok (snapshot entry)

def cloneRemoteConfig (remote : McpRemoteConfig) : McpRemoteConfig :=
  { remote with endpoint := trimSpace remote.endpoint }

def spec (id : String) : Except McpError McpServerSpec :=
  match registry.find (trimSpace id) with
  | none => .error .serverNotFound
  | some entry => .ok { entry.spec with remote := entry.spec.remote.map cloneRemoteConfig }

def change (id : String) (edit : McpRegistryEntry → McpRegistryEntry)
    (keeps : ∀ entry, (edit entry).spec = entry.spec) : Except McpError McpRegistry :=
  if registry.find (trimSpace id) = none then .error .serverNotFound
  else
    .ok (registry.modify (trimSpace id) edit fun entry isKey => by
      rw [keeps entry]
      exact isKey)

def setState (id : String) (state : McpProcessState) : Except McpError McpRegistry :=
  registry.change id (fun entry => { entry with state := state }) fun _ => rfl

def setActive (id : String) (active : Bool) : Except McpError McpRegistry :=
  registry.change id (fun entry => { entry with active := active }) fun _ => rfl

def touch (id : String) (now : Nat) : Except McpError McpRegistry :=
  registry.change id (fun entry => { entry with lastUsed := some now }) fun _ => rfl

def setEnabled (id : String) (enabled : Bool) : Except McpError McpRegistry :=
  registry.change id (fun entry => { entry with enabled := enabled }) fun _ => rfl

def discardError (result : Except McpError McpRegistry) : McpRegistry :=
  match result with
  | .error _ => registry
  | .ok next => next

def kept : Table String (McpServerSpec × Bool) :=
  fun id => (registry.find id).map fun entry => (entry.spec, entry.enabled)

end McpRegistry

def Normal (spec : McpServerSpec) : Prop := normalizeMCPServerSpec spec = .ok spec

variable {spec normalized : McpServerSpec}

section

variable (normalizes : normalizeMCPServerSpec spec = .ok normalized)
include normalizes

theorem normalize_cases :
    trimSpace spec.id ≠ "" ∧
      ((trimSpace spec.process.command ≠ "" ∧
          normalized =
            { id := trimSpace spec.id, serverType := .process, process := spec.process }) ∨
        ∃ remote, spec.serverType = .remote ∧ spec.remote = some remote ∧
          trimSpace remote.endpoint ≠ "" ∧
          normalized =
            { id := trimSpace spec.id
              serverType := .remote
              remote := some { remote with endpoint := trimSpace remote.endpoint } }) := by
  unfold normalizeMCPServerSpec at normalizes
  by_cases noID : trimSpace spec.id = ""
  · rw [if_pos noID] at normalizes
    cases normalizes
  rw [if_neg noID] at normalizes
  refine ⟨noID, ?_⟩
  split at normalizes
  · by_cases noCommand : trimSpace spec.process.command = ""
    · rw [if_pos noCommand] at normalizes
      cases normalizes
    · rw [if_neg noCommand] at normalizes
      exact .inl ⟨noCommand, (Except.ok.inj normalizes).symm⟩
  next isRemote =>
    have kind : spec.serverType = .remote := by
      by_cases unset : spec.serverType = .other ""
      · rw [if_pos unset] at isRemote
        cases isRemote
      · rwa [if_neg unset] at isRemote
    cases config : spec.remote with
    | none =>
      rw [config] at normalizes
      cases normalizes
    | some remote =>
      rw [config] at normalizes
      dsimp only at normalizes
      by_cases noEndpoint : trimSpace remote.endpoint = ""
      · rw [if_pos noEndpoint] at normalizes
        cases normalizes
      · rw [if_neg noEndpoint] at normalizes
        exact .inr ⟨remote, kind, rfl, noEndpoint, (Except.ok.inj normalizes).symm⟩
  · cases normalizes

theorem normal_of_normalize : Normal normalized := by
  unfold Normal
  rcases normalize_cases normalizes with ⟨hasID,
      ⟨hasCommand, rfl⟩ | ⟨remote, -, -, hasEndpoint, rfl⟩⟩
  · simp [normalizeMCPServerSpec, hasID, hasCommand]
  · simp [normalizeMCPServerSpec, hasID, hasEndpoint]

end

theorem Normal.clone (normal : Normal spec) :
    { spec with remote := spec.remote.map McpRegistry.cloneRemoteConfig } = spec := by
  rcases normalize_cases normal with ⟨-, ⟨-, same⟩ | ⟨remote, -, -, -, same⟩⟩
  · rw [same]
    rfl
  · rw [same]
    simp [McpRegistry.cloneRemoteConfig]

theorem Normal.trim_id (normal : Normal spec) : trimSpace spec.id = spec.id := by
  rcases normalize_cases normal with ⟨-, ⟨-, same⟩ | ⟨remote, -, -, -, same⟩⟩
  · rw [same, trim_space_twice]
  · rw [same, trim_space_twice]

namespace McpRegistry

variable {registry next : McpRegistry} {id : String} {edit : McpRegistryEntry → McpRegistryEntry}
  {keeps : ∀ entry, (edit entry).spec = entry.spec}

theorem kept_eq_none_iff : registry.kept id = none ↔ registry.find id = none := by
  rw [kept, Option.map_eq_none_iff]

theorem register_kept (registers : registry.register spec = .ok next) :
    ∃ normalized, normalizeMCPServerSpec spec = .ok normalized ∧ registry.kept normalized.id =
    none ∧ next.kept = registry.kept.insert normalized.id (normalized, true) := by
  unfold register at registers
  cases normalizes : normalizeMCPServerSpec spec with
  | error err =>
    rw [normalizes] at registers
    cases registers
  | ok normalized =>
    rw [normalizes] at registers
    dsimp only at registers
    split_ifs at registers with absent
    cases registers
    refine ⟨normalized, rfl, kept_eq_none_iff.mpr absent, ?_⟩
    funext id
    rw [kept, Keyed.find_push, Table.insert]
    split_ifs <;> rfl

theorem register_of_absent (normalizes : normalizeMCPServerSpec spec = .ok normalized)
    (absent : registry.kept normalized.id = none) : ∃ next, registry.register spec = .ok next := by
  unfold register
  rw [normalizes]
  dsimp only
  rw [dif_pos (kept_eq_none_iff.mp absent)]
  exact ⟨_, rfl⟩

theorem update_kept (updates : registry.update spec = .ok next) :
    ∃ normalized old, normalizeMCPServerSpec spec = .ok normalized ∧ registry.kept normalized.id =
    some old ∧ next.kept = registry.kept.insert normalized.id (normalized, old.2) := by
  unfold update at updates
  cases normalizes : normalizeMCPServerSpec spec with
  | error err =>
    rw [normalizes] at updates
    cases updates
  | ok normalized =>
    rw [normalizes] at updates
    dsimp only at updates
    split_ifs at updates with absent
    cases updates
    obtain ⟨entry, found⟩ := Option.ne_none_iff_exists'.mp absent
    refine ⟨normalized, (entry.spec, entry.enabled), rfl, ?_, ?_⟩
    · rw [kept, found]
      rfl
    funext id
    rw [kept, Keyed.find_modify, Table.insert]
    split_ifs with same
    · rw [same, found]
      rfl
    · rfl

theorem delete_kept (deletes : registry.delete id = .ok next) :
    next.kept = registry.kept.erase (trimSpace id) := by
  unfold delete at deletes
  split_ifs at deletes with absent
  cases deletes
  funext other
  rw [kept, Keyed.find_erase, Table.erase]
  split_ifs <;> rfl

theorem change_kept (same : ∀ entry, (edit entry).enabled = entry.enabled)
    (changes : registry.change id edit keeps = .ok next) : next.kept = registry.kept := by
  unfold change at changes
  split_ifs at changes with absent
  cases changes
  funext other
  rw [kept, Keyed.find_modify, kept]
  split_ifs with isID
  · cases registry.find other with
    | none => rfl
    | some entry =>
      rw [Option.map_some, Option.map_some, Option.map_some, keeps, same]
  · rfl

theorem set_enabled_kept {enabled : Bool} (sets : registry.setEnabled id enabled = .ok next) :
    ∃ old, registry.kept (trimSpace id) =
    some old ∧ next.kept = registry.kept.insert (trimSpace id) (old.1, enabled) := by
  unfold setEnabled change at sets
  split_ifs at sets with absent
  cases sets
  obtain ⟨entry, found⟩ := Option.ne_none_iff_exists'.mp absent
  refine ⟨(entry.spec, entry.enabled), ?_, ?_⟩
  · rw [kept, found]
    rfl
  funext other
  rw [kept, Keyed.find_modify, Table.insert]
  split_ifs with same
  · rw [same, found]
    rfl
  · rfl

theorem change_known (known : registry.kept (trimSpace id) ≠ none) :
    ∃ next, registry.change id edit keeps = .ok next := by
  unfold change
  rw [if_neg (mt kept_eq_none_iff.mpr known)]
  exact ⟨_, rfl⟩

theorem spec_of_kept (read : registry.spec id = .ok spec) :
    ∃ entry, registry.find (trimSpace id) = some entry ∧
      spec = { entry.spec with remote := entry.spec.remote.map cloneRemoteConfig } := by
  unfold McpRegistry.spec at read
  cases found : registry.find (trimSpace id) with
  | none =>
    rw [found] at read
    cases read
  | some entry =>
    rw [found] at read
    exact ⟨entry, rfl, (Except.ok.inj read).symm⟩

end McpRegistry

structure McpRegistrationRequest where
  id : String := ""
  requestType : String := ""
  endpoint : String := ""
  headers : Headers := []

/-- What `url.Parse` finds, with the text that `String` gives. -/
structure ParsedURL where
  scheme : String
  host : String
  text : String

/-- `url.Parse`, `strings.ToLower` and `strings.EqualFold`. -/
structure Library where
  parseURL : String → Option ParsedURL
  toLower : String → String
  equalFold : String → String → Bool

section

variable (lib : Library)

def hasNewline (text : String) : Bool := text.toList.any fun c => c = '\r' ∨ c = '\n'

def normalizeHeaders (normalized : Headers) : Headers → Except McpError Headers
  | [] => .ok normalized
  | (name, value) :: rest =>
    let headerName := trimSpace name
    if headerName = "" then .error (.invalidPluginSpec "header names must be non-empty")
    else if hasNewline headerName then
      .error (.invalidPluginSpec "header names must not contain newlines")
    else if hasNewline value then
      .error (.invalidPluginSpec "header values must not contain newlines")
    else
      normalizeHeaders (upsertFirst Prod.fst headerName (fun _ => (headerName, value)) normalized)
        rest

def normalizeRemoteMCPDraft (endpoint : String) (headers : Headers) :
    Except McpError (String × Headers) :=
  let normalizedEndpoint := trimSpace endpoint
  if normalizedEndpoint = "" then .error (.invalidPluginSpec "endpoint is required")
  else
    match lib.parseURL normalizedEndpoint with
    | none => .error (.invalidPluginSpec "endpoint must be an absolute URL")
    | some parsed =>
      if parsed.scheme = "" ∨ parsed.host = "" then
        .error (.invalidPluginSpec "endpoint must be an absolute URL")
      else if parsed.scheme ≠ "http" ∧ parsed.scheme ≠ "https" then
        .error (.invalidPluginSpec "endpoint scheme must be http or https")
      else
        match normalizeHeaders [] headers with
        | .error err => .error err
        | .ok normalized => .ok (parsed.text, normalized)

def normalizeRemoteMCPRegistrationRequest (request : McpRegistrationRequest) (targetID : String) :
    Except McpError McpRegistrationRequest :=
  let id := if trimSpace request.id = "" then trimSpace targetID else trimSpace request.id
  if id = "" then .error (.invalidPluginSpec "id is required")
  else if trimSpace targetID ≠ "" ∧ id ≠ trimSpace targetID then
    .error (.invalidPluginSpec "id must match the target server")
  else if trimSpace request.requestType ≠ "remote" then
    .error (.invalidPluginSpec "type must be remote")
  else
    match normalizeRemoteMCPDraft lib request.endpoint request.headers with
    | .error err => .error err
    | .ok (endpoint, headers) =>
      .ok { id := id, requestType := "remote", endpoint := endpoint, headers := headers }

def mcpHeaderValueIsRedactedSecret (value : String) : Bool := trimSpace value = "********"

def mcpHeaderNameIsSensitive (name : String) : Bool :=
  let normalizedName := lib.toLower (trimSpace name)
  if normalizedName = "" then false
  else if normalizedName = "authorization" ∨ normalizedName = "proxy-authorization" then true
  else if contains normalizedName "token" || contains normalizedName "secret" then true
  else
    let compactName :=
      String.ofList (normalizedName.toList.filter fun c => c ≠ '-' ∧ c ≠ '_' ∧ c ≠ ' ')
    contains compactName "apikey"

def findMCPHeaderValue (headers : Headers) (targetName : String) : Option String :=
  (headers.find? fun header => lib.equalFold (trimSpace header.1) (trimSpace targetName)).map
    Prod.snd

def mergeMCPHeadersPreservingRedactedSecrets (existing next : Headers) : Headers :=
  next.map fun (name, value) =>
    if !mcpHeaderNameIsSensitive lib name || !mcpHeaderValueIsRedactedSecret value then
      (name, value)
    else (name, (findMCPHeaderValue lib existing name).getD value)

end

/-- The merge where every search for a value goes over the stored map in an order of its own. -/
def mergeInOrders (lib : Library) (orders : String → Headers) (next : Headers) : Headers :=
  next.flatMap fun header =>
    mergeMCPHeadersPreservingRedactedSecrets lib (orders header.1) [header]

structure PersistedMCPServer where
  id : String
  serverType : String
  endpoint : String := ""
  headers : Headers := []
  enabled : Bool

/-- What the registry file holds. -/
inductive RegistryFile where
  | missing
  | unreadable
  | servers (persisted : List PersistedMCPServer)

def persistedServer (registry : McpRegistry) (server : McpServerSnapshot) :
    Option PersistedMCPServer :=
  match registry.spec server.id with
  | .error _ => none
  | .ok spec =>
    match server.serverType with
    | .remote =>
      spec.remote.map fun remote =>
        { id := spec.id
          serverType := "remote"
          endpoint := remote.endpoint
          headers := remote.headers
          enabled := server.enabled }
    | .process => some { id := spec.id, serverType := "process", enabled := server.enabled }
    | .other _ => none

def persistedServers (registry : McpRegistry) : List PersistedMCPServer :=
  registry.list.filterMap (persistedServer registry)

/-- One round of the loop of `loadMCPRegistryFile`. -/
def readServer (server : PersistedMCPServer) : Option PersistedMCPServer :=
  let id := trimSpace server.id
  let serverType := trimSpace server.serverType
  if id = "" then none
  else if serverType = "remote" then
    let endpoint := trimSpace server.endpoint
    if endpoint = "" then none
    else
      some { id := id, serverType := serverType, endpoint := endpoint, headers := server.headers,
             enabled := server.enabled }
  else if serverType = "process" then
    some { id := id, serverType := serverType, enabled := server.enabled }
  else none

def loadMCPRegistryFile (file : RegistryFile) : Except McpError (List PersistedMCPServer) :=
  match file with
  | .missing => .ok []
  | .unreadable => .error .notRead
  | .servers persisted => .ok (persisted.filterMap readServer)

/-- `running` holds the calls in flight of each server with a process. -/
structure Host where
  registry : McpRegistry
  running : Table String Nat
  file : RegistryFile

/-- What a call meets outside: whether the file can be written and a process be started, the clock,
and the order in which a search goes over a map of headers. -/
structure Oracle where
  written : Bool := true
  spawned : Bool := true
  now : Nat := 0
  range : String → Headers → Headers := fun _ => id

abbrev Call (Value : Type) := Except McpError Value × Host

def Call.andThen (call : Call Unit) (rest : Host → Call Unit) : Call Unit :=
  match call with
  | (.error err, host) => (.error err, host)
  | (.ok (), host) => rest host

namespace Host

variable (oracle : Oracle) (host : Host)

def onRegistry (result : Except McpError McpRegistry) (rest : Host → Call Unit) : Call Unit :=
  match result with
  | .error err => (.error err, host)
  | .ok registry => rest { host with registry := registry }

def done (host : Host) : Call Unit := (.ok (), host)

def discard (call : McpRegistry → Except McpError McpRegistry) : Host :=
  { host with registry := host.registry.discardError (call host.registry) }

def start (serverID : String) : Call Unit :=
  let id := trimSpace serverID
  if id = "" then (.error (.invalidPluginSpec ""), host)
  else
    match host.registry.get id with
    | .error err => (.error err, host)
    | .ok server =>
      if !server.enabled then (.error .serverDisabled, host)
      else
        match host.registry.spec id with
        | .error err => (.error err, host)
        | .ok spec =>
          if spec.serverType = .remote then
            host.onRegistry (host.registry.setState id .idle) fun host =>
              host.onRegistry (host.registry.setActive id true) fun host =>
                host.onRegistry (host.registry.touch id oracle.now) done
          else
            match host.running id with
            | some inUse =>
              let state : McpProcessState := if inUse > 0 then .active else .idle
              (((host.discard (·.setState id state)).discard (·.setActive id true)).discard
                (·.touch id oracle.now)).done
            | none =>
              host.onRegistry (host.registry.setState id .starting) fun host =>
                host.onRegistry (host.registry.setActive id true) fun host =>
                  if oracle.spawned then
                    let host := { host with running := host.running.insert id 0 }
                    (((host.discard (·.setState id .idle)).discard
                      (·.setActive id true)).discard (·.touch id oracle.now)).done
                  else
                    (.error .spawnFailed,
                      (host.discard (·.setState id .stopped)).discard (·.setActive id false))

def stop (serverID : String) : Call Unit :=
  let id := trimSpace serverID
  if id = "" then (.error (.invalidPluginSpec ""), host)
  else
    match host.running id with
    | none =>
      host.onRegistry (host.registry.setState id .stopped) fun host =>
        host.onRegistry (host.registry.setActive id false) done
    | some inUse =>
      if inUse > 0 then (.error .serverBusy, host)
      else
        let host := { host with running := host.running.erase id }
        host.onRegistry (host.registry.setState id .stopped) fun host =>
          host.onRegistry (host.registry.setActive id false) fun host =>
            host.onRegistry (host.registry.touch id oracle.now) done

/-- `SetEnabled` behind the `Stop` that comes first where a server is disabled. -/
def setFlag (id : String) (enabled : Bool) : Call Unit :=
  host.onRegistry (host.registry.setEnabled id enabled) fun host =>
    if enabled then host.done else (host.discard (·.setActive id false)).done

def setEnabled (serverID : String) (enabled : Bool) : Call Unit :=
  let id := trimSpace serverID
  if id = "" then (.error (.invalidPluginSpec ""), host)
  else if enabled then host.setFlag id enabled
  else
    match host.stop oracle id with
    | (.error err, host) =>
      if err = .serverNotFound then host.setFlag id enabled else (.error err, host)
    | (.ok (), host) => host.setFlag id enabled

def persistMCPRegistry : Call Unit :=
  if oracle.written then
    (.ok (), { host with file := .servers (persistedServers host.registry) })
  else (.error .notWritten, host)

def remoteSpec (id endpoint : String) (headers : Headers) : McpServerSpec where
  id := id
  serverType := .remote
  remote := some { endpoint := endpoint, headers := headers }

def loadServers (host : Host) : List PersistedMCPServer → Call Unit
  | [] => host.done
  | server :: rest =>
    if server.serverType = "remote" then
      let flag (host : Host) : Call Unit :=
        if !server.enabled then
          Call.andThen (host.setEnabled oracle server.id false) fun host => loadServers host rest
        else loadServers host rest
      match host.registry.register (remoteSpec server.id server.endpoint server.headers) with
      | .error .serverRegistered => flag host
      | .error err => (.error err, host)
      | .ok registry => flag { host with registry := registry }
    else if server.serverType = "process" then
      match host.registry.spec server.id with
      | .error _ => loadServers host rest
      | .ok spec =>
        if spec.serverType ≠ .process then loadServers host rest
        else
          Call.andThen (host.setEnabled oracle server.id server.enabled) fun host =>
            loadServers host rest
    else loadServers host rest

def loadPersistedMCPRegistry : Call Unit :=
  match loadMCPRegistryFile host.file with
  | .error err => (.error err, host)
  | .ok servers => host.loadServers oracle servers

def exampleSpec (executable : String) : McpServerSpec where
  id := "mcp.example"
  process := { command := executable, args := ["plugin-example"] }

/-- A fresh registry with the built-in server, beside the registry file. -/
def fresh (executable : String) (file : RegistryFile) : Except McpError Host :=
  match McpRegistry.register Keyed.empty (exampleSpec executable) with
  | .error err => .error err
  | .ok registry => .ok { registry := registry, running := Table.empty, file := file }

def loadFresh (executable : String) (file : RegistryFile) : Except McpError Host :=
  match fresh executable file with
  | .error err => .error err
  | .ok host =>
    match host.loadPersistedMCPRegistry oracle with
    | (.error err, _) => .error err
    | (.ok (), host) => .ok host

def registerMCPServers (executable : String) (file : RegistryFile) : Except McpError Host :=
  match loadFresh oracle executable file with
  | .error err => .error err
  | .ok host =>
    match host.persistMCPRegistry oracle with
    | (.error err, _) => .error err
    | (.ok (), host) => .ok host

def restoreMCPServerSnapshot (snapshot : McpServerSnapshot) : Host :=
  if trimSpace snapshot.id = "" then host
  else
    let host := ((host.discard (·.setEnabled snapshot.id snapshot.enabled)).discard
      (·.setState snapshot.id snapshot.state)).discard (·.setActive snapshot.id snapshot.active)
    match snapshot.lastUsed with
    | none => host
    | some at' => host.discard (·.touch snapshot.id at')

def restoreMCPServerRegistryState (spec : McpServerSpec) (snapshot : McpServerSnapshot) : Host :=
  if trimSpace spec.id = "" then host
  else
    let host :=
      match host.registry.get spec.id with
      | .error .serverNotFound => host.discard (·.register spec)
      | _ => host.discard (·.update spec)
    host.restoreMCPServerSnapshot snapshot

def registerMCPServer (lib : Library) (request : McpRegistrationRequest) :
    Call McpServerSnapshot :=
  match normalizeRemoteMCPRegistrationRequest lib request "" with
  | .error err => (.error err, host)
  | .ok normalized =>
    let spec := remoteSpec normalized.id normalized.endpoint normalized.headers
    match host.registry.register spec with
    | .error err => (.error err, host)
    | .ok registry =>
      match ({ host with registry := registry } : Host).persistMCPRegistry oracle with
      | (.error err, host) => (.error err, host.discard (·.delete spec.id))
      | (.ok (), host) => (host.registry.get spec.id, host)

def updatedHeaders (lib : Library) (existing : McpServerSpec) (next : Headers) : Headers :=
  match existing.remote with
  | none => next
  | some remote => mergeInOrders lib (fun name => oracle.range name remote.headers) next

def finishUpdate (lib : Library) (existing : McpServerSpec) (previous : McpServerSnapshot)
    (normalized : McpRegistrationRequest) : Call McpServerSnapshot :=
  let headers := updatedHeaders oracle lib existing normalized.headers
  match host.registry.update (remoteSpec normalized.id normalized.endpoint headers) with
  | .error err => (.error err, host.restoreMCPServerRegistryState existing previous)
  | .ok registry =>
    match ({ host with registry := registry } : Host).persistMCPRegistry oracle with
    | (.error err, host) => (.error err, host.restoreMCPServerRegistryState existing previous)
    | (.ok (), host) => (host.registry.get normalized.id, host)

def updateMCPServer (lib : Library) (serverID : String) (request : McpRegistrationRequest) :
    Call McpServerSnapshot :=
  match normalizeRemoteMCPRegistrationRequest lib request serverID with
  | .error err => (.error err, host)
  | .ok normalized =>
    match host.registry.spec normalized.id with
    | .error err => (.error err, host)
    | .ok existing =>
      if existing.serverType ≠ .remote then
        (.error (.invalidPluginSpec "only remote mcp servers can be updated"), host)
      else
        match host.registry.get normalized.id with
        | .error err => (.error err, host)
        | .ok server =>
          if server.active then
            match host.stop oracle normalized.id with
            | (.error err, host) => (.error err, host)
            | (.ok (), host) => host.finishUpdate oracle lib existing server normalized
          else host.finishUpdate oracle lib existing server normalized

/-- The end of `DeleteMCPServer`, behind the `Stop` of an active server. -/
def finishDelete (id : String) (spec : McpServerSpec) (server : McpServerSnapshot) : Call Unit :=
  match host.registry.delete id with
  | .error err => (.error err, host.restoreMCPServerRegistryState spec server)
  | .ok registry =>
    match ({ host with registry := registry } : Host).persistMCPRegistry oracle with
    | (.error err, host) => (.error err, host.restoreMCPServerRegistryState spec server)
    | (.ok (), host) => (.ok (), host)

def deleteMCPServer (serverID : String) : Call Unit :=
  let id := trimSpace serverID
  if id = "" then (.error (.invalidPluginSpec "id is required"), host)
  else
    match host.registry.spec id with
    | .error err => (.error err, host)
    | .ok spec =>
      if spec.serverType ≠ .remote then
        (.error (.invalidPluginSpec "only remote mcp servers can be deleted"), host)
      else
        match host.registry.get id with
        | .error err => (.error err, host)
        | .ok server =>
          if server.active then
            match host.stop oracle id with
            | (.error err, host) => (.error err, host)
            | (.ok (), host) => host.finishDelete oracle id spec server
          else host.finishDelete oracle id spec server

def setMCPServerEnabled (serverID : String) (enabled : Bool) : Call McpServerSnapshot :=
  match host.registry.get serverID with
  | .error err => (.error err, host)
  | .ok previous =>
    match host.setEnabled oracle serverID enabled with
    | (.error err, host) => (.error err, host)
    | (.ok (), host) =>
      match host.persistMCPRegistry oracle with
      | (.error err, host) =>
        let host := host.restoreMCPServerSnapshot previous
        if previous.enabled && previous.active then
          match host.start oracle previous.id with
          | (.error restart, host) => (.error (.notWrittenNorStarted restart), host)
          | (.ok (), host) => (.error err, host)
        else (.error err, host)
      | (.ok (), host) => (host.registry.get serverID, host)

end Host

/-- The calls that write the registry file, those that start and stop a server, and
the calls of the servers, which come and go. -/
inductive Operation where
  | register (request : McpRegistrationRequest)
  | update (serverID : String) (request : McpRegistrationRequest)
  | delete (serverID : String)
  | setEnabled (serverID : String) (enabled : Bool)
  | start (serverID : String)
  | stop (serverID : String)
  | inFlight (id : String) (calls : Nat)

def Host.perform (lib : Library) (oracle : Oracle) (host : Host) :
    Operation → Except McpError Unit × Host
  | .register request => (host.registerMCPServer oracle lib request).map (·.map fun _ => ()) id
  | .update serverID request =>
    (host.updateMCPServer oracle lib serverID request).map (·.map fun _ => ()) id
  | .delete serverID => host.deleteMCPServer oracle serverID
  | .setEnabled serverID enabled =>
    (host.setMCPServerEnabled oracle serverID enabled).map (·.map fun _ => ()) id
  | .start serverID => host.start oracle serverID
  | .stop serverID => host.stop oracle serverID
  | .inFlight id calls =>
    if host.running id = none then host.done
    else ({ host with running := host.running.insert id calls } : Host).done

def step (lib : Library) (host : Host) (call : Oracle × Operation) : Option Host :=
  some (host.perform lib call.1 call.2).2

variable {lib : Library} {headers : Headers}

def mcpRedactedSecretValue : String := "********"

def isSecret (lib : Library) (header : String × String) : Bool :=
  mcpHeaderNameIsSensitive lib header.1 && header.2 != ""

/-- `RedactMCPHeadersForDisplay`. -/
def redactMCPHeadersForDisplay (lib : Library) (headers : Headers) : Headers :=
  headers.map fun header =>
    if isSecret lib header then (header.1, mcpRedactedSecretValue) else header

def SecretsSurvive (lib : Library) (headers : Headers) : Prop :=
  ∀ orders : String → Headers, (∀ name, (orders name).Perm headers) →
    mergeInOrders lib orders (redactMCPHeadersForDisplay lib headers) = headers

/-- Headers with the name of a secret in some letter case have its value. -/
def SecretsAgree (lib : Library) (headers : Headers) : Prop :=
  ∀ secret ∈ headers, isSecret lib secret = true → ∀ other ∈ headers,
    lib.equalFold (trimSpace other.1) (trimSpace secret.1) = true → other.2 = secret.2

instance (lib : Library) (headers : Headers) : Decidable (SecretsAgree lib headers) :=
  inferInstanceAs (Decidable (∀ secret ∈ headers, _))

def survivor (lib : Library) (order : Headers) (header : String × String) : String × String :=
  if isSecret lib header then
    (header.1, (findMCPHeaderValue lib order header.1).getD mcpRedactedSecretValue)
  else header

theorem merge_redacted_header (lib : Library) (order : Headers) (header : String × String) :
    mergeMCPHeadersPreservingRedactedSecrets lib order
        [if isSecret lib header then (header.1, mcpRedactedSecretValue) else header] =
      [survivor lib order header] := by
  obtain ⟨name, value⟩ := header
  by_cases secret : isSecret lib (name, value) = true
  · have sensitive : mcpHeaderNameIsSensitive lib name = true := (Bool.and_eq_true_iff.mp secret).1
    have marked : mcpHeaderValueIsRedactedSecret mcpRedactedSecretValue = true := by decide
    simp [mergeMCPHeadersPreservingRedactedSecrets, survivor, secret, sensitive, marked]
  · have kept : (!mcpHeaderNameIsSensitive lib name || !mcpHeaderValueIsRedactedSecret value) =
        true := by
      rw [isSecret, Bool.and_eq_true_iff, not_and, bne_iff_ne, not_not] at secret
      cases sensitive : mcpHeaderNameIsSensitive lib name with
      | false => rfl
      | true =>
        have empty : value = "" := secret sensitive
        rw [empty]
        decide
    simp only [mergeMCPHeadersPreservingRedactedSecrets, survivor, secret, Bool.false_eq_true,
      if_false, map_singleton, kept, if_true]

theorem merge_redacted (lib : Library) (orders : String → Headers) (headers : Headers) :
    mergeInOrders lib orders (redactMCPHeadersForDisplay lib headers) = headers.map fun header =>
    survivor lib (orders header.1) header := by
  rw [mergeInOrders, redactMCPHeadersForDisplay, flatMap_map, map_eq_flatMap]
  congr 1
  funext header
  have named : (if isSecret lib header then (header.1, mcpRedactedSecretValue) else header).1 =
      header.1 := by
    split_ifs <;> rfl
  rw [named]
  exact merge_redacted_header lib (orders header.1) header

theorem secrets_agree_of_survive (survive : SecretsSurvive lib headers) :
    SecretsAgree lib headers := by
  intro secret mem isSecret other otherMem folded
  obtain ⟨before, after, whole⟩ := append_of_mem otherMem
  -- An order in which the search meets the other header first.
  have perm : (other :: (before ++ after)).Perm headers := by
    rw [whole]
    exact perm_middle.symm
  have all := survive (fun _ => other :: (before ++ after)) fun _ => perm
  rw [merge_redacted, ← map_id headers, map_map] at all
  have kept : survivor lib (other :: (before ++ after)) secret = secret :=
    map_inj_left.mp all secret mem
  rw [survivor, if_pos isSecret, findMCPHeaderValue, find?_cons, folded] at kept
  have values := congrArg Prod.snd kept
  exact values

theorem secrets_survive_of_agree (folds : ∀ text, lib.equalFold text text = true)
    (agree : SecretsAgree lib headers) : SecretsSurvive lib headers := by
  intro orders perm
  rw [merge_redacted]
  conv_rhs => rw [← map_id headers]
  apply map_congr_left
  intro header mem
  by_cases secret : isSecret lib header = true
  · have stored := (perm header.1).mem_iff.mpr mem
    cases found : (orders header.1).find? fun other =>
        lib.equalFold (trimSpace other.1) (trimSpace header.1) with
    | none => exact absurd (folds _) (by simpa using find?_eq_none.mp found header stored)
    | some other =>
      have known := (perm header.1).mem_iff.mp (mem_of_find?_eq_some found)
      have folded := find?_some found
      have same := agree header mem secret other known folded
      rw [survivor, if_pos secret, findMCPHeaderValue, found, Option.map_some, Option.getD_some,
        same]
      rfl
  · rw [survivor, if_neg secret]
    rfl

/-- The secrets survive an edit exactly where headers whose names differ only in letter case
have the same value. In what is shown there is no secret. -/
theorem secrets_survive_iff (lib : Library) (folds : ∀ text, lib.equalFold text text = true)
    (headers : Headers) : (SecretsSurvive lib headers ↔ SecretsAgree lib headers) ∧
    ∀ (index : Nat) name value, headers[index]? = some (name, value) →
      mcpHeaderNameIsSensitive lib name = true → value ≠ "" →
        (redactMCPHeadersForDisplay lib headers)[index]? = some (name, mcpRedactedSecretValue) := by
  refine ⟨⟨secrets_agree_of_survive, secrets_survive_of_agree folds⟩, ?_⟩
  intro index name value found sensitive nonempty
  rw [redactMCPHeadersForDisplay, getElem?_map, found, Option.map_some]
  simp [isSecret, sensitive, nonempty]

def foldingLibrary : Library where
  parseURL text := some { scheme := "https", host := "mcp.context7.com", text := text }
  toLower text := text.map Char.toLower
  equalFold first second := first.map Char.toLower == second.map Char.toLower

theorem folding_library_folds (text : String) : foldingLibrary.equalFold text text = true :=
  beq_self_eq_true _

theorem secrets_survive_context7 :
    SecretsSurvive foldingLibrary [("Authorization", "Bearer test"), ("X-Trace", "1")] :=
  (secrets_survive_iff foldingLibrary folding_library_folds _).1.mpr (by decide +kernel)

def tokens : Headers := [("X-Token", "a"), ("x-token", "b")]

theorem tokens_accepted :
    normalizeRemoteMCPDraft foldingLibrary "https://mcp.context7.com/mcp" tokens =
      .ok ("https://mcp.context7.com/mcp", tokens) := by
  decide +kernel

theorem tokens_disagree : ¬SecretsAgree foldingLibrary tokens := by decide +kernel

/-- Of two tokens whose names differ in letter case, one takes the place of the other. -/
theorem token_is_swapped : ¬∀ lib : Library, (∀ text, lib.equalFold text text = true) →
    ∀ endpoint raw text headers, normalizeRemoteMCPDraft lib endpoint raw = .ok (text, headers) →
    SecretsSurvive lib headers := by
  intro claim
  have survive := claim foldingLibrary folding_library_folds _ _ _ _ tokens_accepted
  exact tokens_disagree (secrets_agree_of_survive survive)

end RuneTerminal.McpServers
