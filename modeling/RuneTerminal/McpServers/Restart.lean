import RuneTerminal.McpServers.Loading
import RuneTerminal.Kit.Transition

/-! A call either keeps everything that a restart should keep, or it succeeds and the registry file
holds the registry it leaves. -/

namespace RuneTerminal.McpServers

open Go.Strings (trimSpace trim_space_twice trim_space_empty)
open Kit Option McpRegistry Table

variable {executable : String} {oracle : Oracle} {host next : Host} {lib : Library} {enabled : Bool}

/-- The file holds the registry. -/
structure Saved (executable : String) (host : Host) : Prop where
  file : host.file = .servers (persistedServers host.registry)
  sound : Sound executable host.registry.kept

def Settles {Value : Type} (executable : String) (host : Host) (call : Call Value) : Prop :=
  host.Keeps call.2 ∨ (∃ value, call.1 = .ok value) ∧ Saved executable call.2

namespace Host

theorem Keeps.settles {Value : Type} {call : Call Value} (keeps : host.Keeps next)
    (settles : Settles executable next call) : Settles executable host call := by
  rcases settles with rest | saved
  · exact .inl (keeps.trans rest)
  · exact .inr saved

variable {spec : McpServerSpec}

theorem normalize_remote {id endpoint : String} {headers : Headers}
    (normalizes : normalizeMCPServerSpec (remoteSpec id endpoint headers) = .ok spec) :
    trimSpace id = spec.id ∧ spec.serverType = .remote := by
  rcases normalize_cases normalizes with ⟨-, ⟨hasCommand, -⟩ | ⟨remote, -, -, -, same⟩⟩
  · exact absurd trim_space_empty hasCommand
  · rw [same]
    exact ⟨rfl, rfl⟩

variable (host) in
theorem get_of_kept {id : String} {old : McpServerSpec × Bool}
    (known : host.registry.kept (trimSpace id) = some old) : ∃ server, host.registry.get id =
    .ok server ∧ server.id = trimSpace id ∧ server.enabled = old.2 := by
  obtain ⟨entry, found, same⟩ := map_eq_some_iff.mp known
  refine ⟨snapshot entry, ?_, ?_, ?_⟩
  · unfold McpRegistry.get
    rw [found]
  · exact (host.registry.find_eq_some_iff.mp found).2
  · rw [← same]
    rfl

theorem kept_of_get {id : String} {server : McpServerSnapshot}
    (got : host.registry.get id = .ok server) : ∃ spec, host.registry.kept (trimSpace id) =
    some (spec, server.enabled) ∧ server.id = trimSpace id := by
  unfold McpRegistry.get at got
  cases found : host.registry.find (trimSpace id) with
  | none =>
    rw [found] at got
    cases got
  | some entry =>
    rw [found] at got
    cases got
    refine ⟨entry.spec, ?_, (host.registry.find_eq_some_iff.mp found).2⟩
    rw [kept, found]
    rfl

theorem kept_of_spec {id : String} (sound : Sound executable host.registry.kept)
    (read : host.registry.spec id = .ok spec) :
    ∃ enabled, host.registry.kept (trimSpace id) = some (spec, enabled) := by
  obtain ⟨entry, found, same⟩ := spec_of_kept read
  have isKept : host.registry.kept (trimSpace id) = some (entry.spec, entry.enabled) := by
    rw [kept, found]
    rfl
  rw [(sound.normal isKept).1.clone] at same
  exact ⟨entry.enabled, same ▸ isKept⟩

theorem not_example {id : String} (sound : Sound executable host.registry.kept)
    (known : host.registry.kept id = some (spec, enabled)) (kind : spec.serverType = .remote) :
    id ≠ "mcp.example" := by
  rintro rfl
  obtain ⟨flag, isBuiltIn⟩ := sound.isBuiltIn
  rw [isBuiltIn] at known
  rw [← (Prod.mk.inj (some.inj known)).1] at kind
  cases kind

variable (oracle host) in
theorem persist_cases :
    (∃ err, host.persistMCPRegistry oracle = (.error err, host)) ∨
      host.persistMCPRegistry oracle =
        (.ok (), { host with file := .servers (persistedServers host.registry) }) := by
  unfold persistMCPRegistry
  by_cases written : oracle.written = true
  · rw [if_pos written]
    exact .inr rfl
  · rw [if_neg written]
    exact .inl ⟨_, rfl⟩

theorem register_settles (sound : Sound executable host.registry.kept)
    (request : McpRegistrationRequest) :
    Settles executable host (host.registerMCPServer oracle lib request) := by
  unfold registerMCPServer
  cases normalizeRemoteMCPRegistrationRequest lib request "" with
  | error err => exact .inl (.refl host)
  | ok normalized =>
    dsimp only
    cases registers : host.registry.register
        (remoteSpec normalized.id normalized.endpoint normalized.headers) with
    | error err => exact .inl (.refl host)
    | ok registry =>
      obtain ⟨spec, normalizes, absent, kept⟩ := register_kept registers
      obtain ⟨isID, isRemote⟩ := normalize_remote normalizes
      have apart : spec.id ≠ "mcp.example" := by
        intro same
        obtain ⟨flag, isBuiltIn⟩ := sound.isBuiltIn
        rw [same, isBuiltIn] at absent
        cases absent
      dsimp only
      rcases persist_cases oracle { host with registry := registry } with
        ⟨err, fails⟩ | writes
      · rw [fails]
        left
        obtain ⟨next, deletes⟩ : ∃ next, registry.delete normalized.id = .ok next := by
          unfold delete
          rw [if_neg (mt kept_eq_none_iff.mpr
            (by rw [isID, kept, insert_self]; simp))]
          exact ⟨_, rfl⟩
        have undone : ({ host with registry := registry } : Host).discard
            (·.delete normalized.id) = { host with registry := next } :=
          discard_ok deletes
        refine ⟨rfl, ?_⟩
        change (({ host with registry := registry } : Host).discard
          (·.delete normalized.id)).registry.kept = _
        rw [undone]
        rw [delete_kept deletes, isID, kept, erase_insert absent]
      · rw [writes]
        right
        constructor
        · have known : registry.kept (trimSpace normalized.id) = some (spec, true) := by
            rw [isID, kept, insert_self]
          obtain ⟨server, got, -⟩ := get_of_kept { host with registry := registry } known
          exact ⟨server, got⟩
        · refine ⟨rfl, ?_⟩
          rw [kept]
          exact sound.of_insert (normal_of_normalize normalizes) (.inl ⟨isRemote, apart⟩)

section

variable {existing : McpServerSpec} {previous : McpServerSnapshot}

structure IsServer (host : Host) (existing : McpServerSpec) (previous : McpServerSnapshot) :
    Prop where
  normal : Normal existing
  kind : existing.serverType = .remote
  sameID : previous.id = existing.id
  known : host.registry.kept existing.id = some (existing, previous.enabled)

theorem IsServer.of_keeps (isServer : IsServer host existing previous) (keeps : host.Keeps next) :
    IsServer next existing previous :=
  ⟨isServer.normal, isServer.kind, isServer.sameID, by rw [keeps.kept, isServer.known]⟩

theorem is_server_of_reads {id : String} (sound : Sound executable host.registry.kept)
    (read : host.registry.spec id = .ok existing) (kind : existing.serverType = .remote)
    (got : host.registry.get id = .ok previous) :
    IsServer host existing previous ∧ existing.id = trimSpace id := by
  obtain ⟨enabled, known⟩ := kept_of_spec sound read
  obtain ⟨spec, sameKnown, isID⟩ := kept_of_get got
  rw [known] at sameKnown
  obtain ⟨-, sameFlag⟩ := Prod.mk.inj (some.inj sameKnown)
  obtain ⟨normal, sameID⟩ := sound.normal known
  refine ⟨⟨normal, kind, isID.trans sameID.symm, ?_⟩, sameID⟩
  rw [sameID, known, sameFlag]

theorem restore_keeps {next : Host} (isServer : IsServer host existing previous)
    (file : next.file = host.file)
    (edited : next.registry.kept.insert existing.id (existing, previous.enabled) =
      host.registry.kept.insert existing.id (existing, previous.enabled)) :
    host.Keeps (next.restoreMCPServerRegistryState existing previous) := by
  obtain ⟨sameFile, kept⟩ := restore_registry_kept next isServer.normal isServer.sameID
  refine ⟨sameFile.trans file, ?_⟩
  rw [kept, edited, insert_self_eq isServer.known]

section

variable (sound : Sound executable host.registry.kept) (isServer : IsServer host existing previous)
include sound isServer

theorem finish_update_settles {normalized : McpRegistrationRequest}
    (isID : trimSpace normalized.id = existing.id) :
    Settles executable host (host.finishUpdate oracle lib existing previous normalized) := by
  have apart := not_example sound isServer.known isServer.kind
  unfold finishUpdate
  dsimp only
  generalize updatedHeaders oracle lib existing normalized.headers = headers
  cases updates : host.registry.update
      (remoteSpec normalized.id normalized.endpoint headers) with
  | error err =>
    left
    dsimp only
    apply restore_keeps isServer
    · rfl
    · rfl
  | ok registry =>
    obtain ⟨spec, old, normalizes, isOld, kept⟩ := update_kept updates
    obtain ⟨isSpec, isRemote⟩ := normalize_remote normalizes
    rw [isID] at isSpec
    dsimp only
    rcases persist_cases oracle { host with registry := registry } with ⟨err, fails⟩ | writes
    · rw [fails]
      left
      dsimp only
      apply restore_keeps isServer
      · rfl
      · rw [kept, ← isSpec, insert_insert]
    rw [writes]
    right
    constructor
    · have known : registry.kept (trimSpace normalized.id) = some (spec, old.2) := by
        rw [isID, kept, ← isSpec, insert_self]
      obtain ⟨server, got, -⟩ := get_of_kept { host with registry := registry } known
      exact ⟨server, got⟩
    · refine ⟨rfl, ?_⟩
      rw [kept]
      exact sound.of_insert (normal_of_normalize normalizes)
        (.inl ⟨isRemote, isSpec ▸ apart⟩)

theorem finish_delete_settles {id : String} (isID : trimSpace id = existing.id) :
    Settles executable host (host.finishDelete oracle id existing previous) := by
  have apart := not_example sound isServer.known isServer.kind
  unfold finishDelete
  cases deletes : host.registry.delete id with
  | error err =>
    left
    dsimp only
    apply restore_keeps isServer
    · rfl
    · rfl
  | ok registry =>
    have kept := delete_kept deletes
    rw [isID] at kept
    dsimp only
    rcases persist_cases oracle { host with registry := registry } with ⟨err, fails⟩ | writes
    · rw [fails]
      left
      dsimp only
      apply restore_keeps isServer
      · rfl
      · rw [kept, insert_erase_of_any]
    · rw [writes]
      right
      refine ⟨⟨(), rfl⟩, rfl, ?_⟩
      rw [kept]
      exact sound.of_erase apart

end

end

section

variable (sound : Sound executable host.registry.kept) (serverID : String)
include sound serverID

theorem update_settles (request : McpRegistrationRequest) :
    Settles executable host (host.updateMCPServer oracle lib serverID request) := by
  unfold updateMCPServer
  cases normalizes : normalizeRemoteMCPRegistrationRequest lib request serverID with
  | error err => exact .inl (.refl host)
  | ok normalized =>
    dsimp only
    cases read : host.registry.spec normalized.id with
    | error err => exact .inl (.refl host)
    | ok existing =>
      dsimp only
      by_cases kind : existing.serverType = .remote
      · rw [if_neg (not_not.mpr kind)]
        cases got : host.registry.get normalized.id with
        | error err => exact .inl (.refl host)
        | ok server =>
          obtain ⟨isServer, isID⟩ := is_server_of_reads sound read kind got
          dsimp only
          by_cases active : server.active = true
          · rw [if_pos active]
            have keeps : host.Keeps (host.stop oracle normalized.id).2 := stop_keeps _
            cases stops : host.stop oracle normalized.id with
            | mk result next =>
              rw [stops] at keeps
              cases result with
              | error err => exact .inl keeps
              | ok value =>
                apply keeps.settles
                apply finish_update_settles _ (isServer.of_keeps keeps) isID.symm
                rw [keeps.kept]
                exact sound
          · rw [if_neg active]
            exact finish_update_settles sound isServer isID.symm
      · rw [if_pos kind]
        exact .inl (.refl host)

theorem delete_settles : Settles executable host (host.deleteMCPServer oracle serverID) := by
  unfold deleteMCPServer
  by_cases noID : trimSpace serverID = ""
  · rw [if_pos noID]
    exact .inl (.refl host)
  rw [if_neg noID]
  cases read : host.registry.spec (trimSpace serverID) with
  | error err => exact .inl (.refl host)
  | ok spec =>
    dsimp only
    by_cases kind : spec.serverType = .remote
    · rw [if_neg (not_not.mpr kind)]
      cases got : host.registry.get (trimSpace serverID) with
      | error err => exact .inl (.refl host)
      | ok server =>
        obtain ⟨isServer, isID⟩ := is_server_of_reads sound read kind got
        dsimp only
        by_cases active : server.active = true
        · rw [if_pos active]
          have keeps : host.Keeps (host.stop oracle (trimSpace serverID)).2 := stop_keeps _
          cases stops : host.stop oracle (trimSpace serverID) with
          | mk result next =>
            rw [stops] at keeps
            cases result with
            | error err => exact .inl keeps
            | ok value =>
              apply keeps.settles
              apply finish_delete_settles _ (isServer.of_keeps keeps) isID.symm
              rw [keeps.kept]
              exact sound
        · rw [if_neg active]
          exact finish_delete_settles sound isServer isID.symm
    · rw [if_pos kind]
      exact .inl (.refl host)

theorem set_enabled_settles (enabled : Bool) :
    Settles executable host (host.setMCPServerEnabled oracle serverID enabled) := by
  unfold setMCPServerEnabled
  cases got : host.registry.get serverID with
  | error err => exact .inl (.refl host)
  | ok previous =>
    obtain ⟨spec, known, isID⟩ := kept_of_get got
    have flagged := set_enabled_sets_flag oracle host serverID enabled
    cases sets : host.setEnabled oracle serverID enabled with
    | mk result next =>
      rw [sets] at flagged
      rcases flagged with ⟨⟨err, fails⟩, keeps⟩ | ⟨works, file, old, isOld, kept⟩
      · dsimp only at fails
        rw [fails]
        exact .inl keeps
      dsimp only at works file kept
      rw [works]
      rw [known] at isOld
      cases isOld
      have trimmed : trimSpace previous.id = trimSpace serverID := by
        rw [isID, trim_space_twice]
      dsimp only
      rcases persist_cases oracle next with ⟨err, fails⟩ | writes
      · rw [fails]
        left
        have hasID : trimSpace previous.id ≠ "" := by
          rw [trimmed]
          obtain ⟨normal, sameID⟩ := sound.normal known
          rw [← sameID]
          exact mt (congrArg trimSpace) (by
            simpa using (normalize_cases normal).1)
        have isThere : next.registry.kept (trimSpace previous.id) = some (spec, enabled) := by
          rw [trimmed, kept, insert_self]
        obtain ⟨sameFile, restored⟩ := restore_snapshot_kept next hasID isThere
        have undone : host.Keeps (next.restoreMCPServerSnapshot previous) := by
          refine ⟨sameFile.trans file, ?_⟩
          rw [restored, trimmed, kept, insert_insert, insert_self_eq known]
        dsimp only
        by_cases restarts : (previous.enabled && previous.active) = true
        · rw [if_pos restarts]
          have keeps := undone.trans (start_keeps oracle previous.id)
          cases started : (next.restoreMCPServerSnapshot previous).start oracle
              previous.id with
          | mk result final =>
            rw [started] at keeps
            cases result <;> exact keeps
        · rw [if_neg restarts]
          dsimp only
          exact undone
      · rw [writes]
        right
        constructor
        · have isThere : next.registry.kept (trimSpace serverID) = some (spec, enabled) := by
            rw [kept, insert_self]
          obtain ⟨server, got, -⟩ := get_of_kept next isThere
          exact ⟨server, got⟩
        · refine ⟨rfl, ?_⟩
          rw [kept]
          exact sound.of_flag known

end

end Host

theorem Saved.loads (saved : Saved executable host) (oracle : Oracle) :
    ∃ loaded, Host.loadFresh oracle executable host.file = .ok loaded ∧
      loaded.registry.kept = host.registry.kept := by
  rw [saved.file]
  exact load_persisted oracle saved.sound

/-- The registry is sound, and the file restores it. -/
structure Restorable (executable : String) (host : Host) : Prop where
  sound : Sound executable host.registry.kept
  loads : ∀ oracle, ∃ loaded, Host.loadFresh oracle executable host.file = .ok loaded ∧
    loaded.registry.kept = host.registry.kept

theorem Restorable.of_keeps (restorable : Restorable executable host) (keeps : host.Keeps next) :
    Restorable executable next where
  sound := by
    rw [keeps.kept]
    exact restorable.sound
  loads := by
    rw [keeps.kept, keeps.file]
    exact restorable.loads

theorem Restorable.of_saved (saved : Saved executable host) : Restorable executable host :=
  ⟨saved.sound, saved.loads⟩

theorem settles_map {Value : Type} {call : Call Value} (settles : Settles executable host call) :
    Settles executable host (call.map (·.map fun _ => ()) id) := by
  rcases settles with keeps | ⟨⟨value, works⟩, saved⟩
  · exact .inl keeps
  · refine .inr ⟨⟨(), ?_⟩, saved⟩
    rw [Prod.map_fst, works]
    rfl

variable (oracle lib) in
theorem perform_settles (sound : Sound executable host.registry.kept) (operation : Operation) :
    Settles executable host (host.perform lib oracle operation) := by
  unfold Host.perform
  cases operation with
  | register request => exact settles_map (Host.register_settles sound request)
  | update serverID request => exact settles_map (Host.update_settles sound serverID request)
  | delete serverID => exact Host.delete_settles sound serverID
  | setEnabled serverID enabled =>
    exact settles_map (Host.set_enabled_settles sound serverID enabled)
  | start serverID => exact .inl (Host.start_keeps oracle serverID)
  | stop serverID => exact .inl (Host.stop_keeps serverID)
  | inFlight id calls =>
    left
    dsimp only
    by_cases idle : host.running id = none
    · rw [if_pos idle]
      exact .refl host
    · rw [if_neg idle]
      exact ⟨rfl, rfl⟩

theorem step_restorable {call : Oracle × Operation} (restorable : Restorable executable host)
    (taken : step lib host call = some next) : Restorable executable next := by
  have result : (host.perform lib call.1 call.2).2 = next := some.inj taken
  have settles := perform_settles call.1 lib restorable.sound call.2
  unfold Settles at settles
  rw [result] at settles
  rcases settles with keeps | ⟨-, saved⟩
  · exact restorable.of_keeps keeps
  · exact .of_saved saved

section

variable (sound : Sound executable host.registry.kept)
include sound

theorem set_enabled_sound {id : String}
    (sets : host.setEnabled oracle id enabled = (.ok (), next)) :
    Sound executable next.registry.kept := by
  have flagged := Host.set_enabled_sets_flag oracle host id enabled
  rw [sets] at flagged
  rcases flagged with ⟨⟨err, fails⟩, -⟩ | ⟨-, -, old, known, kept⟩
  · cases fails
  · rw [kept]
    exact sound.of_flag known

theorem register_sound {server : PersistedMCPServer} {registry : McpRegistry}
    (registers : host.registry.register (Host.remoteSpec server.id server.endpoint server.headers) =
      .ok registry) :
    Sound executable registry.kept := by
  obtain ⟨spec, normalizes, absent, kept⟩ := register_kept registers
  have apart : spec.id ≠ "mcp.example" := by
    intro same
    obtain ⟨flag, isBuiltIn⟩ := sound.isBuiltIn
    rw [same, isBuiltIn] at absent
    cases absent
  rw [kept]
  exact sound.of_insert (normal_of_normalize normalizes)
    (.inl ⟨(Host.normalize_remote normalizes).2, apart⟩)

theorem load_servers_sound {servers : List PersistedMCPServer}
    (loads : host.loadServers oracle servers = (.ok (), next)) :
    Sound executable next.registry.kept := by
  induction servers generalizing host with
  | nil =>
    obtain rfl := (Prod.mk.inj loads).2
    exact sound
  | cons server rest ih =>
    have flagged : ∀ (middle : Host) (enabled : Bool),
        Sound executable middle.registry.kept →
        Call.andThen (middle.setEnabled oracle server.id enabled)
          (fun host => host.loadServers oracle rest) = (.ok (), next) →
        Sound executable next.registry.kept := by
      intro middle enabled middleSound goesOn
      cases sets : middle.setEnabled oracle server.id enabled with
      | mk result final =>
        rw [sets] at goesOn
        cases result with
        | error err => cases goesOn
        | ok value => exact ih (set_enabled_sound middleSound sets) goesOn
    rw [Host.loadServers] at loads
    by_cases isRemote : server.serverType = "remote"
    · rw [if_pos isRemote] at loads
      have entered : ∀ middle : Host, Sound executable middle.registry.kept →
          (if (!server.enabled) = true then
            Call.andThen (middle.setEnabled oracle server.id false)
              fun host => host.loadServers oracle rest
          else middle.loadServers oracle rest) = (.ok (), next) →
          Sound executable next.registry.kept := by
        intro middle middleSound goesOn
        by_cases disabled : (!server.enabled) = true
        · rw [if_pos disabled] at goesOn
          exact flagged middle false middleSound goesOn
        · rw [if_neg disabled] at goesOn
          exact ih middleSound goesOn
      cases registers : host.registry.register
          (Host.remoteSpec server.id server.endpoint server.headers) with
      | ok registry =>
        rw [registers] at loads
        have middleSound : Sound executable registry.kept := register_sound sound registers
        exact entered { host with registry := registry } middleSound loads
      | error err =>
        rw [registers] at loads
        cases err with
        | serverRegistered => exact entered host sound loads
        | _ => cases loads
    · rw [if_neg isRemote] at loads
      by_cases isProcess : server.serverType = "process"
      · rw [if_pos isProcess] at loads
        cases read : host.registry.spec server.id with
        | error err =>
          rw [read] at loads
          exact ih sound loads
        | ok spec =>
          rw [read] at loads
          dsimp only at loads
          by_cases kind : spec.serverType = .process
          · rw [if_neg (not_not.mpr kind)] at loads
            exact flagged host server.enabled sound loads
          · rw [if_pos kind] at loads
            exact ih sound loads
      · rw [if_neg isProcess] at loads
        exact ih sound loads

end

theorem started_saved {file : RegistryFile}
    (started : Host.registerMCPServers oracle executable file = .ok host) :
    Saved executable host := by
  unfold Host.registerMCPServers at started
  cases loads : Host.loadFresh oracle executable file with
  | error err =>
    rw [loads] at started
    cases started
  | ok loaded =>
    rw [loads] at started
    have sound : Sound executable loaded.registry.kept := by
      unfold Host.loadFresh at loads
      cases isFresh : Host.fresh executable file with
      | error err =>
        rw [isFresh] at loads
        cases loads
      | ok fresh =>
        rw [isFresh] at loads
        dsimp only at loads
        cases read : fresh.loadPersistedMCPRegistry oracle with
        | mk result next =>
          rw [read] at loads
          cases result with
          | error err => cases loads
          | ok value =>
            cases loads
            unfold Host.loadPersistedMCPRegistry at read
            cases entries : loadMCPRegistryFile fresh.file with
            | error err =>
              rw [entries] at read
              cases (Prod.mk.inj read).1
            | ok servers =>
              rw [entries] at read
              exact load_servers_sound (fresh_sound isFresh) read
    dsimp only at started
    rcases Host.persist_cases oracle loaded with ⟨err, fails⟩ | writes
    · rw [fails] at started
      cases started
    · rw [writes] at started
      cases started
      exact ⟨rfl, sound⟩

def Started (executable : String) (host : Host) : Prop :=
  ∃ oracle file, Host.registerMCPServers oracle executable file = .ok host

/-- In every run, a call that fails leaves each server as it was, and the registry file
restores each server with its flag in a fresh registry. -/
theorem mcp_registry_survives (lib : Library) (executable : String) {host : Host}
    (reachable : Reachable (Started executable) (step lib) host) :
    (∀ oracle operation err next, host.perform lib oracle operation = (.error err, next) →
      next.registry.kept = host.registry.kept) ∧
    ∀ oracle, ∃ loaded, Host.loadFresh oracle executable host.file = .ok loaded ∧
      loaded.registry.kept = host.registry.kept := by
  have restorable : Restorable executable host := by
    apply reachable.invariant
    · rintro first ⟨oracle, file, started⟩
      exact .of_saved (started_saved started)
    · exact step_restorable
  refine ⟨?_, restorable.loads⟩
  intro oracle operation err next fails
  have settles := perform_settles oracle lib restorable.sound operation
  rw [fails] at settles
  rcases settles with keeps | ⟨⟨value, works⟩, -⟩
  · exact keeps.kept
  · cases works

def plainLibrary : Library where
  parseURL text := some { scheme := "https", host := "mcp.context7.com", text := text }
  toLower := id
  equalFold first second := first == second

def context7 : McpRegistrationRequest where
  id := "mcp.context7"
  requestType := "remote"
  endpoint := "https://mcp.context7.com/mcp"
  headers := [("Authorization", "Bearer test")]

theorem mcp_registry_survives_context7 :
    ∃ host, Reachable (Started "rterm") (step plainLibrary) host ∧
      (host.registry.kept "mcp.context7").isSome = true ∧
        ∀ oracle, ∃ loaded, Host.loadFresh oracle "rterm" host.file = .ok loaded ∧
          loaded.registry.kept = host.registry.kept := by
  have registered : ((Host.registerMCPServers {} "rterm" .missing).toOption.map fun host =>
      ((host.perform plainLibrary {} (.register context7)).2.registry.kept
        "mcp.context7").isSome) = some true := by
    decide +kernel
  obtain ⟨host, found, isThere⟩ := map_eq_some_iff.mp registered
  have started : Host.registerMCPServers {} "rterm" .missing = .ok host := by
    cases result : Host.registerMCPServers {} "rterm" .missing with
    | error err =>
      rw [result] at found
      cases found
    | ok other =>
      rw [result] at found
      exact congrArg Except.ok (some.inj found)
  have isStart : Started "rterm" host := ⟨{}, .missing, started⟩
  have taken : step plainLibrary host ({}, .register context7) =
      some (host.perform plainLibrary {} (.register context7)).2 := rfl
  have reachable := (Reachable.start isStart).next taken
  exact ⟨_, reachable, isThere, (mcp_registry_survives plainLibrary "rterm" reachable).2⟩

end RuneTerminal.McpServers
