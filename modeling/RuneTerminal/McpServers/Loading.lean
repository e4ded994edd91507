import RuneTerminal.McpServers.Calls

/-! A registry is saved as one entry for each server. Loading the entries gives each server its
specification and its flag back. -/

namespace RuneTerminal.McpServers

open Go.Strings (trimSpace trim_space_twice)
open Kit List Table McpRegistry

def builtIn (executable : String) : McpServerSpec :=
  { Host.exampleSpec executable with serverType := .process }

abbrev Kept := Table String (McpServerSpec × Bool)

structure Sound (executable : String) (kept : Kept) : Prop where
  normal : ∀ {id spec enabled}, kept id = some (spec, enabled) → Normal spec ∧ spec.id = id
  isBuiltIn : ∃ enabled, kept "mcp.example" = some (builtIn executable, enabled)
  remote : ∀ {id spec enabled}, kept id = some (spec, enabled) → id ≠ "mcp.example" →
    spec.serverType = .remote

variable {executable id : String} {enabled : Bool} {spec : McpServerSpec}

section

variable {kept : Kept}

section

variable (sound : Sound executable kept)
include sound

theorem Sound.of_insert {spec : McpServerSpec} {enabled : Bool}
    (normal : Normal spec)
    (fits : spec.serverType = .remote ∧ spec.id ≠ "mcp.example" ∨
      ∃ flag, kept spec.id = some (spec, flag)) :
    Sound executable (kept.insert spec.id (spec, enabled)) where
  normal := by
    intro id other flag found
    rcases insert_eq_some found with ⟨rfl, same⟩ | ⟨-, old⟩
    · cases same
      exact ⟨normal, rfl⟩
    · exact sound.normal old
  isBuiltIn := by
    obtain ⟨flag, isThere⟩ := sound.isBuiltIn
    by_cases same : "mcp.example" = spec.id
    · rw [← same]
      rcases fits with ⟨-, apart⟩ | ⟨other, known⟩
      · exact absurd same.symm apart
      · rw [← same, isThere] at known
        rw [(Prod.mk.inj (Option.some.inj known)).1]
        exact ⟨enabled, rfl⟩
    · rw [insert_of_ne same]
      exact ⟨flag, isThere⟩
  remote := by
    intro id other flag found apart
    rcases insert_eq_some found with ⟨rfl, same⟩ | ⟨-, old⟩
    · cases same
      rcases fits with ⟨isRemote, -⟩ | ⟨was, known⟩
      · exact isRemote
      · exact sound.remote known apart
    · exact sound.remote old apart

theorem Sound.of_erase (apart : id ≠ "mcp.example") :
    Sound executable (kept.erase id) where
  normal := fun found => sound.normal (erase_eq_some found).2
  isBuiltIn := by
    rw [erase_of_ne apart.symm]
    exact sound.isBuiltIn
  remote := fun found => sound.remote (erase_eq_some found).2

theorem Sound.of_flag {old : McpServerSpec × Bool} (known : kept id = some old) :
    Sound executable (kept.insert id (old.1, enabled)) := by
  obtain ⟨spec, flag⟩ := old
  obtain ⟨normal, rfl⟩ := sound.normal known
  exact sound.of_insert normal (.inr ⟨flag, known⟩)

end

end

def persistedEntry (entry : McpRegistryEntry) : PersistedMCPServer :=
  match entry.spec.remote with
  | some remote =>
    { id := entry.spec.id
      serverType := "remote"
      endpoint := remote.endpoint
      headers := remote.headers
      enabled := entry.enabled }
  | none => { id := entry.spec.id, serverType := "process", enabled := entry.enabled }

theorem persisted_entry_id (entry : McpRegistryEntry) :
    (persistedEntry entry).id = entry.spec.id := by
  unfold persistedEntry
  split <;> rfl

theorem persisted_entry_enabled (entry : McpRegistryEntry) :
    (persistedEntry entry).enabled = entry.enabled := by
  unfold persistedEntry
  split <;> rfl

variable {entry : McpRegistryEntry}

theorem read_persisted_entry (normal : Normal entry.spec) :
    readServer (persistedEntry entry) = some (persistedEntry entry) := by
  have isRemote : trimSpace "remote" = "remote" := by decide
  have isProcess : trimSpace "process" = "process" := by decide
  have isID := normal.trim_id
  have hasID := (normalize_cases normal).1
  rw [isID] at hasID
  unfold readServer persistedEntry
  rcases normalize_cases normal with ⟨-, ⟨-, same⟩ | ⟨remote, -, -, hasEndpoint, same⟩⟩
  · have noRemote : entry.spec.remote = none := by rw [same]
    rw [noRemote]
    simp [isID, hasID, isProcess]
  have config : entry.spec.remote =
      some { remote with endpoint := trimSpace remote.endpoint } := by rw [same]
  rw [config]
  simp [isID, hasID, isRemote, hasEndpoint]

variable {registry : McpRegistry}

theorem kept_of_mem (mem : entry ∈ registry.items) :
    registry.kept entry.spec.id = some (entry.spec, entry.enabled) := by
  have found : registry.find entry.spec.id = some entry :=
    registry.find_eq_some_iff.mpr ⟨mem, rfl⟩
  rw [kept, found]
  rfl

theorem mem_of_kept (isKept : registry.kept id = some (spec, enabled)) :
    ∃ entry ∈ registry.items, entry.spec = spec ∧ entry.enabled = enabled ∧ entry.spec.id = id := by
  obtain ⟨entry, found, same⟩ := Option.map_eq_some_iff.mp isKept
  obtain ⟨mem, isID⟩ := registry.find_eq_some_iff.mp found
  cases same
  exact ⟨entry, mem, rfl, rfl, isID⟩

theorem persisted_server_of_mem (mem : entry ∈ registry.items) (normal : Normal entry.spec) :
    persistedServer registry (McpRegistry.snapshot entry) = some (persistedEntry entry) := by
  have found : registry.find entry.spec.id = some entry :=
    registry.find_eq_some_iff.mpr ⟨mem, rfl⟩
  have read : registry.spec (snapshot entry).id = .ok entry.spec := by
    have clone := normal.clone
    unfold spec snapshot
    rw [normal.trim_id, found]
    exact congrArg Except.ok clone
  have sameType : (snapshot entry).serverType = entry.spec.serverType := rfl
  have sameFlag : (snapshot entry).enabled = entry.enabled := rfl
  unfold persistedServer persistedEntry
  rw [read, sameType, sameFlag]
  rcases normalize_cases normal with ⟨-, ⟨-, same⟩ | ⟨remote, -, -, -, same⟩⟩
  · rw [same]
  · rw [same]
    rfl

def sortedEntries (registry : McpRegistry) : List McpRegistryEntry :=
  registry.items.insertionSort fun first second => first.spec.id ≤ second.spec.id

theorem mem_sorted_entries :
    entry ∈ sortedEntries registry ↔ entry ∈ registry.items := List.mem_insertionSort _

theorem persisted_servers_eq (sound : Sound executable registry.kept) :
    persistedServers registry = (sortedEntries registry).map persistedEntry := by
  unfold persistedServers list
  rw [filterMap_map, ← filterMap_eq_map]
  apply filterMap_congr
  intro entry mem
  have isItem := mem_sorted_entries.mp mem
  exact persisted_server_of_mem isItem (sound.normal (kept_of_mem isItem)).1

theorem load_persisted_file (sound : Sound executable registry.kept) :
    loadMCPRegistryFile (.servers (persistedServers registry)) =
      .ok ((sortedEntries registry).map persistedEntry) := by
  unfold loadMCPRegistryFile
  dsimp only
  rw [persisted_servers_eq sound, filterMap_map, ← filterMap_eq_map]
  apply congrArg Except.ok
  apply filterMap_congr
  intro entry mem
  rw [Function.comp_apply]
  exact read_persisted_entry (sound.normal (kept_of_mem (mem_sorted_entries.mp mem))).1

theorem sorted_entries_distinct (registry : McpRegistry) :
    (((sortedEntries registry).map persistedEntry).map (·.id)).Nodup := by
  have ids : ((sortedEntries registry).map persistedEntry).map (·.id) =
      (sortedEntries registry).map fun entry => entry.spec.id := by
    rw [map_map]
    exact map_congr_left fun entry _ => persisted_entry_id entry
  rw [ids]
  exact ((perm_insertionSort _ registry.items).map _).nodup_iff.mpr registry.distinct

namespace Host

variable {oracle : Oracle} {host : Host}

variable (oracle host) in
theorem set_enabled_ok (enabled : Bool) (hasID : trimSpace id ≠ "")
    (idle : host.running = Table.empty) (known : host.registry.kept (trimSpace id) ≠ none) :
    ∃ next, host.setEnabled oracle id enabled = (.ok (), next) ∧ next.running = Table.empty := by
  have flagged : ∀ middle : Host, middle.running = empty →
      middle.registry.kept (trimSpace id) ≠ none → ∃ next,
        middle.setFlag (trimSpace id) enabled = (.ok (), next) ∧ next.running = empty := by
    intro middle middleIdle middleKnown
    rw [← trim_space_twice] at middleKnown
    obtain ⟨registry, sets⟩ : ∃ next, middle.registry.setEnabled (trimSpace id) enabled =
        .ok next := change_known middleKnown
    unfold setFlag onRegistry
    rw [sets]
    cases enabled with
    | true | false => exact ⟨_, rfl, middleIdle⟩
  unfold setEnabled
  rw [if_neg hasID]
  cases enabled with
  | true =>
    rw [if_pos rfl]
    exact flagged host idle known
  | false =>
    rw [if_neg (by simp)]
    have isID := trim_space_twice id
    have stops : ∃ next, host.stop oracle (trimSpace id) = (.ok (), next) ∧
        next.running = empty := by
      rw [← isID] at known hasID
      obtain ⟨first, setsState⟩ : ∃ next, host.registry.setState (trimSpace id) .stopped =
          .ok next := change_known known
      have stillKnown : first.kept (trimSpace (trimSpace id)) ≠ none := by
        rw [harmless_state _ _ setsState]
        exact known
      obtain ⟨second, setsActive⟩ : ∃ next, first.setActive (trimSpace id) false = .ok next :=
        change_known stillKnown
      unfold stop
      rw [if_neg hasID, idle]
      simp only [isID, empty, onRegistry, setsState, setsActive]
      exact ⟨_, rfl, idle⟩
    obtain ⟨next, stopped, nextIdle⟩ := stops
    have keeps : Keeps host (host.stop oracle (trimSpace id)).2 := stop_keeps _
    rw [stopped] at keeps
    rw [stopped]
    apply flagged next nextIdle
    rw [keeps.kept]
    exact known

/-- What an entry is loaded as. -/
inductive Loadable (kept : Kept) (server : PersistedMCPServer) (spec : McpServerSpec) : Prop
  | remote : server.serverType = "remote" → Normal spec →
      spec = remoteSpec server.id server.endpoint server.headers → kept server.id = none →
        Loadable kept server spec
  | process (flag : Bool) : server.serverType = "process" → Normal spec → spec.id = server.id →
      spec.serverType = .process → kept server.id = some (spec, flag) →
        Loadable kept server spec

variable (oracle) in
theorem load_round {server : PersistedMCPServer} (rest : List PersistedMCPServer)
    (idle : host.running = Table.empty) (loadable : Loadable host.registry.kept server spec) :
    ∃ next : Host, host.loadServers oracle (server :: rest) = next.loadServers oracle rest ∧
      next.running = Table.empty ∧
      next.registry.kept = host.registry.kept.insert server.id (spec, server.enabled) := by
  cases loadable with
  | remote isRemote normal same absent =>
    have sameID : spec.id = server.id := by rw [same, remoteSpec]
    have isID : trimSpace server.id = server.id := by rw [← sameID, normal.trim_id]
    have hasID : trimSpace server.id ≠ "" := by
      rw [← sameID]
      exact (normalize_cases normal).1
    have free : host.registry.kept spec.id = none := by
      rw [sameID]
      exact absent
    obtain ⟨registry, registers⟩ := register_of_absent normal free
    obtain ⟨normalized, normalizes, -, kept⟩ := register_kept registers
    rw [normal] at normalizes
    cases normalizes
    rw [sameID] at kept
    have begins : host.registry.register
        (remoteSpec server.id server.endpoint server.headers) = .ok registry := by
      rw [← same, registers]
    rw [loadServers, if_pos isRemote]
    dsimp only
    rw [begins]
    dsimp only
    cases flag : server.enabled with
    | true =>
      rw [if_neg (by simp)]
      exact ⟨_, rfl, idle, kept⟩
    | false =>
      rw [if_pos (by simp)]
      have known : registry.kept (trimSpace server.id) ≠ none := by
        rw [isID, kept, insert_self]
        simp
      obtain ⟨next, sets, nextIdle⟩ :=
        set_enabled_ok oracle { host with registry := registry } false hasID idle known
      have flagged := set_enabled_sets_flag oracle { host with registry := registry }
        server.id false
      rw [sets] at flagged ⊢
      refine ⟨next, rfl, nextIdle, ?_⟩
      rcases flagged with ⟨⟨err, fails⟩, -⟩ | ⟨-, -, old, isOld, nextKept⟩
      · cases fails
      · dsimp only at isOld nextKept
        rw [isID, kept, insert_self] at isOld
        rw [nextKept, isID, kept, insert_insert, ← Option.some.inj isOld]
  | process flag isProcess normal sameID kind known =>
    have isID : trimSpace server.id = server.id := by rw [← sameID, normal.trim_id]
    have hasID : trimSpace server.id ≠ "" := by
      rw [← sameID]
      exact (normalize_cases normal).1
    have notRemote : server.serverType ≠ "remote" := by
      rw [isProcess]
      decide
    have read : host.registry.spec server.id = .ok spec := by
      obtain ⟨entry, found, same⟩ := Option.map_eq_some_iff.mp known
      have clone := normal.clone
      rw [McpRegistry.spec, isID, found]
      rw [← (Prod.mk.inj same).1] at clone ⊢
      exact congrArg Except.ok clone
    obtain ⟨next, sets, nextIdle⟩ :=
      set_enabled_ok oracle host server.enabled hasID idle (by rw [isID, known]; simp)
    have flagged := set_enabled_sets_flag oracle host server.id server.enabled
    rw [loadServers, if_neg notRemote, if_pos isProcess, read]
    dsimp only
    rw [if_neg (by simp [kind])]
    rw [sets] at flagged ⊢
    refine ⟨next, rfl, nextIdle, ?_⟩
    rcases flagged with ⟨⟨err, fails⟩, -⟩ | ⟨-, -, old, isOld, nextKept⟩
    · cases fails
    · rw [isID, known] at isOld
      rw [nextKept, isID, ← Option.some.inj isOld]

variable (oracle) in
theorem load_servers_kept {servers : List PersistedMCPServer}
    (specOf : PersistedMCPServer → McpServerSpec) (idle : host.running = Table.empty)
    (nodup : (servers.map (·.id)).Nodup)
    (loadable : ∀ server ∈ servers, Loadable host.registry.kept server (specOf server)) :
    ∃ next : Host, host.loadServers oracle servers = (.ok (), next) ∧
      (∀ server ∈ servers, next.registry.kept server.id = some (specOf server, server.enabled)) ∧
      ∀ id ∉ servers.map (·.id), next.registry.kept id = host.registry.kept id := by
  induction servers generalizing host with
  | nil => exact ⟨host, rfl, by simp, fun _ _ => rfl⟩
  | cons server rest ih =>
    rw [map_cons, nodup_cons] at nodup
    rw [forall_mem_cons] at loadable
    obtain ⟨middle, begins, middleIdle, kept⟩ :=
      load_round oracle rest idle loadable.1
    have others : ∀ id, id ≠ server.id →
        middle.registry.kept id = host.registry.kept id := by
      intro id apart
      rw [kept, insert_of_ne apart]
    have later : ∀ other ∈ rest, Loadable middle.registry.kept other (specOf other) := by
      intro other mem
      have apart : other.id ≠ server.id := by
        intro same
        exact nodup.1 (same ▸ mem_map_of_mem mem)
      cases loadable.2 other mem with
      | remote isRemote normal same absent =>
        exact .remote isRemote normal same ((others other.id apart).trans absent)
      | process flag isProcess normal sameID kind known =>
        exact .process flag isProcess normal sameID kind ((others other.id apart).trans known)
    obtain ⟨next, loads, entries, rests⟩ := ih middleIdle nodup.2 later
    refine ⟨next, begins.trans loads, ?_, ?_⟩
    · rw [forall_mem_cons]
      refine ⟨?_, entries⟩
      rw [rests server.id nodup.1, kept, insert_self]
    · intro id outside
      rw [map_cons, mem_cons, not_or] at outside
      rw [rests id outside.2, others id outside.1]

end Host

section

variable {file : RegistryFile} {host : Host} (isFresh : Host.fresh executable file = .ok host)
include isFresh

theorem fresh_kept :
    host.running = Table.empty ∧ host.file = file ∧ Normal (builtIn executable) ∧
      host.registry.kept = Table.empty.insert "mcp.example" (builtIn executable, true) := by
  unfold Host.fresh at isFresh
  cases registers : register Keyed.empty (Host.exampleSpec executable) with
  | error err =>
    rw [registers] at isFresh
    cases isFresh
  | ok registry =>
    rw [registers] at isFresh
    cases isFresh
    obtain ⟨normalized, normalizes, -, kept⟩ := register_kept registers
    have same : normalized = builtIn executable := by
      have clean : trimSpace "mcp.example" = "mcp.example" := by decide
      rcases normalize_cases normalizes with ⟨-, ⟨-, same⟩ | ⟨remote, kind, -⟩⟩
      · rw [same]
        unfold Host.exampleSpec builtIn
        dsimp only [Host.exampleSpec]
        rw [clean]
      · cases kind
    rw [same] at normalizes kept
    exact ⟨rfl, rfl, normal_of_normalize normalizes, kept⟩

theorem fresh_sound : Sound executable host.registry.kept := by
  obtain ⟨-, -, normal, kept⟩ := fresh_kept isFresh
  have only : ∀ {id spec enabled}, host.registry.kept id = some (spec, enabled) →
      id = "mcp.example" ∧ spec = builtIn executable := by
    intro id spec enabled found
    rw [kept] at found
    rcases insert_eq_some found with ⟨isID, same⟩ | ⟨-, impossible⟩
    · exact ⟨isID, (Prod.mk.inj same).1⟩
    · cases impossible
  refine ⟨?_, ⟨true, by rw [kept, insert_self]⟩, ?_⟩
  · intro id spec enabled found
    obtain ⟨rfl, rfl⟩ := only found
    exact ⟨normal, rfl⟩
  · intro id spec enabled found apart
    exact absurd (only found).1 apart

end

theorem fresh_of_normal (file : RegistryFile) (normal : Normal (builtIn executable)) :
    ∃ host, Host.fresh executable file = .ok host := by
  have normalizes : normalizeMCPServerSpec (Host.exampleSpec executable) =
      .ok (builtIn executable) := normal
  obtain ⟨registry, registers⟩ : ∃ next,
      register Keyed.empty (Host.exampleSpec executable) = .ok next :=
    register_of_absent normalizes rfl
  unfold Host.fresh
  rw [registers]
  exact ⟨_, rfl⟩

def specOf (executable : String) (server : PersistedMCPServer) : McpServerSpec :=
  if server.serverType = "remote" then
    Host.remoteSpec server.id server.endpoint server.headers
  else builtIn executable

theorem entry_loadable {fresh : Kept} (sound : Sound executable registry.kept)
    (mem : entry ∈ registry.items)
    (isFresh : fresh = Table.empty.insert "mcp.example" (builtIn executable, true)) :
    specOf executable (persistedEntry entry) = entry.spec ∧
      Host.Loadable fresh (persistedEntry entry) entry.spec := by
  have isKept := kept_of_mem mem
  obtain ⟨normal, -⟩ := sound.normal isKept
  obtain ⟨flag, isBuiltIn⟩ := sound.isBuiltIn
  by_cases isExample : entry.spec.id = "mcp.example"
  · rw [isExample, isBuiltIn] at isKept
    have same : builtIn executable = entry.spec := (Prod.mk.inj (Option.some.inj isKept)).1
    have noRemote : entry.spec.remote = none := by
      rw [← same]
      rfl
    have persisted : persistedEntry entry =
        { id := entry.spec.id, serverType := "process", enabled := entry.enabled } := by
      unfold persistedEntry
      rw [noRemote]
    rw [persisted]
    constructor
    · rw [← same]
      rfl
    refine .process true rfl normal rfl ?_ ?_
    · rw [← same]
      rfl
    · rw [isFresh, isExample, insert_self, same]
  have kind := sound.remote isKept isExample
  rcases normalize_cases normal with ⟨-, ⟨-, same⟩ | ⟨remote, -, -, -, same⟩⟩
  · rw [same] at kind
    cases kind
  have config : entry.spec.remote =
      some { remote with endpoint := trimSpace remote.endpoint } := by rw [same]
  have isRemote : entry.spec = Host.remoteSpec entry.spec.id (trimSpace remote.endpoint)
      remote.headers := by
    conv_lhs => rw [same]
    rw [normal.trim_id]
    rfl
  have persisted : persistedEntry entry =
      { id := entry.spec.id
        serverType := "remote"
        endpoint := trimSpace remote.endpoint
        headers := remote.headers
        enabled := entry.enabled } := by
    unfold persistedEntry
    rw [config]
  rw [persisted]
  refine ⟨isRemote.symm, .remote rfl normal isRemote ?_⟩
  rw [isFresh]
  exact insert_of_ne isExample _

theorem load_persisted (oracle : Oracle) (sound : Sound executable registry.kept) :
    ∃ loaded, Host.loadFresh oracle executable (.servers (persistedServers registry)) = .ok loaded ∧
    loaded.registry.kept = registry.kept := by
  obtain ⟨flag, isBuiltIn⟩ := sound.isBuiltIn
  obtain ⟨host, isFresh⟩ := fresh_of_normal (.servers (persistedServers registry))
    (sound.normal isBuiltIn).1
  obtain ⟨idle, file, -, freshKept⟩ := fresh_kept isFresh
  have loadable : ∀ server ∈ (sortedEntries registry).map persistedEntry,
      Host.Loadable host.registry.kept server (specOf executable server) := by
    intro server mem
    obtain ⟨entry, isEntry, rfl⟩ := mem_map.mp mem
    obtain ⟨same, loads⟩ := entry_loadable sound (mem_sorted_entries.mp isEntry) freshKept
    rw [same]
    exact loads
  obtain ⟨next, loads, entries, rests⟩ := Host.load_servers_kept oracle (specOf executable)
    idle (sorted_entries_distinct registry) loadable
  refine ⟨next, ?_, ?_⟩
  · unfold Host.loadFresh Host.loadPersistedMCPRegistry
    rw [isFresh]
    dsimp only
    rw [file, load_persisted_file sound]
    dsimp only
    rw [loads]
  funext id
  by_cases isSaved : id ∈ ((sortedEntries registry).map persistedEntry).map (·.id)
  · obtain ⟨server, mem, rfl⟩ := mem_map.mp isSaved
    obtain ⟨entry, isEntry, rfl⟩ := mem_map.mp mem
    have isItem := mem_sorted_entries.mp isEntry
    rw [entries _ mem, (entry_loadable sound isItem freshKept).1, persisted_entry_id,
      persisted_entry_enabled, kept_of_mem isItem]
  have missing : registry.kept id = none := by
    cases isKept : registry.kept id with
    | none => rfl
    | some known =>
      obtain ⟨entry, isItem, -, -, rfl⟩ := mem_of_kept isKept
      have saved : persistedEntry entry ∈ (sortedEntries registry).map persistedEntry :=
        mem_map_of_mem (mem_sorted_entries.mpr isItem)
      rw [← persisted_entry_id] at isSaved
      exact absurd (mem_map_of_mem saved) isSaved
  have notExample : id ≠ "mcp.example" := by
    rintro rfl
    rw [missing] at isBuiltIn
    cases isBuiltIn
  rw [rests id isSaved, missing, freshKept]
  exact insert_of_ne notExample _

end RuneTerminal.McpServers
