import RuneTerminal.McpServers.Host

/-! Each call is described by the specifications and flags that it leaves in the registry and by the
registry file. A failed write undoes the edit that came before it. -/

namespace RuneTerminal.McpServers

open Go.Strings (trimSpace trim_space_twice)
open Kit McpRegistry

/-- Neither the file nor what a restart should keep has changed. -/
structure Host.Keeps (host next : Host) : Prop where
  file : next.file = host.file
  kept : next.registry.kept = host.registry.kept

namespace Host

variable {oracle : Oracle} {host next : Host} {snapshot : McpServerSnapshot}

theorem Keeps.refl (host : Host) : Keeps host host := ⟨rfl, rfl⟩

theorem Keeps.trans {final : Host} (first : Keeps host next) (second : Keeps next final) :
    Keeps host final :=
  ⟨second.file.trans first.file, second.kept.trans first.kept⟩

def Harmless (call : McpRegistry → Except McpError McpRegistry) : Prop :=
  ∀ {registry next : McpRegistry}, call registry = .ok next → next.kept = registry.kept

theorem harmless_state (id : String) (state : McpProcessState) :
    Harmless (·.setState id state) := by
  intro registry next sets
  refine change_kept ?_ sets
  exact fun _ => rfl

theorem harmless_active (id : String) (active : Bool) : Harmless (·.setActive id active) := by
  intro registry next sets
  refine change_kept ?_ sets
  exact fun _ => rfl

theorem harmless_touch (id : String) (now : Nat) : Harmless (·.touch id now) := by
  intro registry next sets
  refine change_kept ?_ sets
  exact fun _ => rfl

variable {call : McpRegistry → Except McpError McpRegistry}

theorem discard_ok {registry : McpRegistry} (called : call host.registry = .ok registry) :
    host.discard call = { host with registry := registry } := by
  unfold discard discardError
  rw [called]

theorem discard_keeps (harmless : Harmless call) : Keeps host (host.discard call) := by
  refine ⟨rfl, ?_⟩
  unfold discard discardError
  cases called : call host.registry with
  | error err => rfl
  | ok registry => exact harmless called

theorem on_registry_keeps (harmless : Harmless call) {rest : Host → Call Unit}
    (after : ∀ next, Keeps host next → Keeps host (rest next).2) :
    Keeps host (host.onRegistry (call host.registry) rest).2 := by
  cases called : call host.registry with
  | error err => exact .refl host
  | ok registry => exact after _ ⟨rfl, harmless called⟩

theorem settle_keeps (id : String) (state : McpProcessState) (now : Nat) :
    Keeps host
      (((host.discard (·.setState id state)).discard (·.setActive id true)).discard
        (·.touch id now)) :=
  ((discard_keeps (harmless_state id state)).trans (discard_keeps (harmless_active id true))).trans
    (discard_keeps (harmless_touch id now))

variable (oracle) in
theorem start_keeps (serverID : String) : Keeps host (host.start oracle serverID).2 := by
  unfold start
  dsimp only
  by_cases noID : trimSpace serverID = ""
  · rw [if_pos noID]
    exact .refl host
  rw [if_neg noID]
  cases host.registry.get (trimSpace serverID) with
  | error err => exact .refl host
  | ok server =>
    dsimp only
    by_cases disabled : (!server.enabled) = true
    · rw [if_pos disabled]
      exact .refl host
    rw [if_neg disabled]
    cases host.registry.spec (trimSpace serverID) with
    | error err => exact .refl host
    | ok spec =>
      dsimp only
      by_cases remote : spec.serverType = .remote
      · rw [if_pos remote]
        apply on_registry_keeps (harmless_state _ _)
        intro first keepsFirst
        refine keepsFirst.trans (on_registry_keeps (harmless_active _ _) ?_)
        intro second keepsSecond
        exact keepsSecond.trans (on_registry_keeps (harmless_touch _ _) fun _ keeps => keeps)
      rw [if_neg remote]
      cases host.running (trimSpace serverID) with
      | some inUse => exact settle_keeps _ _ _
      | none =>
        apply on_registry_keeps (harmless_state _ _)
        intro first keepsFirst
        refine keepsFirst.trans (on_registry_keeps (harmless_active _ _) ?_)
        intro second keepsSecond
        refine keepsSecond.trans ?_
        by_cases spawned : oracle.spawned = true
        · rw [if_pos spawned]
          have entered : Keeps second
              { second with running := second.running.insert (trimSpace serverID) 0 } :=
            ⟨rfl, rfl⟩
          exact entered.trans (settle_keeps _ _ _)
        · rw [if_neg spawned]
          exact (discard_keeps (harmless_state _ _)).trans
            (discard_keeps (harmless_active _ _))

theorem stop_keeps (serverID : String) : Keeps host (host.stop oracle serverID).2 := by
  unfold stop
  by_cases noID : trimSpace serverID = ""
  · rw [if_pos noID]
    exact .refl host
  rw [if_neg noID]
  cases host.running (trimSpace serverID) with
  | none =>
    apply on_registry_keeps (harmless_state _ _)
    intro first keepsFirst
    exact keepsFirst.trans (on_registry_keeps (harmless_active _ _) fun _ keeps => keeps)
  | some inUse =>
    dsimp only
    by_cases busy : inUse > 0
    · rw [if_pos busy]
      exact .refl host
    rw [if_neg busy]
    have left : Keeps host { host with running := host.running.erase (trimSpace serverID) } :=
      ⟨rfl, rfl⟩
    refine left.trans (on_registry_keeps (harmless_state _ _) ?_)
    intro first keepsFirst
    refine keepsFirst.trans (on_registry_keeps (harmless_active _ _) ?_)
    intro second keepsSecond
    exact keepsSecond.trans (on_registry_keeps (harmless_touch _ _) fun _ keeps => keeps)

/-- The call fails and keeps everything, or it sets the flag of a known server. -/
def SetsFlag (host : Host) (id : String) (enabled : Bool) (call : Call Unit) : Prop :=
  ((∃ err, call.1 = .error err) ∧ Keeps host call.2) ∨
    call.1 = .ok () ∧ call.2.file = host.file ∧
      ∃ old, host.registry.kept id = some old ∧
        call.2.registry.kept = host.registry.kept.insert id (old.1, enabled)

theorem Keeps.sets_flag {id : String} {enabled : Bool} {call : Call Unit} (keeps : Keeps host next)
    (sets : SetsFlag next id enabled call) : SetsFlag host id enabled call := by
  unfold SetsFlag
  rw [← keeps.kept, ← keeps.file]
  rcases sets with ⟨fails, rest⟩ | works
  · exact .inl ⟨fails, keeps.trans rest⟩
  · exact .inr works

theorem set_flag_sets_flag (id : String) (enabled : Bool) :
    SetsFlag host (trimSpace id) enabled (host.setFlag id enabled) := by
  unfold setFlag onRegistry
  cases sets : host.registry.setEnabled id enabled with
  | error err => exact .inl ⟨⟨err, rfl⟩, .refl host⟩
  | ok registry =>
    right
    obtain ⟨old, isOld, kept⟩ := set_enabled_kept sets
    dsimp only
    by_cases enables : enabled = true
    · rw [if_pos enables]
      exact ⟨rfl, rfl, old, isOld, kept⟩
    rw [if_neg enables]
    have settled : Keeps { host with registry := registry }
        (({ host with registry := registry } : Host).discard (·.setActive id false)) :=
      discard_keeps (harmless_active id false)
    refine ⟨rfl, rfl, old, isOld, ?_⟩
    rw [← kept]
    exact settled.kept

variable (oracle host) in
theorem set_enabled_sets_flag (serverID : String) (enabled : Bool) :
    SetsFlag host (trimSpace serverID) enabled (host.setEnabled oracle serverID enabled) := by
  unfold setEnabled
  dsimp only
  by_cases noID : trimSpace serverID = ""
  · rw [if_pos noID]
    exact .inl ⟨⟨_, rfl⟩, .refl host⟩
  rw [if_neg noID]
  have flagged : ∀ next : Host,
      SetsFlag next (trimSpace serverID) enabled (next.setFlag (trimSpace serverID) enabled) := by
    intro next
    simpa only [trim_space_twice] using set_flag_sets_flag (trimSpace serverID) enabled
  cases enabled with
  | true =>
    rw [if_pos rfl]
    exact flagged host
  | false =>
    rw [if_neg (by simp)]
    have stopped : Keeps host (host.stop oracle (trimSpace serverID)).2 := stop_keeps _
    cases stops : host.stop oracle (trimSpace serverID) with
    | mk result next =>
      rw [stops] at stopped
      cases result with
      | ok value => exact stopped.sets_flag (flagged next)
      | error err =>
        dsimp only
        by_cases unknown : err = .serverNotFound
        · rw [if_pos unknown]
          exact stopped.sets_flag (flagged next)
        · rw [if_neg unknown]
          exact .inl ⟨⟨err, rfl⟩, stopped⟩

variable (host) in
theorem restore_snapshot_kept {old : McpServerSpec × Bool} (hasID : trimSpace snapshot.id ≠ "")
    (known : host.registry.kept (trimSpace snapshot.id) = some old) :
    (host.restoreMCPServerSnapshot snapshot).file = host.file ∧
      (host.restoreMCPServerSnapshot snapshot).registry.kept =
        host.registry.kept.insert (trimSpace snapshot.id) (old.1, snapshot.enabled) := by
  unfold restoreMCPServerSnapshot
  rw [if_neg hasID]
  have flagged : (host.discard (·.setEnabled snapshot.id snapshot.enabled)).registry.kept =
      host.registry.kept.insert (trimSpace snapshot.id) (old.1, snapshot.enabled) := by
    obtain ⟨registry, sets⟩ : ∃ next, host.registry.setEnabled snapshot.id snapshot.enabled =
        .ok next :=
      change_known (by rw [known]; simp)
    rw [discard_ok sets]
    obtain ⟨same, isSame, kept⟩ := set_enabled_kept sets
    rw [known] at isSame
    rw [Option.some.inj isSame]
    exact kept
  have settled : Keeps (host.discard (·.setEnabled snapshot.id snapshot.enabled))
      (((host.discard (·.setEnabled snapshot.id snapshot.enabled)).discard
        (·.setState snapshot.id snapshot.state)).discard
            (·.setActive snapshot.id snapshot.active)) :=
    (discard_keeps (harmless_state _ _)).trans (discard_keeps (harmless_active _ _))
  cases snapshot.lastUsed with
  | none => exact ⟨rfl, settled.kept.trans flagged⟩
  | some used =>
    have touched := settled.trans (discard_keeps (harmless_touch snapshot.id used))
    exact ⟨rfl, touched.kept.trans flagged⟩

-- Otherwise the comparison of two calls computes with identifiers.
attribute [local irreducible] trimSpace

variable (host) in
theorem restore_registry_kept {spec : McpServerSpec} (normal : Normal spec)
    (sameID : snapshot.id = spec.id) :
    (host.restoreMCPServerRegistryState spec snapshot).file = host.file ∧
    (host.restoreMCPServerRegistryState spec snapshot).registry.kept =
    host.registry.kept.insert spec.id (spec, snapshot.enabled) := by
  have isID := normal.trim_id
  have hasID : trimSpace spec.id ≠ "" := (normalize_cases normal).1
  have putBack : ∃ middle : Host, host.restoreMCPServerRegistryState spec snapshot =
      middle.restoreMCPServerSnapshot snapshot ∧ middle.file = host.file ∧
        ∃ flag, middle.registry.kept = host.registry.kept.insert spec.id (spec, flag) := by
    unfold restoreMCPServerRegistryState
    rw [if_neg hasID]
    dsimp only
    unfold McpRegistry.get
    rw [isID]
    cases found : host.registry.find spec.id with
    | none =>
      have absent : host.registry.kept spec.id = none :=
        kept_eq_none_iff.mpr found
      obtain ⟨registry, registers⟩ := register_of_absent normal absent
      obtain ⟨normalized, normalizes, -, kept⟩ := register_kept registers
      rw [normal] at normalizes
      cases normalizes
      refine ⟨host.discard (·.register spec), rfl, rfl, true, ?_⟩
      rw [discard_ok registers]
      exact kept
    | some entry =>
      have isThere : ¬host.registry.find spec.id = none := by
        rw [found]
        simp
      have updates : ∃ next, host.registry.update spec = .ok next := by
        unfold update
        rw [normal]
        dsimp only
        rw [if_neg isThere]
        exact ⟨_, rfl⟩
      obtain ⟨registry, updates⟩ := updates
      obtain ⟨normalized, old, normalizes, -, kept⟩ := update_kept updates
      rw [normal] at normalizes
      cases normalizes
      refine ⟨host.discard (·.update spec), rfl, rfl, old.2, ?_⟩
      rw [discard_ok updates]
      exact kept
  obtain ⟨middle, isMiddle, file, flag, kept⟩ := putBack
  have known : middle.registry.kept (trimSpace snapshot.id) = some (spec, flag) := by
    rw [sameID, isID, kept, Table.insert_self]
  have hasSnapshotID : trimSpace snapshot.id ≠ "" := by
    rw [sameID]
    exact hasID
  obtain ⟨sameFile, restored⟩ := restore_snapshot_kept middle hasSnapshotID known
  rw [isMiddle]
  refine ⟨sameFile.trans file, ?_⟩
  rw [restored, sameID, isID, kept, Table.insert_insert]

end Host

end RuneTerminal.McpServers
