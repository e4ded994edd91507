import RuneTerminal.Shell.Workspaces

/-! What is stored for each workspace is compared with what it showed. The run invariant says for
which tabs the stored layout is up to date. -/

namespace RuneTerminal.Shell

open Kit List DockviewWorkspace

/-- The shell, the snapshot that each workspace started with and the layouts that it
has shown, the latest first. -/
structure Session (Id Layout : Type) where
  shell : DockviewWorkspace Id Layout
  initial : Id → Option Layout
  shown : Id → List Layout

section

variable {Id Layout : Type} [LinearOrder Id] (numbers : IdNumbers Id) (dockview : Dockview Layout)

def workspaceIds (workspaceTabs : List (WorkspaceLayoutTab Id Layout)) : List Id :=
  workspaceTabs.map WorkspaceLayoutTab.id

def Session.lastShown (session : Session Id Layout) (workspaceId : Id) : Option Layout :=
  match session.shown workspaceId with
  | [] => session.initial workspaceId
  | layout :: _ => captureDockviewWorkspaceSnapshot dockview layout

def Session.observe (session : Session Id Layout) : Session Id Layout :=
  match session.shell.layout with
  | none => session
  | some layout =>
    { session with
      shown := Function.update session.shown session.shell.activeWorkspaceId
        (layout :: session.shown session.shell.activeWorkspaceId) }

def Session.begin (session : Session Id Layout) (workspaceId : Id) : Session Id Layout :=
  { session with
    initial := Function.update session.initial workspaceId none
    shown := Function.update session.shown workspaceId [] }

def Session.handle (session : Session Id Layout) (event : ShellEvent Id Layout) :
    Session Id Layout :=
  let shell := (session.shell.handle numbers dockview event).2
  let next := { session with shell }
  match event with
  | .add => (next.begin shell.activeWorkspaceId).observe
  | _ => next.observe

def Session.Starts (session : Session Id Layout) : Prop :=
  StartState numbers session.shell ∧
    session.initial = readDockviewWorkspaceSnapshot session.shell.workspaceTabs ∧
    session.shown = fun _ => []

/-- A select names a tab. A new id is above the others. A default layout is stored for the workspace
that shows it, or for none. -/
def orderly (session : Session Id Layout) : ShellEvent Id Layout → Bool
  | .select workspaceId => workspaceId ∈ workspaceIds session.shell.workspaceTabs
  | .add =>
    let largest := maxWorkspaceId numbers session.shell.workspaceTabs
    largest < numbers.plusOne largest
  | .ready _ hasBootstrap _ =>
    hasBootstrap || session.shell.hasPersistedWorkspaceState ||
      (readDockviewWorkspaceSnapshot session.shell.workspaceTabs
        session.shell.activeWorkspaceId).isSome ||
      session.shell.activeWorkspaceId = defaultActiveWorkspaceId numbers ||
      defaultActiveWorkspaceId numbers ∉ workspaceIds session.shell.workspaceTabs
  | _ => true

def OrderlySession (session : Session Id Layout) : Prop :=
  Reachable (Session.Starts numbers)
    (guarded (orderly numbers) fun s event => some (s.handle numbers dockview event)) session

structure KeepsLayouts (session : Session Id Layout) : Prop where
  nonempty : session.shell.workspaceTabs ≠ []
  distinct : (workspaceIds session.shell.workspaceTabs).Nodup
  named : session.shell.activeWorkspaceId ∈ workspaceIds session.shell.workspaceTabs
  inactive : ∀ workspace ∈ session.shell.workspaceTabs,
    workspace.id ≠ session.shell.activeWorkspaceId →
      workspace.snapshot = session.lastShown dockview workspace.id
  own : ∀ workspace ∈ session.shell.workspaceTabs, ∀ layout, workspace.snapshot = some layout →
    session.initial workspace.id = some layout ∨ layout ∈ session.shown workspace.id

/-- The run invariant. What is live has been shown by the active workspace, and until
the Dockview is ready nothing has been. -/
structure RunInvariant (session : Session Id Layout) : Prop extends
    KeepsLayouts dockview session where
  live : ∀ layout, session.shell.layout = some layout →
    session.lastShown dockview session.shell.activeWorkspaceId =
      captureDockviewWorkspaceSnapshot dockview layout ∧
    layout ∈ session.shown session.shell.activeWorkspaceId
  notReady : session.shell.layout = none →
    ∀ workspace ∈ session.shell.workspaceTabs,
      workspace.snapshot = session.lastShown dockview workspace.id

/-- The layout that was live is stored for the workspace that was active. -/
def StoresLive (before after : DockviewWorkspace Id Layout) : Prop :=
  ∀ layout, before.layout = some layout → ∀ workspace ∈ after.workspaceTabs,
    workspace.id = before.activeWorkspaceId →
      workspace.snapshot = captureDockviewWorkspaceSnapshot dockview layout

/-- A select, an add or a delete whose result holds the tabs that it read before storing: a select
of the active workspace, a refused delete and a delete of an inactive workspace. -/
def keepsEarlierTabs (shell : DockviewWorkspace Id Layout) : ShellEvent Id Layout → Bool
  | .select workspaceId => workspaceId = shell.activeWorkspaceId
  | .delete workspaceId =>
    workspaceId ≠ shell.activeWorkspaceId || shell.workspaceTabs.length ≤ 1
  | _ => false

def isWorkspaceAction : ShellEvent Id Layout → Bool
  | .select _ => true
  | .add => true
  | .delete _ => true
  | _ => false

variable {workspaceTabs : List (WorkspaceLayoutTab Id Layout)}
  {workspace : WorkspaceLayoutTab Id Layout} {workspaceId : Id} {event : ShellEvent Id Layout}
  {session : Session Id Layout} {shell : DockviewWorkspace Id Layout} {layout : Layout}

omit [LinearOrder Id] in
theorem mem_workspace_ids (mem : workspace ∈ workspaceTabs) :
    workspace.id ∈ workspaceIds workspaceTabs :=
  mem_map_of_mem mem

theorem workspace_ids_write (workspaceTabs : List (WorkspaceLayoutTab Id Layout)) (workspaceId : Id)
    (snapshot : Option Layout) :
    workspaceIds (writeDockviewWorkspaceSnapshot workspaceTabs workspaceId snapshot) =
    workspaceIds workspaceTabs := by
  simp only [workspaceIds, writeDockviewWorkspaceSnapshot, map_map]
  apply map_congr_left
  intro workspace _
  simp only [Function.comp_apply]
  split_ifs <;> rfl

theorem mem_write {snapshot : Option Layout}
    (mem : workspace ∈ writeDockviewWorkspaceSnapshot workspaceTabs workspaceId snapshot) :
    (workspace.id = workspaceId ∧ workspace.snapshot = snapshot ∧
      workspaceId ∈ workspaceIds workspaceTabs) ∨
    (workspace.id ≠ workspaceId ∧ workspace ∈ workspaceTabs) := by
  obtain ⟨earlier, earlierMember, rfl⟩ := mem_map.mp mem
  by_cases written : earlier.id = workspaceId
  · left
    rw [if_pos written]
    exact ⟨written, rfl, written ▸ mem_workspace_ids earlierMember⟩
  · right
    rw [if_neg written]
    exact ⟨written, earlierMember⟩

theorem read_of_mem (nodup : (workspaceIds workspaceTabs).Nodup) (mem : workspace ∈ workspaceTabs) :
    readDockviewWorkspaceSnapshot workspaceTabs workspace.id = workspace.snapshot := by
  induction workspaceTabs with
  | nil => simp at mem
  | cons first rest ih =>
    simp only [workspaceIds, map_cons, nodup_cons] at nodup
    rcases mem_cons.mp mem with rfl | later
    · simp [readDockviewWorkspaceSnapshot]
    have other : first.id ≠ workspace.id := by
      intro same
      exact nodup.1 (same ▸ mem_workspace_ids later)
    have found := ih nodup.2 later
    simpa [readDockviewWorkspaceSnapshot, other] using found

theorem le_max_workspace_id (member : workspaceId ∈ workspaceIds workspaceTabs) :
    workspaceId ≤ maxWorkspaceId numbers workspaceTabs := by
  have grows : ∀ (tabs : List (WorkspaceLayoutTab Id Layout)) (start : Id),
      start ≤ tabs.foldl (fun largest workspace => max largest workspace.id) start ∧
        ∀ workspace ∈ tabs,
          workspace.id ≤ tabs.foldl (fun largest workspace => max largest workspace.id) start := by
    intro tabs
    induction tabs with
    | nil => simp
    | cons first rest ih =>
      intro start
      have later := ih (max start first.id)
      refine ⟨le_trans (le_max_left _ _) later.1, ?_⟩
      intro workspace member
      rcases mem_cons.mp member with rfl | member
      · exact le_trans (le_max_right _ _) later.1
      · exact later.2 workspace member
  obtain ⟨workspace, workspaceMember, rfl⟩ := mem_map.mp member
  exact (grows workspaceTabs numbers.zero).2 workspace workspaceMember

structure Settled (session : Session Id Layout) : Prop where
  nonempty : session.shell.workspaceTabs ≠ []
  distinct : (workspaceIds session.shell.workspaceTabs).Nodup
  named : session.shell.activeWorkspaceId ∈ workspaceIds session.shell.workspaceTabs
  inactive : ∀ workspace ∈ session.shell.workspaceTabs,
    workspace.id ≠ session.shell.activeWorkspaceId →
      workspace.snapshot = session.lastShown dockview workspace.id
  own : ∀ workspace ∈ session.shell.workspaceTabs, ∀ layout, workspace.snapshot = some layout →
    session.initial workspace.id = some layout ∨ layout ∈ session.shown workspace.id ∨
      (workspace.id = session.shell.activeWorkspaceId ∧ session.shell.layout = some layout)
  notReady : session.shell.layout = none →
    ∀ workspace ∈ session.shell.workspaceTabs,
      workspace.snapshot = session.lastShown dockview workspace.id

@[simp]
theorem observe_shell (session : Session Id Layout) : session.observe.shell = session.shell := by
  unfold Session.observe
  cases session.shell.layout <;> rfl

@[simp]
theorem observe_initial (session : Session Id Layout) :
    session.observe.initial = session.initial := by
  unfold Session.observe
  cases session.shell.layout <;> rfl

theorem observe_shown_active (isLive : session.shell.layout = some layout) :
    session.observe.shown session.shell.activeWorkspaceId =
      layout :: session.shown session.shell.activeWorkspaceId := by
  simp [Session.observe, isLive]

theorem observe_shown_other (other : workspaceId ≠ session.shell.activeWorkspaceId) :
    session.observe.shown workspaceId = session.shown workspaceId := by
  unfold Session.observe
  cases session.shell.layout with
  | none => rfl
  | some layout => exact Function.update_of_ne other _ _

theorem observe_of_not_live (notLive : session.shell.layout = none) :
    session.observe = session := by
  simp [Session.observe, notLive]

theorem mem_observe_shown (mem : layout ∈ session.shown workspaceId) :
    layout ∈ session.observe.shown workspaceId := by
  by_cases active : workspaceId = session.shell.activeWorkspaceId
  · subst active
    cases isLive : session.shell.layout with
    | none => rwa [observe_of_not_live isLive]
    | some live =>
      rw [observe_shown_active isLive]
      exact mem_cons_of_mem _ mem
  · rwa [observe_shown_other active]

theorem last_shown_observe_other (other : workspaceId ≠ session.shell.activeWorkspaceId) :
    session.observe.lastShown dockview workspaceId = session.lastShown dockview workspaceId := by
  simp only [Session.lastShown, observe_shown_other other, observe_initial]

theorem Settled.observed (settled : Settled dockview session) :
    RunInvariant dockview session.observe where
  nonempty := by simpa using settled.nonempty
  distinct := by simpa using settled.distinct
  named := by simpa using settled.named
  inactive := by
    rw [observe_shell]
    intro workspace mem other
    rw [last_shown_observe_other dockview other]
    exact settled.inactive workspace mem other
  own := by
    rw [observe_shell, observe_initial]
    intro workspace mem layout stored
    rcases settled.own workspace mem layout stored with initially | earlier | ⟨active, isLive⟩
    · exact .inl initially
    · exact .inr (mem_observe_shown earlier)
    · right
      rw [active, observe_shown_active isLive]
      exact mem_cons_self
  live := by
    rw [observe_shell]
    intro layout isLive
    rw [Session.lastShown, observe_shown_active isLive]
    exact ⟨rfl, mem_cons_self⟩
  notReady := by
    rw [observe_shell]
    intro notLive
    rw [observe_of_not_live notLive]
    exact settled.notReady notLive

omit [LinearOrder Id] in
theorem last_shown_own (shownLast : session.lastShown dockview workspaceId = some layout) :
    session.initial workspaceId = some layout ∨ layout ∈ session.shown workspaceId := by
  unfold Session.lastShown at shownLast
  split at shownLast
  · exact .inl shownLast
  rename_i latest _ shown
  unfold captureDockviewWorkspaceSnapshot at shownLast
  split_ifs at shownLast
  cases shownLast
  right
  rw [shown]
  exact mem_cons_self

section

variable (s : DockviewWorkspace Id Layout)

@[simp]
theorem persist_active :
    (s.persistCurrentWorkspaceSnapshot dockview).activeWorkspaceId = s.activeWorkspaceId := by
  unfold persistCurrentWorkspaceSnapshot
  cases s.layout <;> rfl

@[simp]
theorem persist_layout : (s.persistCurrentWorkspaceSnapshot dockview).layout = s.layout := by
  unfold persistCurrentWorkspaceSnapshot
  cases isLive : s.layout with
  | none | some => exact isLive

@[simp]
theorem persist_ids : workspaceIds (s.persistCurrentWorkspaceSnapshot dockview).workspaceTabs =
    workspaceIds s.workspaceTabs := by
  unfold persistCurrentWorkspaceSnapshot
  cases s.layout with
  | none => rfl
  | some layout => exact workspace_ids_write _ _ _

@[simp]
theorem restore_tabs (workspaceId : Id) :
    (s.restoreWorkspaceSnapshot dockview workspaceId).workspaceTabs = s.workspaceTabs := by
  unfold restoreWorkspaceSnapshot
  cases s.layout <;> rfl

@[simp]
theorem restore_active (workspaceId : Id) :
    (s.restoreWorkspaceSnapshot dockview workspaceId).activeWorkspaceId = s.activeWorkspaceId := by
  unfold restoreWorkspaceSnapshot
  cases s.layout <;> rfl

theorem persist_stores_live :
    StoresLive dockview s (s.persistCurrentWorkspaceSnapshot dockview) := by
  intro layout isLive workspace mem active
  simp only [persistCurrentWorkspaceSnapshot, isLive] at mem
  rcases mem_write mem with ⟨_, written, _⟩ | ⟨other, _⟩
  · exact written
  · exact absurd active other

theorem mem_persist_other
    (mem : workspace ∈ (s.persistCurrentWorkspaceSnapshot dockview).workspaceTabs)
    (other : workspace.id ≠ s.activeWorkspaceId) : workspace ∈ s.workspaceTabs := by
  unfold persistCurrentWorkspaceSnapshot at mem
  split at mem
  · exact mem
  · rcases mem_write mem with ⟨active, _, _⟩ | ⟨_, earlier⟩
    · exact absurd active other
    · exact earlier

end

theorem RunInvariant.persisted {session : Session Id Layout}
    (invariant : RunInvariant dockview session) :
    ∀ workspace ∈ (session.shell.persistCurrentWorkspaceSnapshot dockview).workspaceTabs,
    workspace.snapshot = session.lastShown dockview workspace.id := by
  intro workspace mem
  cases isLive : session.shell.layout with
  | none =>
    apply invariant.notReady isLive
    simpa [persistCurrentWorkspaceSnapshot, isLive] using mem
  | some layout =>
    by_cases active : workspace.id = session.shell.activeWorkspaceId
    · rw [persist_stores_live dockview session.shell layout isLive workspace mem active,
        active, (invariant.live layout isLive).1]
    · exact invariant.inactive workspace (mem_persist_other dockview _ mem active) active

omit [LinearOrder Id] in
theorem settled_of_up_to_date {session : Session Id Layout}
    (nonempty : session.shell.workspaceTabs ≠ [])
    (distinct : (workspaceIds session.shell.workspaceTabs).Nodup)
    (named : session.shell.activeWorkspaceId ∈ workspaceIds session.shell.workspaceTabs)
    (upToDate : ∀ workspace ∈ session.shell.workspaceTabs,
      workspace.snapshot = session.lastShown dockview workspace.id) : Settled dockview session where
  nonempty := nonempty
  distinct := distinct
  named := named
  inactive workspace mem _ := upToDate workspace mem
  own := by
    intro workspace mem layout stored
    have owned := last_shown_own dockview ((upToDate workspace mem).symm.trans stored)
    tauto
  notReady _ := upToDate

omit [LinearOrder Id] in
theorem RunInvariant.same_active {session : Session Id Layout}
    (invariant : RunInvariant dockview session) {shell : DockviewWorkspace Id Layout}
    (sameActive : shell.activeWorkspaceId = session.shell.activeWorkspaceId)
    (nonempty : shell.workspaceTabs ≠ [])
    (distinct : (workspaceIds shell.workspaceTabs).Nodup)
    (named : shell.activeWorkspaceId ∈ workspaceIds shell.workspaceTabs)
    (notReady : shell.layout = none → session.shell.layout = none)
    (earlier : ∀ workspace ∈ shell.workspaceTabs,
      (∃ before ∈ session.shell.workspaceTabs,
        before.id = workspace.id ∧ before.snapshot = workspace.snapshot) ∨
      (workspace.id = session.shell.activeWorkspaceId ∧ shell.layout ≠ none ∧
        ∀ layout, workspace.snapshot = some layout → shell.layout = some layout)) :
    Settled dockview { session with shell } where
  nonempty := nonempty
  distinct := distinct
  named := named
  inactive := by
    intro workspace mem other
    rcases earlier workspace mem with ⟨before, beforeMember, sameId, sameSnapshot⟩ | ⟨active, _⟩
    · rw [← sameSnapshot, ← sameId]
      exact invariant.inactive before beforeMember (by rw [sameId, ← sameActive]; exact other)
    · exact absurd (active.trans sameActive.symm) other
  own := by
    intro workspace mem layout stored
    rcases earlier workspace mem with
      ⟨before, beforeMember, sameId, sameSnapshot⟩ | ⟨active, _, isLive⟩
    · rw [← sameId]
      rcases invariant.own before beforeMember layout (sameSnapshot.trans stored) with own | own
      · exact .inl own
      · exact .inr (.inl own)
    · exact .inr (.inr ⟨active.trans sameActive.symm, isLive layout stored⟩)
  notReady := by
    intro notLive workspace mem
    rcases earlier workspace mem with ⟨before, beforeMember, sameId, sameSnapshot⟩ | ⟨_, live, _⟩
    · rw [← sameSnapshot, ← sameId]
      exact invariant.notReady (notReady notLive) before beforeMember
    · exact absurd notLive live

section

variable {nextTabs : List (WorkspaceLayoutTab Id Layout)}

omit [LinearOrder Id] in
theorem RunInvariant.same_tabs (invariant : RunInvariant dockview session)
    (sameActive : shell.activeWorkspaceId = session.shell.activeWorkspaceId)
    (sameTabs : shell.workspaceTabs = session.shell.workspaceTabs)
    (notReady : shell.layout = none → session.shell.layout = none) :
    Settled dockview { session with shell } := by
  apply invariant.same_active dockview sameActive _ _ _ notReady
  · rw [sameTabs]
    exact fun workspace mem => .inl ⟨workspace, mem, rfl, rfl⟩
  · rw [sameTabs]
    exact invariant.nonempty
  · rw [sameTabs]
    exact invariant.distinct
  · rw [sameActive, sameTabs]
    exact invariant.named

theorem RunInvariant.ready (invariant : RunInvariant dockview session) {initial seed : Layout}
    {hasBootstrap : Bool} (inOrder : orderly numbers session (.ready initial hasBootstrap seed)) :
    Settled dockview
      { session with
        shell := session.shell.handleDockviewReady numbers dockview initial hasBootstrap
          seed } := by
  unfold handleDockviewReady
  by_cases bootstrap : hasBootstrap = true
  · rw [if_pos bootstrap]
    exact invariant.same_tabs dockview rfl rfl (by simp)
  rw [if_neg bootstrap]
  cases noSnapshot : readDockviewWorkspaceSnapshot session.shell.workspaceTabs
      session.shell.activeWorkspaceId with
  | some snapshot => exact invariant.same_tabs dockview rfl rfl (by simp)
  | none =>
    by_cases persisted : session.shell.hasPersistedWorkspaceState = true
    · rw [if_pos persisted]
      exact invariant.same_tabs dockview rfl rfl (by simp)
    rw [if_neg persisted]
    -- The default layout is stored for the workspace that shows it, or for none.
    have target : session.shell.activeWorkspaceId = defaultActiveWorkspaceId numbers ∨
        defaultActiveWorkspaceId numbers ∉ workspaceIds session.shell.workspaceTabs := by
      simpa [orderly, bootstrap, persisted, noSnapshot] using inOrder
    have sameIds := workspace_ids_write session.shell.workspaceTabs
      (defaultActiveWorkspaceId numbers) (some seed)
    refine invariant.same_active dockview ?_ ?_ ?_ ?_ ?_ ?_
    · rfl
    · intro empty
      apply ne_nil_of_mem invariant.named
      rw [← sameIds]
      exact map_eq_nil_iff.mpr empty
    · exact sameIds ▸ invariant.distinct
    · exact sameIds ▸ invariant.named
    · simp [updateWorkspaceTabs]
    intro workspace mem
    rcases mem_write mem with ⟨written, stored, present⟩ | ⟨_, earlier⟩
    · right
      rcases target with active | absent
      · refine ⟨written.trans active.symm, by simp [updateWorkspaceTabs], ?_⟩
        intro layout holds
        exact stored.symm.trans holds
      · exact absurd present absent
    · exact .inl ⟨workspace, earlier, rfl, rfl⟩

theorem RunInvariant.select (invariant : RunInvariant dockview session)
    (known : workspaceId ∈ workspaceIds session.shell.workspaceTabs) :
    Settled dockview
      { session with shell := (session.shell.handleSelectWorkspace dockview workspaceId).2 } := by
  unfold handleSelectWorkspace
  split_ifs with same
  · exact invariant.same_tabs dockview rfl rfl id
  have sameIds := persist_ids dockview session.shell
  apply settled_of_up_to_date
  · simp only [restore_tabs]
    intro empty
    apply ne_nil_of_mem known
    rw [← sameIds]
    exact map_eq_nil_iff.mpr empty
  · simpa [activateWorkspace] using invariant.distinct
  · simpa [activateWorkspace] using known
  · intro workspace mem
    apply invariant.persisted dockview workspace
    simpa [activateWorkspace] using mem

theorem RunInvariant.add (invariant : RunInvariant dockview session)
    (grows : maxWorkspaceId numbers session.shell.workspaceTabs <
      numbers.plusOne (maxWorkspaceId numbers session.shell.workspaceTabs)) :
    Settled dockview
      (({ session with shell := session.shell.handleAddWorkspace numbers dockview }).begin
        (session.shell.handleAddWorkspace numbers dockview).activeWorkspaceId) := by
  have fresh : numbers.plusOne (maxWorkspaceId numbers session.shell.workspaceTabs) ∉
      workspaceIds session.shell.workspaceTabs := by
    intro present
    exact absurd grows (not_lt_of_ge (le_max_workspace_id numbers present))
  have sameIds := persist_ids dockview session.shell
  have added : workspaceIds (session.shell.handleAddWorkspace numbers dockview).workspaceTabs =
      workspaceIds session.shell.workspaceTabs ++
        [numbers.plusOne (maxWorkspaceId numbers session.shell.workspaceTabs)] := by
    rw [← sameIds]
    simp [handleAddWorkspace, updateWorkspaceTabs,
      activateWorkspace, workspaceIds, createDockviewWorkspaceTab]
  have active : (session.shell.handleAddWorkspace numbers dockview).activeWorkspaceId =
      numbers.plusOne (maxWorkspaceId numbers session.shell.workspaceTabs) := by
    simp [handleAddWorkspace, activateWorkspace,
      createDockviewWorkspaceTab]
  apply settled_of_up_to_date
  · intro empty
    have noIds : workspaceIds (session.shell.handleAddWorkspace numbers dockview).workspaceTabs =
        [] := map_eq_nil_iff.mpr empty
    simp [added] at noIds
  · change (workspaceIds (session.shell.handleAddWorkspace numbers dockview).workspaceTabs).Nodup
    rw [added]
    exact List.Nodup.append invariant.distinct (nodup_singleton _)
      (disjoint_singleton.mpr fresh)
  · change (session.shell.handleAddWorkspace numbers dockview).activeWorkspaceId ∈
      workspaceIds (session.shell.handleAddWorkspace numbers dockview).workspaceTabs
    rw [added, active]
    simp
  intro workspace mem
  rw [active]
  have cases : workspace ∈
      (session.shell.persistCurrentWorkspaceSnapshot dockview).workspaceTabs ∨
      workspace = createDockviewWorkspaceTab numbers session.shell.workspaceTabs := by
    simpa [Session.begin, handleAddWorkspace,
      updateWorkspaceTabs, activateWorkspace] using mem
  rcases cases with earlier | rfl
  · have other : workspace.id ≠
        numbers.plusOne (maxWorkspaceId numbers session.shell.workspaceTabs) := by
      intro same
      apply fresh
      rw [← same, ← sameIds]
      exact mem_workspace_ids earlier
    rw [invariant.persisted dockview workspace earlier]
    simp [Session.lastShown, Session.begin, Function.update_of_ne other]
  · simp [Session.lastShown, Session.begin, createDockviewWorkspaceTab]

theorem RunInvariant.rename (invariant : RunInvariant dockview session) (workspaceId : Id)
    (title : String) :
    Settled dockview
      { session with shell := session.shell.handleRenameWorkspace workspaceId title } := by
  unfold handleRenameWorkspace
  by_cases blank : Commander.trim title = ""
  · rw [if_pos blank]
    exact invariant.same_tabs dockview rfl rfl id
  rw [if_neg blank]
  let titled := fun workspace : WorkspaceLayoutTab Id Layout =>
    if workspace.id ≠ workspaceId ∨ workspace.title = Commander.trim title then workspace
    else { workspace with title := Commander.trim title }
  have sameIds : workspaceIds (session.shell.workspaceTabs.map titled) =
      workspaceIds session.shell.workspaceTabs := by
    rw [workspaceIds, map_map]
    apply map_congr_left
    intro workspace _
    simp only [Function.comp_apply, titled]
    split_ifs <;> rfl
  refine invariant.same_active dockview ?_ ?_ ?_ ?_ ?_ ?_
  · rfl
  · intro empty
    exact invariant.nonempty (map_eq_nil_iff.mp empty)
  · exact sameIds ▸ invariant.distinct
  · exact sameIds ▸ invariant.named
  · exact id
  intro workspace mem
  obtain ⟨before, beforeMember, rfl⟩ := mem_map.mp mem
  left
  refine ⟨before, beforeMember, ?_, ?_⟩
  · split_ifs <;> rfl
  · split_ifs <;> rfl

omit [LinearOrder Id] in
theorem workspace_ids_filter (workspaceTabs : List (WorkspaceLayoutTab Id Layout))
    (kept : Id → Bool) : workspaceIds (workspaceTabs.filter fun workspace => kept workspace.id) =
    (workspaceIds workspaceTabs).filter kept := by
  rw [workspaceIds, workspaceIds, filter_map]
  rfl

omit [LinearOrder Id] in
theorem fallback_workspace_mem {index : Nat} {fallback : WorkspaceLayoutTab Id Layout}
    (found : DockviewWorkspace.fallbackWorkspace nextTabs index = some fallback) :
    fallback ∈ nextTabs := by
  unfold fallbackWorkspace at found
  simp only [Option.orElse_eq_some] at found
  grind

omit [LinearOrder Id] in
theorem fallback_workspace_isSome (nonempty : nextTabs ≠ []) (index : Nat) :
    ∃ fallback, DockviewWorkspace.fallbackWorkspace nextTabs index = some fallback := by
  cases found : fallbackWorkspace nextTabs index with
  | some fallback => exact ⟨fallback, rfl⟩
  | none =>
    cases nextTabs with
    | nil => exact absurd rfl nonempty
    | cons first rest => simp [fallbackWorkspace] at found

theorem filter_other_ne_nil (nodup : (workspaceIds workspaceTabs).Nodup)
    (several : 1 < workspaceTabs.length) (workspaceId : Id) :
    workspaceTabs.filter (·.id ≠ workspaceId) ≠ [] := by
  match workspaceTabs, several with
  | first :: second :: rest, _ =>
    intro empty
    have gone : ∀ workspace ∈ first :: second :: rest, workspace.id = workspaceId := by
      simpa using empty
    have firstGone := gone first (by simp)
    have secondGone := gone second (by simp)
    simp [workspaceIds, firstGone, secondGone] at nodup

theorem RunInvariant.delete (invariant : RunInvariant dockview session) (workspaceId : Id) :
    Settled dockview
      { session with shell := (session.shell.handleDeleteWorkspace dockview workspaceId).2 } := by
  unfold handleDeleteWorkspace
  by_cases single : session.shell.workspaceTabs.length ≤ 1
  · rw [if_pos single]
    exact invariant.same_tabs dockview rfl rfl id
  rw [if_neg single]
  cases found : session.shell.workspaceTabs.findIdx? (·.id = workspaceId) with
  | none => exact invariant.same_tabs dockview rfl rfl id
  | some workspaceIndex =>
    dsimp only
    have keptIds := workspace_ids_filter session.shell.workspaceTabs (fun id => id ≠ workspaceId)
    have kept := filter_other_ne_nil invariant.distinct (by omega) workspaceId
    have nodup : (workspaceIds
        (session.shell.workspaceTabs.filter (·.id ≠ workspaceId))).Nodup := by
      rw [keptIds]
      exact invariant.distinct.filter _
    by_cases other : session.shell.activeWorkspaceId ≠ workspaceId
    · rw [if_pos other]
      refine invariant.same_active dockview ?_ kept nodup ?_ ?_ ?_
      · exact persist_active dockview session.shell
      · change (session.shell.persistCurrentWorkspaceSnapshot dockview).activeWorkspaceId ∈
          workspaceIds (session.shell.workspaceTabs.filter (·.id ≠ workspaceId))
        rw [persist_active, keptIds, mem_filter]
        exact ⟨invariant.named, decide_eq_true other⟩
      · intro notLive
        exact (persist_layout dockview session.shell).symm.trans notLive
      · intro workspace mem
        exact .inl ⟨workspace, (mem_filter.mp mem).1, rfl, rfl⟩
    rw [if_neg other]
    obtain ⟨fallback, isFallback⟩ := fallback_workspace_isSome kept workspaceIndex
    rw [isFallback]
    have fallbackMember := fallback_workspace_mem isFallback
    apply settled_of_up_to_date
    · rw [restore_tabs]
      exact kept
    · rw [restore_tabs]
      exact nodup
    · simp only [restore_tabs, restore_active]
      exact mem_workspace_ids fallbackMember
    -- The tabs that are left were inactive.
    intro workspace mem
    simp only [restore_tabs] at mem
    obtain ⟨earlier, notDeleted⟩ := mem_filter.mp mem
    apply invariant.inactive workspace earlier
    intro active
    exact of_decide_eq_true notDeleted (active.trans (not_not.mp other))

theorem RunInvariant.timer (invariant : RunInvariant dockview session) :
    Settled dockview
      { session with shell := session.shell.persistCurrentWorkspaceSnapshot dockview } := by
  have sameIds := persist_ids dockview session.shell
  apply settled_of_up_to_date
  · intro empty
    apply ne_nil_of_mem invariant.named
    rw [← sameIds]
    exact map_eq_nil_iff.mpr empty
  · exact sameIds ▸ invariant.distinct
  · simpa using invariant.named
  · exact invariant.persisted dockview

theorem RunInvariant.handled (invariant : RunInvariant dockview session)
    (inOrder : orderly numbers session event = true) :
    RunInvariant dockview (session.handle numbers dockview event) := by
  cases event with
  | ready initial hasBootstrap seed =>
    exact (invariant.ready numbers dockview inOrder).observed
  | select workspaceId =>
    exact (invariant.select dockview (of_decide_eq_true inOrder)).observed
  | add => exact (invariant.add numbers dockview (of_decide_eq_true inOrder)).observed
  | rename workspaceId title => exact (invariant.rename dockview workspaceId title).observed
  | delete workspaceId => exact (invariant.delete dockview workspaceId).observed
  | change layout =>
    have settled : Settled dockview { session with
        shell := { session.shell with layout := session.shell.layout.map fun _ => layout } } := by
      refine invariant.same_tabs dockview ?_ ?_ ?_
      · rfl
      · rfl
      · exact Option.map_eq_none_iff.mp
    exact settled.observed
  | timer => exact (invariant.timer dockview).observed

end

theorem start_state_ids {s : DockviewWorkspace Id Layout} (start : StartState numbers s) :
    (workspaceIds s.workspaceTabs).Nodup ∧ s.activeWorkspaceId ∈ workspaceIds s.workspaceTabs ∧
    s.layout = none := by
  cases start with
  | default =>
    simp [workspaceIds, createDefaultWorkspaceTabs, defaultActiveWorkspaceId,
      ne_of_lt numbers.one_lt_two]
  | @persisted activeWorkspaceId entries state accepted nodup =>
    refine ⟨nodup, ?_, rfl⟩
    unfold normalizePersistedDockviewWorkspaceState at accepted
    dsimp only at accepted
    split_ifs at accepted with empty found
    · cases accepted
      have known : ∃ workspace ∈ entries.filterMap id, workspace.id = activeWorkspaceId := by
        simpa only [any_eq_true, decide_eq_true_eq, Bool.not_eq_true', Bool.not_eq_false]
          using found
      obtain ⟨workspace, mem, active⟩ := known
      exact active ▸ mem_workspace_ids mem

theorem Session.Starts.invariant (starts : session.Starts numbers) :
    RunInvariant dockview session := by
  obtain ⟨start, initial, shown⟩ := starts
  obtain ⟨nodup, named, notLive⟩ := start_state_ids numbers start
  have stored : ∀ workspace ∈ session.shell.workspaceTabs,
      workspace.snapshot = session.lastShown dockview workspace.id := by
    intro workspace mem
    simp only [Session.lastShown, shown, initial]
    exact (read_of_mem nodup mem).symm
  have settled : Settled dockview session := by
    apply settled_of_up_to_date dockview _ nodup named stored
    intro empty
    simp [empty, workspaceIds] at named
  have observed := settled.observed
  rwa [observe_of_not_live notLive] at observed

theorem OrderlySession.invariant (run : OrderlySession numbers dockview session) :
    RunInvariant dockview session := by
  apply Reachable.invariant (fun starts => starts.invariant numbers dockview) _ run
  intro s event next holds taken
  obtain ⟨inOrder, handled⟩ := guarded_eq_some.mp taken
  cases handled
  exact holds.handled numbers dockview inOrder

/-- A select, an add or a delete leaves the live layout stored for the workspace that
was active, unless it keeps the tabs from before storing and the layout was not stored
in them. -/
theorem stores_live_iff
    (named : session.shell.activeWorkspaceId ∈ workspaceIds session.shell.workspaceTabs)
    (isAction : isWorkspaceAction event = true) (inOrder : orderly numbers session event = true) :
    StoresLive dockview session.shell (session.shell.handle numbers dockview event).2 ↔
      (keepsEarlierTabs session.shell event = true →
        StoresLive dockview session.shell session.shell) := by
  cases event with
  | ready | rename | change | timer => simp [isWorkspaceAction] at isAction
  | select workspaceId =>
    simp only [handle, handleSelectWorkspace,
      keepsEarlierTabs, decide_eq_true_eq]
    by_cases same : workspaceId = session.shell.activeWorkspaceId
    · simp [same]
    rw [if_neg same]
    refine iff_of_true ?_ fun contrary => absurd contrary same
    intro layout isLive workspace mem
    rw [restore_tabs] at mem
    exact persist_stores_live dockview session.shell layout isLive workspace mem
  | add =>
    refine iff_of_true ?_ (by simp [keepsEarlierTabs])
    intro layout isLive workspace mem active
    have cases : workspace ∈
        (session.shell.persistCurrentWorkspaceSnapshot dockview).workspaceTabs ∨
        workspace = createDockviewWorkspaceTab numbers session.shell.workspaceTabs := by
      simpa [handle, handleAddWorkspace,
        updateWorkspaceTabs, activateWorkspace] using mem
    rcases cases with earlier | rfl
    · exact persist_stores_live dockview session.shell layout isLive workspace earlier active
    · have grows := of_decide_eq_true inOrder
      have largest := le_max_workspace_id numbers named
      exact absurd active (ne_of_gt (lt_of_le_of_lt largest grows))
  | delete workspaceId =>
    simp only [handle, handleDeleteWorkspace]
    by_cases single : session.shell.workspaceTabs.length ≤ 1
    · simp [keepsEarlierTabs, single]
    rw [if_neg single]
    cases found : session.shell.workspaceTabs.findIdx? (·.id = workspaceId) with
    | none =>
      have missing : workspaceId ≠ session.shell.activeWorkspaceId := by
        rintro rfl
        obtain ⟨workspace, mem, active⟩ := mem_map.mp named
        simpa [active] using findIdx?_eq_none_iff.mp found workspace mem
      simp [keepsEarlierTabs, missing]
    | some workspaceIndex =>
      dsimp only
      by_cases other : session.shell.activeWorkspaceId ≠ workspaceId
      · -- The active tab is one of those read before storing.
        simp only [if_pos other, keepsEarlierTabs, other.symm, ne_eq, not_false_eq_true,
          decide_true, Bool.true_or, forall_const]
        constructor
        · intro stores layout isLive workspace mem active
          apply stores layout isLive workspace _ active
          exact mem_filter.mpr ⟨mem, decide_eq_true (active ▸ other)⟩
        · intro stores layout isLive workspace mem
          exact stores layout isLive workspace (mem_filter.mp mem).1
      -- No tab is left under the id of the deleted workspace.
      rw [if_neg other]
      have deleted := not_not.mp other
      refine iff_of_true ?_ (by simp [keepsEarlierTabs, deleted, single])
      intro layout _ workspace mem active
      have remains : workspace ∈
          session.shell.workspaceTabs.filter (·.id ≠ workspaceId) := by
        split at mem
        · exact mem
        · rw [restore_tabs] at mem
          exact mem
      exact absurd (active.trans deleted) (of_decide_eq_true (mem_filter.mp remains).2)

/-- In every run of orderly events the workspaces keep their own layouts, and the live layout is
stored unless a step keeps earlier tabs in which it was not. -/
theorem shell_workspaces_keep_layouts {session : Session Id Layout}
    (run : OrderlySession numbers dockview session) :
    KeepsLayouts dockview session ∧
    ∀ event, isWorkspaceAction event = true → orderly numbers session event = true →
      (StoresLive dockview session.shell (session.shell.handle numbers dockview event).2 ↔
        (keepsEarlierTabs session.shell event = true →
          StoresLive dockview session.shell session.shell)) := by
  have keeps := (run.invariant numbers dockview).toKeepsLayouts
  exact ⟨keeps, fun event => stores_live_iff numbers dockview keeps.named⟩

end

def smallNumbers : IdNumbers Nat where
  zero := 0
  plusOne := (· + 1)
  text := toString
  zero_lt_one := by decide
  one_lt_two := by decide

def panelCounts : Dockview Nat where
  hasPanels := (0 < ·)
  cleared := 0
  cleared_has_no_panels := rfl

def freshSession : Session Nat Nat :=
  { shell := { workspaceTabs := createDefaultWorkspaceTabs smallNumbers
               activeWorkspaceId := 2
               layout := none
               hasPersistedWorkspaceState := false }
    initial := fun _ => none
    shown := fun _ => [] }

def panelAdded : Session Nat Nat :=
  (freshSession.handle smallNumbers panelCounts (.ready 0 false 2)).handle
    smallNumbers panelCounts (.change 3)

theorem panel_added_orderly : OrderlySession smallNumbers panelCounts panelAdded := by
  have fresh : OrderlySession smallNumbers panelCounts freshSession := by
    apply Reachable.start
    refine ⟨StartState.default, ?_, rfl⟩
    funext workspaceId
    by_cases first : 1 = workspaceId
    · subst first
      rfl
    by_cases second : 2 = workspaceId
    · subst second
      rfl
    · simp [freshSession, readDockviewWorkspaceSnapshot, createDefaultWorkspaceTabs,
        smallNumbers, defaultActiveWorkspaceId, first, second]
  have ready : OrderlySession smallNumbers panelCounts
      (freshSession.handle smallNumbers panelCounts (.ready 0 false 2)) :=
    fresh.next (guarded_eq_some.mpr ⟨by decide, rfl⟩)
  have changed : orderly smallNumbers
      (freshSession.handle smallNumbers panelCounts (.ready 0 false 2)) (.change 3) = true := rfl
  exact ready.next (guarded_eq_some.mpr ⟨changed, rfl⟩)

theorem panel_added_kept :
    KeepsLayouts panelCounts panelAdded ∧
    StoresLive panelCounts panelAdded.shell
      (panelAdded.shell.handle smallNumbers panelCounts (.select 1)).2 := by
  obtain ⟨keeps, stores⟩ :=
    shell_workspaces_keep_layouts smallNumbers panelCounts panel_added_orderly
  have changes : keepsEarlierTabs panelAdded.shell (.select 1) ≠ true := by decide
  exact ⟨keeps, (stores (.select 1) rfl (by decide)).mpr fun contrary => absurd contrary changes⟩

/-- Deleting the first workspace leaves two panels stored for the second one, which shows
three. -/
theorem delete_inactive_loses_panel :
    OrderlySession smallNumbers panelCounts panelAdded ∧ panelAdded.shell.activeWorkspaceId = 2 ∧
    panelAdded.shell.layout = some 3 ∧
    panelAdded.shell.handle smallNumbers panelCounts (.delete 1) =
      (true,
        { panelAdded.shell with
          workspaceTabs := [{ id := 2, title := "Workspace-2", snapshot := some 2 }] }) ∧
    ¬ StoresLive panelCounts panelAdded.shell
      (panelAdded.shell.handle smallNumbers panelCounts (.delete 1)).2 := by
  have deleted : panelAdded.shell.handle smallNumbers panelCounts (.delete 1) =
      (true, { panelAdded.shell with
        workspaceTabs := [{ id := 2, title := "Workspace-2", snapshot := some 2 }] }) := by
    decide
  refine ⟨panel_added_orderly, rfl, rfl, deleted, ?_⟩
  rw [deleted]
  intro stores
  have stale : (some 2 : Option Nat) = some 3 :=
    stores 3 rfl { id := 2, title := "Workspace-2", snapshot := some 2 } (by simp) rfl
  exact absurd stale (by decide)

end RuneTerminal.Shell
