import RuneTerminal.Kit.Transition
import RuneTerminal.Workspace.Catalog

/-! `normalizeCatalog` also reads catalogs that no service wrote. A snapshot with tabs of which none
shows a widget of the snapshot is replaced by the fallback. All others keep id and name. -/

namespace RuneTerminal.Workspace

open Go.Strings Kit List

/-- A snapshot without tabs, or with a named tab that shows a widget under the
widget's own id. -/
def Usable (s : Snapshot) : Prop :=
  s.tabs = [] ∨ ∃ tab ∈ s.tabs, trimSpace tab.id ≠ "" ∧
    ∃ raw ∈ tab.widgetIDs, ∃ widget ∈ s.widgets, widget.id ≠ "" ∧ trimSpace raw = widget.id

instance (s : Snapshot) : Decidable (Usable s) :=
  inferInstanceAs (Decidable (s.tabs = [] ∨ ∃ tab ∈ s.tabs, trimSpace tab.id ≠ "" ∧
    ∃ raw ∈ tab.widgetIDs, ∃ widget ∈ s.widgets, widget.id ≠ "" ∧ trimSpace raw = widget.id))

def normalizedTitle (fallback s : Snapshot) : String × String :=
  (if trimSpace s.id = "" then fallback.id else trimSpace s.id,
    if trimSpace s.name = "" then fallback.name else trimSpace s.name)

variable {id : String} {known : List String}

theorem mem_filter_widget_ids {widgetIDs : List String} :
    id ∈ filterWidgetIDs known widgetIDs ↔
    ∃ raw ∈ widgetIDs, trimSpace raw ≠ "" ∧ trimSpace raw ∈ known ∧ id = trimSpace raw := by
  unfold filterWidgetIDs
  rw [foldl_holds_iff (fun filtered => id ∈ filtered)
    (fun raw => trimSpace raw ≠ "" ∧ trimSpace raw ∈ known ∧ id = trimSpace raw)]
  · simp
  intro filtered raw
  dsimp only
  split_ifs with blank kept isKnown
  · simp [blank]
  · constructor
    · exact .inl
    · rintro (mem | ⟨_, _, rfl⟩)
      · exact mem
      · exact kept
  · simp [blank, isKnown]
  · simp [isKnown]

variable {widgets : List Widget}

theorem referenced_nonempty_iff {referenced : List String} :
    referencedWidgets referenced widgets ≠ [] ↔ ∃ widget ∈ widgets, widget.id ∈ referenced := by
  unfold referencedWidgets
  rw [foldl_holds_iff (fun kept => kept ≠ []) (fun widget => widget.id ∈ referenced)]
  · simp
  intro kept widget
  split_ifs with isReferenced alreadyKept
  · have nonempty : kept ≠ [] := by
      rintro rfl
      cases alreadyKept
    simp [nonempty]
  · simp [isReferenced]
  · simp [isReferenced]

theorem mem_known_widget_ids {widgetID : String} :
    widgetID ∈ knownWidgetIDs widgets ↔
      widgetID ≠ "" ∧ ∃ widget ∈ widgets, trimSpace widget.id = widgetID := by
  simp [knownWidgetIDs, and_comm]

theorem normalize_tab_eq_some {tab next : Tab} :
    normalizeTab known tab = some next ↔
    trimSpace tab.id ≠ "" ∧ filterWidgetIDs known tab.widgetIDs ≠ [] ∧
      next =
        { tab with id := trimSpace tab.id, widgetIDs := filterWidgetIDs known tab.widgetIDs } := by
  unfold normalizeTab
  by_cases blank : trimSpace tab.id = ""
  · simp [blank]
  by_cases noneShown : filterWidgetIDs known tab.widgetIDs = []
  · simp [noneShown]
  · simp only [blank, if_false, List.isEmpty_iff, noneShown, Option.some.injEq, ne_eq,
      not_false_eq_true, true_and]
    exact eq_comm

theorem mem_kept_widget_ids {tabs : List Tab} :
    id ∈ (tabs.filterMap (normalizeTab known)).flatMap Tab.widgetIDs ↔
      ∃ tab ∈ tabs, trimSpace tab.id ≠ "" ∧ id ∈ filterWidgetIDs known tab.widgetIDs := by
  rw [mem_flatMap]
  constructor
  · rintro ⟨next, mem, shown⟩
    obtain ⟨tab, tabMember, kept⟩ := mem_filterMap.mp mem
    obtain ⟨named, _, rfl⟩ := normalize_tab_eq_some.mp kept
    exact ⟨tab, tabMember, named, shown⟩
  · rintro ⟨tab, mem, named, shown⟩
    refine ⟨_, mem_filterMap.mpr ⟨tab, mem, normalize_tab_eq_some.mpr
      ⟨named, ne_nil_of_mem shown, rfl⟩⟩, shown⟩

variable {s : Snapshot}

theorem usable_iff_widgets (hasTabs : s.tabs ≠ []) :
    Usable s ↔
    referencedWidgets
      ((s.tabs.filterMap (normalizeTab (knownWidgetIDs s.widgets))).flatMap Tab.widgetIDs)
      s.widgets ≠
      [] := by
  rw [referenced_nonempty_iff]
  constructor
  · rintro (noTabs | ⟨tab, tabMember, named, raw, shown, widget, mem, nonblank, same⟩)
    · exact absurd noTabs hasTabs
    -- The widget's id is a trimmed text, so it is the widget's key as well.
    have trimmed : trimSpace widget.id = widget.id := by
      rw [← same, trim_space_twice]
    refine ⟨widget, mem, mem_kept_widget_ids.mpr ⟨tab, tabMember, named,
      mem_filter_widget_ids.mpr ⟨raw, shown, ?_, ?_, same.symm⟩⟩⟩
    · rwa [same]
    · rw [same]
      exact mem_known_widget_ids.mpr ⟨nonblank, widget, mem, trimmed⟩
  · rintro ⟨widget, mem, kept⟩
    obtain ⟨tab, tabMember, named, filtered⟩ := mem_kept_widget_ids.mp kept
    obtain ⟨raw, shown, nonblank, _, same⟩ := mem_filter_widget_ids.mp filtered
    refine .inr ⟨tab, tabMember, named, raw, shown, widget, mem, ?_, same.symm⟩
    rwa [same]

theorem snapshot_title (usable : Usable s) (fallback : Snapshot) :
    ((normalizeSnapshot s fallback).id, (normalizeSnapshot s fallback).name) =
    normalizedTitle fallback s := by
  by_cases noTabs : s.tabs = []
  · simp only [normalizeSnapshot, noTabs, filterMap_nil, isEmpty_nil, if_true]
    rfl
  have widgets := (usable_iff_widgets noTabs).mp usable
  unfold normalizeSnapshot
  dsimp only
  split
  next noneKept =>
    rw [noneKept, referenced_nonempty_iff] at widgets
    obtain ⟨_, _, mem⟩ := widgets
    cases mem
  · rw [if_neg (by rw [List.isEmpty_iff]; exact widgets)]
    rfl

theorem snapshot_unusable (unusable : ¬Usable s) (fallback : Snapshot) :
    normalizeSnapshot s fallback = fallback := by
  have hasTabs : s.tabs ≠ [] := fun noTabs => unusable (.inl noTabs)
  have noWidgets := not_not.mp ((usable_iff_widgets hasTabs).not.mp unusable)
  unfold normalizeSnapshot
  dsimp only
  split
  · rw [if_neg (by rw [List.isEmpty_iff]; exact hasTabs)]
  · rw [if_pos (by rw [List.isEmpty_iff]; exact noWidgets)]

/-- One round of the loop of `normalizeCatalog`. -/
def collectWorkspace (fallback : Snapshot) (kept : List Snapshot) (s : Snapshot) :
    List Snapshot :=
  let next := normalizeSnapshot s fallback
  if next.id = "" then kept
  else if workspaceExists kept next.id then kept
  else kept ++ [next]

theorem normalize_workspaces_eq (fallback : Snapshot) (workspaces : List Snapshot) :
    normalizeWorkspaces fallback workspaces = workspaces.foldl (collectWorkspace fallback) [] :=
  rfl

variable {fallback : Snapshot}

section

variable {kept : List Snapshot}

theorem collect_workspace_cases (fallback s : Snapshot) (kept : List Snapshot) :
    collectWorkspace fallback kept s = kept ∨
      ((normalizeSnapshot s fallback).id ≠ "" ∧
        (normalizeSnapshot s fallback).id ∉ kept.map Snapshot.id ∧
        collectWorkspace fallback kept s = kept ++ [normalizeSnapshot s fallback]) := by
  unfold collectWorkspace
  dsimp only
  split_ifs with blank known
  · exact .inl rfl
  · exact .inl rfl
  · exact .inr ⟨blank, mt workspace_exists_iff.mpr known, rfl⟩

theorem snapshot_id (usable : Usable s) (clean : CleanID s.id) (fallback : Snapshot) :
    (normalizeSnapshot s fallback).id = s.id := by
  have title := congrArg Prod.fst (snapshot_title usable fallback)
  simpa only [normalizedTitle, clean.1, clean.2, if_false] using title

theorem collect_workspace_usable (usable : Usable s) (clean : CleanID s.id)
    (fresh : s.id ∉ kept.map Snapshot.id) :
    collectWorkspace fallback kept s = kept ++ [normalizeSnapshot s fallback] := by
  have notKept : ¬workspaceExists kept s.id = true := by
    rwa [workspace_exists_iff]
  unfold collectWorkspace
  dsimp only
  rw [snapshot_id usable clean, if_neg clean.2, if_neg notKept]

theorem collect_workspace_fallback (sameID : (normalizeSnapshot s fallback).id = fallback.id) :
    (collectWorkspace fallback kept s).filter (·.id ≠ fallback.id) =
    kept.filter (·.id ≠ fallback.id) := by
  rcases collect_workspace_cases fallback s kept with same | ⟨_, _, appended⟩
  · rw [same]
  · rw [appended, filter_append, filter_cons_of_neg (by simp [sameID]),
      filter_nil, append_nil]

theorem normalize_workspaces_filter {rest : List Snapshot}
    (clean : ∀ entry ∈ rest, CleanID entry.id) (nodup : (rest.map Snapshot.id).Nodup)
    (fresh : ∀ entry ∈ rest, entry.id ≠ fallback.id → entry.id ∉ kept.map Snapshot.id) :
    (rest.foldl (collectWorkspace fallback) kept).filter (·.id ≠ fallback.id) =
      kept.filter (·.id ≠ fallback.id) ++
        (rest.filter fun entry => entry.id ≠ fallback.id ∧ Usable entry).map
          (normalizeSnapshot · fallback) := by
  induction rest generalizing kept with
  | nil => simp
  | cons entry rest ih =>
    have cleanEntry := clean entry mem_cons_self
    rw [map_cons, nodup_cons] at nodup
    rw [foldl_cons, ih (fun other mem => clean other (mem_cons_of_mem _ mem))
      nodup.2]
    · by_cases isOwn : entry.id ≠ fallback.id ∧ Usable entry
      · have sameID := snapshot_id isOwn.2 cleanEntry fallback
        have isFresh := fresh entry mem_cons_self isOwn.1
        rw [collect_workspace_usable isOwn.2 cleanEntry isFresh, filter_append,
          filter_cons_of_pos (by simpa [sameID] using isOwn.1), filter_nil,
          filter_cons_of_pos (by simpa using isOwn), map_cons, append_assoc,
          singleton_append]
      · rw [collect_workspace_fallback, filter_cons_of_neg (by simpa using isOwn)]
        by_cases usable : Usable entry
        · rw [snapshot_id usable cleanEntry]
          exact not_not.mp fun other => isOwn ⟨other, usable⟩
        · rw [snapshot_unusable usable]
    · intro other mem otherID
      have notKept := fresh other (mem_cons_of_mem _ mem) otherID
      rcases collect_workspace_cases fallback entry kept with same | ⟨_, _, appended⟩
      · rwa [same]
      rw [appended, map_append, mem_append, map_singleton, mem_singleton]
      rintro (isKept | isEntry)
      · exact notKept isKept
      by_cases usable : Usable entry
      · rw [snapshot_id usable cleanEntry] at isEntry
        exact nodup.1 (isEntry ▸ mem_map.mpr ⟨other, mem, rfl⟩)
      · rw [snapshot_unusable usable] at isEntry
        exact otherID isEntry

theorem normalize_workspaces_distinct {workspaces : List Snapshot}
    (named : ∀ entry ∈ workspaces, (normalizeSnapshot entry fallback).id ≠ "")
    (nodup : (workspaces.map fun entry => (normalizeSnapshot entry fallback).id).Nodup) :
    normalizeWorkspaces fallback workspaces = workspaces.map (normalizeSnapshot · fallback) := by
  rw [normalize_workspaces_eq]
  induction workspaces using reverseRecOn with
  | nil => rfl
  | append_singleton before entry ih =>
    rw [map_append, nodup_append] at nodup
    rw [foldl_append, map_append, ih (fun other mem => named other (by simp [mem])) nodup.1]
    rcases collect_workspace_cases fallback entry (before.map (normalizeSnapshot · fallback)) with
      same | ⟨_, _, appended⟩
    · have fresh : (normalizeSnapshot entry fallback).id ∉
          (before.map (normalizeSnapshot · fallback)).map Snapshot.id := by
        intro mem
        rw [map_map] at mem
        exact nodup.2.2 _ mem _ (by simp) rfl
      simp [collectWorkspace, named entry (by simp), mt workspace_exists_iff.mp fresh]
    · exact appended

theorem normalize_workspaces_length (fallback : Snapshot) (workspaces : List Snapshot) :
    (normalizeWorkspaces fallback workspaces).length ≤ workspaces.length ∧
    ((normalizeWorkspaces fallback workspaces).length = workspaces.length →
      normalizeWorkspaces fallback workspaces = workspaces.map (normalizeSnapshot · fallback)) := by
  rw [normalize_workspaces_eq]
  induction workspaces using reverseRecOn with
  | nil => exact ⟨Nat.le_refl 0, fun _ => rfl⟩
  | append_singleton before entry ih =>
    rw [foldl_append, foldl_cons, foldl_nil, length_append, length_singleton]
    rcases collect_workspace_cases fallback entry (before.foldl (collectWorkspace fallback) [])
      with same | ⟨_, _, appended⟩
    · rw [same]
      constructor
      · exact Nat.le_succ_of_le ih.1
      · intro long
        exact absurd ih.1 (by omega)
    · rw [appended, length_append, length_singleton]
      constructor
      · exact Nat.succ_le_succ ih.1
      · intro long
        rw [ih.2 (Nat.succ.inj long), map_append, map_singleton]

theorem normalize_workspaces_usable {workspaces : List Snapshot}
    (clean : ∀ entry ∈ workspaces, CleanID entry.id) (nodup : (workspaces.map Snapshot.id).Nodup)
    (usable : ∀ entry ∈ workspaces, Usable entry) :
    normalizeWorkspaces fallback workspaces = workspaces.map (normalizeSnapshot · fallback) := by
  have sameID : ∀ entry ∈ workspaces, (normalizeSnapshot entry fallback).id = entry.id :=
    fun entry mem => snapshot_id (usable entry mem) (clean entry mem) fallback
  apply normalize_workspaces_distinct
  · intro entry mem
    rw [sameID entry mem]
    exact (clean entry mem).2
  · rwa [map_congr_left sameID]

end

def Snapshot.title (s : Snapshot) : String × String := (s.id, s.name)

/-- A workspace under its own id, with its trimmed name or, for want of one, the
fallback's. -/
def keptTitle (fallback s : Snapshot) : String × String :=
  (s.id, if trimSpace s.name = "" then fallback.name else trimSpace s.name)

theorem normalized_titles {entries : List Snapshot} (fallback : Snapshot)
    (clean : ∀ entry ∈ entries, CleanID entry.id) (usable : ∀ entry ∈ entries, Usable entry) :
    (entries.map (normalizeSnapshot · fallback)).map Snapshot.title =
    entries.map (keptTitle fallback) := by
  rw [map_map]
  apply map_congr_left
  intro entry mem
  have title := snapshot_title (usable entry mem) fallback
  simp only [normalizedTitle, (clean entry mem).1, (clean entry mem).2] at title
  exact title

variable {catalog : Catalog}

theorem normalize_catalog_workspaces
    (nonempty : normalizeWorkspaces fallback catalog.workspaces ≠ []) :
    (normalizeCatalog catalog fallback).workspaces =
    normalizeWorkspaces fallback catalog.workspaces := by
  unfold normalizeCatalog
  dsimp only
  split
  · next noneKept => exact absurd noneKept nonempty
  · rfl

/-- Normalization leaves the id and the name: the workspace is usable and has a trimmed name or the
fallback's blank one, or it has the id and the name of the fallback it becomes. -/
def KeepsTitle (fallback s : Snapshot) : Prop :=
  (Usable s ∧ keptTitle fallback s = s.title) ∨ (¬Usable s ∧ fallback.title = s.title)

theorem keeps_title_iff (clean : CleanID s.id) :
    (normalizeSnapshot s fallback).title = s.title ↔ KeepsTitle fallback s := by
  by_cases usable : Usable s
  · have title := snapshot_title usable fallback
    simp only [normalizedTitle, clean.1, clean.2, if_false] at title
    rw [Snapshot.title, title]
    simp only [KeepsTitle, usable, keptTitle, true_and, not_true_eq_false, false_and, or_false]
  · rw [snapshot_unusable usable]
    simp only [KeepsTitle, usable, false_and, not_false_eq_true, true_and, false_or]

section

variable (clean : ∀ entry ∈ catalog.workspaces, CleanID entry.id)
include clean

theorem titles_of_keeps (nonempty : catalog.workspaces ≠ [])
    (distinct : (catalog.workspaces.map Snapshot.id).Nodup)
    (keeps : ∀ entry ∈ catalog.workspaces, KeepsTitle fallback entry) :
    (normalizeCatalog catalog fallback).workspaces.map Snapshot.title =
      catalog.workspaces.map Snapshot.title := by
  have same : ∀ entry ∈ catalog.workspaces,
      (normalizeSnapshot entry fallback).title = entry.title :=
    fun entry mem => (keeps_title_iff (clean entry mem)).mpr (keeps entry mem)
  have sameID : ∀ entry ∈ catalog.workspaces, (normalizeSnapshot entry fallback).id = entry.id :=
    fun entry mem => congrArg Prod.fst (same entry mem)
  have all : normalizeWorkspaces fallback catalog.workspaces =
      catalog.workspaces.map (normalizeSnapshot · fallback) := by
    apply normalize_workspaces_distinct
    · intro entry mem
      rw [sameID entry mem]
      exact (clean entry mem).2
    · rwa [map_congr_left sameID]
  rw [normalize_catalog_workspaces, all, map_map]
  · exact map_congr_left same
  · rw [all]
    simpa using nonempty

theorem keeps_of_titles
    (same : (normalizeCatalog catalog fallback).workspaces.map Snapshot.title =
      catalog.workspaces.map Snapshot.title) :
    (catalog.workspaces ≠ [] ∧ ∀ entry ∈ catalog.workspaces, KeepsTitle fallback entry) ∨
    (fallback.id = "" ∧
      ∃ entry, catalog.workspaces = [entry] ∧ ¬Usable entry ∧
        (normalizeSnapshot fallback bootstrapDefault).title = entry.title) := by
  by_cases noneKept : normalizeWorkspaces fallback catalog.workspaces = []
  · simp only [normalizeCatalog, noneKept, bootstrapCatalog, map_singleton] at same
    obtain ⟨entry, alone, title⟩ := map_eq_singleton_iff.mp same.symm
    have cleanEntry : CleanID entry.id := clean entry (alone ▸ mem_singleton_self entry)
    rw [alone] at noneKept
    have dropped : (normalizeSnapshot entry fallback).id = "" := by
      apply not_not.mp
      intro named
      rw [@normalize_workspaces_distinct fallback [entry] (by simpa using named)
        (nodup_singleton _)] at noneKept
      cases noneKept
    have unusable : ¬Usable entry := by
      intro usable
      rw [snapshot_id usable cleanEntry] at dropped
      exact cleanEntry.2 dropped
    rw [snapshot_unusable unusable] at dropped
    exact .inr ⟨dropped, entry, alone, unusable, title.symm⟩
  rw [normalize_catalog_workspaces noneKept] at same
  have long := congrArg length same
  rw [length_map, length_map] at long
  have all := (normalize_workspaces_length fallback catalog.workspaces).2 long
  rw [all, map_map, map_inj_left] at same
  refine .inl ⟨?_, fun entry mem => (keeps_title_iff (clean entry mem)).mp (same entry mem)⟩
  rintro noWorkspaces
  rw [noWorkspaces] at noneKept
  exact noneKept rfl

end

/-- Usable workspaces come through normalization in their order, under their ids and names: all of
them when no other entry is there, and in any case those without the fallback's id. -/
theorem normalize_catalog_keeps_workspaces (catalog : Catalog) (fallback : Snapshot)
    (clean : ∀ entry ∈ catalog.workspaces, CleanID entry.id)
    (distinct : (catalog.workspaces.map Snapshot.id).Nodup) :
    ((normalizeCatalog catalog fallback).workspaces.map Snapshot.title =
        catalog.workspaces.map Snapshot.title ↔
      (catalog.workspaces ≠ [] ∧ ∀ entry ∈ catalog.workspaces, KeepsTitle fallback entry) ∨
        (fallback.id = "" ∧
          ∃ entry, catalog.workspaces = [entry] ∧ ¬Usable entry ∧
            (normalizeSnapshot fallback bootstrapDefault).title = entry.title)) ∧
    (catalog.workspaces ≠ [] → (∀ entry ∈ catalog.workspaces, Usable entry) →
      (normalizeCatalog catalog fallback).workspaces.map Snapshot.title =
        catalog.workspaces.map (keptTitle fallback)) ∧
    ((catalog.workspaces.filter fun entry => entry.id ≠ fallback.id ∧ Usable entry).map
      (keptTitle fallback)).Sublist
      ((normalizeCatalog catalog fallback).workspaces.map Snapshot.title) ∧
    ∀ entry ∈ catalog.workspaces, ¬Usable entry → normalizeSnapshot entry fallback = fallback := by
  refine ⟨⟨keeps_of_titles clean, ?_⟩, ?_, ?_,
    fun entry _ unusable => snapshot_unusable unusable fallback⟩
  · rintro (⟨nonempty, keeps⟩ | ⟨unnamed, entry, alone, unusable, title⟩)
    · exact titles_of_keeps clean nonempty distinct keeps
    have dropped : normalizeWorkspaces fallback [entry] = [] := by
      simp [normalize_workspaces_eq, collectWorkspace, snapshot_unusable unusable,
        unnamed]
    simp only [normalizeCatalog, alone, dropped, bootstrapCatalog, map_singleton, title]
  · intro nonempty usable
    have all : normalizeWorkspaces fallback catalog.workspaces =
        catalog.workspaces.map (normalizeSnapshot · fallback) :=
      normalize_workspaces_usable clean distinct usable
    rw [normalize_catalog_workspaces, all, normalized_titles fallback clean usable]
    rw [all]
    simpa using nonempty
  have noneKept : ∀ entry ∈ catalog.workspaces, entry.id ≠ fallback.id →
      entry.id ∉ ([] : List Snapshot).map Snapshot.id := by simp
  have filtered := normalize_workspaces_filter clean distinct noneKept
  rw [filter_nil, nil_append, ← normalize_workspaces_eq] at filtered
  rw [← normalized_titles fallback]
  · rw [← filtered]
    by_cases noneKept : normalizeWorkspaces fallback catalog.workspaces = []
    · rw [noneKept]
      exact nil_sublist _
    · rw [normalize_catalog_workspaces noneKept]
      exact filter_sublist.map _
  · intro entry mem
    exact clean entry (mem_filter.mp mem).1
  · intro entry mem
    exact (of_decide_eq_true (mem_filter.mp mem).2).2

def damagedWorkspace (id name : String) : Snapshot :=
  { bootstrapDefault with
    id := id, name := name, tabs := [{ id := "tab", title := "", widgetIDs := [] }], widgets := [] }

theorem normalize_catalog_keeps_workspaces_bootstrap :
    (normalizeCatalog { activeWorkspaceID := "ws-local", workspaces := [bootstrapDefault] }
      (damagedWorkspace "ws-a" "A")).workspaces.map Snapshot.title =
      [("ws-local", "Local Workspace")] :=
  (normalize_catalog_keeps_workspaces
    { activeWorkspaceID := "ws-local", workspaces := [bootstrapDefault] }
    (damagedWorkspace "ws-a" "A") (by decide) (by decide)).2.1 (by decide) (by decide)

def damagedCatalog : Catalog where
  activeWorkspaceID := "ws-a"
  workspaces := [damagedWorkspace "ws-a" "A", { bootstrapDefault with name := "Mine" }]

/-- A damaged workspace gives way to the fallback, which takes the place of the workspace with
its id. -/
theorem normalize_catalog_changes_titles :
    (∀ entry ∈ damagedCatalog.workspaces, CleanID entry.id ∧ CleanID entry.name) ∧
      (damagedCatalog.workspaces.map Snapshot.id).Nodup ∧
      damagedCatalog.workspaces.map Snapshot.title = [("ws-a", "A"), ("ws-local", "Mine")] ∧
      (normalizeCatalog damagedCatalog bootstrapDefault).workspaces.map Snapshot.title =
        [("ws-local", "Local Workspace")] := by
  decide

/-- What every run of the catalog store keeps. -/
structure SoundCatalog (catalog : Catalog) : Prop where
  nonempty : catalog.workspaces ≠ []
  cleanIDs : ∀ s ∈ catalog.workspaces, CleanID s.id
  cleanNames : ∀ s ∈ catalog.workspaces, CleanID s.name
  distinctIDs : (catalog.workspaces.map Snapshot.id).Nodup
  active : ∃ s ∈ catalog.workspaces, s.id = catalog.activeWorkspaceID

theorem normalize_snapshot_clean (cleanID : CleanID fallback.id) (cleanName : CleanID fallback.name)
    (s : Snapshot) :
    CleanID (normalizeSnapshot s fallback).id ∧ CleanID (normalizeSnapshot s fallback).name := by
  by_cases usable : Usable s
  · have title := snapshot_title usable fallback
    rw [normalizedTitle, Prod.mk.injEq] at title
    rw [title.1, title.2]
    constructor
    · split_ifs with blank
      · exact cleanID
      · exact clean_id_trim blank
    · split_ifs with blank
      · exact cleanName
      · exact clean_id_trim blank
  · rw [snapshot_unusable usable]
    exact ⟨cleanID, cleanName⟩

theorem normalize_workspaces_sound (workspaces : List Snapshot) :
    (∀ s ∈ normalizeWorkspaces bootstrapDefault workspaces, CleanID s.id ∧ CleanID s.name) ∧
    ((normalizeWorkspaces bootstrapDefault workspaces).map Snapshot.id).Nodup := by
  rw [normalize_workspaces_eq]
  induction workspaces using reverseRecOn with
  | nil => simp
  | append_singleton before entry ih =>
    rw [foldl_append, foldl_cons, foldl_nil]
    rcases collect_workspace_cases bootstrapDefault entry
      (before.foldl (collectWorkspace bootstrapDefault) []) with same | ⟨_, fresh, appended⟩
    · rw [same]
      exact ih
    rw [appended, map_append, nodup_append]
    refine ⟨?_, ih.2, nodup_singleton _, ?_⟩
    · intro s mem
      rcases mem_append.mp mem with mem | last
      · exact ih.1 s mem
      · rw [mem_singleton.mp last]
        exact normalize_snapshot_clean (by decide) (by decide) entry
    · intro keptID mem lastID last same
      rw [mem_singleton.mp last] at same
      exact fresh (same ▸ mem)

theorem bootstrap_catalog_sound : SoundCatalog (bootstrapCatalog bootstrapDefault) := by
  have normal := bootstrap_catalog_normal default_normal
  exact ⟨by simp [bootstrapCatalog], fun s mem => (normal.normal s mem).cleanID,
    fun s mem => (normal.normal s mem).cleanName, normal.distinctIDs, normal.active⟩

theorem normalize_catalog_sound (candidate : Catalog) :
    SoundCatalog (normalizeCatalog candidate bootstrapDefault) := by
  obtain ⟨clean, nodup⟩ := normalize_workspaces_sound candidate.workspaces
  unfold normalizeCatalog
  dsimp only
  split
  · exact bootstrap_catalog_sound
  next first rest kept =>
    have firstKept : first ∈ normalizeWorkspaces bootstrapDefault candidate.workspaces := by
      rw [kept]
      exact mem_cons_self
    refine ⟨ne_nil_of_mem firstKept, fun s mem => (clean s mem).1,
      fun s mem => (clean s mem).2, nodup, ?_⟩
    split
    next found =>
      obtain ⟨mem, sameID⟩ := find_workspace_spec found
      refine ⟨_, mem, sameID.trans ?_⟩
      split_ifs
      · exact (clean first firstKept).1.1
      · exact trim_space_twice _
    · exact ⟨first, firstKept, rfl⟩

inductive StoreAction where
  | replace (catalog : Catalog)
  | setActiveSnapshot (snapshot : Snapshot)
  | switchActive (workspaceID : String)
  | upsert (snapshot : Snapshot)
  | delete (workspaceID : String)

namespace StoreAction

def perform (action : StoreAction) (catalog : Catalog) : Option WorkspaceError × Catalog :=
  match action with
  | .replace next => (none, Catalog.replace next)
  | .setActiveSnapshot snapshot => (none, catalog.setActiveSnapshot snapshot)
  | .switchActive workspaceID =>
    match catalog.switchActive workspaceID with
    | (.error err, next) => (some err, next)
    | (.ok _, next) => (none, next)
  | .upsert snapshot => (none, catalog.upsert snapshot)
  | .delete workspaceID =>
    match catalog.delete workspaceID with
    | (.error err, next) => (some err, next)
    | (.ok _, next) => (none, next)

def step (catalog : Catalog) (action : StoreAction) : Option Catalog :=
  some (action.perform catalog).2

theorem perform_error {action : StoreAction} {next : Catalog} {err : WorkspaceError}
    (failed : action.perform catalog = (some err, next)) : next = catalog := by
  cases action with
  | replace | setActiveSnapshot | upsert => cases failed
  | switchActive id =>
    simp only [perform] at failed
    split at failed
    next outcome =>
      cases failed
      exact switch_active_error outcome
    · cases failed
  | delete id =>
    simp only [perform] at failed
    split at failed
    next outcome =>
      cases failed
      exact delete_error outcome
    · cases failed

end StoreAction

section

section

variable (sound : SoundCatalog catalog)
include sound

theorem switch_active_sound (id : String) : SoundCatalog (catalog.switchActive id).2 := by
  unfold Catalog.switchActive
  dsimp only
  split
  · exact sound
  next snapshot found =>
    obtain ⟨mem, sameID⟩ := find_workspace_spec found
    exact ⟨sound.nonempty, sound.cleanIDs, sound.cleanNames, sound.distinctIDs,
      ⟨snapshot, mem, sameID.trans (trim_space_twice id)⟩⟩

theorem delete_sound (id : String) : SoundCatalog (catalog.delete id).2 := by
  unfold Catalog.delete
  dsimp only
  split
  · exact sound
  cases remaining : catalog.workspaces.filter (·.id ≠ trimSpace id) with
  | nil => exact bootstrap_catalog_sound
  | cons first rest =>
    have isSublist : (first :: rest).Sublist catalog.workspaces := by
      rw [← remaining]
      exact filter_sublist
    refine ⟨by simp, fun s mem => sound.cleanIDs s (isSublist.subset mem),
      fun s mem => sound.cleanNames s (isSublist.subset mem),
      sound.distinctIDs.sublist (isSublist.map Snapshot.id), ?_⟩
    dsimp only
    split_ifs with isActive
    · exact ⟨first, mem_cons_self, rfl⟩
    obtain ⟨active, mem, sameID⟩ := sound.active
    refine ⟨active, ?_, sameID⟩
    rw [← remaining, mem_filter]
    exact ⟨mem, by simpa [sameID] using isActive⟩

theorem StoreAction.perform_sound (action : StoreAction) :
    SoundCatalog (action.perform catalog).2 := by
  cases action with
  | replace next => exact normalize_catalog_sound next
  | setActiveSnapshot | upsert => exact normalize_catalog_sound _
  | switchActive id =>
    have switched := switch_active_sound sound id
    simp only [perform]
    split
    · next outcome => rwa [outcome] at switched
    · next outcome => rwa [outcome] at switched
  | delete id =>
    have deleted := delete_sound sound id
    simp only [perform]
    split
    · next outcome => rwa [outcome] at deleted
    · next outcome => rwa [outcome] at deleted

end

theorem delete_only_workspace (only : catalog.workspaces.map Snapshot.id = [trimSpace id]) :
    (catalog.delete id).2 =
      { activeWorkspaceID := bootstrapDefault.id, workspaces := [bootstrapDefault] } := by
  obtain ⟨s, alone, sameID⟩ := map_eq_singleton_iff.mp only
  have known : workspaceExists catalog.workspaces (trimSpace id) = true := by
    rw [workspace_exists_iff, only]
    exact mem_singleton_self _
  have noneLeft : catalog.workspaces.filter (·.id ≠ trimSpace id) = [] := by
    rw [alone, filter_cons_of_neg (by simp [sameID]), filter_nil]
  unfold Catalog.delete
  simp only [known, Bool.not_true, Bool.false_eq_true, if_false, noneLeft,
    normalize_snapshot_identity default_normal]

end

def NewStore (catalog : Catalog) : Prop :=
  ∃ given, catalog = Catalog.newCatalogStore given

/-- The catalog stays sound, a call that fails changes nothing, and the deletion of the only
workspace puts the default one in its place. -/
theorem catalog_store_sound {catalog : Catalog}
    (reachable : Kit.Reachable NewStore StoreAction.step catalog) :
    SoundCatalog catalog ∧
    (∀ (action : StoreAction) (err : WorkspaceError) (next : Catalog),
      action.perform catalog = (some err, next) → next = catalog) ∧
    (∀ workspaceID : String, catalog.workspaces.map Snapshot.id = [trimSpace workspaceID] →
      ((StoreAction.delete workspaceID).perform catalog).2 =
        { activeWorkspaceID := bootstrapDefault.id, workspaces := [bootstrapDefault] }) := by
  refine ⟨?_, fun _ _ _ => StoreAction.perform_error, ?_⟩
  · apply reachable.invariant
    · rintro first ⟨given, rfl⟩
      exact normalize_catalog_sound given
    · intro before action next sound taken
      cases taken
      exact StoreAction.perform_sound sound action
  · intro workspaceID only
    have replaced := delete_only_workspace only
    simp only [StoreAction.perform]
    split
    · next outcome => rwa [outcome] at replaced
    · next outcome => rwa [outcome] at replaced

def singleStore : Catalog :=
  Catalog.newCatalogStore
    { activeWorkspaceID := "ws-b", workspaces := [{ bootstrapDefault with id := "ws-b" }] }

theorem catalog_store_sound_single :
    SoundCatalog singleStore ∧
      ((StoreAction.delete "ws-b").perform singleStore).2 =
        { activeWorkspaceID := "ws-local", workspaces := [bootstrapDefault] } :=
  have sound := catalog_store_sound (Kit.Reachable.start ⟨_, rfl⟩ :
    Kit.Reachable NewStore StoreAction.step singleStore)
  ⟨sound.1, sound.2.2 "ws-b" (by decide)⟩

theorem delete_removes_last_workspace :
    singleStore.workspaces.map Snapshot.id = ["ws-b"] ∧
      ((StoreAction.delete "ws-b").perform singleStore).1 = none ∧
      ((StoreAction.delete "ws-b").perform singleStore).2.workspaces.map Snapshot.id =
        ["ws-local"] := by
  decide

end RuneTerminal.Workspace
