import RuneTerminal.Commander.Restart

/-! Everything that builds a pane anew resets its status, so that the message of a failed load is
never kept. -/

namespace RuneTerminal.Commander

open Kit

/-- What the events on loads say about a pane. -/
inductive LoadNews where
  | loading
  | failed (errorMessage : String)
  | hydrated
  deriving DecidableEq

def leavesLoading : Option LoadNews → Bool
  | none | some .loading => true
  | _ => false

def reportedError : Option LoadNews → Option String
  | some (.failed errorMessage) => some errorMessage
  | _ => none

structure PaneStatus.TellsOf (status : PaneStatus) (latest : Option LoadNews) : Prop where
  isLoading : status.isLoading = leavesLoading latest
  errorMessage : status.errorMessage = reportedError latest

namespace StoreEvent

def news : StoreEvent → CommanderPaneId → Option LoadNews
  | .setPaneLoading loading, paneId => if loading = paneId then some .loading else none
  | .setPaneLoadError failing _ errorMessage, paneId =>
    if failing = paneId then some (.failed (errorMessage.getD "Unable to load directory"))
    else none
  | .hydratePaneDirectory payload, paneId =>
    if payload.paneId = paneId then some .hydrated else none
  | _, _ => none

def projects : StoreEvent → Bool
  | .rows (.setSortMode _) => true
  | .rows .toggleShowHidden => true
  | .rows .toggleDirsFirst => true
  | .rows (.setPaneFilterQuery _ _) => true
  | .confirmFilter _ _ => true
  | .clearActivePaneFilter => true
  | _ => false

def rebuilds (widget : CommanderWidget) : StoreEvent → CommanderPaneId → Bool
  | .rows event, paneId => event.rebuilds paneId
  | .confirmFilter filtered _, paneId => filtered = paneId
  | .clearActivePaneFilter, paneId => widget.activePane = paneId
  | _, _ => false

end StoreEvent

/-- No failure is reported for the pane, and a pane that has something to tell is not
built anew. -/
def keepsStatus (paneId : CommanderPaneId) (widget : CommanderWidget) (event : StoreEvent) :
    Bool :=
  match event.news paneId with
  | some (.failed _) => false
  | _ =>
    let status := (widget.getPane paneId).status
    !(event.rebuilds widget paneId && (status.isLoading || status.errorMessage.isSome))

section

variable {host : HostLocale} {widget : CommanderWidget}

theorem reduce_status (event : StoreEvent) (paneId : CommanderPaneId) :
    let before := (widget.getPane paneId).status
    let next := ((widget.reduce host event).getPane paneId).status
    (next.isLoading, next.errorMessage) =
      match event.news paneId with
      | some .loading => (true, none)
      | some _ => (false, none)
      | none =>
        if event.rebuilds widget paneId then (false, none)
        else (before.isLoading, before.errorMessage) := by
  have rows : ∀ event : WidgetEvent,
      let before := (widget.getPane paneId).status
      let next := ((widget.handleRows host.toLocale event).getPane paneId).status
      (next.isLoading, next.errorMessage) =
        if event.rebuilds paneId then (false, none)
        else (before.isLoading, before.errorMessage) := by
    intro event before next
    have status : next = CommanderWidget.statusAfter event paneId before := by
      cases paneId with
      | left | right => rfl
    rw [status, CommanderWidget.statusAfter]
    split
    · rfl
    · rfl
  cases event with
  | rows event => exact rows event
  | setViewMode viewMode =>
    cases paneId with
    | left | right => rfl
  | setPaneLoading loading =>
    cases loading with
    | left | right => cases paneId <;> rfl
  | setPaneLoadError failing path errorMessage =>
    cases failing with
    | left | right => cases paneId <;> rfl
  | hydratePaneDirectory payload =>
    obtain ⟨loaded, _⟩ := payload
    cases loaded with
    | left | right => cases paneId <;> rfl
  | confirmFilter filtered inputValue => exact rows (.setPaneFilterQuery filtered (trim inputValue))
  | confirmSearch searched | stepSearchMatch searched =>
    cases searched with
    | left | right => cases paneId <;> rfl
  | clearActivePaneFilter => exact rows (.setPaneFilterQuery widget.activePane "")

theorem rebuilds_of_news {event : StoreEvent} {paneId : CommanderPaneId} {news : LoadNews}
    (isNews : event.news paneId = some news) : event.rebuilds widget paneId = false := by
  cases event with
  | setPaneLoading | setPaneLoadError | hydratePaneDirectory => rfl
  | _ => cases isNews

theorem tells_of_pair {status : PaneStatus} {latest : Option LoadNews} : status.TellsOf latest ↔
    (status.isLoading, status.errorMessage) = (leavesLoading latest, reportedError latest) := by
  rw [Prod.mk.injEq]
  exact ⟨fun tells => ⟨tells.isLoading, tells.errorMessage⟩, fun same => ⟨same.1, same.2⟩⟩

theorem tells_of_iff {paneId : CommanderPaneId} {latest : Option LoadNews}
    (tells : (widget.getPane paneId).status.TellsOf latest) (event : StoreEvent) :
    ((widget.reduce host event).getPane paneId).status.TellsOf ((event.news paneId).or latest) ↔
    keepsStatus paneId widget event = true := by
  rw [tells_of_pair, reduce_status]
  unfold keepsStatus
  cases isNews : event.news paneId with
  | some news =>
    have unbuilt := @rebuilds_of_news widget _ _ _ isNews
    cases news with
    | loading | hydrated => simp [unbuilt, leavesLoading, reportedError]
    | failed errorMessage => simp [leavesLoading, reportedError]
  | none =>
    dsimp only
    rw [Option.none_or, ← tells.isLoading, ← tells.errorMessage]
    cases built : event.rebuilds widget paneId with
    | false => simp
    | true =>
      cases (widget.getPane paneId).status.isLoading with
      | true => simp
      | false =>
        cases (widget.getPane paneId).status.errorMessage with
        | none | some => simp

end

structure Watched where
  widget : CommanderWidget
  latest : CommanderPaneId → Option LoadNews

def Watched.step (host : HostLocale) (s : Watched) (event : StoreEvent) : Option Watched :=
  some
    { widget := s.widget.reduce host event
      latest := fun paneId => (event.news paneId).or (s.latest paneId) }

structure Watched.Unloaded (s : Watched) : Prop where
  mounted : Mounted s.widget
  silent : ∀ paneId, s.latest paneId = none

theorem mounted_tells {widget : CommanderWidget} (mounted : Mounted widget)
    (paneId : CommanderPaneId) : (widget.getPane paneId).status.TellsOf none := by
  rcases mounted with ⟨persisted, rfl⟩
  cases persisted with
  | none | some =>
    cases paneId with
    | left | right => exact ⟨rfl, rfl⟩

/-- Where no failure is reported for a pane, and nothing but a load builds it anew while it is
loading, its status is that of its latest load. -/
theorem pane_status_is_of_latest_load {host : HostLocale} {paneId : CommanderPaneId}
    {s : Watched} (reachable : Reachable Watched.Unloaded
      (guarded (fun s event => keepsStatus paneId s.widget event) (Watched.step host)) s) :
    let status := (s.widget.getPane paneId).status
    status.isLoading = leavesLoading (s.latest paneId) ∧
      status.errorMessage = reportedError (s.latest paneId) ∧
      ∀ event, event.projects = true → keepsStatus paneId s.widget event = true →
        let next := ((s.widget.reduce host event).getPane paneId).status
        next.isLoading = status.isLoading ∧ next.errorMessage = status.errorMessage := by
  have tells : (s.widget.getPane paneId).status.TellsOf (s.latest paneId) := by
    let invariant (s : Watched) : Prop :=
      (s.widget.getPane paneId).status.TellsOf (s.latest paneId)
    apply reachable.invariant
    · intro first unloaded
      change (first.widget.getPane paneId).status.TellsOf (first.latest paneId)
      rw [unloaded.silent paneId]
      exact mounted_tells unloaded.mounted paneId
    · intro before event after tells taken
      rcases guarded_eq_some.mp taken with ⟨keeps, stepped⟩
      cases stepped
      exact (tells_of_iff tells event).mpr keeps
  refine ⟨tells.isLoading, tells.errorMessage, ?_⟩
  intro event projects keeps
  have silent : event.news paneId = none := by
    cases event with
    | setPaneLoading | setPaneLoadError | hydratePaneDirectory => cases projects
    | _ => rfl
  have told := (@tells_of_iff host _ _ _ tells event).mpr keeps
  rw [silent] at told
  exact ⟨told.isLoading.trans tells.isLoading.symm,
    told.errorMessage.trans tells.errorMessage.symm⟩

def newWidget : Watched where
  widget := createCommanderWidgetRuntimeState none
  latest := fun _ => none

theorem new_widget_unloaded : newWidget.Unloaded := ⟨⟨none, rfl⟩, fun _ => rfl⟩

def loadSortLoad : List StoreEvent :=
  [.setPaneLoading .left,
    .hydratePaneDirectory { paneId := .left, path := "/", directoryEntries := [] },
    .rows (.setSortMode .size), .setPaneLoading .left]

theorem pane_status_is_of_latest_load_here :
    ∃ s,
      Reachable Watched.Unloaded
        (guarded (fun s event => keepsStatus .left s.widget event) (Watched.step plainHost)) s ∧
      (s.widget.getPane .left).status.isLoading = true := by
  have tested : (runActions (guarded (fun s event => keepsStatus .left s.widget event)
      (Watched.step plainHost)) newWidget loadSortLoad).map
        (fun s => decide (s.latest .left = some .loading)) = some true := by decide
  rcases reachable_of_run new_widget_unloaded tested with ⟨s, reachable, loading⟩
  refine ⟨s, reachable, ?_⟩
  rw [(pane_status_is_of_latest_load reachable).1, of_decide_eq_true loading]
  rfl

/-- The message of a failed load is not kept, and a pane that is sorted while it is
loading does not tell that it is. -/
theorem failure_is_not_told : ¬ ∀ (host : HostLocale) (s : Watched) (paneId : CommanderPaneId),
    Reachable Watched.Unloaded (Watched.step host) s →
    (s.widget.getPane paneId).status.isLoading = leavesLoading (s.latest paneId) ∧
    (s.widget.getPane paneId).status.errorMessage = reportedError (s.latest paneId) := by
  intro claimed
  have reported : Watched.step plainHost newWidget (.setPaneLoadError .left none (some "offline")) =
      some _ := rfl
  have told := (claimed plainHost _ .left ((Reachable.start new_widget_unloaded).next reported)).2
  cases told

end RuneTerminal.Commander
