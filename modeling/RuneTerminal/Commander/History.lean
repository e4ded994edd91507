import RuneTerminal.Commander.Restart

/-! `setPanePath`, `goPaneParent`, `goPaneBack` and `goPaneForward` of `hooks.ts`. The two stacks of
a pane are the history of a browser as long as loads succeed. -/

namespace RuneTerminal.Commander

open Kit List Option

/-- The pages that were visited in their order, and which of them is shown. -/
structure Browser (Page : Type) where
  visited : List Page
  position : Nat
  deriving DecidableEq

inductive Navigation (Page : Type) where
  | push (page : Page)
  | back
  | forward

namespace Browser

variable {Page : Type}

def go (browser : Browser Page) : Navigation Page → Browser Page
  | .push page =>
    { visited := browser.visited.take (browser.position + 1) ++ [page]
      position := browser.position + 1 }
  | .back => { browser with position := browser.position - 1 }
  | .forward => { browser with position := browser.position + 1 }

/-- The pages behind, with the last one last, the page shown, and the pages ahead, with
the next one last. -/
def ofStacks (back : List Page) (page : Page) (forward : List Page) : Browser Page where
  visited := back ++ page :: forward.reverse
  position := back.length

theorem of_stacks_inj {back back' forward forward' : List Page} {page page' : Page}
    (same : ofStacks back page forward = ofStacks back' page' forward') :
    back = back' ∧ page = page' ∧ forward = forward' := by
  have visited := congrArg visited same
  have length : back.length = back'.length := congrArg position same
  rcases append_inj visited length with ⟨sameBack, rest⟩
  rcases cons.inj rest with ⟨samePage, reversed⟩
  exact ⟨sameBack, samePage, reverse_injective reversed⟩

theorem of_stacks_push (back forward : List Page) (page new : Page) :
    (ofStacks back page forward).go (.push new) = ofStacks (back ++ [page]) new [] := by
  have kept : (back ++ page :: forward.reverse).take (back.length + 1) = back ++ [page] := by
    rw [take_append, take_of_length_le (Nat.le_succ _), Nat.add_sub_cancel_left]
    rfl
  unfold go ofStacks
  simp [kept]

theorem of_stacks_back (back forward : List Page) (page last : Page) :
    (ofStacks (back ++ [last]) page forward).go .back = ofStacks back last (forward ++ [page]) := by
  unfold go ofStacks
  simp

theorem of_stacks_forward (back forward : List Page) (page next : Page) :
    (ofStacks back page (forward ++ [next])).go .forward =
    ofStacks (back ++ [page]) next forward := by
  unfold go ofStacks
  simp

end Browser

structure PaneLoad where
  paneId : CommanderPaneId
  navigation : Navigation String
  answer : Except String (List CommanderDirectoryEntry)

def CommanderPane.browser (pane : CommanderPane) : Browser String :=
  .ofStacks pane.status.historyBack pane.rows.path pane.status.historyForward

namespace Navigation

def historyMode : Navigation String → HistoryMode
  | .push _ => .push
  | .back => .back
  | .forward => .forward

def target (pane : CommanderPane) : Navigation String → Option String
  | .push path => truthy (some path)
  | .back => truthy pane.status.historyBack.getLast?
  | .forward => truthy pane.status.historyForward.getLast?

end Navigation

namespace CommanderWidget

/-- `loadPaneDirectory` with the path of a navigation. -/
def loadPaneDirectory (host : HostLocale) (widget : CommanderWidget) (paneId : CommanderPaneId)
    (path : String) (mode : HistoryMode) (answer : Except String (List CommanderDirectoryEntry)) :
    CommanderWidget :=
  let loading := widget.reduce host (.setPaneLoading paneId)
  match answer with
  | .ok entries =>
    loading.reduce host (.hydratePaneDirectory
      (loadPayload widget paneId mode {} { path := path, entries := entries }))
  | .error errorMessage =>
    loading.reduce host (.setPaneLoadError paneId (some path) (some errorMessage))

def navigate (host : HostLocale) (widget : CommanderWidget) (load : PaneLoad) :
    Option CommanderWidget :=
  (load.navigation.target (widget.getPane load.paneId)).map fun path =>
    widget.loadPaneDirectory host load.paneId path load.navigation.historyMode load.answer

end CommanderWidget

def PaneLoad.Follows (load : PaneLoad) (before after : Browser String) : Prop :=
  match load.answer with
  | .ok _ => after = before.go load.navigation
  | .error _ => List.Sublist before.visited after.visited

/-- The pane shows a directory, and a load fails only for the one that it shows. -/
def keepsHistory (widget : CommanderWidget) (load : PaneLoad) : Bool :=
  let pane := widget.getPane load.paneId
  match load.answer with
  | .ok _ => pane.rows.path ≠ ""
  | .error _ => load.navigation.target pane = some pane.rows.path

variable {host : HostLocale} {widget next : CommanderWidget} {paneId : CommanderPaneId}
  {load : PaneLoad}

section

variable {path : String}

theorem load_other_pane {other : CommanderPaneId} (ne : other ≠ paneId) (path : String)
    (mode : HistoryMode) (answer : Except String (List CommanderDirectoryEntry)) :
    (widget.loadPaneDirectory host paneId path mode answer).getPane other =
    widget.getPane other := by
  cases answer with
  | ok | error =>
    cases paneId with
    | left =>
      cases other with
      | left => exact absurd rfl ne
      | right => rfl
    | right =>
      cases other with
      | left => rfl
      | right => exact absurd rfl ne

theorem loaded_browser (paneId : CommanderPaneId) (path : String) (mode : HistoryMode)
    (entries : List CommanderDirectoryEntry) :
    let pane := widget.getPane paneId
    let history := historyAfterLoad (some mode) pane.rows.path pane.status
    ((widget.loadPaneDirectory host paneId path mode (.ok entries)).getPane paneId).browser =
      .ofStacks history.1 path history.2 := by
  cases paneId with
  | left | right => rfl

theorem failed_browser (paneId : CommanderPaneId) (path errorMessage : String)
    (mode : HistoryMode) :
    let pane := widget.getPane paneId
    ((widget.loadPaneDirectory host paneId path mode (.error errorMessage)).getPane
        paneId).browser =
      .ofStacks pane.status.historyBack path pane.status.historyForward := by
  cases paneId with
  | left | right => rfl

theorem exchanged_sublist {Item : Type} {before after : List Item} {item other : Item} :
    List.Sublist (before ++ item :: after) (before ++ other :: after) ↔ item = other := by
  constructor
  · intro kept
    have same := kept.eq_of_length (by simp)
    exact (cons.inj (append_cancel_left same)).1
  · rintro rfl
    exact List.Sublist.refl _

theorem truthy_eq_some {text : Option String} (isPath : truthy text = some path) :
    text = some path ∧ path ≠ "" := by
  rcases filter_eq_some_iff.mp isPath with ⟨isText, nonempty⟩
  exact ⟨isText, of_decide_eq_true nonempty⟩

theorem split_at_top {stack : List String} (target : truthy stack.getLast? = some path) :
    ∃ rest, stack = rest ++ [path] :=
  getLast?_eq_some_iff.mp (truthy_eq_some target).1

theorem loaded_follows_iff {entries : List CommanderDirectoryEntry}
    (target : load.navigation.target (widget.getPane load.paneId) = some path) :
    ((widget.loadPaneDirectory host load.paneId path load.navigation.historyMode
      (.ok entries)).getPane load.paneId).browser =
      (widget.getPane load.paneId).browser.go load.navigation ↔
    (widget.getPane load.paneId).rows.path ≠ "" := by
  rw [loaded_browser]
  obtain ⟨paneId, navigation, answer⟩ := load
  generalize widget.getPane paneId = pane at target ⊢
  unfold CommanderPane.browser
  cases navigation with
  | push pushed =>
    have isPath : pushed = path := some.inj (truthy_eq_some target).1
    subst isPath
    rw [Browser.of_stacks_push]
    by_cases empty : pane.rows.path = ""
    · simp [historyAfterLoad, Navigation.historyMode, empty, Browser.ofStacks]
    · simp [historyAfterLoad, Navigation.historyMode, empty]
  | back =>
    rcases split_at_top target with ⟨rest, back⟩
    rw [back, Browser.of_stacks_back]
    by_cases empty : pane.rows.path = ""
    · simp [historyAfterLoad, Navigation.historyMode, Browser.ofStacks, back]
    · simp [historyAfterLoad, Navigation.historyMode, empty, back]
  | forward =>
    rcases split_at_top target with ⟨rest, forward⟩
    rw [forward, Browser.of_stacks_forward]
    by_cases empty : pane.rows.path = ""
    · simp [historyAfterLoad, Navigation.historyMode, empty, Browser.ofStacks]
    · simp [historyAfterLoad, Navigation.historyMode, empty, forward]

theorem follows_iff (done : widget.navigate host load = some next) :
    load.Follows (widget.getPane load.paneId).browser (next.getPane load.paneId).browser ↔
    keepsHistory widget load = true := by
  rcases map_eq_some_iff.mp done with ⟨path, target, rfl⟩
  unfold PaneLoad.Follows keepsHistory
  cases answer : load.answer with
  | ok entries =>
    rw [loaded_follows_iff target]
    simp
  | error errorMessage =>
    rw [failed_browser]
    dsimp only
    rw [target, CommanderPane.browser, Browser.ofStacks, Browser.ofStacks, exchanged_sublist]
    simp [eq_comm]

theorem failure_changes_nothing {errorMessage : String} (failed : load.answer = .error errorMessage)
    (keeps : keepsHistory widget load = true) (done : widget.navigate host load = some next) :
    (next.getPane load.paneId).browser = (widget.getPane load.paneId).browser := by
  rcases map_eq_some_iff.mp done with ⟨path, target, rfl⟩
  unfold keepsHistory at keeps
  rw [failed] at keeps ⊢
  dsimp only at keeps
  rw [target] at keeps
  rw [failed_browser, some.inj (of_decide_eq_true keeps)]
  rfl

end

def PaneLoad.apply (paneId : CommanderPaneId) (browser : Browser String) (load : PaneLoad) :
    Browser String :=
  match load.answer with
  | .ok _ => if load.paneId = paneId then browser.go load.navigation else browser
  | .error _ => browser

section

variable {first last : CommanderWidget}

theorem navigate_applies (keeps : keepsHistory widget load = true)
    (done : widget.navigate host load = some next) (paneId : CommanderPaneId) :
    (next.getPane paneId).browser = load.apply paneId (widget.getPane paneId).browser := by
  by_cases own : paneId = load.paneId
  · subst own
    have follows := (follows_iff done).mpr keeps
    unfold PaneLoad.apply
    unfold PaneLoad.Follows at follows
    cases answer : load.answer with
    | ok entries =>
      rw [answer] at follows
      exact follows.trans (if_pos rfl).symm
    | error errorMessage => exact failure_changes_nothing answer keeps done
  · rcases map_eq_some_iff.mp done with ⟨path, _, rfl⟩
    rw [load_other_pane own]
    unfold PaneLoad.apply
    cases load.answer with
    | ok entries => exact (if_neg (Ne.symm own)).symm
    | error errorMessage => rfl

theorem run_applies {loads : List PaneLoad}
    (ran : runActions (guarded keepsHistory (CommanderWidget.navigate host)) first loads =
      some last)
    (paneId : CommanderPaneId) :
    (last.getPane paneId).browser =
      loads.foldl (PaneLoad.apply paneId) (first.getPane paneId).browser := by
  induction loads generalizing first with
  | nil =>
    cases ran
    rfl
  | cons load rest ih =>
    rcases bind_eq_some_iff.mp ran with ⟨second, taken, further⟩
    rcases guarded_eq_some.mp taken with ⟨keeps, done⟩
    rw [foldl_cons, ← navigate_applies keeps done]
    exact ih further

theorem back_and_forward {there here : List CommanderDirectoryEntry}
    (shows : (widget.getPane paneId).rows.path ≠ "")
    (gone : widget.navigate host ⟨paneId, .back, .ok there⟩ = some next)
    (returned : next.navigate host ⟨paneId, .forward, .ok here⟩ = some last) :
    (last.getPane paneId).rows.path = (widget.getPane paneId).rows.path ∧
      (last.getPane paneId).status.historyBack = (widget.getPane paneId).status.historyBack ∧
      (last.getPane paneId).status.historyForward =
        (widget.getPane paneId).status.historyForward := by
  have keepsBack : keepsHistory widget ⟨paneId, .back, .ok there⟩ = true := decide_eq_true shows
  have behind := navigate_applies keepsBack gone paneId
  rcases map_eq_some_iff.mp gone with ⟨path, target, loaded⟩
  rcases split_at_top target with ⟨rest, back⟩
  have wentBack : (next.getPane paneId).browser = .ofStacks rest path
      ((widget.getPane paneId).status.historyForward ++ [(widget.getPane paneId).rows.path]) := by
    rw [behind, ← Browser.of_stacks_back, ← back]
    exact if_pos rfl
  have nextShows : (next.getPane paneId).rows.path ≠ "" := by
    rw [(Browser.of_stacks_inj wentBack).2.1]
    exact (truthy_eq_some target).2
  have keepsForward : keepsHistory next ⟨paneId, .forward, .ok here⟩ = true :=
    decide_eq_true nextShows
  have again := navigate_applies keepsForward returned paneId
  have restored : (last.getPane paneId).browser = (widget.getPane paneId).browser := by
    rw [again, PaneLoad.apply]
    rw [if_pos rfl, wentBack, Browser.of_stacks_forward, ← back]
    rfl
  rcases Browser.of_stacks_inj restored with ⟨sameBack, samePath, sameForward⟩
  exact ⟨samePath, sameBack, sameForward⟩

/-- A run in which panes show directories, and loads fail only for what is shown, makes the history
of a browser, and a step back is taken back by a step forward. -/
theorem pane_history_is_a_browsers {loads : List PaneLoad} (paneId : CommanderPaneId)
    (ran : runActions (guarded keepsHistory (CommanderWidget.navigate host)) first loads =
      some last) :
    (last.getPane paneId).browser =
      loads.foldl (PaneLoad.apply paneId) (first.getPane paneId).browser ∧
    (∀ load next, last.navigate host load = some next →
      (load.Follows (last.getPane load.paneId).browser (next.getPane load.paneId).browser ↔
        keepsHistory last load = true)) ∧
    ∀ there here next final, (last.getPane paneId).rows.path ≠ "" →
      last.navigate host ⟨paneId, .back, .ok there⟩ = some next →
      next.navigate host ⟨paneId, .forward, .ok here⟩ = some final →
      (final.getPane paneId).rows.path = (last.getPane paneId).rows.path ∧
        (final.getPane paneId).status.historyBack = (last.getPane paneId).status.historyBack ∧
        (final.getPane paneId).status.historyForward =
          (last.getPane paneId).status.historyForward :=
  ⟨run_applies ran paneId, fun _ _ done => follows_iff done,
    fun _ _ _ _ shows gone returned => back_and_forward shows gone returned⟩

end

def visitedPane : CommanderPanePersistedState where
  path := "/b"
  filterQuery := ""
  cursorEntryId := none
  selectionAnchorEntryId := none
  selectedIds := []
  historyBack := ["/a"]
  historyForward := []

def visitedWidget : CommanderWidget :=
  createCommanderWidgetRuntimeState (some
    { activePane := .left
      viewMode := .commander
      options := defaultOptions
      leftPane := visitedPane
      rightPane := visitedPane })

theorem pane_history_is_a_browsers_here :
    ∃ last, (last.getPane .left).browser = ⟨["/a", "/b", "/d"], 2⟩ ∧
      runActions (guarded keepsHistory (CommanderWidget.navigate plainHost)) visitedWidget
        [⟨.left, .push "/c", .ok []⟩, ⟨.left, .back, .ok []⟩, ⟨.left, .push "/d", .ok []⟩] =
        some last := by
  have ran : (runActions (guarded keepsHistory (CommanderWidget.navigate plainHost)) visitedWidget
      [⟨.left, .push "/c", .ok []⟩, ⟨.left, .back, .ok []⟩,
        ⟨.left, .push "/d", .ok []⟩]).isSome = true := by decide
  rcases isSome_iff_exists.mp ran with ⟨last, ran⟩
  refine ⟨last, ?_, ran⟩
  rw [(pane_history_is_a_browsers .left ran).1]
  decide

/-- From `/b`, behind which is `/a`, a load of `/c` fails: `/b` is gone. -/
theorem failed_load_forgets_directory :
    ¬ ∀ (host : HostLocale) (first last next : CommanderWidget) (loads : List PaneLoad)
      (load : PaneLoad), Mounted first →
      runActions (CommanderWidget.navigate host) first loads = some last →
      last.navigate host load = some next →
      load.Follows (last.getPane load.paneId).browser (next.getPane load.paneId).browser := by
  intro claimed
  have failed := claimed plainHost visitedWidget visitedWidget _ []
    ⟨.left, .push "/c", .error "offline"⟩ ⟨_, rfl⟩ rfl rfl
  have kept : List.Sublist ["/a", "/b"] ["/a", "/c"] := failed
  exact absurd kept (by decide)

end RuneTerminal.Commander
