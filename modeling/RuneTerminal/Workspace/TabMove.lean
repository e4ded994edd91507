import RuneTerminal.Go.Slice
import RuneTerminal.Workspace.ServiceRuns

/-! `MoveTab` of `core/workspace/service.go` on the list of the tabs, and its two splices on the
array behind the list. -/

namespace RuneTerminal.Workspace

open Kit List

namespace Snapshot

/-- The splices of `MoveTab` on the slice of the tabs. -/
def spliceTab (tabs : Go.Slice Tab) (tab : Tab) (fromIndex toIndex : Nat) : Go.Slice Tab :=
  let tabs := (tabs.take fromIndex).append (tabs.items.drop (fromIndex + 1))
  let toIndex := if fromIndex < toIndex then toIndex - 1 else toIndex
  (tabs.take toIndex).append (tab :: tabs.items.drop toIndex)

/-- `tab` is taken out and put in again right before another tab. -/
structure MovedBefore (tab before : Tab) (tabs next : List Tab) : Prop where
  others : ∃ left right, tabs.filter (·.id ≠ tab.id) = left ++ before :: right ∧
    next = left ++ tab :: before :: right
  perm : next.Perm tabs

variable {s : Snapshot} {tab before : Tab} {left right : List Tab}

section

variable (nodup : (s.tabs.map (·.id)).Nodup) (whole : s.tabs = left ++ tab :: right)
include nodup whole

theorem last_tab_index_at_split : s.lastTabIndex? tab.id = some left.length := by
  rw [whole, map_append, map_cons, nodup_append, nodup_cons] at nodup
  have none : right.reverse.findIdx? (·.id == tab.id) = none := by
    rw [findIdx?_eq_none_iff]
    intro other mem
    have known := mem_map_of_mem (f := (·.id)) (mem_reverse.mp mem)
    rw [beq_eq_false_iff_ne]
    exact fun same => nodup.2.1.1 (same ▸ known)
  have found : s.tabs.reverse.findIdx? (·.id == tab.id) = some right.length := by
    rw [whole, reverse_append, reverse_cons, append_assoc, findIdx?_append, none]
    simp [findIdx?_cons]
  rw [lastTabIndex?, found, Option.map_some, whole, length_append, length_cons]
  congr 1
  omega

theorem others_of_split : s.tabs.filter (·.id ≠ tab.id) = s.tabs.eraseIdx left.length := by
  rw [whole, map_append, map_cons, nodup_append, nodup_cons] at nodup
  have inLeft : left.filter (·.id ≠ tab.id) = left := by
    rw [filter_eq_self]
    intro other mem
    exact decide_eq_true (nodup.2.2 _ (mem_map_of_mem mem) _ mem_cons_self)
  have inRight : right.filter (·.id ≠ tab.id) = right := by
    rw [filter_eq_self]
    intro other mem
    exact decide_eq_true fun same => nodup.2.1.1 (same ▸ mem_map_of_mem mem)
  rw [whole, erase_idx_at_split, filter_append, filter_cons_of_neg (by simp), inLeft, inRight]

end

theorem place_without {items : List Tab} {fromIndex toIndex : Nat} (ne : fromIndex ≠ toIndex)
    (found : items[toIndex]? = some before) :
    (items.eraseIdx fromIndex)[if fromIndex < toIndex then toIndex - 1 else toIndex]? =
      some before := by
  rw [getElem?_eraseIdx]
  split_ifs with earlier below below
  · omega
  · rw [← found]
    congr 1
    omega
  · exact found
  · omega

theorem move_tab_moves (nodup : (s.tabs.map (·.id)).Nodup) (tabIn : tab ∈ s.tabs)
    (beforeIn : before ∈ s.tabs) (ne : tab.id ≠ before.id) (pinned : tab.pinned = before.pinned) :
    ∃ next, s.moveTab tab.id before.id = (.ok next, next) ∧
      next = { s with tabs := next.tabs } ∧ MovedBefore tab before s.tabs next.tabs ∧
      ∃ fromIndex toIndex, s.lastTabIndex? tab.id = some fromIndex ∧
        s.lastTabIndex? before.id = some toIndex ∧ ∀ tabs : Go.Slice Tab, tabs.items = s.tabs →
          (spliceTab tabs tab fromIndex toIndex).items = next.tabs := by
  obtain ⟨left, right, whole⟩ := append_of_mem tabIn
  obtain ⟨front, back, split⟩ := append_of_mem beforeIn
  have tabAt : s.tabs[left.length]? = some tab := by rw [whole, get_at_split]
  have beforeAt : s.tabs[front.length]? = some before := by rw [split, get_at_split]
  have apart : left.length ≠ front.length := by
    intro same
    rw [same, beforeAt] at tabAt
    exact ne (congrArg Tab.id (Option.some.inj tabAt)).symm
  have place := place_without apart beforeAt
  generalize isTarget : (if left.length < front.length then front.length - 1 else front.length) =
    target at place
  obtain ⟨start, rest, others, size⟩ := split_at_get place
  have moved : (s.tabs.eraseIdx left.length).take target ++
      tab :: (s.tabs.eraseIdx left.length).drop target = start ++ tab :: before :: rest := by
    rw [others, ← size, take_left, drop_left]
  have fromAt := last_tab_index_at_split nodup whole
  have toAt := last_tab_index_at_split nodup split
  refine ⟨{ s with tabs := start ++ tab :: before :: rest }, ?_, rfl,
    ⟨⟨start, rest, ?_, rfl⟩, ?_⟩, left.length, front.length, fromAt, toAt, ?_⟩
  · rw [moveTab, if_neg ne, fromAt, toAt]
    dsimp only
    rw [tabAt, beforeAt]
    dsimp only
    rw [if_neg (not_not.mpr pinned), isTarget, moved]
  · rw [others_of_split nodup whole, others]
  · apply perm_middle.trans
    rw [← others, whole, erase_idx_at_split]
    exact perm_middle.symm
  · intro tabs isTabs
    have without : s.tabs.take left.length ++ s.tabs.drop (left.length + 1) =
        s.tabs.eraseIdx left.length := (eraseIdx_eq_take_drop_succ _ _).symm
    simp only [spliceTab, Go.Slice.items_append, Go.Slice.items_take, isTabs, without, isTarget]
    exact moved

/-- The tab is moved in the list as in the array behind it, and an error changes nothing. -/
theorem move_tab_permutes (s : Snapshot) :
    ((s.tabs.map (·.id)).Nodup → ∀ tab ∈ s.tabs, ∀ before ∈ s.tabs, tab ≠ before →
      tab.pinned = before.pinned → ∃ next, s.moveTab tab.id before.id = (.ok next, next) ∧
        next = { s with tabs := next.tabs } ∧ MovedBefore tab before s.tabs next.tabs ∧
        ∃ fromIndex toIndex, s.lastTabIndex? tab.id = some fromIndex ∧
          s.lastTabIndex? before.id = some toIndex ∧
          ∀ tabs : Go.Slice Tab, tabs.items = s.tabs →
            (spliceTab tabs tab fromIndex toIndex).items = next.tabs) ∧
    ∀ tabID beforeTabID err, (s.moveTab tabID beforeTabID).1 = .error err →
      (s.moveTab tabID beforeTabID).2 = s := by
  constructor
  · intro nodup tab tabIn before beforeIn ne pinned
    have apart : tab.id ≠ before.id := mt (inj_on_of_nodup_map nodup tabIn beforeIn) ne
    exact move_tab_moves nodup tabIn beforeIn apart pinned
  · intro tabID beforeTabID err
    unfold moveTab
    repeat' split
    all_goals simp

theorem move_tab_permutes_default : ∃ tab before next,
    bootstrapDefault.moveTab "tab-ops" "tab-main" = (.ok next, next) ∧
    MovedBefore tab before bootstrapDefault.tabs next.tabs := by
  obtain ⟨next, moved, _, permuted, _⟩ := (move_tab_permutes bootstrapDefault).1 (by decide)
    bootstrapDefault.tabs[1] (getElem_mem _) bootstrapDefault.tabs[0] (getElem_mem _)
    (by decide) (by decide)
  exact ⟨_, _, next, moved, permuted⟩

end Snapshot

end RuneTerminal.Workspace
