import RuneTerminal.Commander.Clone
import Mathlib.Data.List.NodupEquivFin

/-! A preview compares the names that a template gives to the selected entries with each other and
with the other entries (`previewCommanderRenameEntries`). -/

namespace RuneTerminal.Commander

open List

def RenamesAtOnce (pane : CommanderPaneRuntimeState) (preview : CommanderRenamePreview)
    (nameOf : CommanderDirectoryEntry → String) : Prop :=
  ∀ entry ∈ pane.directoryEntries,
    (∃ item ∈ preview.preview, item.entryId = entry.id ∧ nameOf entry = item.nextName) ∨
      (entry.id ∉ preview.preview.map (·.entryId) ∧ nameOf entry = entry.name)

def NamesApart (locale : Locale) (pane : CommanderPaneRuntimeState)
    (preview : CommanderRenamePreview) (nameOf : CommanderDirectoryEntry → String) : Prop :=
  ∀ entry ∈ pane.directoryEntries, ∀ other ∈ pane.directoryEntries, entry.id ≠ other.id →
    entry.id ∈ preview.preview.map (·.entryId) →
      normalizeEntryName locale (nameOf entry) ≠ normalizeEntryName locale (nameOf other)

def IsRejected (locale : Locale) (pane : CommanderPaneRuntimeState)
    (preview : CommanderRenamePreview) (index : Nat) (nextName : String) : Prop :=
  normalizeEntryName locale nextName = "" ∨
    (∃ position other, position ≠ index ∧ preview.preview[position]? = some other ∧
      normalizeEntryName locale other.nextName = normalizeEntryName locale nextName) ∨
    ∃ entry ∈ pane.directoryEntries, entry.id ∉ preview.preview.map (·.entryId) ∧
      normalizeEntryName locale entry.name = normalizeEntryName locale nextName

section

variable {host : HostLocale} {pane : CommanderPaneRuntimeState} {entryIds : List String}
  {template : String} {items : List CommanderRenamePreviewItem}
  {item other : CommanderRenamePreviewItem} {index : Nat} {locale : Locale}

theorem preview_at {index : Nat}
    (found : (previewCommanderRenameEntries host pane entryIds template).preview[index]? =
      some item) :
    ∃ named, (namedByTemplate host pane entryIds template)[index]? = some named ∧
      item.entryId = named.entryId ∧ item.nextName = named.nextName ∧
      item.status =
        previewStatus host.toLocale pane (namedByTemplate host pane entryIds template) named := by
  rw [previewCommanderRenameEntries, getElem?_map] at found
  obtain ⟨named, known, same⟩ := Option.map_eq_some_iff.mp found
  exact ⟨named, known, same ▸ ⟨rfl, rfl, rfl⟩⟩

theorem preview_of_named
    (found : (namedByTemplate host pane entryIds template)[index]? = some other) :
    ∃ item, (previewCommanderRenameEntries host pane entryIds template).preview[index]? =
    some item ∧ item.nextName = other.nextName := by
  rw [previewCommanderRenameEntries, getElem?_map, found]
  exact ⟨_, rfl, rfl⟩

theorem ok_of_none_reported
    (noDuplicates : (previewCommanderRenameEntries host pane entryIds
      template).duplicateTargetNames =
      [])
    (noConflicts : (previewCommanderRenameEntries host pane entryIds template).conflictEntryNames =
      [])
    (mem : item ∈ (previewCommanderRenameEntries host pane entryIds template).preview) :
    item.status = .ok := by
  have absent : ∀ name : String, name ∉ ([] : List String) := fun _ => not_mem_nil
  cases status : item.status with
  | ok => rfl
  | invalid =>
    apply (absent item.currentName).elim
    rw [← noDuplicates]
    apply mem_eraseDups.mpr
    exact mem_filterMap.mpr ⟨item, mem, if_pos status⟩
  | duplicate =>
    apply (absent item.nextName).elim
    rw [← noDuplicates]
    apply mem_eraseDups.mpr
    exact mem_filterMap.mpr ⟨item, mem, by simp [status]⟩
  | conflict =>
    apply (absent item.nextName).elim
    rw [← noConflicts]
    apply mem_eraseDups.mpr
    exact mem_map.mpr ⟨item, mem_filter.mpr ⟨mem, by simp [status]⟩, rfl⟩

theorem status_ok (ok : previewStatus locale pane items item = .ok) :
    hasDuplicateTarget locale items item = false ∧
    hasDirectoryConflict locale pane items item = false := by
  unfold previewStatus at ok
  split_ifs at ok with blank duplicate conflict
  exact ⟨by simpa using duplicate, by simpa using conflict⟩

theorem duplicate_of_two (mem : item ∈ items) (another : other ∈ items) (apart : item ≠ other)
    (same : normalizeEntryName locale other.nextName = normalizeEntryName locale item.nextName) :
    hasDuplicateTarget locale items item = true := by
  let named := items.filter fun next =>
    normalizeEntryName locale next.nextName == normalizeEntryName locale item.nextName
  have two : 1 < named.length := by
    have isNamed : item ∈ named := mem_filter.mpr ⟨mem, by simp⟩
    have otherNamed : other ∈ named := mem_filter.mpr ⟨another, by simp [same]⟩
    by_contra few
    cases all : named with
    | nil => simp [all] at isNamed
    | cons first rest =>
      have single : rest = [] := by simpa [all] using few
      rw [all, single, mem_singleton] at isNamed otherNamed
      exact apart (isNamed.trans otherNamed.symm)
  unfold hasDuplicateTarget
  rw [decide_eq_true_eq, count, countP_map, countP_eq_length_filter]
  exact two

theorem another_of_duplicate (index : Nat)
    (duplicate : hasDuplicateTarget locale items item = true) :
    ∃ position other, position ≠ index ∧ items[position]? = some other ∧
    normalizeEntryName locale other.nextName = normalizeEntryName locale item.nextName := by
  unfold hasDuplicateTarget at duplicate
  rw [decide_eq_true_eq] at duplicate
  obtain ⟨first, second, before, isFirst, isSecond⟩ :=
    duplicate_iff_exists_distinct_get.mp (duplicate_iff_two_le_count.mpr duplicate)
  have at_position : ∀ position : Fin _, normalizeEntryName locale item.nextName =
      (items.map fun other => normalizeEntryName locale other.nextName).get position →
        ∃ other, items[position.val]? = some other ∧
          normalizeEntryName locale other.nextName = normalizeEntryName locale item.nextName := by
    intro position same
    have found := getElem?_eq_getElem position.isLt
    rw [← get_eq_getElem, ← same, getElem?_map] at found
    exact Option.map_eq_some_iff.mp found
  obtain ⟨one, oneAt, oneNamed⟩ := at_position first isFirst
  obtain ⟨two, twoAt, twoNamed⟩ := at_position second isSecond
  by_cases isIndex : first.val = index
  · refine ⟨second.val, two, ?_, twoAt, twoNamed⟩
    omega
  · exact ⟨first.val, one, isIndex, oneAt, oneNamed⟩

theorem preview_entry_ids :
    (previewCommanderRenameEntries host pane entryIds template).preview.map (·.entryId) =
      (namedByTemplate host pane entryIds template).map (·.entryId) := by
  rw [previewCommanderRenameEntries, map_map]
  rfl

end

/-- Each selected entry has an item with its name from the template. Where no names are reported,
the new names are apart from each other and from those that are kept. -/
theorem rename_preview_sound_and_complete (host : HostLocale) (pane : CommanderPaneRuntimeState)
    (entryIds : List String) (template : String) :
    (previewCommanderRenameEntries host pane entryIds template).preview.map
      (fun item => (item.entryId, item.currentName, item.nextName)) =
      (resolveEntriesInOrder pane entryIds).zipIdx.map
        (fun (entry, index) =>
          (entry.id, entry.name, applyCommanderRenameTemplate host entry template index)) ∧
    ((previewCommanderRenameEntries host pane entryIds template).duplicateTargetNames = [] →
      (previewCommanderRenameEntries host pane entryIds template).conflictEntryNames = [] →
      ∀ nameOf,
        RenamesAtOnce pane (previewCommanderRenameEntries host pane entryIds template) nameOf →
        NamesApart host.toLocale pane (previewCommanderRenameEntries host pane entryIds template)
          nameOf) ∧
    ∀ (index : Nat) (item : CommanderRenamePreviewItem),
      (previewCommanderRenameEntries host pane entryIds template).preview[index]? = some item →
      item.status ≠ .ok →
      IsRejected host.toLocale pane (previewCommanderRenameEntries host pane entryIds template)
        index item.nextName := by
  refine ⟨?_, ?_, ?_⟩
  · rw [previewCommanderRenameEntries, namedByTemplate, map_map, map_map]
    rfl
  · intro noDuplicates noConflicts nameOf renames entry known other otherKnown apart selected
    have fine : ∀ item ∈ (previewCommanderRenameEntries host pane entryIds template).preview,
        ∃ named ∈ namedByTemplate host pane entryIds template, item.entryId = named.entryId ∧
          item.nextName = named.nextName ∧
          hasDuplicateTarget host.toLocale (namedByTemplate host pane entryIds template) named =
            false ∧
          hasDirectoryConflict host.toLocale pane (namedByTemplate host pane entryIds template)
            named = false := by
      intro item mem
      obtain ⟨index, bound, rfl⟩ := getElem_of_mem mem
      obtain ⟨named, atIndex, sameId, sameName, status⟩ :=
        preview_at (getElem?_eq_getElem bound)
      rw [ok_of_none_reported noDuplicates noConflicts mem] at status
      exact ⟨named, mem_of_getElem? atIndex, sameId, sameName, status_ok status.symm⟩
    rcases renames entry known with ⟨item, mem, sameId, newName⟩ | ⟨unselected, -⟩
    · obtain ⟨named, isNamed, namedId, namedName, single, noConflict⟩ := fine item mem
      rw [newName, namedName]
      intro clash
      rcases renames other otherKnown with ⟨next, nextMember, nextId, nextName⟩ | ⟨left, oldName⟩
      · obtain ⟨another, isAnother, anotherId, anotherName, -⟩ := fine next nextMember
        have ne : named ≠ another := by
          rintro rfl
          exact apart (sameId.symm.trans (namedId.trans (anotherId.symm.trans nextId)))
        rw [nextName, anotherName] at clash
        rw [duplicate_of_two isNamed isAnother ne clash.symm] at single
        cases single
      rw [oldName] at clash
      rw [preview_entry_ids] at left
      have conflict : hasDirectoryConflict host.toLocale pane
          (namedByTemplate host pane entryIds template) named = true := by
        apply any_eq_true.mpr
        exact ⟨other, otherKnown, by simpa [clash] using left⟩
      rw [conflict] at noConflict
      cases noConflict
    · exact absurd selected unselected
  · intro index item found notOk
    obtain ⟨named, atIndex, -, sameName, status⟩ := preview_at found
    rw [status] at notOk
    unfold previewStatus at notOk
    rw [sameName]
    split_ifs at notOk with blank duplicate conflict
    · exact .inl blank
    · obtain ⟨position, other, elsewhere, there, same⟩ := another_of_duplicate index duplicate
      obtain ⟨next, judged, nextName⟩ := preview_of_named there
      exact .inr (.inl ⟨position, next, elsewhere, judged, nextName ▸ same⟩)
    · obtain ⟨entry, known, matched⟩ := any_eq_true.mp conflict
      rw [Bool.and_eq_true, decide_eq_true_eq, beq_iff_eq] at matched
      refine .inr (.inr ⟨entry, known, ?_, matched.2⟩)
      rw [preview_entry_ids]
      exact matched.1
    · exact absurd rfl notOk

def numberedFile (name : String) : CommanderDirectoryEntry where
  id := toCommanderEntryId "/scans" name
  name := name
  ext := "txt"

def numberedPane : CommanderPaneRuntimeState :=
  .load plainHost.toLocale ⟨false, .name, .asc, true⟩ "/scans" ""
    [numberedFile "1.txt", numberedFile "2.txt", numberedFile "9.txt"]

def numberedPreview (template : String) : CommanderRenamePreview :=
  previewCommanderRenameEntries plainHost numberedPane ["/scans::1.txt", "/scans::2.txt"] template

def shiftedName (entry : CommanderDirectoryEntry) : String :=
  if entry.name = "1.txt" then "2.txt" else if entry.name = "2.txt" then "3.txt" else entry.name

/-- A file may take the name that another one gives up, and not one that is kept. -/
theorem numbered_files_renamed :
    NamesApart plainHost.toLocale numberedPane (numberedPreview "[C:2:1]") shiftedName ∧
      IsRejected plainHost.toLocale numberedPane (numberedPreview "[C:8:1]") 1 "9.txt" := by
  constructor
  · apply (rename_preview_sound_and_complete plainHost numberedPane _ "[C:2:1]").2.1
      (by decide +kernel) (by decide +kernel)
    unfold RenamesAtOnce
    decide +kernel
  · have rejected : (numberedPreview "[C:8:1]").preview[1]? =
        some { entryId := "/scans::2.txt", currentName := "2.txt", nextName := "9.txt"
               status := .conflict, conflict := true } := by
      decide +kernel
    exact (rename_preview_sound_and_complete plainHost numberedPane _ "[C:8:1]").2.2 1 _ rejected
      (by decide)

end RuneTerminal.Commander
