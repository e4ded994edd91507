import RuneTerminal.Commander.Clone

/-! Nothing keeps two items from the same target, and a target is compared only with the entries
that are not copied, by name and not by path. -/

namespace RuneTerminal.Commander

open Kit List

def entryPath (pane : CommanderPaneRuntimeState) (entryId : String) : Option String :=
  (pane.directoryEntries.find? (·.id == entryId)).map fun entry =>
    toCommanderEntryPath pane.path entry.name

def leftOf (pane : CommanderPaneRuntimeState) (entryIds : List String) : List String :=
  entryIds.filter fun entryId => (entryPath pane entryId).isSome

section

variable {pane : CommanderPaneRuntimeState}

theorem entry_paths_eq (entryIds : List String) :
    getEntryPaths pane entryIds = entryIds.filterMap (entryPath pane) := by
  rw [getEntryPaths, resolveEntriesInOrder, map_filterMap]
  rfl

theorem entry_paths_get (entryIds : List String) (index : Nat) :
    (getEntryPaths pane entryIds)[index]? =
    (leftOf pane entryIds)[index]?.bind (entryPath pane) := by
  rw [entry_paths_eq, leftOf]
  induction entryIds generalizing index with
  | nil => rfl
  | cons entryId entryIds ih =>
    cases found : entryPath pane entryId with
    | none =>
      rw [filterMap_cons_none found, filter_cons_of_neg (by simp [found]), ih]
    | some path =>
      rw [filterMap_cons_some found, filter_cons_of_pos (by simp [found])]
      cases index with
      | zero => exact found.symm
      | succ index => exact ih index

end

namespace CommanderCloneOperation

def leftAt (op : CommanderCloneOperation) (pane : CommanderPaneRuntimeState)
    (item : CommanderRenamePreviewItem) : Option String :=
  ((op.entryIds.findIdx? (· == item.entryId)).bind fun index =>
    (leftOf pane op.entryIds)[index]?).filter fun left => entryPath pane left ≠ some ""

def IsSent (op : CommanderCloneOperation) (pane : CommanderPaneRuntimeState)
    (item : CommanderRenamePreviewItem) : Bool :=
  trim item.nextName ≠ "" && (op.leftAt pane item).isSome

def targetOf (op : CommanderCloneOperation) (item : CommanderRenamePreviewItem) : String :=
  toCommanderEntryPath op.sourcePath (trim item.nextName)

/-- The answer is to send, there are no conflicts it would have to overwrite, and the
first of the requested entries that are left has a path. -/
def Sends (op : CommanderCloneOperation) (pane : CommanderPaneRuntimeState) (answer : Answer) :
    Prop :=
  (match answer with
    | .confirm => trim op.inputValue ≠ "" ∧ op.conflictEntryNames = []
    | .resolve .overwriteCurrent => True
    | .resolve .overwriteAll => True
    | _ => False) ∧
  ∃ first, (leftOf pane op.entryIds).head? = some first ∧ entryPath pane first ≠ some ""

/-- What the request for a preview should be. `confirmed` is the pane when it is sent. -/
structure FitsPreview (op : CommanderCloneOperation)
    (previewed confirmed : CommanderPaneRuntimeState) (request : CloneRequest) : Prop where
  paired : ∀ item ∈ op.renamePreview, ∀ pair,
    op.batchPair (getEntryPaths confirmed op.entryIds) item = some pair → pair ∈ request.entries ∧
      entryPath confirmed item.entryId = some pair.sourcePath ∧
      pair.targetPath = op.targetOf item
  nothingElse : ∀ pair ∈ request.entries, ∃ item ∈ op.renamePreview,
    op.batchPair (getEntryPaths confirmed op.entryIds) item = some pair
  distinct : (request.entries.map (·.targetPath)).Nodup
  unused : request.overwrite = false → ∀ pair ∈ request.entries,
    ∀ entry ∈ previewed.directoryEntries,
      pair.targetPath ≠ toCommanderEntryPath op.sourcePath entry.name

/-- The preview finds no entry with the name of an item: the entry is copied itself, the name is
blank or shared with another item, or the names differ. -/
def Ignores (op : CommanderCloneOperation) (locale : Locale) (item : CommanderRenamePreviewItem)
    (entry : CommanderDirectoryEntry) : Prop :=
  entry.id ∈ op.renamePreview.map (·.entryId) ∨
    normalizeEntryName locale item.nextName = "" ∨
    hasDuplicateTarget locale op.renamePreview item ∨
    normalizeEntryName locale entry.name ≠ normalizeEntryName locale item.nextName

/-- The condition on the names of the template and on the entries that are still listed. -/
structure InPlace (op : CommanderCloneOperation) (locale : Locale)
    (previewed confirmed : CommanderPaneRuntimeState) (answer : Answer) : Prop where
  ownEntry : ∀ item ∈ op.renamePreview, trim item.nextName ≠ "" →
    ∀ left, op.leftAt confirmed item = some left →
      entryPath confirmed left = entryPath confirmed item.entryId
  ownTarget : ((op.renamePreview.filter (op.IsSent confirmed)).map op.targetOf).Nodup
  newTarget : answer = .confirm → ∀ item ∈ op.renamePreview, op.IsSent confirmed item = true →
    ∀ entry ∈ previewed.directoryEntries, op.Ignores locale item entry →
      op.targetOf item ≠ toCommanderEntryPath op.sourcePath entry.name

section

variable {op : CommanderCloneOperation} {pane confirmed previewed : CommanderPaneRuntimeState}
  {pair : ClonePair}

variable {item : CommanderRenamePreviewItem}

theorem batch_pair_eq_some :
    op.batchPair (getEntryPaths pane op.entryIds) item = some pair ↔
      trim item.nextName ≠ "" ∧ ∃ left, op.leftAt pane item = some left ∧
        entryPath pane left = some pair.sourcePath ∧ pair.targetPath = op.targetOf item := by
  let position := (op.entryIds.findIdx? (· == item.entryId)).bind fun index =>
    (leftOf pane op.entryIds)[index]?
  have source : ((op.entryIds.findIdx? (· == item.entryId)).bind fun index =>
      (getEntryPaths pane op.entryIds)[index]?) = position.bind (entryPath pane) := by
    rw [Option.bind_assoc]
    simp only [entry_paths_get]
  have isLeft : op.leftAt pane item = position.filter fun left => entryPath pane left ≠ some "" :=
    rfl
  rw [batchPair, source, isLeft]
  by_cases blank : trim item.nextName = ""
  · simp [blank]
  cases position with
  | none => simp [truthy]
  | some left =>
    cases path : entryPath pane left with
    | none => simp [truthy, path, blank]
    | some source =>
      by_cases empty : source = ""
      · simp [truthy, path, empty]
      have kept : truthy (some source) = some source := by simp [truthy, empty]
      have chosen : (some left).filter (fun left => entryPath pane left ≠ some "") =
          some left := by simp [path, empty]
      rcases pair with ⟨pairSource, pairTarget⟩
      rw [if_neg blank, Option.bind_some, path, kept, chosen, Option.map_some, Option.some_inj,
        ClonePair.mk.injEq]
      constructor
      · rintro ⟨rfl, rfl⟩
        exact ⟨blank, left, rfl, path, rfl⟩
      · rintro ⟨_, other, same, isPath, rfl⟩
        cases same
        exact ⟨Option.some.inj (path.symm.trans isPath), rfl⟩

theorem left_at_path {left : String} (isLeft : op.leftAt pane item = some left) :
    ∃ path, entryPath pane left = some path := by
  rcases Option.filter_eq_some_iff.mp isLeft with ⟨found, _⟩
  rcases Option.bind_eq_some_iff.mp found with ⟨index, _, isAt⟩
  have listed := (mem_filter.mp (mem_of_getElem? isAt)).2
  exact Option.isSome_iff_exists.mp listed

theorem pair_of_sent (sent : op.IsSent pane item = true) :
    ∃ pair, op.batchPair (getEntryPaths pane op.entryIds) item = some pair := by
  rw [IsSent, Bool.and_eq_true, decide_eq_true_iff] at sent
  rcases Option.isSome_iff_exists.mp sent.2 with ⟨left, isLeft⟩
  rcases left_at_path isLeft with ⟨path, isPath⟩
  exact ⟨⟨path, op.targetOf item⟩, batch_pair_eq_some.mpr ⟨sent.1, left, isLeft, isPath, rfl⟩⟩

theorem sent_of_pair (paired : op.batchPair (getEntryPaths pane op.entryIds) item = some pair) :
    op.IsSent pane item = true ∧ pair.targetPath = op.targetOf item := by
  rcases batch_pair_eq_some.mp paired with ⟨named, left, isLeft, _, target⟩
  refine ⟨?_, target⟩
  rw [IsSent, isLeft, Option.isSome_some, Bool.and_true, decide_eq_true_iff]
  exact named

theorem targets_eq (items : List CommanderRenamePreviewItem) :
    (items.filterMap (op.batchPair (getEntryPaths pane op.entryIds))).map (·.targetPath) =
    (items.filter (op.IsSent pane)).map op.targetOf := by
  induction items with
  | nil => rfl
  | cons item items ih =>
    cases paired : op.batchPair (getEntryPaths pane op.entryIds) item with
    | none =>
      have unsent : ¬op.IsSent pane item = true := by
        intro sent
        rcases pair_of_sent sent with ⟨pair, isPair⟩
        rw [paired] at isPair
        cases isPair
      rw [filterMap_cons_none paired, filter_cons_of_neg unsent, ih]
    | some pair =>
      have sent := sent_of_pair paired
      rw [filterMap_cons_some paired, filter_cons_of_pos sent.1, map_cons,
        map_cons, ih, sent.2]

def batchRequest (op : CommanderCloneOperation) (pane : CommanderPaneRuntimeState)
    (overwrite : Bool) : CloneRequest where
  entries := op.renamePreview.filterMap (op.batchPair (getEntryPaths pane op.entryIds))
  overwrite := overwrite

theorem perform_batch_eq_some (isBatch : op.cloneMode = .batch) {overwrite : Bool}
    {request : CloneRequest} :
    op.performTransferMutation pane overwrite = some request ↔
      (∃ first, (leftOf pane op.entryIds).head? = some first ∧ entryPath pane first ≠ some "") ∧
        request = op.batchRequest pane overwrite := by
  have heads : (getEntryPaths pane op.entryIds).head? =
      (leftOf pane op.entryIds).head?.bind (entryPath pane) := by
    rw [head?_eq_getElem?, head?_eq_getElem?]
    exact entry_paths_get op.entryIds 0
  rw [performTransferMutation, batchRequest, isBatch]
  cases left : leftOf pane op.entryIds with
  | nil =>
    rw [left] at heads
    rw [head?_eq_none_iff.mp heads]
    simp
  | cons first others =>
    have listed : (entryPath pane first).isSome = true :=
      (mem_filter.mp (left ▸ mem_cons_self : first ∈ leftOf pane op.entryIds)).2
    rcases Option.isSome_iff_exists.mp listed with ⟨path, isPath⟩
    rw [left, head?_cons, Option.bind_some, isPath] at heads
    cases paths : getEntryPaths pane op.entryIds with
    | nil =>
      rw [paths] at heads
      cases heads
    | cons head tail =>
      rw [paths] at heads
      obtain rfl := Option.some.inj heads
      by_cases empty : head = ""
      · simp [empty, isPath]
      · simp [isPath, eq_comm]

theorem answer_eq_some (isBatch : op.cloneMode = .batch) {answer : Answer}
    {request : CloneRequest} : op.answer pane answer = some request ↔ op.Sends pane answer ∧
    request = op.batchRequest pane (answer ≠ .confirm) := by
  cases answer with
  | confirm =>
    rw [CommanderCloneOperation.answer, confirm, Sends, isBatch]
    by_cases blank : trim op.inputValue = ""
    · simp [blank]
    · by_cases conflicts : op.conflictEntryNames = []
      · simp [blank, conflicts, perform_batch_eq_some isBatch]
      · simp [conflicts]
  | resolve resolution =>
    cases resolution with
    | overwriteCurrent =>
      simp [CommanderCloneOperation.answer, resolve, Sends, perform_batch_eq_some isBatch]
    | skipCurrent | skipAll => simp [CommanderCloneOperation.answer, resolve, Sends]
    | overwriteAll =>
      simp [CommanderCloneOperation.answer, resolve, Sends, perform_batch_eq_some isBatch]
  | cancel => simp [CommanderCloneOperation.answer, Sends]

end

section

variable {host : HostLocale} {base : CommanderCloneOperation}
  {previewed confirmed : CommanderPaneRuntimeState} {template : String}

theorem ignores_of_no_conflicts
    (noConflicts : (base.preview host previewed template).conflictEntryNames = [])
    {item : CommanderRenamePreviewItem}
    (mem : item ∈ (base.preview host previewed template).renamePreview)
    {entry : CommanderDirectoryEntry} (listed : entry ∈ previewed.directoryEntries) :
    (base.preview host previewed template).Ignores host.toLocale item entry := by
  let items := namedByTemplate host previewed base.entryIds template
  have ids : (base.preview host previewed template).renamePreview.map (·.entryId) =
      items.map (·.entryId) := map_map
  have names : ((base.preview host previewed template).renamePreview.map fun other =>
      normalizeEntryName host.toLocale other.nextName) =
        items.map fun other => normalizeEntryName host.toLocale other.nextName := map_map
  by_contra ignored
  rw [Ignores, not_or, not_or, not_or, hasDuplicateTarget, ids, names] at ignored
  rcases ignored with ⟨notCopied, notBlank, notShared, sameName⟩
  rcases mem_map.mp mem with ⟨named, isNamed, rfl⟩
  have hasName : normalizeEntryName host.toLocale named.nextName ≠ "" := notBlank
  have alone : ¬hasDuplicateTarget host.toLocale items named = true := notShared
  have inDirectory : hasDirectoryConflict host.toLocale previewed items named = true := by
    rw [hasDirectoryConflict, any_eq_true]
    refine ⟨entry, listed, ?_⟩
    rw [Bool.and_eq_true, decide_eq_true_iff, beq_iff_eq]
    exact ⟨notCopied, not_not.mp sameName⟩
  have status : previewStatus host.toLocale previewed items named = .conflict := by
    rw [previewStatus, if_neg hasName, if_neg alone, if_pos inDirectory]
  have conflict : named.nextName ∈ (base.preview host previewed template).conflictEntryNames := by
    apply mem_eraseDups.mpr
    apply mem_map.mpr
    exact ⟨_, mem_filter.mpr ⟨mem, decide_eq_true status⟩, rfl⟩
  rw [noConflicts] at conflict
  cases conflict

theorem fits_preview_iff (isBatch : base.cloneMode = .batch) (answer : Answer) :
    (∀ request, (base.preview host previewed template).answer confirmed answer = some request →
      (base.preview host previewed template).FitsPreview previewed confirmed request) ↔
    ((base.preview host previewed template).Sends confirmed answer →
      (base.preview host previewed template).InPlace host.toLocale previewed confirmed answer) := by
  have isBatch' : (base.preview host previewed template).cloneMode = .batch := isBatch
  have noConflicts : (base.preview host previewed template).Sends confirmed .confirm →
      (base.preview host previewed template).conflictEntryNames = [] := fun sends => sends.1.2
  have everIgnored := @ignores_of_no_conflicts host base previewed template
  generalize base.preview host previewed template = op at *
  constructor
  · intro fits sends
    have fit := fits _ ((answer_eq_some isBatch').mpr ⟨sends, rfl⟩)
    refine ⟨?_, ?_, ?_⟩
    · intro item mem named left isLeft
      rcases left_at_path isLeft with ⟨path, isPath⟩
      have paired : op.batchPair (getEntryPaths confirmed op.entryIds) item =
          some ⟨path, op.targetOf item⟩ :=
        batch_pair_eq_some.mpr ⟨named, left, isLeft, isPath, rfl⟩
      rw [isPath, (fit.paired item mem _ paired).2.1]
    · rw [← targets_eq]
      exact fit.distinct
    intro isConfirm item mem sent entry listed _
    rcases pair_of_sent sent with ⟨pair, paired⟩
    rw [← (sent_of_pair paired).2]
    have unforced : (op.batchRequest confirmed (answer ≠ .confirm)).overwrite = false := by
      rw [isConfirm]
      rfl
    exact fit.unused unforced pair (fit.paired item mem pair paired).1 entry listed
  intro inPlace request answered
  obtain ⟨sends, rfl⟩ := (answer_eq_some isBatch').mp answered
  have place := inPlace sends
  refine ⟨?_, ?_, ?_, ?_⟩
  · intro item mem pair paired
    rcases batch_pair_eq_some.mp paired with ⟨named, left, isLeft, isPath, target⟩
    refine ⟨mem_filterMap.mpr ⟨item, mem, paired⟩, ?_, target⟩
    rw [← place.ownEntry item mem named left isLeft, isPath]
  · intro pair mem
    exact mem_filterMap.mp mem
  · rw [batchRequest, targets_eq]
    exact place.ownTarget
  intro unforced pair mem entry listed
  have isConfirm : answer = .confirm := by
    by_contra other
    rw [batchRequest, decide_eq_false_iff_not] at unforced
    exact unforced other
  rcases mem_filterMap.mp mem with ⟨item, isItem, paired⟩
  have sent := sent_of_pair paired
  rw [sent.2]
  exact place.newTarget isConfirm item isItem sent.1 entry listed
    (everIgnored (noConflicts (isConfirm ▸ sends)) isItem listed)

end

end CommanderCloneOperation

section

theorem unit_length_append (left right : List Char) :
    unitLength (left ++ right) = unitLength left + unitLength right := by
  rw [unitLength, codeUnits, flatMap_append, length_append]
  rfl

theorem unit_length_cons (c : Char) (rest : List Char) :
    unitLength (c :: rest) = unitLength [c] + unitLength rest :=
  unit_length_append [c] rest

theorem unit_length_le_two (c : Char) : unitLength [c] ≤ 2 := by
  rw [unitLength, codeUnits, flatMap_singleton]
  dsimp only
  split
  · exact Nat.le_succ 1
  · exact Nat.le_refl 2

theorem unit_length_take_units {count : Nat} {text : List Char} (enough : count ≤ unitLength text) :
    count ≤ unitLength (takeUnits count text) + 1 := by
  induction text generalizing count with
  | nil => exact Nat.le_succ_of_le enough
  | cons c rest ih =>
    rw [unit_length_cons] at enough
    rw [takeUnits]
    split
    · have others := ih (show count - unitLength [c] ≤ unitLength rest by omega)
      rw [unit_length_cons]
      omega
    · have short := unit_length_le_two c
      omega

variable (host : HostLocale) (entry : CommanderDirectoryEntry)

theorem copy_suffix_length (suffixIndex : Nat) :
    5 ≤
      unitLength
        (if suffixIndex ≤ 1 then "-copy".toList
        else ("-copy-" ++ toString suffixIndex).toList) := by
  split
  · decide
  · rw [String.toList_append, unit_length_append]
    have fixed : unitLength "-copy-".toList = 6 := by decide
    omega

theorem base_name_length (file : ¬(entry.kind ≠ .file ∨ entry.ext = "")) :
    unitLength entry.name.toList ≤
      unitLength (splitEntryBaseNameAndExt host entry).baseName + 1 +
        unitLength ("." ++ entry.ext).toList ∧
    (splitEntryBaseNameAndExt host entry).ext = entry.ext.toList := by
  rw [splitEntryBaseNameAndExt, if_neg file]
  dsimp only
  split
  · refine ⟨?_, rfl⟩
    have kept := unit_length_take_units
      (Nat.sub_le (unitLength entry.name.toList) (unitLength ("." ++ entry.ext).toList))
    dsimp only
    omega
  · refine ⟨?_, rfl⟩
    dsimp only
    omega

theorem clone_name_longer (suffixIndex : Nat) : unitLength entry.name.toList <
    unitLength (buildCommanderCloneName host entry suffixIndex).toList := by
  have suffixLength := copy_suffix_length suffixIndex
  rw [buildCommanderCloneName]
  split
  · rename_i isFile
    have file : ¬(entry.kind ≠ .file ∨ entry.ext = "") := by
      rintro (other | empty)
      · exact other isFile.1
      · apply isFile.2
        rw [splitEntryBaseNameAndExt, if_pos (.inr empty)]
    rcases base_name_length host entry file with ⟨long, ext⟩
    have dotted : unitLength ("." ++ entry.ext).toList =
        unitLength ['.'] + unitLength entry.ext.toList := by
      rw [String.toList_append, unit_length_append]
      rfl
    rw [String.toList_ofList, unit_length_append, unit_length_append, unit_length_cons, ext]
    omega
  · rw [String.toList_ofList, unit_length_append]
    omega

end

section

variable {host : HostLocale} {pane : CommanderPaneRuntimeState} {entry : CommanderDirectoryEntry}

def IsFree (host : HostLocale) (pane : CommanderPaneRuntimeState)
    (entry : CommanderDirectoryEntry) (suffixIndex : Nat) : Prop :=
  getCommanderEntryNameConflict host.toLocale pane
    (buildCommanderCloneName host entry suffixIndex) (some entry.id) = false

theorem suggest_from_eq (tries start : Nat) : ∃ skipped ≤ tries,
    suggestFrom host pane entry tries start = buildCommanderCloneName host entry (start + skipped) ∧
    (skipped < tries → IsFree host pane entry (start + skipped)) ∧
    ∀ earlier < skipped, ¬IsFree host pane entry (start + earlier) := by
  induction tries generalizing start with
  | zero => exact ⟨0, Nat.le_refl 0, rfl, fun none => absurd none (Nat.not_lt_zero 0), nofun⟩
  | succ tries ih =>
    by_cases free : IsFree host pane entry start
    · refine ⟨0, Nat.zero_le _, ?_, fun _ => free, nofun⟩
      exact if_neg (Bool.eq_false_iff.mp free)
    rcases ih (start + 1) with ⟨skipped, bound, suggested, accepted, others⟩
    refine ⟨skipped + 1, Nat.succ_le_succ bound, ?_, ?_, ?_⟩
    · rw [← Nat.add_assoc, Nat.add_right_comm, ← suggested]
      exact if_pos (Bool.not_eq_false _ ▸ free)
    · intro early
      rw [← Nat.add_assoc, Nat.add_right_comm]
      exact accepted (Nat.lt_of_succ_lt_succ early)
    intro earlier early
    cases earlier with
    | zero => exact free
    | succ earlier =>
      rw [← Nat.add_assoc, Nat.add_right_comm]
      exact others earlier (Nat.lt_of_succ_lt_succ early)

theorem free_name_unused (listing : Listing pane.path pane.directoryEntries)
    (mem : entry ∈ pane.directoryEntries) {suffixIndex : Nat}
    (free : IsFree host pane entry suffixIndex) : ∀ other ∈ pane.directoryEntries, other.name ≠
    buildCommanderCloneName host entry suffixIndex := by
  intro other isOther same
  have longer := clone_name_longer host entry suffixIndex
  by_cases isEntry : other = entry
  · rw [← same, isEntry] at longer
    exact Nat.lt_irrefl _ longer
  have ids : some entry.id ≠ some other.id := by
    intro sameId
    apply isEntry
    exact inj_on_of_nodup_map listing.distinct_ids isOther mem
      (Option.some.inj sameId).symm
  have conflict : getCommanderEntryNameConflict host.toLocale pane
      (buildCommanderCloneName host entry suffixIndex) (some entry.id) = true := by
    rw [getCommanderEntryNameConflict, any_eq_true]
    refine ⟨other, isOther, ?_⟩
    have hasId : truthy (some entry.id) = some entry.id := by
      simp [truthy, listing.id_nonempty mem]
    rw [hasId, same, Bool.and_eq_true, decide_eq_true_iff, beq_iff_eq]
    exact ⟨ids, rfl⟩
  rw [IsFree, conflict] at free
  cases free

theorem suggestion_unused_iff (listing : Listing pane.path pane.directoryEntries)
    (entryId : String) :
    (∃ name, suggestCommanderCloneName host pane entryId = some name ∧
      ∀ other ∈ pane.directoryEntries, other.name ≠ name) ↔
    ∃ entry ∈ pane.directoryEntries, entry.id = entryId ∧
    ((∃ suffixIndex, 1 ≤ suffixIndex ∧ suffixIndex ≤ 999 ∧ IsFree host pane entry suffixIndex) ∨
      ∀ other ∈ pane.directoryEntries, other.name ≠ buildCommanderCloneName host entry 1000) := by
  constructor
  · rintro ⟨name, suggested, unused⟩
    rcases Option.map_eq_some_iff.mp suggested with ⟨entry, found, rfl⟩
    refine ⟨entry, mem_of_find?_eq_some found, ?_, ?_⟩
    · have isId := find?_some found
      exact eq_of_beq isId
    rcases @suggest_from_eq host pane entry 999 1 with
      ⟨skipped, bound, isName, accepted, _⟩
    rw [isName] at unused
    rcases Nat.lt_or_ge skipped 999 with early | late
    · exact .inl ⟨1 + skipped, Nat.le_add_right 1 skipped, by omega, accepted early⟩
    · obtain rfl := Nat.le_antisymm bound late
      exact .inr unused
  rintro ⟨entry, mem, rfl, free⟩
  have found : pane.directoryEntries.find? (·.id == entry.id) = some entry := by
    have isListed : (pane.directoryEntries.find? (·.id == entry.id)).isSome = true :=
      find?_isSome.mpr ⟨entry, mem, beq_self_eq_true entry.id⟩
    rcases Option.isSome_iff_exists.mp isListed with ⟨other, isOther⟩
    have isId := find?_some isOther
    rw [isOther, inj_on_of_nodup_map listing.distinct_ids
      (mem_of_find?_eq_some isOther) mem (eq_of_beq isId)]
  refine ⟨_, by rw [suggestCommanderCloneName, found, Option.map_some], ?_⟩
  rcases @suggest_from_eq host pane entry 999 1 with
    ⟨skipped, bound, isName, accepted, others⟩
  rw [isName]
  rcases Nat.lt_or_ge skipped 999 with early | late
  · exact free_name_unused listing mem (accepted early)
  obtain rfl := Nat.le_antisymm bound late
  rcases free with ⟨suffixIndex, first, last, isFree⟩ | unused
  · have notFree := others (suffixIndex - 1) (by omega)
    rw [Nat.add_sub_cancel' first] at notFree
    exact absurd isFree notFree
  · exact unused

/-- A batch is as previewed exactly if its items are in place; a name that no entry has is suggested
exactly if one of the first 999 is free, or the one after them. -/
theorem clone_as_previewed_iff {base : CommanderCloneOperation} (isBatch : base.cloneMode = .batch)
    (previewed confirmed : CommanderPaneRuntimeState) (template : String) (answer : Answer)
    (listing : Listing previewed.path previewed.directoryEntries) (entryId : String) :
    ((∀ request, (base.preview host previewed template).answer confirmed answer = some request →
        (base.preview host previewed template).FitsPreview previewed confirmed request) ↔
      ((base.preview host previewed template).Sends confirmed answer →
        (base.preview host previewed template).InPlace host.toLocale previewed confirmed answer)) ∧
    ((∃ name, suggestCommanderCloneName host previewed entryId = some name ∧
        ∀ other ∈ previewed.directoryEntries, other.name ≠ name) ↔
      ∃ entry ∈ previewed.directoryEntries, entry.id = entryId ∧
        ((∃ suffixIndex, 1 ≤ suffixIndex ∧ suffixIndex ≤ 999 ∧
            IsFree host previewed entry suffixIndex) ∨
          ∀ other ∈ previewed.directoryEntries,
            other.name ≠ buildCommanderCloneName host entry 1000)) :=
  ⟨CommanderCloneOperation.fits_preview_iff isBatch answer, suggestion_unused_iff listing entryId⟩

end

/-- A pane of files in `/src`, all of them selected. -/
def paneOf (names : List String) : CommanderPaneRuntimeState :=
  let entries := names.map fun name =>
    ({ id := toCommanderEntryId "/src" name, name := name } : CommanderDirectoryEntry)
  { path := "/src"
    filterQuery := ""
    directoryEntries := entries
    entries := entries
    cursorEntryId := none
    selectionAnchorEntryId := none
    selectedIds := entries.map (·.id) }

def cloneOf (names : List String) : CommanderCloneOperation where
  sourcePath := "/src"
  entryIds := (paneOf names).selectedIds
  entryNames := names
  inputValue := ""
  cloneMode := .batch
  conflictEntryNames := []
  duplicateTargetNames := []
  renamePreview := []

theorem listed_file_gets_a_name :
    ∃ name, suggestCommanderCloneName plainHost (paneOf ["a", "b"]) "/src::a" = some name ∧
      ∀ other ∈ (paneOf ["a", "b"]).directoryEntries, other.name ≠ name := by
  have listing : Listing (paneOf ["a", "b"]).path (paneOf ["a", "b"]).directoryEntries :=
    ⟨by decide, by decide, by decide⟩
  have isBatch : (cloneOf ["a", "b"]).cloneMode = .batch := rfl
  apply (clone_as_previewed_iff isBatch (paneOf ["a", "b"]) (paneOf ["a", "b"]) "[N]-copy" .confirm
    listing "/src::a").2.mpr
  refine ⟨_, mem_cons_self, rfl, .inl ⟨1, Nat.le_refl 1, by decide, ?_⟩⟩
  rw [IsFree]
  decide +kernel

def previewOf (names : List String) (template : String) : CommanderCloneOperation :=
  (cloneOf names).preview plainHost (paneOf names) template

/-- The first of three files vanishes; one name is given to two files; two files are copied to
themselves. -/
theorem clone_not_as_previewed :
    CommanderCloneOperation.create plainHost (paneOf ["a", "b", "c"]) =
      some (previewOf ["a", "b", "c"] "[N]-copy") ∧
    (previewOf ["a", "b", "c"] "[N]-copy").answer (paneOf ["b", "c"]) .confirm =
      some ⟨[⟨"/src/b", "/src/a-copy"⟩, ⟨"/src/c", "/src/b-copy"⟩], false⟩ ∧
    ¬(previewOf ["a", "b", "c"] "[N]-copy").FitsPreview (paneOf ["a", "b", "c"]) (paneOf ["b", "c"])
      ⟨[⟨"/src/b", "/src/a-copy"⟩, ⟨"/src/c", "/src/b-copy"⟩], false⟩ ∧
    (previewOf ["a", "b"] "same").answer (paneOf ["a", "b"]) .confirm =
      some ⟨[⟨"/src/a", "/src/same"⟩, ⟨"/src/b", "/src/same"⟩], false⟩ ∧
    ¬(previewOf ["a", "b"] "same").FitsPreview (paneOf ["a", "b"]) (paneOf ["a", "b"])
      ⟨[⟨"/src/a", "/src/same"⟩, ⟨"/src/b", "/src/same"⟩], false⟩ ∧
    (previewOf ["a", "b"] "[F]").answer (paneOf ["a", "b"]) .confirm =
      some ⟨[⟨"/src/a", "/src/a"⟩, ⟨"/src/b", "/src/b"⟩], false⟩ ∧
    ¬(previewOf ["a", "b"] "[F]").FitsPreview (paneOf ["a", "b"]) (paneOf ["a", "b"])
      ⟨[⟨"/src/a", "/src/a"⟩, ⟨"/src/b", "/src/b"⟩], false⟩ := by
  refine ⟨by decide +kernel, by decide +kernel, ?_, by decide +kernel, ?_, by decide +kernel, ?_⟩
  · intro fits
    let item : CommanderRenamePreviewItem :=
      { entryId := "/src::a", currentName := "a", nextName := "a-copy" }
    have own := (fits.paired item (by decide +kernel) ⟨"/src/b", "/src/a-copy"⟩
      (by decide +kernel)).2.1
    exact absurd own (by decide +kernel)
  · intro fits
    exact absurd fits.distinct (by decide)
  intro fits
  have unused := fits.unused rfl ⟨"/src/a", "/src/a"⟩ List.mem_cons_self
    { id := "/src::a", name := "a" } (by decide +kernel)
  exact absurd unused (by decide +kernel)

end RuneTerminal.Commander
