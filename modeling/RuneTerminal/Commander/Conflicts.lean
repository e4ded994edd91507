import RuneTerminal.Commander.Store

/-! A pending transfer keeps its entries twice, as ids in the order of the selection and as names in
the order of the display. When the two orders agree every answer acts on the entry it names. -/

namespace RuneTerminal.Commander

open Kit List CommanderTransferPendingOperation Transfer CommanderWidgetRuntimeState

/-- `entryNames[i]` is the name of the entry `entryIds[i]`. -/
def Aligned (source : CommanderPaneRuntimeState) (op : CommanderTransferPendingOperation) : Prop :=
  (op.entryIds.map fun entryId =>
    (source.directoryEntries.find? (·.id == entryId)).map (·.name)) = op.entryNames.map some

/-- What the answers have done so far is what they say. `requested` are the entries of the transfer,
and `conflicts` tells which have a conflict. -/
structure ActsAsAnswered (source : CommanderPaneRuntimeState)
    (requested : List CommanderDirectoryEntry) (conflicts : CommanderDirectoryEntry → Bool)
    (transfer : Transfer) : Prop where
  aligned : ∀ op, transfer.pending = some op → Aligned source op
  overwrites : ∀ request ∈ transfer.requests, request.overwrite = true →
    ∀ entry ∈ request.sources,
      entry.name ∈ transfer.overwriteNames ∨ transfer.overwriteAll = true
  skips : ∀ request ∈ transfer.requests, ∀ entry ∈ request.sources,
    entry.name ∉ transfer.skippedNames
  sends : transfer.pending = none → transfer.cancelled = false →
    ∀ entry ∈ requested, conflicts entry = false →
      (transfer.requests.flatMap (·.sources)).count entry = 1

/-- A pending transfer that is one list of entries. -/
structure IsListOf (op : CommanderTransferPendingOperation)
    (conflicts : CommanderDirectoryEntry → Bool) (entries : List CommanderDirectoryEntry) :
    Prop where
  entryIds : op.entryIds = entries.map (·.id)
  entryNames : op.entryNames = entries.map (·.name)
  conflictEntryNames : op.conflictEntryNames = (entries.filter conflicts).map (·.name)

variable {source : CommanderPaneRuntimeState} {op : CommanderTransferPendingOperation}
  {conflicts : CommanderDirectoryEntry → Bool}

section

variable {entries : List CommanderDirectoryEntry}

theorem resolve_entries (listing : Listing source.path source.directoryEntries)
    (known : ∀ entry ∈ entries, entry ∈ source.directoryEntries) :
    resolveEntriesInOrder source (entries.map (·.id)) = entries := by
  unfold resolveEntriesInOrder
  rw [filterMap_map]
  rw [filterMap_congr (g := some)]
  · exact filterMap_some
  · intro entry mem
    exact find_by_key CommanderDirectoryEntry.id listing.distinct_ids (known entry mem)

theorem IsListOf.aligned (isList : IsListOf op conflicts entries)
    (listing : Listing source.path source.directoryEntries)
    (known : ∀ entry ∈ entries, entry ∈ source.directoryEntries) : Aligned source op := by
  unfold Aligned
  rw [isList.entryIds, isList.entryNames, map_map, map_map]
  apply map_congr_left
  intro entry mem
  simp only [Function.comp_apply]
  rw [find_by_key CommanderDirectoryEntry.id listing.distinct_ids (known entry mem)]
  rfl

theorem performed (op : CommanderTransferPendingOperation)
    (listing : Listing source.path source.directoryEntries)
    (known : ∀ entry ∈ entries, entry ∈ source.directoryEntries) (overwrite : Bool) :
    (∀ request ∈ op.performTransferMutation source (entries.map (·.id)) overwrite,
      request.overwrite = overwrite ∧ request.sources = entries) ∧
    (op.performTransferMutation source (entries.map (·.id)) overwrite).flatMap (·.sources) =
      entries := by
  unfold performTransferMutation
  rw [resolve_entries listing known]
  dsimp only
  split_ifs with empty
  · simp [empty]
  · simp

theorem current_conflict (isList : IsListOf op conflicts entries)
    (nodup : (entries.map (·.name)).Nodup) {name : String}
    (current : op.getCurrentPendingConflictName = some name) :
    ∃ before entry after, entries = before ++ entry :: after ∧ conflicts entry = true ∧ entry.name =
    name ∧ op.entryNames.findIdx? (· == name) = some before.length ∧ op.entryIds[before.length]? =
    some entry.id ∧ IsListOf (op.removePendingTransferEntry name) conflicts (before ++ after) := by
  unfold CommanderTransferPendingOperation.getCurrentPendingConflictName at current
  rw [isList.conflictEntryNames, head?_map] at current
  obtain ⟨entry, isFirst, rfl⟩ := Option.map_eq_some_iff.mp current
  obtain ⟨mem, conflicting⟩ := mem_filter.mp (mem_of_mem_head? isFirst)
  obtain ⟨index, isIndex⟩ : ∃ index, entries.findIdx? (·.name == entry.name) = some index := by
    rw [← Option.isSome_iff_exists, findIdx?_isSome]
    exact any_eq_true.mpr ⟨entry, mem, beq_self_eq_true _⟩
  have inNames : op.entryNames.findIdx? (· == entry.name) = some index := by
    rw [isList.entryNames, findIdx?_map]
    exact isIndex
  obtain ⟨before, found, after, rfl, rfl, same⟩ := split_at_find_idx isIndex
  obtain rfl : found = entry :=
    inj_on_of_nodup_map nodup (by simp) mem (eq_of_beq same)
  refine ⟨before, found, after, rfl, conflicting, rfl, inNames, ?_, ?_⟩
  · simp [isList.entryIds]
  have others : ∀ other ∈ before ++ after, other.name ≠ found.name := by
    have unequal := nodup
    rw [map_append, map_cons, nodup_middle, ← map_append,
      nodup_cons] at unequal
    intro other isOther sameName
    exact unequal.1 (sameName ▸ mem_map_of_mem isOther)
  unfold removePendingTransferEntry
  rw [inNames]
  refine ⟨?_, ?_, ?_⟩
  · simp only [isList.entryIds, map_append, map_cons]
    rw [← length_map (f := (·.id)), erase_idx_at_split]
  · simp only [isList.entryNames, map_append, map_cons]
    rw [← length_map (f := (·.name)), erase_idx_at_split]
  simp only [isList.conflictEntryNames, filter_map]
  congr 1
  rw [filter_append, filter_cons_of_pos conflicting, filter_append,
    filter_cons_of_neg (by simp), ← filter_append, ← filter_append,
    filter_eq_self]
  intro other isOther
  simpa using others other (mem_of_mem_filter isOther)

end

structure Running (source : CommanderPaneRuntimeState)
    (requested : List CommanderDirectoryEntry) (conflicts : CommanderDirectoryEntry → Bool)
    (transfer : Transfer) (op : CommanderTransferPendingOperation)
    (left : List CommanderDirectoryEntry) : Prop where
  pending : transfer.pending = some op
  isList : IsListOf op conflicts left
  known : ∀ entry ∈ left, entry ∈ source.directoryEntries
  names : (left.map (·.name)).Nodup
  sent : ∀ request ∈ transfer.requests, ∀ entry ∈ request.sources,
    entry.name ∈ transfer.overwriteNames
  apart : ∀ entry ∈ left, entry.name ∉ transfer.overwriteNames ∧
    entry.name ∉ transfer.skippedNames
  disjoint : ∀ name ∈ transfer.overwriteNames, name ∉ transfer.skippedNames
  keeps : ∀ entry ∈ requested, conflicts entry = false → entry ∈ left

section

variable {requested : List CommanderDirectoryEntry} {transfer next : Transfer}
  {left : List CommanderDirectoryEntry} {entry : CommanderDirectoryEntry}

section

variable (running : Running source requested conflicts transfer op left)
include running

theorem Running.acts (listing : Listing source.path source.directoryEntries) :
    ActsAsAnswered source requested conflicts transfer := by
  refine ⟨?_, ?_, ?_, ?_⟩
  · intro pending isPending
    rw [running.pending] at isPending
    cases isPending
    exact running.isList.aligned listing running.known
  · intro request isRequest _ entry isSource
    exact .inl (running.sent request isRequest entry isSource)
  · intro request isRequest entry isSource
    exact running.disjoint _ (running.sent request isRequest entry isSource)
  · intro closed
    rw [running.pending] at closed
    cases closed

theorem Running.unsent (mem : entry ∈ left) : entry ∉ transfer.requests.flatMap (·.sources) := by
  intro isSent
  obtain ⟨request, isRequest, isSource⟩ := mem_flatMap.mp isSent
  exact (running.apart entry mem).1 (running.sent request isRequest entry isSource)

theorem Running.closes {last : List TransferRequest} {sources : List CommanderDirectoryEntry}
    {overwrite : Bool}
    (isLast : ∀ request ∈ last, request.overwrite = overwrite ∧ request.sources = sources)
    (lastSources : last.flatMap (·.sources) = sources) (isLeft : sources.Sublist left)
    (pending : next.pending = none) (requests : next.requests = transfer.requests ++ last)
    (overwriteNames : next.overwriteNames = transfer.overwriteNames)
    (allowed : overwrite = true → next.overwriteAll = true)
    (skipped : ∀ entry ∈ sources, entry.name ∉ next.skippedNames)
    (notSkipped : ∀ name ∈ transfer.overwriteNames, name ∉ next.skippedNames)
    (sends : next.cancelled = false → ∀ entry ∈ left, conflicts entry = false → entry ∈ sources) :
    ActsAsAnswered source requested conflicts next := by
  have nodup : left.Nodup := running.names.of_map _
  refine ⟨?_, ?_, ?_, ?_⟩
  · intro op isPending
    rw [pending] at isPending
    cases isPending
  · intro request isRequest overwriting entry isSource
    rw [requests] at isRequest
    rcases mem_append.mp isRequest with old | new
    · rw [overwriteNames]
      exact .inl (running.sent request old entry isSource)
    · rw [(isLast request new).1] at overwriting
      exact .inr (allowed overwriting)
  · intro request isRequest entry isSource
    rw [requests] at isRequest
    rcases mem_append.mp isRequest with old | new
    · exact notSkipped _ (running.sent request old entry isSource)
    · rw [(isLast request new).2] at isSource
      exact skipped entry isSource
  · intro _ finished entry isRequested free
    have isLeftEntry := running.keeps entry isRequested free
    rw [requests, flatMap_append, lastSources, count_append,
      count_eq_zero_of_not_mem (running.unsent isLeftEntry), Nat.zero_add]
    exact count_eq_one_of_mem (nodup.sublist isLeft)
      (sends finished entry isLeftEntry free)

end

def RunsOrDone (source : CommanderPaneRuntimeState) (requested : List CommanderDirectoryEntry)
    (conflicts : CommanderDirectoryEntry → Bool) (transfer : Transfer) : Prop :=
  (∃ op left, Running source requested conflicts transfer op left) ∨
    (transfer.pending = none ∧ ActsAsAnswered source requested conflicts transfer)

theorem proceed_runs_or_done {before sent : List TransferRequest}
    (running : Running source requested conflicts transfer op left)
    (listing : Listing source.path source.directoryEntries)
    (requests : transfer.requests = before ++ sent) :
    RunsOrDone source requested conflicts
      { transfer with
        pending := (op.proceed source sent).1
        requests := before ++ (op.proceed source sent).2 } := by
  unfold proceed
  split_ifs with empty conflicting
  · have nothing : left = [] := by
      rw [running.isList.entryIds] at empty
      exact map_eq_nil_iff.mp empty
    have isLast : ∀ request ∈ ([] : List TransferRequest),
        request.overwrite = false ∧ request.sources = [] := by simp
    right
    refine ⟨rfl, running.closes isLast rfl (nil_sublist _) rfl ?_ rfl (by simp) (by simp)
      running.disjoint ?_⟩
    · rw [append_nil]
      exact requests.symm
    · intro _ entry mem
      rw [nothing] at mem
      cases mem
  · left
    refine ⟨op, left, ?_⟩
    rw [← requests, ← running.pending]
    exact running
  right
  rw [running.isList.entryIds]
  obtain ⟨isLast, lastSources⟩ := performed op listing running.known false
  refine ⟨rfl, running.closes isLast lastSources (List.Sublist.refl _) rfl ?_ rfl (by simp) ?_
    running.disjoint ?_⟩
  · rw [requests, append_assoc]
  · exact fun entry mem => (running.apart entry mem).2
  · exact fun _ entry mem _ => mem

theorem Running.without {before after : List CommanderDirectoryEntry}
    {entry : CommanderDirectoryEntry} {smaller : CommanderTransferPendingOperation}
    (running : Running source requested conflicts transfer op (before ++ entry :: after))
    (conflicting : conflicts entry = true) (isList : IsListOf smaller conflicts (before ++ after))
    (pending : next.pending = some smaller)
    (sent : ∀ request ∈ next.requests, ∀ other ∈ request.sources, other.name ∈ next.overwriteNames)
    (overwriteNames : ∀ name ∈ next.overwriteNames, name ∈ transfer.overwriteNames ∨
      name = entry.name)
    (skippedNames : ∀ name ∈ next.skippedNames, name ∈ transfer.skippedNames ∨ name = entry.name)
    (once : entry.name ∈ next.overwriteNames → entry.name ∉ next.skippedNames) :
    Running source requested conflicts next smaller (before ++ after) := by
  have names := running.names
  rw [map_append, map_cons, nodup_middle, ← map_append, nodup_cons]
    at names
  have still : ∀ other ∈ before ++ after, other ∈ before ++ entry :: after := by
    intro other member
    exact perm_middle.symm.subset (mem_cons_of_mem _ member)
  refine ⟨pending, isList, ?_, names.2, sent, ?_, ?_, ?_⟩
  · exact fun other member => running.known other (still other member)
  · intro other member
    have ne : other.name ≠ entry.name := by
      intro same
      exact names.1 (same ▸ mem_map_of_mem member)
    obtain ⟨notOverwritten, notSkipped⟩ := running.apart other (still other member)
    constructor
    · intro isOverwritten
      rcases overwriteNames _ isOverwritten with old | new
      · exact notOverwritten old
      · exact ne new
    · intro isSkipped
      rcases skippedNames _ isSkipped with old | new
      · exact notSkipped old
      · exact ne new
  · intro name isOverwritten isSkipped
    by_cases isEntry : name = entry.name
    · subst isEntry
      exact once isOverwritten isSkipped
    · have wasOverwritten := (overwriteNames name isOverwritten).resolve_right isEntry
      exact running.disjoint name wasOverwritten
        ((skippedNames name isSkipped).resolve_right isEntry)
  · intro other isRequested free
    have member := running.keeps other isRequested free
    rcases mem_cons.mp (perm_middle.subset member) with rfl | kept
    · rw [conflicting] at free
      cases free
    · exact kept

theorem truthy_some {text : String} (nonempty : text ≠ "") : truthy (some text) = some text := by
  simp [truthy, nonempty]

section

variable (running : Running source requested conflicts transfer op left)
  (listing : Listing source.path source.directoryEntries)
include running listing

theorem skip_current_runs_or_done :
    RunsOrDone source requested conflicts
      ({ transfer with
        skippedNames := op.getCurrentPendingConflictName.toList ++ transfer.skippedNames }.settle
        (op.resolvePendingTransferConflict source .skipCurrent)) := by
  cases current : op.getCurrentPendingConflictName with
  | none =>
    left
    refine ⟨op, left, ?_⟩
    simp only [resolvePendingTransferConflict, current, truthy,
      settle, Option.filter_none, append_nil]
    rw [← running.pending]
    exact running
  | some name =>
    obtain ⟨before, entry, after, rfl, conflicting, rfl, _, _, smaller⟩ :=
      current_conflict running.isList running.names current
    have nonempty := listing.nonempty entry (running.known entry (by simp))
    simp only [resolvePendingTransferConflict, current,
      truthy_some nonempty, settle]
    have rest : Running source requested conflicts
        { transfer with
          pending := some (op.removePendingTransferEntry entry.name)
          skippedNames := [entry.name] ++ transfer.skippedNames }
        (op.removePendingTransferEntry entry.name) (before ++ after) := by
      refine running.without conflicting smaller rfl running.sent (fun _ => .inl) ?_ ?_
      · intro name mem
        exact (mem_cons.mp mem).symm
      · intro isOverwritten
        exact absurd isOverwritten (running.apart entry (by simp)).1
    exact proceed_runs_or_done rest listing (append_nil _).symm

theorem overwrite_current_runs_or_done :
    RunsOrDone source requested conflicts
      ({ transfer with
        overwriteNames := op.getCurrentPendingConflictName.toList ++
          transfer.overwriteNames }.settle
        (op.resolvePendingTransferConflict source .overwriteCurrent)) := by
  cases current : op.getCurrentPendingConflictName with
  | none =>
    left
    refine ⟨op, left, ?_⟩
    simp only [resolvePendingTransferConflict, current, truthy,
      settle, Option.filter_none, append_nil]
    rw [← running.pending]
    exact running
  | some name =>
    obtain ⟨before, entry, after, rfl, conflicting, rfl, isIndex, isEntry, smaller⟩ :=
      current_conflict running.isList running.names current
    have known := running.known entry (by simp)
    simp only [resolvePendingTransferConflict, current,
      truthy_some (listing.nonempty entry known), settle, isIndex, Option.bind_some,
      isEntry, truthy_some (listing.id_nonempty known)]
    have self : ∀ other ∈ [entry], other ∈ source.directoryEntries := by simpa using known
    have rest : Running source requested conflicts
        { transfer with
          pending := some (op.removePendingTransferEntry entry.name)
          requests := transfer.requests ++ op.performTransferMutation source [entry.id] true
          overwriteNames := [entry.name] ++ transfer.overwriteNames }
        (op.removePendingTransferEntry entry.name) (before ++ after) := by
      refine running.without conflicting smaller rfl ?_ ?_ (fun _ => .inl) ?_
      · intro request isRequest other isSource
        rcases mem_append.mp isRequest with old | new
        · exact mem_cons_of_mem _ (running.sent request old other isSource)
        · rw [((performed op listing self true).1 request new).2, mem_singleton] at isSource
          rw [isSource]
          exact mem_cons_self
      · intro name mem
        exact (mem_cons.mp mem).symm
      · intro _
        exact (running.apart entry (by simp)).2
    exact proceed_runs_or_done rest listing rfl

end

theorem conflicting_of_name (names : (left.map (·.name)).Nodup) (mem : entry ∈ left)
    (named : entry.name ∈ (left.filter conflicts).map (·.name)) : conflicts entry = true := by
  obtain ⟨other, isConflict, same⟩ := mem_map.mp named
  obtain ⟨isOther, conflicting⟩ := mem_filter.mp isConflict
  rwa [← inj_on_of_nodup_map names isOther mem same]

theorem non_conflicting_ids (isList : IsListOf op conflicts left)
    (names : (left.map (·.name)).Nodup) :
    (op.entryIds.zipIdx.filter fun (_, index) =>
      (op.entryNames[index]?.getD "") ∉ op.conflictEntryNames).map Prod.fst =
        (left.filter fun entry => !conflicts entry).map (·.id) := by
  have isFree : ∀ entry ∈ left,
      entry.name ∉ op.conflictEntryNames ↔ conflicts entry = false := by
    intro entry mem
    rw [isList.conflictEntryNames, ← Bool.not_eq_true]
    exact not_congr ⟨conflicting_of_name names mem, fun conflicting =>
      mem_map_of_mem (mem_filter.mpr ⟨mem, conflicting⟩)⟩
  have kept : ∀ pair ∈ left.zipIdx,
      (decide ((op.entryNames[pair.2]?.getD "") ∉ op.conflictEntryNames)) =
        !conflicts pair.1 := by
    rintro ⟨entry, index⟩ mem
    have isEntry : left[index]? = some entry := mem_zipIdx_iff_getElem?.mp mem
    have isName : op.entryNames[index]?.getD "" = entry.name := by
      rw [isList.entryNames, getElem?_map, isEntry]
      rfl
    rw [isName, Bool.eq_iff_iff, decide_eq_true_iff, Bool.not_eq_true']
    exact isFree entry (mem_of_getElem? isEntry)
  rw [isList.entryIds, zipIdx_map, filter_map, map_map]
  change (left.zipIdx.filter fun pair =>
    decide ((op.entryNames[pair.2]?.getD "") ∉ op.conflictEntryNames)).map
      ((·.id) ∘ Prod.fst) = _
  have filtered : (left.zipIdx.filter fun pair => !conflicts pair.1).map Prod.fst =
      left.filter fun entry => !conflicts entry := by
    nth_rewrite 2 [← zipIdx_map_fst 0 left]
    rw [filter_map]
    rfl
  rw [filter_congr kept, ← map_map, filtered]

section

variable (running : Running source requested conflicts transfer op left)
  (listing : Listing source.path source.directoryEntries)
include running listing

theorem answer_runs_or_done {given : Answer} (answered : transfer.answer source given = some next) :
    RunsOrDone source requested conflicts next := by
  unfold answer at answered
  rw [running.pending] at answered
  have free : ∀ entry ∈ left, conflicts entry = false →
      entry ∈ left.filter fun entry => !conflicts entry := by
    intro entry mem isFree
    exact mem_filter.mpr ⟨mem, by simp [isFree]⟩
  cases given with
  | confirm =>
    cases answered
    unfold confirmPendingOperation
    split_ifs
    · left
      refine ⟨op, left, ?_⟩
      simp only [settle, append_nil]
      rw [← running.pending]
      exact running
    right
    rw [running.isList.entryIds]
    obtain ⟨isLast, lastSources⟩ := performed op listing running.known false
    exact ⟨rfl, running.closes isLast lastSources (List.Sublist.refl _) rfl rfl rfl (by simp)
      (fun entry mem => (running.apart entry mem).2) running.disjoint
      (fun _ entry mem _ => mem)⟩
  | cancel =>
    cases answered
    have isLast : ∀ request ∈ ([] : List TransferRequest),
        request.overwrite = false ∧ request.sources = [] := by simp
    right
    exact ⟨rfl, running.closes isLast rfl (nil_sublist _) rfl rfl rfl (by simp) (by simp)
      running.disjoint (fun finished => by cases finished)⟩
  | resolve resolution =>
    cases resolution with
    | overwriteCurrent =>
      cases answered
      exact overwrite_current_runs_or_done running listing
    | skipCurrent =>
      cases answered
      exact skip_current_runs_or_done running listing
    | overwriteAll =>
      cases answered
      right
      simp only [resolvePendingTransferConflict]
      rw [running.isList.entryIds]
      obtain ⟨isLast, lastSources⟩ := performed op listing running.known true
      exact ⟨rfl, running.closes isLast lastSources (List.Sublist.refl _) rfl rfl rfl
        (fun _ => rfl) (fun entry mem => (running.apart entry mem).2) running.disjoint
        (fun _ entry mem _ => mem)⟩
    | skipAll =>
      cases answered
      right
      simp only [resolvePendingTransferConflict]
      rw [non_conflicting_ids running.isList running.names]
      have known : ∀ entry ∈ left.filter fun entry => !conflicts entry,
          entry ∈ source.directoryEntries :=
        fun entry mem => running.known entry (mem_of_mem_filter mem)
      obtain ⟨isLast, lastSources⟩ := performed op listing known false
      have unconditional : ∀ entryIds : List String,
          (if entryIds ≠ [] then op.performTransferMutation source entryIds false else []) =
            op.performTransferMutation source entryIds false := by
        intro entryIds
        cases entryIds with
        | nil => rfl
        | cons first rest => simp
      rw [unconditional]
      refine ⟨rfl, running.closes isLast lastSources filter_sublist rfl rfl rfl (by simp)
        ?_ ?_ (fun _ => free)⟩
      · intro entry mem
        obtain ⟨isLeft, isFree⟩ := mem_filter.mp mem
        intro isSkipped
        rcases mem_append.mp isSkipped with named | skipped
        · rw [running.isList.conflictEntryNames] at named
          rw [conflicting_of_name running.names isLeft named] at isFree
          cases isFree
        · exact (running.apart entry isLeft).2 skipped
      · intro name isOverwritten isSkipped
        rcases mem_append.mp isSkipped with named | skipped
        · rw [running.isList.conflictEntryNames] at named
          obtain ⟨other, isConflict, rfl⟩ := mem_map.mp named
          exact (running.apart other (mem_of_mem_filter isConflict)).1 isOverwritten
        · exact running.disjoint name isOverwritten skipped

theorem transfer_runs_or_done (reachable : Reachable (· = transfer) (Transfer.answer source) next) :
    RunsOrDone source requested conflicts next := by
  apply reachable.invariant
  · rintro start rfl
    exact .inl ⟨op, left, running⟩
  intro before given after invariant answered
  rcases invariant with ⟨pendingOp, pendingLeft, stillRunning⟩ | ⟨closed, _⟩
  · exact answer_runs_or_done stillRunning listing answered
  · unfold answer at answered
    rw [closed] at answered
    cases answered

end

end

/-- The selection was made, or put, in the order in which the entries are shown. -/
def InDisplayOrder (pane : CommanderPaneRuntimeState) : Prop :=
  pane.selectedIds = (pane.entries.filter fun entry => entry.id ∈ pane.selectedIds).map (·.id)

section

variable {locale : Locale} {widget : CommanderWidgetRuntimeState} {kind : TransferKind}
  {pane : CommanderPaneRuntimeState}

theorem ids_of_aligned (listing : Listing pane.path pane.directoryEntries) {entryIds : List String}
    {shown : List CommanderDirectoryEntry} (known : ∀ entry ∈ shown, entry ∈ pane.directoryEntries)
    (aligned : (entryIds.map fun entryId =>
      (pane.directoryEntries.find? (·.id == entryId)).map (·.name)) =
      (shown.map (·.name)).map some) :
    entryIds = shown.map (·.id) := by
  induction entryIds generalizing shown with
  | nil =>
    cases shown with
    | nil => rfl
    | cons entry rest => cases aligned
  | cons entryId rest ih =>
    cases shown with
    | nil => cases aligned
    | cons entry others =>
      obtain ⟨sameName, sameRest⟩ := cons.inj aligned
      obtain ⟨found, isFound, named⟩ := Option.map_eq_some_iff.mp sameName
      have isEntry : found = entry :=
        listing.same_name (mem_of_find?_eq_some isFound) (known entry (by simp)) named
      have sameID : found.id = entryId := by simpa using find?_some isFound
      rw [ih (fun other mem => known other (mem_cons_of_mem _ mem)) sameRest,
        map_cons, ← isEntry, sameID]

theorem operation_ids_shown (fits : PaneFits pane) (ordered : InDisplayOrder pane) :
    getOperationEntryIds pane =
    (pane.entries.filter fun entry => entry.id ∈ getOperationEntryIds pane).map (·.id) := by
  unfold getOperationEntryIds
  split_ifs with selected
  · exact ordered
  cases cursor : truthy pane.cursorEntryId with
  | none => simp
  | some entryId =>
    have isCursor := (Option.filter_eq_some_iff.mp cursor).1
    have shownOnce : (pane.entries.map (·.id)).count entryId = 1 :=
      count_eq_one_of_mem fits.distinct (fits.cursor entryId isCursor)
    have only : (pane.entries.map (·.id)).filter (· == entryId) = [entryId] := by
      rw [filter_beq, shownOnce]
      rfl
    rw [filter_map] at only
    refine only.symm.trans ?_
    congr 1
    apply filter_congr
    intro entry _
    by_cases same : entry.id = entryId <;> simp [same]

theorem created_operation (created : createPendingOperation locale widget kind = some op) :
    op.entryIds = getOperationEntryIds (widget.getPaneState widget.activePane) ∧
    op.entryNames =
      ((widget.getPaneState widget.activePane).entries.filter fun entry =>
        entry.id ∈ op.entryIds).map (·.name) ∧
    op.conflictEntryNames =
      getCommanderConflictingEntryNames locale (widget.getPaneState widget.activePane)
        (widget.getPaneState widget.activePane.other) op.entryIds := by
  unfold createPendingOperation at created
  dsimp only at created
  split_ifs at created
  cases created
  exact ⟨rfl, rfl, rfl⟩

theorem created_running (fits : PaneFits (widget.getPaneState widget.activePane))
    (ordered : InDisplayOrder (widget.getPaneState widget.activePane))
    (created : createPendingOperation locale widget kind = some op) :
    ∃ left,
      Running (widget.getPaneState widget.activePane)
        (resolveEntriesInOrder (widget.getPaneState widget.activePane) op.entryIds)
        (fun entry => isTaken locale (widget.getPaneState widget.activePane.other) entry.name)
        { pending := some op } op left := by
  obtain ⟨entryIds, entryNames, conflictEntryNames⟩ := created_operation created
  have shownIDs := operation_ids_shown fits ordered
  rw [← entryIds] at shownIDs
  -- From here on the request is the list of the entries that it shows.
  generalize isShown : (widget.getPaneState widget.activePane).entries.filter (fun entry =>
    entry.id ∈ op.entryIds) = shown at shownIDs entryNames
  have sublist : shown.Sublist (widget.getPaneState widget.activePane).entries :=
    isShown ▸ filter_sublist
  have known : ∀ entry ∈ shown,
      entry ∈ (widget.getPaneState widget.activePane).directoryEntries :=
    fun entry mem => fits.shown entry (sublist.subset mem)
  have resolved : resolveEntriesInOrder (widget.getPaneState widget.activePane) op.entryIds =
      shown := by
    rw [shownIDs]
    exact resolve_entries fits.listing known
  have names : (shown.map (·.name)).Nodup := by
    have nodup : shown.Nodup := (fits.distinct.sublist (sublist.map _)).of_map _
    exact nodup.map_on fun first isFirst second isSecond =>
      fits.listing.same_name (known first isFirst) (known second isSecond)
  refine ⟨shown, rfl, ⟨shownIDs, entryNames, ?_⟩, known, names, by simp, by simp, by simp, ?_⟩
  · rw [conflictEntryNames, getCommanderConflictingEntryNames, resolved, filter_map]
    rfl
  · rw [resolved]
    exact fun entry mem _ => mem

/-- The answers to the conflicts act on the entries they name exactly when the selection is in the
order in which the entries are shown. -/
theorem answers_act_as_named_iff {op : CommanderTransferPendingOperation}
    (reachable : Reachable (CommanderWidgetRuntimeState.Loaded locale)
      (CommanderWidgetRuntimeState.step locale) widget)
    (created : createPendingOperation locale widget kind = some op) :
    (∀ transfer,
      Reachable (· = { pending := some op })
        (Transfer.answer (widget.getPaneState widget.activePane)) transfer →
      ActsAsAnswered (widget.getPaneState widget.activePane)
        (resolveEntriesInOrder (widget.getPaneState widget.activePane) op.entryIds)
        (fun entry => isTaken locale (widget.getPaneState widget.activePane.other) entry.name)
        transfer) ↔
    InDisplayOrder (widget.getPaneState widget.activePane) := by
  have fits := panes_fit reachable widget.activePane
  constructor
  · intro acts
    obtain ⟨entryIds, entryNames, _⟩ := created_operation created
    have aligned := (acts _ (Reachable.start rfl)).aligned op rfl
    unfold Aligned at aligned
    rw [entryNames] at aligned
    have shownIDs := ids_of_aligned fits.listing
      (fun entry mem => fits.shown entry (mem_of_mem_filter mem)) aligned
    unfold InDisplayOrder
    by_cases selected : (widget.getPaneState widget.activePane).selectedIds = []
    · simp [selected]
    · rw [getOperationEntryIds, if_pos selected] at entryIds
      rw [entryIds] at shownIDs
      exact shownIDs
  · intro ordered transfer reached
    obtain ⟨left, running⟩ := created_running fits ordered created
    rcases transfer_runs_or_done running fits.listing reached with ⟨pending, rest, still⟩ | done
    · exact still.acts fits.listing
    · exact done.2

def plainLocale : Locale where
  localeCompare first second := if first < second then -1 else if second < first then 1 else 0
  toLowerCase := id
  canonicalize := id

def plainFile (path name : String) : CommanderDirectoryEntry where
  id := toCommanderEntryId path name
  name := name

def twoPanes : CommanderWidgetRuntimeState where
  activePane := .left
  options := ⟨false, .name, .asc, true⟩
  leftPane := .load plainLocale ⟨false, .name, .asc, true⟩ "/src" ""
    [plainFile "/src" "a", plainFile "/src" "b"]
  rightPane := .load plainLocale ⟨false, .name, .asc, true⟩ "/dst" "" [plainFile "/dst" "a"]

theorem two_panes_loaded : twoPanes.Loaded plainLocale := by
  intro paneId
  cases paneId with
  | left =>
    exact ⟨"/src", "", [plainFile "/src" "a", plainFile "/src" "b"],
      ⟨by decide, by decide, by decide⟩, rfl⟩
  | right =>
    exact ⟨"/dst", "", [plainFile "/dst" "a"], ⟨by decide, by decide, by decide⟩, rfl⟩

def toggled (first second : String) : CommanderWidgetRuntimeState :=
  (twoPanes.handle plainLocale (.togglePaneSelection .left first)).handle plainLocale
    (.togglePaneSelection .left second)

theorem toggled_reachable (first second : String) :
    Reachable (CommanderWidgetRuntimeState.Loaded plainLocale)
      (CommanderWidgetRuntimeState.step plainLocale) (toggled first second) := by
  have once : step plainLocale twoPanes
      (.togglePaneSelection .left first) =
        some (twoPanes.handle plainLocale (.togglePaneSelection .left first)) := rfl
  have twice : step plainLocale
      (twoPanes.handle plainLocale (.togglePaneSelection .left first))
      (.togglePaneSelection .left second) = some (toggled first second) := rfl
  exact ((Reachable.start two_panes_loaded).next once).next twice

def toggledCopy (first second : String) : CommanderTransferPendingOperation where
  kind := .copy
  sourcePaneId := .left
  sourcePath := "/src"
  targetPaneId := .right
  targetPath := "/dst"
  entryIds := [first, second]
  entryNames := ["a", "b"]
  conflictEntryNames := ["a"]

/-- Toggled from top to bottom, the files are handled as they are answered for. -/
theorem answers_act_as_named_top_to_bottom :
    createPendingOperation plainLocale (toggled "/src::a" "/src::b") .copy =
      some (toggledCopy "/src::a" "/src::b") ∧
    ∀ transfer,
      Reachable (· = { pending := some (toggledCopy "/src::a" "/src::b") })
        (Transfer.answer
          ((toggled "/src::a" "/src::b").getPaneState (toggled "/src::a" "/src::b").activePane))
        transfer →
      ActsAsAnswered
        ((toggled "/src::a" "/src::b").getPaneState (toggled "/src::a" "/src::b").activePane)
        (resolveEntriesInOrder
          ((toggled "/src::a" "/src::b").getPaneState (toggled "/src::a" "/src::b").activePane)
          ["/src::a", "/src::b"])
        (fun entry =>
          isTaken plainLocale
            ((toggled "/src::a" "/src::b").getPaneState
              (toggled "/src::a" "/src::b").activePane.other) entry.name) transfer := by
  have created : createPendingOperation plainLocale (toggled "/src::a" "/src::b") .copy =
      some (toggledCopy "/src::a" "/src::b") := by decide +kernel
  have ordered : InDisplayOrder ((toggled "/src::a" "/src::b").getPaneState
      (toggled "/src::a" "/src::b").activePane) := by
    unfold InDisplayOrder
    decide +kernel
  exact ⟨created, (answers_act_as_named_iff (toggled_reachable _ _) created).mpr ordered⟩

/-- Toggled from bottom to top, the answer to overwrite `a` overwrites `b`. -/
theorem overwrite_answer_hits_another_entry :
    Reachable (CommanderWidgetRuntimeState.Loaded plainLocale)
      (CommanderWidgetRuntimeState.step plainLocale) (toggled "/src::b" "/src::a") ∧
    createPendingOperation plainLocale (toggled "/src::b" "/src::a") .copy =
      some (toggledCopy "/src::b" "/src::a") ∧
    ∃ transfer,
      Reachable (· = { pending := some (toggledCopy "/src::b" "/src::a") })
        (Transfer.answer
          ((toggled "/src::b" "/src::a").getPaneState (toggled "/src::b" "/src::a").activePane))
        transfer ∧
      ¬ ActsAsAnswered
        ((toggled "/src::b" "/src::a").getPaneState (toggled "/src::b" "/src::a").activePane)
        (resolveEntriesInOrder
          ((toggled "/src::b" "/src::a").getPaneState (toggled "/src::b" "/src::a").activePane)
          ["/src::b", "/src::a"])
        (fun entry =>
          isTaken plainLocale
            ((toggled "/src::b" "/src::a").getPaneState
              (toggled "/src::b" "/src::a").activePane.other) entry.name) transfer := by
  have started : Reachable (· = { pending := some (toggledCopy "/src::b" "/src::a") })
      (Transfer.answer ((toggled "/src::b" "/src::a").getPaneState
        (toggled "/src::b" "/src::a").activePane))
      { pending := some (toggledCopy "/src::b" "/src::a") } := Reachable.start rfl
  have answered : (Transfer.answer ((toggled "/src::b" "/src::a").getPaneState
      (toggled "/src::b" "/src::a").activePane)
      { pending := some (toggledCopy "/src::b" "/src::a") } (.resolve .overwriteCurrent)) = some
        { pending := none
          requests := [⟨.copy, [plainFile "/src" "b"], "/dst", true⟩,
            ⟨.copy, [plainFile "/src" "a"], "/dst", false⟩]
          overwriteNames := ["a"] } := by decide +kernel
  refine ⟨toggled_reachable _ _, by decide +kernel, _, started.next answered, ?_⟩
  intro acts
  rcases acts.overwrites _ mem_cons_self rfl _ mem_cons_self with named | all
  · exact absurd named (by decide)
  · cases all

end

end RuneTerminal.Commander
