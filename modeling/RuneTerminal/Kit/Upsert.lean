import RuneTerminal.Kit.ListSplit

/-! A keyed list in which the first item with a key is replaced, or a new item is appended. Keys may
repeat: only the first item under a key is ever found or replaced. -/

namespace RuneTerminal.Kit

open List

variable {Item Key Entry View : Type} [DecidableEq Key]

/-- What is found first under the key, if anything, says what is put there. -/
def upsertFirst (key : Item → Key) (wanted : Key) (put : Option Item → Item) :
    List Item → List Item
  | [] => [put none]
  | item :: rest =>
    if key item = wanted then put (some item) :: rest
    else item :: upsertFirst key wanted put rest

def findFirst (key : Item → Key) (wanted : Key) (items : List Item) : Option Item :=
  items.find? (key · == wanted)

variable {key : Item → Key} {wanted other : Key} {put : Option Item → Item} {items : List Item}
  {item : Item} {view : Item → View}

@[simp]
theorem find_first_nil : findFirst key wanted ([] : List Item) = none := rfl

theorem find_first_cons (item : Item) : findFirst key wanted (item :: items) = if key item =
    wanted then some item else findFirst key wanted items := by
  rw [findFirst, find?_cons]
  by_cases same : key item = wanted
  · simp [same]
  · rw [if_neg same, beq_eq_false_iff_ne.mpr same, findFirst]

theorem find_first_key (found : findFirst key wanted items = some item) : key item = wanted := by
  simpa using find?_some found

theorem find_first_mem (found : findFirst key wanted items = some item) : item ∈ items :=
  mem_of_find?_eq_some found

theorem find_first_none (absent : findFirst key wanted items = none) (mem : item ∈ items) :
    key item ≠ wanted := by
  simpa using find?_eq_none.mp absent item mem

theorem find_first_split (found : findFirst key wanted items = some item) :
    ∃ before after, items = before ++ item :: after ∧ ∀ front ∈ before, key front ≠ wanted := by
  obtain ⟨_, before, after, whole, others⟩ := find?_eq_some_iff_append.mp found
  exact ⟨before, after, whole, fun front mem => by simpa using others front mem⟩

theorem upsert_first_split {before after : List Item}
    (others : ∀ front ∈ before, key front ≠ wanted) (found : key item = wanted) :
    upsertFirst key wanted put (before ++ item :: after) = before ++ put (some item) :: after := by
  induction before with
  | nil => rw [nil_append, upsertFirst, if_pos found, nil_append]
  | cons front before ih =>
    rw [forall_mem_cons] at others
    rw [cons_append, upsertFirst, if_neg others.1, ih others.2, cons_append]

theorem upsert_first_absent (absent : ∀ item ∈ items, key item ≠ wanted) :
    upsertFirst key wanted put items = items ++ [put none] := by
  induction items with
  | nil => rfl
  | cons item items ih =>
    rw [forall_mem_cons] at absent
    rw [upsertFirst, if_neg absent.1, ih absent.2, cons_append]

variable (items) in
theorem find_first_upsert (keyed : ∀ found, key (put found) = wanted) :
    findFirst key wanted (upsertFirst key wanted put items) =
      some (put (findFirst key wanted items)) := by
  induction items with
  | nil =>
    rw [upsertFirst, find_first_cons, if_pos (keyed none), find_first_nil]
  | cons item items ih =>
    rw [upsertFirst, find_first_cons]
    by_cases same : key item = wanted
    · rw [if_pos same, if_pos same, find_first_cons, if_pos (keyed _)]
    · rw [if_neg same, if_neg same, find_first_cons, if_neg same, ih]

theorem find_first_upsert_other (keyed : ∀ found, key (put found) = wanted)
    (apart : other ≠ wanted) :
    findFirst key other (upsertFirst key wanted put items) = findFirst key other items := by
  have putApart : ∀ found, key (put found) ≠ other := by
    intro found
    rw [keyed found]
    exact apart.symm
  induction items with
  | nil => rw [upsertFirst, find_first_cons, if_neg (putApart none)]
  | cons item items ih =>
    rw [upsertFirst, find_first_cons]
    by_cases same : key item = wanted
    · rw [if_pos same, find_first_cons, if_neg (putApart _), if_neg (same ▸ apart.symm)]
    · rw [if_neg same, find_first_cons, ih]

theorem mem_upsert_of_other (mem : item ∈ items)
    (notFirst : findFirst key wanted items ≠ some item) :
    item ∈ upsertFirst key wanted put items := by
  cases found : findFirst key wanted items with
  | none =>
    rw [upsert_first_absent fun other isOther => find_first_none found isOther]
    exact mem_append_left _ mem
  | some first =>
    have isFirst := find_first_key found
    rcases find_first_split found with ⟨before, after, rfl, others⟩
    rw [upsert_first_split others isFirst]
    rw [mem_append, mem_cons] at mem ⊢
    rcases mem with front | same | back
    · exact .inl front
    · rw [found, same] at notFirst
      exact absurd rfl notFirst
    · exact .inr (.inr back)

theorem filter_upsert_first (keyed : ∀ found, key (put found) = wanted) {keep : Item → Bool}
    (ignores : ∀ item, key item = wanted → keep item = false) :
    (upsertFirst key wanted put items).filter keep = items.filter keep := by
  induction items with
  | nil => rw [upsertFirst, filter_cons_of_neg (by simp [ignores _ (keyed none)])]
  | cons item items ih =>
    rw [upsertFirst]
    by_cases same : key item = wanted
    · rw [if_pos same, filter_cons_of_neg (by simp [ignores _ (keyed (some item))]),
        filter_cons_of_neg (by simp [ignores item same])]
    · rw [if_neg same, filter_cons, filter_cons, ih]

theorem map_upsert_first (found : findFirst key wanted items = some item)
    (same : view (put (some item)) = view item) :
    (upsertFirst key wanted put items).map view = items.map view := by
  have isFirst := find_first_key found
  rcases find_first_split found with ⟨before, after, rfl, others⟩
  rw [upsert_first_split others isFirst, map_append, map_append, map_cons,
    map_cons, same]

section

variable (key) (keyOf : Entry → Key) (put : Entry → Option Item → Item)

def upsertAll (items : List Item) (entries : List Entry) : List Item :=
  entries.foldl (fun items entry => upsertFirst key (keyOf entry) (put entry) items) items

variable {key keyOf put} {entries : List Entry}

theorem find_upsert_all_other (keyed : ∀ entry found, key (put entry found) = keyOf entry)
    (apart : wanted ∉ entries.map keyOf) :
    findFirst key wanted (upsertAll key keyOf put items entries) = findFirst key wanted items := by
  induction entries generalizing items with
  | nil => rfl
  | cons entry entries ih =>
    rw [map_cons, mem_cons, not_or] at apart
    exact (ih apart.2).trans (find_first_upsert_other (keyed entry) apart.1)

variable (items) in
theorem find_upsert_all (keyed : ∀ entry found, key (put entry found) = keyOf entry)
    (nodup : (entries.map keyOf).Nodup) {entry : Entry} (mem : entry ∈ entries) :
    findFirst key (keyOf entry) (upsertAll key keyOf put items entries) =
    some (put entry (findFirst key (keyOf entry) items)) := by
  induction entries generalizing items with
  | nil => cases mem
  | cons first entries ih =>
    rw [map_cons, nodup_cons] at nodup
    rw [upsertAll, foldl_cons]
    rcases mem_cons.mp mem with rfl | later
    · exact (find_upsert_all_other keyed nodup.1).trans (find_first_upsert items (keyed entry))
    have apart : keyOf entry ≠ keyOf first := by
      intro same
      exact nodup.1 (same ▸ mem_map_of_mem later)
    refine (ih _ nodup.2 later).trans ?_
    rw [find_first_upsert_other (keyed first) apart]

section

variable (keyed : ∀ entry found, key (put entry found) = keyOf entry)
include keyed

theorem filter_upsert_all {keep : Item → Bool}
    (ignores : ∀ item, key item ∈ entries.map keyOf → keep item = false) :
    (upsertAll key keyOf put items entries).filter keep = items.filter keep := by
  induction entries generalizing items with
  | nil => rfl
  | cons entry entries ih =>
    have later : ∀ item, key item ∈ entries.map keyOf → keep item = false := by
      intro item mem
      exact ignores item (mem_cons_of_mem _ mem)
    refine (ih later).trans (filter_upsert_first (keyed entry) ?_)
    intro item same
    apply ignores item
    rw [same]
    exact mem_cons_self

theorem mem_upsert_all_of_other (nodup : (entries.map keyOf).Nodup) (mem : item ∈ items)
    (notFirst : ∀ entry ∈ entries, findFirst key (keyOf entry) items ≠ some item) :
    item ∈ upsertAll key keyOf put items entries := by
  induction entries generalizing items with
  | nil => exact mem
  | cons entry entries ih =>
    rw [map_cons, nodup_cons] at nodup
    rw [forall_mem_cons] at notFirst
    apply ih nodup.2 (mem_upsert_of_other mem notFirst.1)
    intro later isLater
    have apart : keyOf later ≠ keyOf entry := by
      intro same
      exact nodup.1 (same ▸ mem_map_of_mem isLater)
    rw [find_first_upsert_other (keyed entry) apart]
    exact notFirst.2 later isLater

theorem map_upsert_all (nodup : (entries.map keyOf).Nodup) {view : Item → View}
    (settled : ∀ entry ∈ entries, ∃ item, findFirst key (keyOf entry) items = some item ∧
      view (put entry (some item)) = view item) :
    (upsertAll key keyOf put items entries).map view = items.map view := by
  induction entries generalizing items with
  | nil => rfl
  | cons entry entries ih =>
    rw [map_cons, nodup_cons] at nodup
    rw [forall_mem_cons] at settled
    rcases settled with ⟨⟨item, found, same⟩, later⟩
    refine (ih nodup.2 ?_).trans (map_upsert_first found same)
    intro next isNext
    have apart : keyOf next ≠ keyOf entry := by
      intro same
      exact nodup.1 (same ▸ mem_map_of_mem isNext)
    rw [find_first_upsert_other (keyed entry) apart]
    exact later next isNext

end

end

end RuneTerminal.Kit
