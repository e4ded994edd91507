import RuneTerminal.Kit.Upsert

/-! A map from keys to values, as the function that looks a key up. -/

namespace RuneTerminal.Kit

open List Option

def Table (Key Value : Type) := Key → Option Value

variable {Key : Type}

variable {other : Key}

namespace Table

variable {Value : Type}

def empty : Table Key Value := fun _ => none

def retain (keep : Value → Bool) (table : Table Key Value) : Table Key Value :=
  fun key => (table key).filter keep

variable {table : Table Key Value} {key : Key} {value found : Value}

theorem retain_eq_some_iff {keep : Value → Bool} :
    table.retain keep key = some value ↔ table key = some value ∧ keep value := by
  unfold retain
  rw [filter_eq_some_iff]

variable [DecidableEq Key]

def insert (table : Table Key Value) (key : Key) (value : Value) : Table Key Value :=
  fun other => if other = key then some value else table other

def erase (table : Table Key Value) (key : Key) : Table Key Value :=
  fun other => if other = key then none else table other

@[simp]
theorem insert_self (table : Table Key Value) (key : Key) (value : Value) :
    table.insert key value key = some value := by
  simp [insert]

theorem insert_of_ne (ne : other ≠ key) (value : Value) :
    table.insert key value other = table other := by
  simp [insert, ne]

@[simp]
theorem erase_self (table : Table Key Value) (key : Key) : table.erase key key = none := by
  simp [erase]

theorem erase_of_ne (ne : other ≠ key) : table.erase key other = table other := by
  simp [erase, ne]

theorem insert_eq_some (lookup : table.insert key value other = some found) :
    (other = key ∧ found = value) ∨ (other ≠ key ∧ table other = some found) := by
  by_cases same : other = key
  · subst same
    rw [insert_self] at lookup
    exact .inl ⟨rfl, (some.inj lookup).symm⟩
  · rw [insert_of_ne same] at lookup
    exact .inr ⟨same, lookup⟩

theorem old_of_insert (lookup : table.insert key value other = some found)
    (isOther : found ≠ value) : table other = some found := by
  rcases insert_eq_some lookup with ⟨_, same⟩ | ⟨_, old⟩
  · exact absurd same isOther
  · exact old

theorem erase_eq_some (lookup : table.erase key other = some found) :
    other ≠ key ∧ table other = some found := by
  by_cases same : other = key
  · subst same
    rw [erase_self] at lookup
    cases lookup
  · rw [erase_of_ne same] at lookup
    exact ⟨same, lookup⟩

theorem erase_absent (absent : table key = none) : table.erase key = table := by
  funext other
  by_cases same : other = key
  · subst same
    rw [erase_self, absent]
  · exact erase_of_ne same

theorem erase_eq_self_iff : table.erase key = table ↔ table key = none := by
  constructor
  · intro same
    rw [← same]
    exact erase_self table key
  · exact erase_absent

theorem erase_insert (absent : table key = none) : (table.insert key value).erase key = table := by
  funext other
  by_cases same : other = key
  · subst same
    rw [erase_self, absent]
  · rw [erase_of_ne same, insert_of_ne same]

theorem insert_erase (isThere : table key = some value) :
    (table.erase key).insert key value = table := by
  funext other
  by_cases same : other = key
  · subst same
    rw [insert_self, isThere]
  · rw [insert_of_ne same, erase_of_ne same]

theorem insert_insert {first second : Value} :
    (table.insert key first).insert key second = table.insert key second := by
  funext other
  by_cases same : other = key
  · subst same
    rw [insert_self, insert_self]
  · rw [insert_of_ne same, insert_of_ne same, insert_of_ne same]

theorem insert_self_eq (isThere : table key = some value) : table.insert key value = table := by
  funext other
  by_cases same : other = key
  · subst same
    rw [insert_self, isThere]
  · exact insert_of_ne same value

theorem insert_erase_of_any : (table.erase key).insert key value = table.insert key value := by
  funext other
  by_cases same : other = key
  · subst same
    rw [insert_self, insert_self]
  · rw [insert_of_ne same, insert_of_ne same, erase_of_ne same]

theorem erase_comm (table : Table Key Value) (first second : Key) :
    (table.erase first).erase second = (table.erase second).erase first := by
  funext other
  by_cases isFirst : other = first
  · simp [erase, isFirst]
  · simp [erase, isFirst]

end Table

structure Keyed {Item Key : Type} (key : Item → Key) where
  items : List Item
  distinct : (items.map key).Nodup

namespace Keyed

variable {Item : Type} {key : Item → Key}

def empty : Keyed key := ⟨[], List.nodup_nil⟩

variable [DecidableEq Key] (collection : Keyed key) {item : Item}

def find (wanted : Key) : Option Item := findFirst key wanted collection.items

variable {wanted : Key}

theorem find_eq_some_iff :
    collection.find wanted = some item ↔ item ∈ collection.items ∧ key item = wanted := by
  constructor
  · intro found
    exact ⟨find_first_mem found, find_first_key found⟩
  rintro ⟨mem, rfl⟩
  cases found : collection.find (key item) with
  | none => exact absurd rfl (find_first_none found mem)
  | some other =>
    have same := inj_on_of_nodup_map collection.distinct (find_first_mem found) mem
      (find_first_key found)
    rw [same]

theorem find_eq_none_iff : collection.find wanted = none ↔ wanted ∉ collection.items.map key := by
  rw [find, findFirst, find?_eq_none, List.mem_map]
  constructor
  · rintro absent ⟨item, mem, same⟩
    exact absent item mem (by simpa using same)
  · intro absent item mem same
    exact absent ⟨item, mem, by simpa using same⟩

def push (item : Item) (absent : collection.find (key item) = none) : Keyed key where
  items := collection.items ++ [item]
  distinct := by
    rw [List.map_append, List.nodup_append]
    refine ⟨collection.distinct, List.nodup_singleton _, ?_⟩
    rintro other member _ isKey rfl
    rw [List.map_cons, List.map_nil, List.mem_singleton] at isKey
    rw [isKey] at member
    exact collection.find_eq_none_iff.mp absent member

def modify (wanted : Key) (change : Item → Item)
    (keeps : ∀ item, key item = wanted → key (change item) = wanted) : Keyed key where
  items := collection.items.map fun item => if key item = wanted then change item else item
  distinct := by
    have sameKeys : (collection.items.map fun item =>
        if key item = wanted then change item else item).map key = collection.items.map key := by
      rw [List.map_map]
      apply List.map_congr_left
      intro item _
      rw [Function.comp_apply]
      split_ifs with isWanted
      · rw [keeps item isWanted, isWanted]
      · rfl
    rw [sameKeys]
    exact collection.distinct

def erase (wanted : Key) : Keyed key where
  items := collection.items.filter fun item => key item ≠ wanted
  distinct := collection.distinct.sublist (List.filter_sublist.map key)

theorem find_push {absent : collection.find (key item) = none} :
    (collection.push item absent).find wanted = if wanted =
    key item then some item else collection.find wanted := by
  by_cases same : wanted = key item
  · rw [if_pos same, find_eq_some_iff]
    exact ⟨mem_append_right _ (mem_singleton_self item), same.symm⟩
  rw [if_neg same]
  apply ext
  intro other
  rw [find_eq_some_iff, find_eq_some_iff]
  constructor
  · rintro ⟨mem, rfl⟩
    rcases mem_append.mp mem with old | new
    · exact ⟨old, rfl⟩
    · rw [mem_singleton] at new
      exact absurd (congrArg key new) same
  · rintro ⟨mem, isKey⟩
    exact ⟨mem_append_left _ mem, isKey⟩

theorem find_modify {change : Item → Item}
    {keeps : ∀ item, key item = wanted → key (change item) = wanted} :
    (collection.modify wanted change keeps).find other = if other =
    wanted then (collection.find other).map change else collection.find other := by
  have items : (collection.modify wanted change keeps).items =
      collection.items.map fun item => if key item = wanted then change item else item := rfl
  apply ext
  intro item
  rw [find_eq_some_iff, items, List.mem_map]
  by_cases same : other = wanted
  · rw [if_pos same, map_eq_some_iff]
    constructor
    · rintro ⟨⟨old, mem, rfl⟩, isKey⟩
      by_cases isWanted : key old = wanted
      · rw [if_pos isWanted]
        refine ⟨old, ?_, rfl⟩
        exact (collection.find_eq_some_iff).mpr ⟨mem, isWanted.trans same.symm⟩
      · rw [if_neg isWanted] at isKey
        exact absurd (isKey.trans same) isWanted
    · rintro ⟨old, found, rfl⟩
      obtain ⟨mem, isKey⟩ := collection.find_eq_some_iff.mp found
      have isWanted : key old = wanted := isKey.trans same
      refine ⟨⟨old, mem, if_pos isWanted⟩, ?_⟩
      rw [keeps old isWanted, same]
  · rw [if_neg same, find_eq_some_iff]
    constructor
    · rintro ⟨⟨old, mem, rfl⟩, isKey⟩
      by_cases isWanted : key old = wanted
      · rw [if_pos isWanted, keeps old isWanted] at isKey
        exact absurd isKey.symm same
      · rw [if_neg isWanted] at isKey ⊢
        exact ⟨mem, isKey⟩
    · rintro ⟨mem, isKey⟩
      have notWanted : key item ≠ wanted := by
        rw [isKey]
        exact same
      exact ⟨⟨item, mem, if_neg notWanted⟩, isKey⟩

theorem find_erase : (collection.erase wanted).find other = if other =
    wanted then none else collection.find other := by
  have items : (collection.erase wanted).items =
      collection.items.filter fun item => key item ≠ wanted := rfl
  apply ext
  intro item
  rw [find_eq_some_iff, items, mem_filter, decide_eq_true_eq]
  by_cases same : other = wanted
  · rw [if_pos same]
    constructor
    · rintro ⟨⟨_, notWanted⟩, isKey⟩
      exact absurd (isKey.trans same) notWanted
    · intro impossible
      cases impossible
  rw [if_neg same, find_eq_some_iff]
  constructor
  · rintro ⟨⟨mem, _⟩, isKey⟩
    exact ⟨mem, isKey⟩
  rintro ⟨mem, isKey⟩
  refine ⟨⟨mem, ?_⟩, isKey⟩
  rw [isKey]
  exact same

end Keyed

end RuneTerminal.Kit
