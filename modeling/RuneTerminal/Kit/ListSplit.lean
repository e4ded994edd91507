import Mathlib.Data.List.Induction
import Mathlib.Data.List.Nodup
import Mathlib.Order.Lattice

/-! An index loop that finds an item cuts the list in three. Loops that collect the first item of
each key, or clean each item and keep the new ones, leave a clean list as it is. -/

namespace RuneTerminal.Kit

open List

variable {Item : Type}

theorem split_at_get {items : List Item} {index : Nat} {item : Item}
    (found : items[index]? = some item) :
    ∃ before after, items = before ++ item :: after ∧ before.length = index := by
  obtain ⟨bound, rfl⟩ := List.getElem?_eq_some_iff.mp found
  refine ⟨items.take index, items.drop (index + 1), ?_, ?_⟩
  · rw [getElem_cons_drop, take_append_drop]
  · rw [length_take]
    omega

theorem split_at_find_idx {p : Item → Bool} {items : List Item} {index : Nat}
    (found : items.findIdx? p = some index) : ∃ before item after, items = before ++ item :: after ∧
    before.length = index ∧ p item = true := by
  obtain ⟨bound, holds, _⟩ := findIdx?_eq_some_iff_getElem.mp found
  obtain ⟨before, after, whole, size⟩ := split_at_get (getElem?_eq_getElem bound)
  exact ⟨before, _, after, whole, size, holds⟩

section

variable (before after : List Item)
include before after

@[simp]
theorem get_at_split (item : Item) : (before ++ item :: after)[before.length]? = some item := by
  simp

@[simp]
theorem set_at_split (item next : Item) :
    (before ++ item :: after).set before.length next = before ++ next :: after := by
  simp

@[simp]
theorem modify_at_split (item : Item) (change : Item → Item) :
    (before ++ item :: after).modify before.length change = before ++ change item :: after := by
  simp [modify_eq_set_getElem?]

@[simp]
theorem erase_idx_at_split (item : Item) :
    (before ++ item :: after).eraseIdx before.length = before ++ after := by
  rw [eraseIdx_append_of_length_le (Nat.le_refl _), Nat.sub_self, eraseIdx_cons_zero]

end

theorem erased_eq_filter [DecidableEq Item] {before after : List Item} {item : Item}
    (distinct : (before ++ item :: after).Nodup) :
    before ++ after = (before ++ item :: after).filter (· ≠ item) := by
  have nodup := distinct
  rw [nodup_append, nodup_cons] at nodup
  obtain ⟨_, ⟨notAfter, _⟩, apart⟩ := nodup
  have notBefore : item ∉ before := fun mem =>
    apart item mem item mem_cons_self rfl
  have keepBefore : before.filter (· ≠ item) = before := by
    rw [filter_eq_self]
    intro other mem
    simpa using ne_of_mem_of_not_mem mem notBefore
  have keepAfter : after.filter (· ≠ item) = after := by
    rw [filter_eq_self]
    intro other mem
    simpa using ne_of_mem_of_not_mem mem notAfter
  rw [filter_append, filter_cons_of_neg (by simp), keepBefore, keepAfter]

theorem filter_append_filter_of_sorted {Key : Type} [LinearOrder Key] {key : Item → Key}
    {items : List Item} (sorted : items.Pairwise fun first second => key first ≤ key second)
    (bound : Key) : items.filter (key · < bound) ++ items.filter (¬key · < bound) = items := by
  induction items with
  | nil => rfl
  | cons item items ih =>
    rw [pairwise_cons] at sorted
    by_cases less : key item < bound
    · rw [filter_cons_of_pos (by simpa using less), filter_cons_of_neg (by simpa using less),
        cons_append, ih sorted.2]
    have later : ∀ other ∈ items, ¬key other < bound := fun other mem isLess =>
      less (lt_of_le_of_lt (sorted.1 other mem) isLess)
    rw [filter_cons_of_neg (by simpa using less), filter_cons_of_pos (by simpa using less),
      filter_eq_nil_iff.mpr (by simpa using later), filter_eq_self.mpr (by simpa using later),
      nil_append]

theorem mem_others_iff {Key : Type} (key : Item → Key) {before after : List Item}
    {item other : Item} (nodup : ((before ++ item :: after).map key).Nodup) :
    other ∈ before ++ after ↔ other ∈ before ++ item :: after ∧ key other ≠ key item := by
  rw [map_append, map_cons, nodup_append, nodup_cons] at nodup
  rcases nodup with ⟨_, ⟨notAfter, _⟩, apart⟩
  have others : other ∈ before ++ item :: after ↔ other = item ∨ other ∈ before ++ after := by
    rw [mem_append, mem_cons, mem_append, or_left_comm]
  rw [others]
  constructor
  · intro mem
    refine ⟨.inr mem, ?_⟩
    intro same
    rcases mem_append.mp mem with front | back
    · exact apart _ (mem_map_of_mem front) _ mem_cons_self same
    · exact notAfter (same ▸ mem_map_of_mem back)
  · intro mem
    exact mem.1.resolve_left fun same => mem.2 (congrArg key same)

theorem foldl_collects_all {Key : Type} (key : Item → Key) {collect : List Item → Item → List Item}
    {items : List Item}
    (collects : ∀ kept, ∀ item ∈ items, key item ∉ kept.map key →
      collect kept item = kept ++ [item])
    (nodup : (items.map key).Nodup) : items.foldl collect [] = items := by
  -- The loop has kept exactly the items it has passed.
  suffices passed : ∀ kept rest, items = kept ++ rest → rest.foldl collect kept = items from
    passed [] items rfl
  intro kept rest
  induction rest generalizing kept with
  | nil =>
    intro whole
    rw [foldl_nil, whole, append_nil]
  | cons item rest ih =>
    intro whole
    have fresh : key item ∉ kept.map key := by
      rw [whole, map_append, nodup_append] at nodup
      intro mem
      exact nodup.2.2 _ mem _ mem_cons_self rfl
    rw [foldl_cons, collects kept item (by simp [whole]) fresh]
    exact ih (kept ++ [item]) (by simp [whole])

theorem foldl_holds_iff {Kept : Type} {collect : Kept → Item → Kept} (holds : Kept → Prop)
    (adds : Item → Prop) (step : ∀ kept item, holds (collect kept item) ↔ holds kept ∨ adds item)
    (items : List Item) (kept : Kept) :
    holds (items.foldl collect kept) ↔ holds kept ∨ ∃ item ∈ items, adds item := by
  induction items generalizing kept with
  | nil => simp
  | cons item rest ih =>
    rw [foldl_cons, ih, step, exists_mem_cons_iff, or_assoc]

section

variable {Key : Type} (key : Item → Key)
include key

theorem find_by_key [DecidableEq Key] {items : List Item} (nodup : (items.map key).Nodup)
    {item : Item} (mem : item ∈ items) :
    items.find? (fun other => key other == key item) = some item := by
  obtain ⟨found, isFound⟩ : ∃ found, items.find? (fun other => key other == key item) =
      some found := by
    rw [← Option.isSome_iff_exists, find?_isSome]
    exact ⟨item, mem, by simp⟩
  have sameKey : key found = key item := by
    simpa using find?_some isFound
  rw [isFound, inj_on_of_nodup_map nodup (mem_of_find?_eq_some isFound) mem sameKey]

theorem find_key_eq_some_iff [DecidableEq Key] {items : List Item} (nodup : (items.map key).Nodup)
    {wanted : Key} {item : Item} : items.find? (fun other => key other == wanted) = some item ↔
    item ∈ items ∧ key item = wanted := by
  constructor
  · intro found
    exact ⟨mem_of_find?_eq_some found, by simpa using find?_some found⟩
  · rintro ⟨mem, rfl⟩
    exact find_by_key key nodup mem

theorem find_key_perm [DecidableEq Key] {items others : List Item} (same : items.Perm others)
    (nodup : (items.map key).Nodup) (wanted : Key) :
    items.find? (fun other => key other == wanted) =
      others.find? (fun other => key other == wanted) := by
  apply Option.ext
  intro item
  rw [find_key_eq_some_iff key nodup,
    find_key_eq_some_iff key ((same.map key).nodup_iff.mp nodup), same.mem_iff]

theorem find_key_filter [DecidableEq Key] {items : List Item} (nodup : (items.map key).Nodup)
    (keep : Item → Bool) (wanted : Key) :
    (items.filter keep).find? (fun other => key other == wanted) =
      (items.find? (fun other => key other == wanted)).filter keep := by
  apply Option.ext
  intro item
  rw [find_key_eq_some_iff key (nodup.sublist (filter_sublist.map key)),
    Option.filter_eq_some_iff, find_key_eq_some_iff key nodup, mem_filter]
  tauto

theorem find_key_map [DecidableEq Key] {items : List Item} {change : Item → Item}
    (keeps : ∀ item, key (change item) = key item) (wanted : Key) :
    (items.map change).find? (fun other => key other == wanted) =
    (items.find? (fun other => key other == wanted)).map change := by
  rw [find?_map]
  congr 2
  funext item
  simp [keeps]

end

section

variable {Raw : Type} [DecidableEq Item]

def collectClean (clean : Raw → Option Item) (kept : List Item) (raw : Raw) : List Item :=
  match clean raw with
  | none => kept
  | some item => if item ∈ kept then kept else kept ++ [item]

variable {clean : Raw → Option Item}

variable {kept : List Item}

theorem collect_clean_none {raw : Raw} (cleaned : clean raw = none) :
    collectClean clean kept raw = kept := by
  rw [collectClean, cleaned]

theorem collect_clean_known {raw : Raw} {item : Item} (cleaned : clean raw = some item)
    (known : item ∈ kept) : collectClean clean kept raw = kept := by
  rw [collectClean, cleaned]
  exact if_pos known

theorem collect_clean_new {raw : Raw} {item : Item} (cleaned : clean raw = some item)
    (new : item ∉ kept) : collectClean clean kept raw = kept ++ [item] := by
  rw [collectClean, cleaned]
  exact if_neg new

theorem collect_clean_cases (clean : Raw → Option Item) (kept : List Item) (raw : Raw) :
    collectClean clean kept raw = kept ∨ ∃ item, clean raw = some item ∧ item ∉ kept ∧
    collectClean clean kept raw = kept ++ [item] := by
  cases cleaned : clean raw with
  | none => exact .inl (collect_clean_none cleaned)
  | some item =>
    by_cases known : item ∈ kept
    · exact .inl (collect_clean_known cleaned known)
    · exact .inr ⟨item, rfl, known, collect_clean_new cleaned known⟩

theorem mem_collect_clean {raw : Raw} {item : Item} :
    item ∈ collectClean clean kept raw ↔ item ∈ kept ∨ clean raw = some item := by
  cases cleaned : clean raw with
  | none => simp [collect_clean_none cleaned]
  | some other =>
    by_cases known : other ∈ kept
    · rw [collect_clean_known cleaned known, Option.some.injEq, iff_self_or]
      intro same
      exact same ▸ known
    · rw [collect_clean_new cleaned known, mem_append, mem_singleton,
        Option.some.injEq, eq_comm (a := other)]

theorem mem_foldl_collect {raws : List Raw} {item : Item} :
    item ∈ raws.foldl (collectClean clean) kept ↔
      item ∈ kept ∨ ∃ raw ∈ raws, clean raw = some item :=
  foldl_holds_iff (item ∈ ·) (clean · = some item) (fun _ _ => mem_collect_clean) raws kept

theorem prefix_foldl_collect (clean : Raw → Option Item) (raws : List Raw) (kept : List Item) :
    kept <+: raws.foldl (collectClean clean) kept := by
  induction raws generalizing kept with
  | nil => exact prefix_refl kept
  | cons raw raws ih =>
    have further := ih (collectClean clean kept raw)
    rcases collect_clean_cases clean kept raw with same | ⟨item, _, _, grown⟩
    · rw [same] at further
      rwa [foldl_cons, same]
    · rw [grown] at further
      rw [foldl_cons, grown]
      exact (prefix_append kept [item]).trans further

theorem nodup_foldl_collect (clean : Raw → Option Item) (raws : List Raw) (nodup : kept.Nodup) :
    (raws.foldl (collectClean clean) kept).Nodup := by
  induction raws generalizing kept with
  | nil => exact nodup
  | cons raw raws ih =>
    apply ih
    rcases collect_clean_cases clean kept raw with same | ⟨item, _, new, grown⟩
    · rwa [same]
    · rw [grown, ← concat_eq_append]
      exact nodup.concat new

theorem foldl_collect_self {clean : Item → Option Item} {items : List Item}
    (cleaned : ∀ item ∈ items, clean item = some item) (nodup : items.Nodup) :
    items.foldl (collectClean clean) [] = items := by
  apply foldl_collects_all id
  · intro kept item mem fresh
    rw [map_id] at fresh
    exact collect_clean_new (cleaned item mem) fresh
  · rwa [map_id]

theorem foldl_collect_eq_erase_dups (clean : Raw → Option Item) (raws : List Raw)
    (kept : List Item) :
    raws.foldl (collectClean clean) kept =
      kept ++ ((raws.filterMap clean).filter (· ∉ kept)).eraseDups := by
  induction raws generalizing kept with
  | nil => simp
  | cons raw raws ih =>
    rw [foldl_cons]
    cases cleaned : clean raw with
    | none => rw [collect_clean_none cleaned, ih, filterMap_cons_none cleaned]
    | some item =>
      rw [filterMap_cons_some cleaned]
      by_cases known : item ∈ kept
      · rw [collect_clean_known cleaned known, ih, filter_cons_of_neg (by simpa using known)]
      have later : (raws.filterMap clean).filter (· ∉ kept ++ [item]) =
          ((raws.filterMap clean).filter (· ∉ kept)).filter (!· == item) := by
        rw [filter_filter]
        apply filter_congr
        intro other _
        by_cases same : other = item <;> simp [same]
      rw [collect_clean_new cleaned known, ih, filter_cons_of_pos (by simpa using known),
        eraseDups_cons, later, append_assoc, singleton_append]

theorem nodup_erase_dups (items : List Item) : items.eraseDups.Nodup := by
  have collected := foldl_collect_eq_erase_dups some items []
  rw [filterMap_some, nil_append, filter_eq_self.mpr (by simp)] at collected
  rw [← collected]
  exact nodup_foldl_collect some items nodup_nil

theorem head_foldl_collect (clean : Raw → Option Item) (raws : List Raw) :
    (raws.foldl (collectClean clean) []).head? = raws.findSome? clean := by
  induction raws with
  | nil => rfl
  | cons raw raws ih =>
    rw [foldl_cons, findSome?_cons]
    cases cleaned : clean raw with
    | none => rw [collect_clean_none cleaned, ih]
    | some item =>
      rw [collect_clean_new cleaned not_mem_nil]
      obtain ⟨rest, whole⟩ := prefix_foldl_collect clean raws ([] ++ [item])
      rw [← whole]
      rfl

end

/-- The item joins the window; of a full window the oldest item leaves. -/
def pushWindow (size : Nat) (kept : List Item) (item : Item) : List Item :=
  if kept.length < size then kept ++ [item] else kept.tail ++ [item]

theorem foldl_push_window {size : Nat} (positive : 0 < size) (items : List Item) :
    items.foldl (pushWindow size) [] = items.drop (items.length - size) := by
  induction items using reverseRecOn with
  | nil => simp
  | append_singleton items item ih =>
    rw [foldl_append, foldl_cons, foldl_nil, ih, pushWindow, length_drop,
      length_append, length_singleton]
    by_cases full : items.length < size
    · have none : items.length - size = 0 := by omega
      have still : items.length + 1 - size = 0 := by omega
      rw [none, still]
      exact if_pos (by omega)
    · have next : items.length + 1 - size = items.length - size + 1 := by omega
      rw [if_neg (by omega), tail_drop, next, drop_append_of_le_length (by omega)]

section

variable {separates separates' : Item → Bool} {items part : List Item}

theorem of_mem_split (mem : part ∈ items.splitOnP separates) {item : Item} (inside : item ∈ part) :
    item ∈ items ∧ separates item = false := by
  induction items generalizing part with
  | nil =>
    rw [splitOnP_nil, mem_singleton] at mem
    rw [mem] at inside
    cases inside
  | cons first items ih =>
    rw [splitOnP_cons_eq_if_modifyHead] at mem
    split_ifs at mem with separator
    · rcases mem_cons.mp mem with rfl | later
      · cases inside
      · exact (ih later inside).imp (mem_cons_of_mem first) id
    rcases exists_cons_of_ne_nil (splitOnP_ne_nil separates items) with
      ⟨head, others, parts⟩
    rw [parts, modifyHead_cons, mem_cons] at mem
    rcases mem with rfl | later
    · rcases mem_cons.mp inside with rfl | later
      · exact ⟨mem_cons_self, Bool.eq_false_iff.mpr separator⟩
      have headMember : head ∈ items.splitOnP separates := by
        rw [parts]
        exact mem_cons_self
      exact (ih headMember later).imp (mem_cons_of_mem first) id
    · have laterMember : part ∈ items.splitOnP separates := by
        rw [parts]
        exact mem_cons_of_mem head later
      exact (ih laterMember inside).imp (mem_cons_of_mem first) id

theorem split_congr (same : ∀ item ∈ items, separates item = separates' item) :
    items.splitOnP separates = items.splitOnP separates' := by
  induction items with
  | nil => rfl
  | cons first items ih =>
    rw [splitOnP_cons_eq_if_modifyHead, splitOnP_cons_eq_if_modifyHead, same first
      mem_cons_self, ih fun item mem => same item (mem_cons_of_mem first mem)]

theorem split_on_closed [DecidableEq Item] {separator : Item} {closed : List (List Item)}
    {tail : List Item} (clean : ∀ part ∈ closed, separator ∉ part) (cleanTail : separator ∉ tail) :
    ((closed.map (· ++ [separator])).flatten ++ tail).splitOnP (· == separator) =
      closed ++ [tail] := by
  induction closed with
  | nil =>
    apply splitOnP_eq_singleton
    intro item mem
    exact beq_eq_false_iff_ne.mpr (ne_of_mem_of_not_mem mem cleanTail)
  | cons part closed ih =>
    rw [forall_mem_cons] at clean
    have inside : ∀ item ∈ part, (item == separator) = false := by
      intro item mem
      exact beq_eq_false_iff_ne.mpr (ne_of_mem_of_not_mem mem clean.1)
    rw [map_cons, flatten_cons, append_assoc, append_assoc,
      singleton_append, splitOnP_append_cons_of_forall_mem inside separator
      (beq_self_eq_true _), ih clean.2, cons_append]

end

section

variable [DecidableEq Item] {separator front back s : List Item}

/-- What stands before the first `separator` and behind it. -/
def cutFirst (separator : List Item) : List Item → Option (List Item × List Item)
  | [] => none
  | item :: rest =>
    if separator.isPrefixOf (item :: rest) then
      some ([], (item :: rest).drop separator.length)
    else (cutFirst separator rest).map fun (front, back) => (item :: front, back)

theorem cut_first_whole (found : cutFirst separator s = some (front, back)) :
    s = front ++ separator ++ back := by
  induction s generalizing front with
  | nil => cases found
  | cons c s ih =>
    rw [cutFirst] at found
    split_ifs at found with here
    · obtain ⟨rest, whole⟩ := isPrefixOf_iff_prefix.mp here
      have same := Prod.mk.inj (Option.some.inj found)
      rw [← same.1, ← same.2, ← whole, drop_left, nil_append]
    obtain ⟨⟨front', back'⟩, later, same⟩ := Option.map_eq_some_iff.mp found
    cases same
    rw [ih later]
    simp only [cons_append]

theorem cut_first_append (found : cutFirst separator s = some (front, back)) (behind : List Item) :
    cutFirst separator (s ++ behind) = some (front, back ++ behind) := by
  induction s generalizing front with
  | nil => cases found
  | cons c s ih =>
    have long : separator.length ≤ (c :: s).length := by
      rw [cut_first_whole found, length_append, length_append]
      omega
    have still : separator.isPrefixOf (c :: (s ++ behind)) = separator.isPrefixOf (c :: s) := by
      rw [Bool.eq_iff_iff, isPrefixOf_iff_prefix, isPrefixOf_iff_prefix]
      constructor
      · intro isPrefix
        exact prefix_of_prefix_length_le isPrefix (prefix_append _ _) long
      · intro isPrefix
        exact isPrefix.trans (prefix_append _ _)
    rw [cutFirst] at found
    rw [cons_append, cutFirst, still]
    split_ifs at found with here
    · have same := Prod.mk.inj (Option.some.inj found)
      rw [if_pos here, ← same.1, ← same.2, ← cons_append, drop_append_of_le_length long]
    · obtain ⟨⟨front', back'⟩, later, same⟩ := Option.map_eq_some_iff.mp found
      cases same
      rw [if_neg here, ih later, Option.map_some]

end

end RuneTerminal.Kit
