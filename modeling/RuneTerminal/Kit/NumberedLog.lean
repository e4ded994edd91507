import Mathlib.Data.List.Basic

/-! A log whose entries are numbered in a row, a buffer that keeps its last entries, and a reader
that joins at some point. -/

namespace RuneTerminal.Kit.NumberedLog

open List

variable {Entry : Type} {seq : Entry → Nat} {number : Nat}

def lastOf (cap : Nat) (log : List Entry) : List Entry := log.drop (log.length - cap)

theorem length_last_of (cap : Nat) (log : List Entry) :
    (lastOf cap log).length = min log.length cap := by
  rw [lastOf, length_drop]
  omega

theorem last_of_append (cap : Nat) (log : List Entry) (entry : Entry) :
    lastOf cap (lastOf cap log ++ [entry]) = lastOf cap (log ++ [entry]) := by
  have whole : lastOf cap log ++ [entry] = (log ++ [entry]).drop (log.length - cap) := by
    rw [lastOf, drop_append_of_le_length (by omega)]
  rw [lastOf, length_append, length_last_of, whole, drop_drop, lastOf, length_append]
  congr 1
  omega

def Numbered (seq : Entry → Nat) (log : List Entry) : Prop :=
  log.map seq = List.range' 1 log.length

theorem numbered_nil : Numbered seq [] := rfl

variable {log : List Entry} {entry : Entry}

theorem Numbered.append (numbered : Numbered seq log) (next : seq entry = log.length + 1) :
    Numbered seq (log ++ [entry]) := by
  unfold Numbered at numbered ⊢
  rw [map_append, numbered, length_append, length_singleton, range'_1_concat,
    map_singleton, next, Nat.add_comm 1]

section

variable (numbered : Numbered seq log)

include numbered

theorem Numbered.seq_get {index : Nat} (found : log[index]? = some entry) :
    seq entry = index + 1 := by
  have bound := (List.getElem?_eq_some_iff.mp found).1
  have mapped : (log.map seq)[index]? = some (seq entry) := by
    rw [getElem?_map, found, Option.map_some]
  rw [numbered, getElem?_eq_getElem (by simpa using bound)] at mapped
  have same := Option.some.inj mapped
  rw [getElem_range'] at same
  omega

theorem Numbered.exists_seq (positive : 0 < number) (bound : number ≤ log.length) :
    ∃ entry ∈ log, seq entry = number := by
  have mem : number ∈ log.map seq := by
    rw [numbered, mem_range'_1]
    omega
  rcases mem_map.mp mem with ⟨entry, isEntry, same⟩
  exact ⟨entry, isEntry, same⟩

theorem Numbered.mem_take_iff {count : Nat} :
    entry ∈ log.take count ↔ entry ∈ log ∧ seq entry ≤ count := by
  constructor
  · intro mem
    rcases mem_iff_getElem?.mp mem with ⟨index, found⟩
    rw [getElem?_take] at found
    split at found
    next below =>
      have number := numbered.seq_get found
      exact ⟨mem_of_getElem? found, by omega⟩
    · cases found
  · rintro ⟨mem, bound⟩
    rcases mem_iff_getElem?.mp mem with ⟨index, found⟩
    have number := numbered.seq_get found
    apply mem_iff_getElem?.mpr
    exact ⟨index, by rw [getElem?_take, if_pos (by omega), found]⟩

theorem Numbered.sublist_increasing {entries : List Entry} (part : entries.Sublist log) :
    (entries.map seq).Pairwise (· < ·) := by
  have ordered : (log.map seq).Pairwise (· < ·) := by
    rw [numbered]
    exact pairwise_lt_range'
  exact ordered.sublist (part.map seq)

theorem Numbered.last_of (cap : Nat) : (lastOf cap log).map seq =
    List.range' (log.length + 1 - min log.length cap) (min log.length cap) := by
  have start : 1 + (log.length - cap) = log.length + 1 - min log.length cap := by omega
  have count : log.length - (log.length - cap) = min log.length cap := by omega
  rw [lastOf, map_drop, numbered, drop_range', Nat.mul_one, start, count]

end

/-- What the buffer held when `base` entries had been logged, from the number `start` on. -/
def joined (seq : Entry → Nat) (cap start base : Nat) (log : List Entry) : List Entry :=
  (lastOf cap (log.take base)).filter fun entry => start ≤ seq entry

def followed (seq : Entry → Nat) (base upto : Nat) (missed : List Nat) (log : List Entry) :
    List Entry :=
  ((log.take upto).drop base).filter fun entry => seq entry ∉ missed

variable {cap start base upto : Nat} {missed : List Nat}

theorem joined_append (within : base ≤ log.length) (entry : Entry) :
    joined seq cap start base (log ++ [entry]) = joined seq cap start base log := by
  rw [joined, take_append_of_le_length within, joined]

theorem followed_append (within : upto ≤ log.length) (entry : Entry) :
    followed seq base upto missed (log ++ [entry]) = followed seq base upto missed log := by
  rw [followed, take_append_of_le_length within, followed]

theorem followed_start : followed seq base base missed log = [] := by
  rw [followed, drop_eq_nil_of_le (length_take_le base log), filter_nil]

section

variable (found : log[upto]? = some entry) (after : base ≤ upto)

include found after

private theorem range_next :
    (log.take (upto + 1)).drop base = (log.take upto).drop base ++ [entry] := by
  have bound := (List.getElem?_eq_some_iff.mp found).1
  rw [take_add_one, found, Option.toList_some, drop_append_of_le_length]
  rw [length_take]
  omega

theorem followed_received (notMissed : seq entry ∉ missed) :
    followed seq base (upto + 1) missed log = followed seq base upto missed log ++ [entry] := by
  rw [followed, range_next found after, followed]
  simp [notMissed]

theorem followed_missed (numbered : Numbered seq log) :
    followed seq base (upto + 1) (missed ++ [seq entry]) log =
      followed seq base upto missed log := by
  rw [followed, range_next found after, filter_append]
  have last : [entry].filter (fun entry' => seq entry' ∉ missed ++ [seq entry]) = [] := by simp
  rw [last, append_nil]
  apply filter_congr
  intro other mem
  have earlier := (numbered.mem_take_iff.mp (mem_of_mem_drop mem)).2
  have number := numbered.seq_get found
  have ne : seq other ≠ seq entry := by omega
  simp [ne]

end

section

variable (numbered : Numbered seq log) (after : base ≤ upto) (within : upto ≤ log.length)

include after in
theorem joined_followed_sublist :
    (joined seq cap start base log ++ followed seq base upto missed log).Sublist log := by
  have front : (joined seq cap start base log).Sublist (log.take base) :=
    filter_sublist.trans (drop_sublist _ _)
  have back : (followed seq base upto missed log).Sublist ((log.take upto).drop base) :=
    filter_sublist
  have whole : log.take base ++ (log.take upto).drop base = log.take upto := by
    conv_rhs => rw [← take_append_drop base (log.take upto)]
    rw [take_take, Nat.min_eq_left after]
  have part := take_sublist upto log
  rw [← whole] at part
  exact (front.append back).trans part

include numbered in
theorem mem_followed_iff : entry ∈ followed seq base upto missed log ↔ entry ∈ log ∧
    seq entry ≤ upto ∧ base < seq entry ∧ seq entry ∉ missed := by
  rw [followed, mem_filter, decide_eq_true_iff]
  constructor
  · rintro ⟨mem, notMissed⟩
    rcases mem_iff_getElem?.mp mem with ⟨index, found⟩
    rw [getElem?_drop, getElem?_take] at found
    split at found
    · have number := numbered.seq_get found
      exact ⟨mem_of_getElem? found, by omega, by omega, notMissed⟩
    · cases found
  rintro ⟨mem, upper, lower, notMissed⟩
  refine ⟨?_, notMissed⟩
  rw [drop_take]
  rcases mem_iff_getElem?.mp mem with ⟨index, found⟩
  have number := numbered.seq_get found
  apply mem_iff_getElem?.mpr
  refine ⟨index - base, ?_⟩
  rw [getElem?_take, if_pos (by omega), getElem?_drop, Nat.add_sub_cancel' (by omega),
    found]

include numbered after within in
theorem mem_joined_iff : entry ∈ joined seq cap start base log ↔ entry ∈ log ∧
    start ≤ seq entry ∧ seq entry ≤ base ∧ base - cap < seq entry := by
  have length : (log.take base).length = base := by
    rw [length_take]
    omega
  rw [joined, mem_filter, decide_eq_true_iff, lastOf, length, drop_take]
  constructor
  · rintro ⟨mem, lower⟩
    rcases mem_iff_getElem?.mp mem with ⟨index, found⟩
    rw [getElem?_take] at found
    split at found
    · rw [getElem?_drop] at found
      have number := numbered.seq_get found
      exact ⟨mem_of_getElem? found, lower, by omega, by omega⟩
    · cases found
  · rintro ⟨mem, lower, upper, kept⟩
    rcases mem_iff_getElem?.mp mem with ⟨index, found⟩
    have number := numbered.seq_get found
    refine ⟨mem_iff_getElem?.mpr ⟨index - (base - cap), ?_⟩, lower⟩
    rw [getElem?_take, if_pos (by omega), getElem?_drop, Nat.add_sub_cancel' (by omega),
      found]

variable {received queue : List Entry}
  (parts : received ++ queue = followed seq base upto missed log)

include numbered after parts in
theorem received_increasing :
    ((joined seq cap start base log ++ received).map seq).Pairwise (· < ·) := by
  apply numbered.sublist_increasing
  have front : (joined seq cap start base log ++ received).Sublist
      (joined seq cap start base log ++ followed seq base upto missed log) := by
    rw [← parts]
    exact (List.Sublist.refl _).append (sublist_append_left received queue)
  exact front.trans (joined_followed_sublist after)

include numbered after within parts in
theorem received_gap {before later : Nat}
    (hasBefore : before ∈ (joined seq cap start base log ++ received).map seq)
    (hasLater : later ∈ (joined seq cap start base log ++ received).map seq)
    (lower : before < number) (upper : number < later) :
    number ∈ (joined seq cap start base log ++ received).map seq ∨ number ∈ missed := by
  rcases mem_map.mp hasBefore with ⟨first, isFirst, rfl⟩
  rcases mem_map.mp hasLater with ⟨last, isLast, rfl⟩
  have isFollowed : ∀ {entry}, entry ∈ received → entry ∈ followed seq base upto missed log :=
    fun mem => parts ▸ mem_append_left queue mem
  have lastBound : seq last ≤ upto := by
    rcases mem_append.mp isLast with early | late
    · have bounds := (mem_joined_iff numbered after within).mp early
      omega
    · exact ((mem_followed_iff numbered).mp (isFollowed late)).2.1
  have positive : 0 < number := by omega
  rcases numbered.exists_seq positive (by omega) with ⟨entry, mem, rfl⟩
  by_cases early : seq entry ≤ base
  · -- The first of the two was in the buffer, and so was all that came after it.
    have firstJoined : first ∈ joined seq cap start base log := by
      rcases mem_append.mp isFirst with isJoined | late
      · exact isJoined
      · have bounds := (mem_followed_iff numbered).mp (isFollowed late)
        omega
    have bounds := (mem_joined_iff numbered after within).mp firstJoined
    have isJoined : entry ∈ joined seq cap start base log :=
      (mem_joined_iff numbered after within).mpr ⟨mem, by omega, early, by omega⟩
    exact .inl (mem_map_of_mem (mem_append_left received isJoined))
  by_cases isMissed : seq entry ∈ missed
  · exact .inr isMissed
  have lastReceived : last ∈ received := by
    rcases mem_append.mp isLast with isJoined | late
    · have bounds := (mem_joined_iff numbered after within).mp isJoined
      omega
    · exact late
  have entryFollowed : entry ∈ received ++ queue := by
    rw [parts]
    exact (mem_followed_iff numbered).mpr ⟨mem, by omega, by omega, isMissed⟩
  rcases mem_append.mp entryFollowed with isReceived | waiting
  · exact .inl (mem_map_of_mem (mem_append_right _ isReceived))
  -- What waits comes after everything that was received.
  have whole := @joined_followed_sublist _ seq log cap start base upto missed after
  have ordered : ((received ++ queue).map seq).Pairwise (· < ·) := by
    rw [parts]
    exact numbered.sublist_increasing
      ((sublist_append_right _ _).trans whole)
  rw [map_append, pairwise_append] at ordered
  have crossed := ordered.2.2 _ (mem_map_of_mem lastReceived) _
    (mem_map_of_mem waiting)
  omega

end

end RuneTerminal.Kit.NumberedLog
