import RuneTerminal.Go.Filepath

/-! `filepath.Match` with its error. Behind a mismatch the loops go on over the pattern alone, so
that a malformed pattern is an error for every name and a well-formed one for none. -/

namespace RuneTerminal.Go.Filepath

/-- `ErrBadPattern`. -/
inductive PatternError where
  | badPattern
  deriving DecidableEq

/-- The class behind its opening bracket: whether it is negated, its ranges and the rest. -/
def scanClass (chunk : List Char) : Option (Bool × List (Char × Char) × List Char) :=
  let negated := chunk.head? = some '^'
  let chunk := if negated then chunk.tail else chunk
  (classRanges (chunk.length + 1) chunk []).map fun (ranges, chunk) => (negated, ranges, chunk)

def inClass (negated : Bool) (ranges : List (Char × Char)) (c : Char) : Bool :=
  (ranges.any fun (lo, hi) => decide (lo ≤ c ∧ c ≤ hi)) != negated

/-- The name behind a character that fits; one that has failed or is used up is `none`. -/
def nextName (fits : Char → Bool) : Option (List Char) → Option (List Char)
  | some (c :: name) => if fits c then some name else none
  | _ => none

/-- `matchChunk`, which goes on over the chunk when the name has failed. -/
def matchChunkError : Nat → List Char → Option (List Char) →
    Except PatternError (Option (List Char))
  | _, [], name => .ok name
  | 0, _ :: _, _ => .error .badPattern
  | fuel + 1, '[' :: chunk, name =>
    match scanClass chunk with
    | none => .error .badPattern
    | some (negated, ranges, chunk) =>
      matchChunkError fuel chunk (nextName (inClass negated ranges) name)
  | fuel + 1, '?' :: chunk, name => matchChunkError fuel chunk (nextName (· ≠ '/') name)
  | _ + 1, ['\\'], _ => .error .badPattern
  | fuel + 1, '\\' :: literal :: chunk, name =>
    matchChunkError fuel chunk (nextName (literal = ·) name)
  | fuel + 1, literal :: chunk, name => matchChunkError fuel chunk (nextName (literal = ·) name)

def firstStart (chunk rest : List Char) :
    List (List Char) → Except PatternError (Option (List Char))
  | [] => .ok none
  | start :: later =>
    match matchChunkError chunk.length chunk (some start) with
    | .error err => .error err
    | .ok none => firstStart chunk rest later
    | .ok (some left) =>
      if left.isEmpty || !rest.isEmpty then .ok (some left) else firstStart chunk rest later

def checkPattern : Nat → List Char → Except PatternError Unit
  | _, [] => .ok ()
  | 0, _ :: _ => .error .badPattern
  | fuel + 1, pattern =>
    let (chunk, rest) := scanLiteral false (pattern.dropWhile (· = '*'))
    match matchChunkError chunk.length chunk (some []) with
    | .error err => .error err
    | .ok _ => checkPattern fuel rest

/-- The loop of `filepath.Match`. -/
def matchPatternError : Nat → List Char → List Char → Except PatternError Bool
  | _, [], name => .ok name.isEmpty
  | 0, _ :: _, _ => .error .badPattern
  | fuel + 1, pattern, name =>
    let star := pattern.head? = some '*'
    let (chunk, rest) := scanLiteral false (pattern.dropWhile (· = '*'))
    if star ∧ chunk = [] then .ok (!name.contains '/')
    else
      let starts := if star then name :: skipsOf name else [name]
      match firstStart chunk rest starts with
      | .error err => .error err
      | .ok (some left) => matchPatternError fuel rest left
      | .ok none => (checkPattern fuel rest).map fun _ => false

/-- `filepath.Match(pattern, name)`. -/
def matchError (pattern name : String) : Except PatternError Bool :=
  matchPatternError pattern.length pattern.toList name.toList

def chunkWellFormed : Nat → List Char → Bool
  | _, [] => true
  | 0, _ :: _ => false
  | fuel + 1, '[' :: chunk =>
    match scanClass chunk with
    | none => false
    | some (_, _, chunk) => chunkWellFormed fuel chunk
  | _ + 1, ['\\'] => false
  | fuel + 1, '\\' :: _ :: chunk => chunkWellFormed fuel chunk
  | fuel + 1, _ :: chunk => chunkWellFormed fuel chunk

def chunksWellFormed : Nat → List Char → Bool
  | _, [] => true
  | 0, _ :: _ => false
  | fuel + 1, pattern =>
    let (chunk, rest) := scanLiteral false (pattern.dropWhile (· = '*'))
    chunkWellFormed chunk.length chunk && chunksWellFormed fuel rest

def patternWellFormed (pattern : String) : Bool :=
  chunksWellFormed pattern.length pattern.toList

theorem match_chunk_error_ok_iff (fuel : Nat) (chunk : List Char) (name : Option (List Char)) :
    (∃ left, matchChunkError fuel chunk name = .ok left) ↔ chunkWellFormed fuel chunk = true := by
  fun_induction matchChunkError fuel chunk name with
  | case1 | case2 => simp [chunkWellFormed]
  | case3 fuel chunk name malformed => simp [chunkWellFormed, malformed]
  | case4 fuel chunk name negated ranges rest scanned ih =>
    simpa [chunkWellFormed, scanned] using ih
  | case5 fuel chunk name ih | case7 fuel literal chunk name ih => simpa [chunkWellFormed] using ih
  | case6 fuel name => simp [chunkWellFormed]
  | case8 fuel literal chunk name notClass notOne notLast notEscaped ih =>
    rw [ih, chunkWellFormed]
    · exact notClass
    · exact notLast
    · exact notEscaped

theorem match_chunk_failed (fuel : Nat) (chunk left : List Char) (name : Option (List Char))
    (failed : name = none ∨ name = some [] ∧ chunk ≠ []) :
    matchChunkError fuel chunk name ≠ .ok (some left) := by
  have next : ∀ fits, nextName fits name = none := by
    intro fits
    rcases failed with rfl | ⟨rfl, _⟩ <;> rfl
  fun_induction matchChunkError fuel chunk name with
  | case1 fuel name =>
    rcases failed with rfl | ⟨_, nonempty⟩
    · simp
    · exact absurd rfl nonempty
  | case2 | case3 | case6 => simp
  | case4 fuel chunk name negated ranges rest scanned ih =>
    rw [next] at ih ⊢
    exact ih (.inl rfl) fun _ => rfl
  | case5 fuel chunk name ih =>
    rw [next] at ih ⊢
    exact ih (.inl rfl) fun _ => rfl
  | case7 fuel literal chunk name ih =>
    rw [next] at ih ⊢
    exact ih (.inl rfl) fun _ => rfl
  | case8 fuel literal chunk name _ _ _ _ ih =>
    rw [next] at ih ⊢
    exact ih (.inl rfl) fun _ => rfl

theorem match_chunk_iff (fuel : Nat) (chunk name left : List Char) : matchChunk fuel chunk name =
    some left ↔ matchChunkError fuel chunk (some name) = .ok (some left) := by
  have failed : ∀ fuel chunk, ¬matchChunkError fuel chunk none = .ok (some left) :=
    fun fuel chunk => match_chunk_failed fuel chunk left none (.inl rfl)
  fun_induction matchChunk fuel chunk name with
  | case1 | case2 => simp [matchChunkError]
  | case3 fuel chunk c name negated inner ih =>
    rw [matchChunkError]
    have scanned : scanClass chunk = (classRanges (inner.length + 1) inner []).map
        fun result => (decide negated, result.1, result.2) := rfl
    rw [scanned]
    cases classRanges (inner.length + 1) inner [] with
    | none => simp
    | some result =>
      obtain ⟨ranges, rest⟩ := result
      have fits : inClass (decide negated) ranges c = true ↔
          ¬((ranges.any fun (lo, hi) => decide (lo ≤ c ∧ c ≤ hi)) = true) = negated := by
        rw [inClass, bne_iff_ne, Ne, Bool.eq_iff_iff, decide_eq_true_eq, propext_iff]
      have next : nextName (inClass (decide negated) ranges) (some (c :: name)) =
          if ((ranges.any fun (lo, hi) => decide (lo ≤ c ∧ c ≤ hi)) = true) = negated then none
          else some name := by
        rw [nextName]
        simp only [fits, ite_not]
      dsimp only [Option.map, bind, Option.bind]
      rw [next]
      by_cases outside :
          ((ranges.any fun (lo, hi) => decide (lo ≤ c ∧ c ≤ hi)) = true) = negated
      · rw [if_pos outside, if_pos outside]
        simpa using failed fuel rest
      · rw [if_neg outside, if_neg outside]
        exact ih rest
  | case4 fuel chunk name =>
    rw [matchChunkError]
    simpa [nextName] using failed fuel chunk
  | case5 fuel chunk c name notSlash ih =>
    rw [matchChunkError]
    simpa [nextName, notSlash] using ih
  | case6 fuel chunk c name ih =>
    rw [matchChunkError]
    simpa [nextName] using ih
  | case7 fuel literal chunk c name ne =>
    rw [matchChunkError]
    simpa [nextName, ne] using failed fuel chunk
  | case8 fuel literal chunk c name notClass notOne notEscaped same ih =>
    rw [matchChunkError]
    · simpa [nextName, same.1] using ih
    · exact notClass
    · exact notOne
    · exact fun isEscape _ => same.2 isEscape
    · exact notEscaped
  | case9 fuel literal chunk c name notClass notOne notEscaped ne =>
    by_cases isEscape : literal = '\\'
    · cases chunk with
      | nil =>
        rw [isEscape]
        simp [matchChunkError]
      | cons other chunk => exact (notEscaped other chunk isEscape rfl).elim
    have unlike : literal ≠ c := fun same => ne ⟨same, isEscape⟩
    rw [matchChunkError]
    · simpa [nextName, unlike] using failed fuel chunk
    · exact notClass
    · exact notOne
    · exact fun wrong _ => isEscape wrong
    · exact notEscaped
  | case10 fuel first chunk =>
    simpa using match_chunk_failed (fuel + 1) (first :: chunk) left (some [])
      (.inr ⟨rfl, List.cons_ne_nil _ _⟩)

theorem first_start_ok_iff (chunk rest start : List Char) (later : List (List Char)) :
    (∃ left, firstStart chunk rest (start :: later) = .ok left) ↔
    chunkWellFormed chunk.length chunk = true := by
  induction later generalizing start with
  | nil =>
    rw [← match_chunk_error_ok_iff chunk.length chunk (some start), firstStart, firstStart]
    cases matchChunkError chunk.length chunk (some start) with
    | error err => simp
    | ok left =>
      cases left with
      | none => simp
      | some left => simp; split <;> simp
  | cons next later ih =>
    have own := match_chunk_error_ok_iff chunk.length chunk (some start)
    rw [firstStart]
    cases matched : matchChunkError chunk.length chunk (some start) with
    | error err =>
      rw [matched] at own
      simpa using own
    | ok left =>
      rw [matched] at own
      have wellFormed := own.mp ⟨left, rfl⟩
      cases left with
      | none => exact ih next
      | some left =>
        dsimp only
        split
        · simp [wellFormed]
        · exact ih next

theorem first_start_iff (chunk rest left : List Char) (starts : List (List Char)) :
    (starts.findSome? fun start =>
      (matchChunk chunk.length chunk start).filter fun left => left.isEmpty || !rest.isEmpty) =
        some left ↔
    firstStart chunk rest starts = .ok (some left) := by
  induction starts with
  | nil => simp [firstStart]
  | cons start later ih =>
    rw [List.findSome?_cons, firstStart]
    cases matched : matchChunkError chunk.length chunk (some start) with
    | error err =>
      have malformed : ¬chunkWellFormed chunk.length chunk = true := by
        rw [← match_chunk_error_ok_iff chunk.length chunk (some start), matched]
        simp
      have never : ∀ other, matchChunk chunk.length chunk other = none := by
        intro other
        rw [Option.eq_none_iff_forall_not_mem]
        intro found isFound
        apply malformed
        rw [← match_chunk_error_ok_iff chunk.length chunk (some other)]
        exact ⟨_, (match_chunk_iff chunk.length chunk other found).mp isFound⟩
      have noStart : (later.findSome? fun _ => (none : Option (List Char))) = none := by
        simp
      simp [never, noStart]
    | ok result =>
      cases result with
      | none =>
        have fails : matchChunk chunk.length chunk start = none := by
          rw [Option.eq_none_iff_forall_not_mem]
          intro found isFound
          have same := (match_chunk_iff chunk.length chunk start found).mp isFound
          rw [matched] at same
          cases same
        rw [fails]
        exact ih
      | some found =>
        have matches' := (match_chunk_iff chunk.length chunk start found).mpr matched
        rw [matches']
        by_cases taken : (found.isEmpty || !rest.isEmpty) = true
        · simp [taken, Option.filter]
        · simpa [taken, Option.filter] using ih

theorem check_pattern_ok_iff (fuel : Nat) (pattern : List Char) :
    checkPattern fuel pattern = .ok () ↔ chunksWellFormed fuel pattern = true := by
  induction fuel generalizing pattern with
  | zero => cases pattern <;> simp [checkPattern, chunksWellFormed]
  | succ fuel ih =>
    cases pattern with
    | nil => simp [checkPattern, chunksWellFormed]
    | cons first pattern =>
      rw [checkPattern, chunksWellFormed]
      · generalize scanLiteral false ((first :: pattern).dropWhile (· = '*')) = split
        obtain ⟨chunk, rest⟩ := split
        have own := match_chunk_error_ok_iff chunk.length chunk (some [])
        dsimp only
        rw [Bool.and_eq_true, ← own, ← ih]
        cases matchChunkError chunk.length chunk (some []) <;> simp
      all_goals simp

theorem scan_literal_nil (pattern rest : List Char)
    (scanned : scanLiteral false (pattern.dropWhile (· = '*')) = ([], rest)) : rest = [] := by
  cases left : pattern.dropWhile (· = '*') with
  | nil =>
    rw [left] at scanned
    simpa [scanLiteral] using scanned.symm
  | cons c remaining =>
    have notStar : c ≠ '*' := by
      have head := List.head?_dropWhile_not (· = '*') pattern
      rw [left] at head
      simpa using head
    rw [left] at scanned
    -- A character that is no star belongs to the chunk.
    have nonempty : (scanLiteral false (c :: remaining)).1 ≠ [] := by
      unfold scanLiteral
      split
      · next empty => cases empty
      · simp
      next other rest _ same =>
        cases same
        simp [notStar]
    rw [scanned] at nonempty
    exact absurd rfl nonempty

theorem match_pattern_iff (fuel : Nat) (pattern name : List Char) :
    matchPattern fuel pattern name = true ↔ matchPatternError fuel pattern name = .ok true := by
  induction fuel generalizing pattern name with
  | zero => cases pattern <;> simp [matchPattern, matchPatternError]
  | succ fuel ih =>
    cases pattern with
    | nil => simp [matchPattern, matchPatternError]
    | cons first pattern =>
      rw [matchPattern, matchPatternError]
      · generalize scanLiteral false ((first :: pattern).dropWhile (· = '*')) = split
        obtain ⟨chunk, rest⟩ := split
        dsimp only
        by_cases trailing : (first :: pattern).head? = some '*' ∧ chunk = []
        · rw [if_pos trailing, if_pos trailing]
          simp
        rw [if_neg trailing, if_neg trailing]
        generalize (if (first :: pattern).head? = some '*' then name :: skipsOf name
          else [name]) = starts
        have same := fun left => first_start_iff chunk rest left starts
        generalize (starts.findSome? fun start =>
          (matchChunk chunk.length chunk start).filter fun left =>
            left.isEmpty || !rest.isEmpty) = found at same ⊢
        cases found with
        | some left =>
          rw [(same left).mp rfl]
          exact ih rest left
        | none =>
          cases first : firstStart chunk rest starts with
          | error err => simp
          | ok result =>
            cases result with
            | none => cases checkPattern fuel rest <;> simp [Except.map]
            | some left => cases (same left).mpr first
      all_goals simp

theorem match_pattern_ok_iff (fuel : Nat) (pattern name : List Char) : (∃ matched,
    matchPatternError fuel pattern name = .ok matched) ↔ chunksWellFormed fuel pattern = true := by
  induction fuel generalizing pattern name with
  | zero => cases pattern <;> simp [matchPatternError, chunksWellFormed]
  | succ fuel ih =>
    cases pattern with
    | nil => simp [matchPatternError, chunksWellFormed]
    | cons first pattern =>
      rw [matchPatternError, chunksWellFormed]
      · have trailingRest := fun rest => scan_literal_nil (first :: pattern) rest
        generalize scanLiteral false ((first :: pattern).dropWhile (· = '*')) = split at *
        obtain ⟨chunk, rest⟩ := split
        dsimp only
        by_cases trailing : (first :: pattern).head? = some '*' ∧ chunk = []
        · rw [if_pos trailing]
          have noRest := trailingRest rest (by rw [trailing.2])
          refine ⟨fun _ => ?_, fun _ => ⟨_, rfl⟩⟩
          rw [trailing.2, noRest]
          simp [chunkWellFormed, chunksWellFormed]
        rw [if_neg trailing, Bool.and_eq_true]
        obtain ⟨start, later, isStarts⟩ : ∃ start later,
            (if (first :: pattern).head? = some '*' then name :: skipsOf name
              else [name]) = start :: later := by
          split
          · exact ⟨name, skipsOf name, rfl⟩
          · exact ⟨name, [], rfl⟩
        rw [isStarts, ← first_start_ok_iff chunk rest start later]
        cases firstStart chunk rest (start :: later) with
        | error err => simp
        | ok result =>
          cases result with
          | some left => simpa using ih rest left
          | none =>
            rw [← check_pattern_ok_iff]
            cases checkPattern fuel rest <;> simp [Except.map]
      all_goals simp

theorem match_name_iff (pattern name : String) :
    matchName pattern name = true ↔ matchError pattern name = .ok true :=
  match_pattern_iff _ _ _

theorem match_error_ok_iff (pattern name : String) :
    (∃ matched, matchError pattern name = .ok matched) ↔ patternWellFormed pattern = true :=
  match_pattern_ok_iff _ _ _

end RuneTerminal.Go.Filepath
