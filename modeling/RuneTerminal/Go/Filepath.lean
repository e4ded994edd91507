import RuneTerminal.Go.Strings

/-! `filepath.Clean`, `filepath.Base` and `filepath.Match` where the separator is the slash. A path
is the list of its characters here. -/

namespace RuneTerminal.Go.Filepath

open Go.Strings List

variable {kept : List Component}

section

abbrev Component := List Char

def dot : Component := ['.']

def dotDot : Component := ['.', '.']

/-- One component of the path, against the components kept so far with the
last one first. -/
def cleanStep (rooted : Bool) (kept : List Component) (component : Component) : List Component :=
  if component = [] ∨ component = dot then kept
  else if component = dotDot then
    match kept with
    | [] => if rooted then [] else [dotDot]
    | last :: before => if last = dotDot then dotDot :: last :: before else before
  else component :: kept

def isRooted (path : List Char) : Bool := path.head? = some '/'

def cleanComponents (path : List Char) : List Component :=
  ((path.splitOn '/').foldl (cleanStep (isRooted path)) []).reverse

def renderPath (rooted : Bool) (components : List Component) : List Char :=
  if rooted then '/' :: ['/'].intercalate components
  else if components = [] then dot
  else ['/'].intercalate components

def cleanChars (path : List Char) : List Char :=
  renderPath (isRooted path) (cleanComponents path)

/-- Components that another pass leaves alone, the last one first: named ones
without a separator, and parent steps at the very start of a relative path. -/
def Settled (rooted : Bool) : List Component → Prop
  | [] => True
  | last :: before =>
    (last ≠ [] ∧ last ≠ dot ∧ '/' ∉ last) ∧
      (last = dotDot → rooted = false ∧ ∀ component ∈ before, component = dotDot) ∧
      Settled rooted before

variable {rooted : Bool} {component : Component} {components : List Component} {path : List Char}

theorem clean_step_settled (settled : Settled rooted kept) (noSlash : '/' ∉ component) :
    Settled rooted (cleanStep rooted kept component) := by
  unfold cleanStep
  by_cases skipped : component = [] ∨ component = dot
  · rw [if_pos skipped]
    exact settled
  rw [if_neg skipped]
  by_cases parent : component = dotDot
  · rw [if_pos parent]
    cases kept with
    | nil =>
      cases rooted with
      | true => exact settled
      | false => exact ⟨by decide, fun _ => ⟨rfl, by simp⟩, settled⟩
    | cons last before =>
      dsimp only
      split_ifs with stacked
      · refine ⟨by decide, fun _ => ?_, settled⟩
        obtain ⟨relative, parents⟩ := settled.2.1 stacked
        refine ⟨relative, ?_⟩
        intro other member
        rw [mem_cons] at member
        rcases member with rfl | member
        · exact stacked
        · exact parents other member
      · exact settled.2.2
  · rw [if_neg parent]
    rw [not_or] at skipped
    exact ⟨⟨skipped.1, skipped.2, noSlash⟩, fun isParent => absurd isParent parent, settled⟩

theorem foldl_clean_step_settled (noSlash : ∀ component ∈ components, '/' ∉ component)
    (settled : Settled rooted kept) :
    Settled rooted (components.foldl (cleanStep rooted) kept) := by
  induction components generalizing kept with
  | nil => exact settled
  | cons component rest ih =>
    have headNoSlash := noSlash component mem_cons_self
    exact ih (fun other mem => noSlash other (mem_cons_of_mem _ mem))
      (clean_step_settled settled headNoSlash)

theorem foldl_clean_step_reverse (settled : Settled rooted kept) :
    kept.reverse.foldl (cleanStep rooted) [] = kept := by
  induction kept with
  | nil => rfl
  | cons last before ih =>
    obtain ⟨⟨nonempty, notDot, _⟩, parents, settledBefore⟩ := settled
    rw [reverse_cons, foldl_append, ih settledBefore, foldl_cons, foldl_nil]
    unfold cleanStep
    rw [if_neg (by simp [nonempty, notDot])]
    by_cases parent : last = dotDot
    · obtain ⟨relative, allParents⟩ := parents parent
      cases before with
      | nil => simp [relative, parent]
      | cons next more =>
        have nextParent := allParents next mem_cons_self
        simp [nextParent, parent]
    · rw [if_neg parent]

theorem not_mem_of_mem_split (member : component ∈ path.splitOn '/') : '/' ∉ component := by
  induction path generalizing component with
  | nil =>
    have isEmpty : component = [] := by simpa using member
    rw [isEmpty]
    exact not_mem_nil
  | cons c rest ih =>
    rw [splitOn, splitOnP_cons_eq_if_modifyHead] at member
    split_ifs at member with separator
    · rw [mem_cons] at member
      rcases member with rfl | member
      · exact not_mem_nil
      · exact ih member
    obtain ⟨first, others, parts⟩ :=
      exists_cons_of_ne_nil (splitOnP_ne_nil (· == '/') rest)
    rw [parts, modifyHead_cons, mem_cons] at member
    rcases member with rfl | member
    · have firstClean : '/' ∉ first := ih (by
        rw [splitOn, parts]
        exact mem_cons_self)
      intro inside
      rw [mem_cons] at inside
      rcases inside with rfl | inside
      · exact separator (by simp)
      · exact firstClean inside
    · apply ih
      rw [splitOn, parts]
      exact mem_cons_of_mem _ member

theorem settled_clean_components (path : List Char) :
    Settled (isRooted path) (cleanComponents path).reverse := by
  unfold cleanComponents
  rw [reverse_reverse]
  exact foldl_clean_step_settled (fun _ mem => not_mem_of_mem_split mem) trivial

theorem settled_no_slash (settled : Settled rooted kept) :
    ∀ component ∈ kept, component ≠ [] ∧ '/' ∉ component := by
  induction kept with
  | nil => simp
  | cons last before ih =>
    intro component member
    rw [mem_cons] at member
    rcases member with rfl | member
    · exact ⟨settled.1.1, settled.1.2.2⟩
    · exact ih settled.2.2 component member

theorem clean_components_render (settled : Settled rooted components.reverse) :
    isRooted (renderPath rooted components) =
    rooted ∧ cleanComponents (renderPath rooted components) = components := by
  have plain : ∀ component ∈ components, component ≠ [] ∧ '/' ∉ component := by
    intro component mem
    exact settled_no_slash settled component (mem_reverse.mpr mem)
  have reread : (components.foldl (cleanStep rooted) []).reverse = components := by
    have folded := foldl_clean_step_reverse settled
    rw [reverse_reverse] at folded
    rw [folded, reverse_reverse]
  have split : components ≠ [] →
      (['/'].intercalate components).splitOn '/' = components := by
    intro nonempty
    exact splitOn_intercalate '/' (fun component mem => (plain component mem).2) nonempty
  cases rooted with
  | true =>
    refine ⟨rfl, ?_⟩
    have parts : ('/' :: ['/'].intercalate components).splitOn '/' =
        [] :: (['/'].intercalate components).splitOn '/' := by
      rw [splitOn, splitOnP_cons_eq_if_modifyHead, if_pos (by simp), splitOn]
    unfold cleanComponents renderPath
    rw [if_pos rfl, parts]
    cases components with
    | nil => rfl
    | cons first others =>
      rw [split (by simp)]
      exact reread
  | false =>
    cases components with
    | nil => exact ⟨rfl, by decide⟩
    | cons first others =>
      obtain ⟨nonempty, noSlash⟩ := plain first mem_cons_self
      obtain ⟨c, rest, rfl⟩ := exists_cons_of_ne_nil nonempty
      have relative : isRooted (['/'].intercalate ((c :: rest) :: others)) = false := by
        unfold isRooted
        have notSeparator : c ≠ '/' := fun same => noSlash (by simp [same])
        simp [notSeparator]
      unfold renderPath
      rw [if_neg (by simp), if_neg (by simp)]
      refine ⟨relative, ?_⟩
      unfold cleanComponents
      rw [relative, split (by simp)]
      exact reread

theorem clean_chars_idempotent (path : List Char) :
    cleanChars (cleanChars path) = cleanChars path := by
  obtain ⟨rooted, components⟩ := clean_components_render (settled_clean_components path)
  unfold cleanChars at *
  rw [rooted, components]

theorem clean_components_named (path : List Char) :
    ∀ component ∈ cleanComponents path, component ≠ [] ∧ '/' ∉ component := by
  intro component mem
  exact settled_no_slash (settled_clean_components path) component (mem_reverse.mpr mem)

theorem clean_chars_of_named (named : cleanComponents path ≠ []) :
    cleanChars path =
      (if isRooted path then ['/'] else []) ++ ['/'].intercalate (cleanComponents path) := by
  unfold cleanChars renderPath
  split_ifs
  · rfl
  · rfl

theorem is_rooted_clean (path : List Char) :
    isRooted (cleanChars path) = isRooted path ∧
      cleanComponents (cleanChars path) = cleanComponents path :=
  clean_components_render (settled_clean_components path)

theorem clean_chars_of_bare (bare : cleanComponents path = []) :
    cleanChars path = ['/'] ∨ cleanChars path = dot := by
  unfold cleanChars renderPath
  rw [bare, if_pos rfl]
  split_ifs
  · exact .inl rfl
  · exact .inr rfl

theorem clean_chars_ne_nil (path : List Char) : cleanChars path ≠ [] := by
  intro empty
  have bare : cleanComponents path = [] := by
    rw [← (is_rooted_clean path).2, empty]
    rfl
  rcases clean_chars_of_bare bare with slash | isDot
  · cases empty.symm.trans slash
  · cases empty.symm.trans isDot

/-- A cleaned path is below another text by text exactly when it is by components. -/
theorem clean_chars_below_iff {root : List Char} (named : cleanComponents root ≠ []) :
    (cleanChars path = cleanChars root ∨
      ∃ below, cleanChars path = cleanChars root ++ '/' :: below) ↔
    isRooted path = isRooted root ∧ cleanComponents root <+: cleanComponents path := by
  have noSlash : ∀ component ∈ cleanComponents root, '/' ∉ component :=
    fun component mem => (clean_components_named root component mem).2
  constructor
  · rintro (same | ⟨below, same⟩)
    · rw [← (is_rooted_clean path).1, ← (is_rooted_clean path).2, same, (is_rooted_clean root).1,
        (is_rooted_clean root).2]
      exact ⟨rfl, prefix_rfl⟩
    have rooted : isRooted path = isRooted root := by
      rw [← (is_rooted_clean path).1, ← (is_rooted_clean root).1, same]
      unfold isRooted
      rw [head?_append_of_ne_nil _ (clean_chars_ne_nil root)]
    have pathNamed : cleanComponents path ≠ [] := by
      intro bare
      have short : (cleanChars path).length = 1 := by
        rcases clean_chars_of_bare bare with slash | isDot
        · rw [slash]; rfl
        · rw [isDot]; rfl
      have long := length_pos_of_ne_nil (clean_chars_ne_nil root)
      rw [same, length_append, length_cons] at short
      omega
    rw [clean_chars_of_named pathNamed, clean_chars_of_named named, rooted, append_assoc]
      at same
    have split := congrArg (splitOn '/') (append_cancel_left same)
    rw [splitOn_append_cons_self, splitOn_intercalate '/' noSlash named,
      splitOn_intercalate '/' (fun component mem => (clean_components_named path component
      mem).2) pathNamed] at split
    exact ⟨rooted, split ▸ prefix_append _ _⟩
  · rintro ⟨rooted, rest, split⟩
    cases rest with
    | nil =>
      left
      rw [append_nil] at split
      unfold cleanChars
      rw [rooted, split]
    | cons first others =>
      right
      refine ⟨['/'].intercalate (first :: others), ?_⟩
      have restNoSlash : ∀ component ∈ first :: others, '/' ∉ component := by
        intro component mem
        exact (clean_components_named path component
          (split ▸ mem_append_right _ mem)).2
      have joined := @List.intercalate_splitOn _
        (['/'].intercalate (cleanComponents root) ++ '/' :: ['/'].intercalate (first :: others))
        _ _ '/'
      rw [splitOn_append_cons_self, splitOn_intercalate '/' noSlash named,
        splitOn_intercalate '/' restNoSlash (by simp), split] at joined
      rw [clean_chars_of_named (by rw [← split]; simp), clean_chars_of_named named, joined, rooted,
        append_assoc]

def clean (path : String) : String := String.ofList (cleanChars path.toList)

@[simp]
theorem clean_idempotent (path : String) : clean (clean path) = clean path := by
  unfold clean
  rw [String.toList_ofList, clean_chars_idempotent]

theorem clean_ne_empty (path : String) : clean path ≠ "" := by
  intro empty
  apply clean_chars_ne_nil path.toList
  simpa [clean] using congrArg String.toList empty

theorem clean_of_bare {path : String} (bare : cleanComponents path.toList = []) :
    clean path = "/" ∨ clean path = "." :=
  (clean_chars_of_bare bare).imp (congrArg String.ofList) (congrArg String.ofList)

def joinTexts (elements : List String) : String :=
  let parts := elements.filter (· ≠ "")
  if parts = [] then "" else clean ("/".intercalate parts)

def absText (getwd : Option String) (path : String) : Option String :=
  if isRooted path.toList then some (clean path)
  else getwd.map fun directory => joinTexts [directory, path]

def baseChars (path : List Char) : List Char :=
  if path = [] then dot
  else
    let last := (path.rdropWhile (· = '/')).rtakeWhile (· ≠ '/')
    if last = [] then ['/'] else last

def base (path : String) : String := String.ofList (baseChars path.toList)

def dirText (path : String) : String :=
  clean (String.ofList (path.toList.rdropWhile (· ≠ '/')))

/-- `filepath.Ext`: what follows the last dot of the last element, with the dot. -/
def ext (path : String) : String :=
  let tail := path.toList.rtakeWhile fun c => c ≠ '/' && c ≠ '.'
  match (path.toList.take (path.toList.length - tail.length)).getLast? with
  | some '.' => String.ofList ('.' :: tail)
  | _ => ""

/-! A malformed pattern is an error of `filepath.Match`, and every caller takes an
error for a mismatch; both are `none` or `false` below. -/

/-- `getEsc`: one character of a class, which something must follow. -/
def getEsc : List Char → Option (Char × List Char)
  | '\\' :: c :: next :: rest => some (c, next :: rest)
  | c :: next :: rest => if c = '-' ∨ c = ']' ∨ c = '\\' then none else some (c, next :: rest)
  | _ => none

/-- The loop over the ranges of a class; `fuel` bounds the characters left. -/
def classRanges : Nat → List Char → List (Char × Char) → Option (List (Char × Char) × List Char)
  | 0, _, _ => none
  | fuel + 1, chunk, ranges =>
    match chunk, ranges with
    | ']' :: rest, _ :: _ => some (ranges, rest)
    | chunk, ranges => do
        let (lo, rest) ← getEsc chunk
        match rest with
        | '-' :: rest =>
          let (hi, rest) ← getEsc rest
          classRanges fuel rest ((lo, hi) :: ranges)
        | rest => classRanges fuel rest ((lo, lo) :: ranges)

/-- `matchChunk`: what is left of the name behind a chunk without stars. -/
def matchChunk : Nat → List Char → List Char → Option (List Char)
  | _, [], name => some name
  | 0, _ :: _, _ => none
  | fuel + 1, '[' :: chunk, c :: name => do
      let negated := chunk.head? = some '^'
      let chunk := if negated then chunk.tail else chunk
      let (ranges, chunk) ← classRanges (chunk.length + 1) chunk []
      let found := ranges.any fun (lo, hi) => decide (lo ≤ c ∧ c ≤ hi)
      if found = negated then none else matchChunk fuel chunk name
  | fuel + 1, '?' :: chunk, c :: name => if c = '/' then none else matchChunk fuel chunk name
  | fuel + 1, '\\' :: literal :: chunk, c :: name =>
    if literal = c then matchChunk fuel chunk name else none
  | fuel + 1, literal :: chunk, c :: name =>
    if literal = c ∧ literal ≠ '\\' then matchChunk fuel chunk name else none
  | _ + 1, _ :: _, [] => none

/-- The inner loop of `scanChunk`: a chunk ends at a star outside a class. -/
def scanLiteral : Bool → List Char → List Char × List Char
  | _, [] => ([], [])
  | inRange, '\\' :: c :: rest =>
    let (chunk, rest) := scanLiteral inRange rest
    ('\\' :: c :: chunk, rest)
  | inRange, c :: rest =>
    if c = '*' ∧ inRange = false then ([], c :: rest)
    else
      let inRange := if c = '[' then true else if c = ']' then false else inRange
      let (chunk, rest) := scanLiteral inRange rest
      (c :: chunk, rest)

/-- The positions that a star can skip to: it does not skip a separator. -/
def skipsOf : List Char → List (List Char)
  | [] => []
  | c :: name => if c = '/' then [] else name :: skipsOf name

/-- The loop of `filepath.Match` over the chunks; each round takes at least one
character of the pattern. -/
def matchPattern : Nat → List Char → List Char → Bool
  | _, [], name => name.isEmpty
  | 0, _ :: _, _ => false
  | fuel + 1, pattern, name =>
    let star := pattern.head? = some '*'
    let (chunk, rest) := scanLiteral false (pattern.dropWhile (· = '*'))
    if star ∧ chunk = [] then !name.contains '/'
    else
      let starts := if star then name :: skipsOf name else [name]
      let matched := starts.findSome? fun start =>
        (matchChunk chunk.length chunk start).filter fun left => left.isEmpty || !rest.isEmpty
      match matched with
      | some left => matchPattern fuel rest left
      | none => false

/-- `filepath.Match(pattern, name)`, with an error as a mismatch. -/
def matchName (pattern name : String) : Bool :=
  matchPattern pattern.length pattern.toList name.toList

end

def IsName (component : Component) : Prop :=
  component ≠ [] ∧ component ≠ dot ∧ component ≠ dotDot ∧ '/' ∉ component

instance (component : Component) : Decidable (IsName component) :=
  inferInstanceAs (Decidable (_ ∧ _))

abbrev Name := { component : Component // IsName component }

abbrev Path := List Name

def toName (component : Component) : Option Name :=
  if isName : IsName component then some ⟨component, isName⟩ else none

def namesOf (components : List Component) : Path := components.filterMap toName

def componentsOf (path : Path) : List Component := path.map Subtype.val

@[simp]
theorem names_of_components_of (path : Path) : namesOf (componentsOf path) = path := by
  induction path with
  | nil => rfl
  | cons name rest ih =>
    unfold namesOf componentsOf at ih ⊢
    rw [map_cons, filterMap_cons_some (dif_pos name.property), ih]

def writePath (path : Path) : List Char := renderPath true (componentsOf path)

/-- `filepath.Clean` of an absolute path. -/
def cleanPath (path : List Char) : Path := namesOf (cleanComponents path)

theorem settled_of_names (named : ∀ component ∈ kept, IsName component) : Settled true kept := by
  induction kept with
  | nil => trivial
  | cons last before ih =>
    obtain ⟨nonempty, notDot, notParent, noSlash⟩ := named last mem_cons_self
    refine ⟨⟨nonempty, notDot, noSlash⟩, fun parent => absurd parent notParent, ?_⟩
    exact ih fun other mem => named other (mem_cons_of_mem _ mem)

theorem settled_components_of (path : Path) : Settled true (componentsOf path).reverse := by
  apply settled_of_names
  intro component mem
  rw [mem_reverse, componentsOf, mem_map] at mem
  obtain ⟨name, -, rfl⟩ := mem
  exact name.property

/-- `filepath.IsAbs` -/
def isAbs (path : List Char) : Bool := isRooted path

/-- `filepath.Join` of an absolute path and another one. -/
def join (base : Path) (path : List Char) : Path := cleanPath (writePath base ++ '/' :: path)

theorem is_rooted_write (path : Path) (more : List Char) :
    isRooted (writePath path ++ more) = true := rfl

@[simp]
theorem join_name (base : Path) (name : Name) : join base name.val = base ++ [name] := by
  obtain ⟨nonempty, notDot, notParent, noSlash⟩ := name.property
  have kept : ((writePath base).splitOn '/').foldl (cleanStep true) [] =
      (componentsOf base).reverse := by
    have reread := (clean_components_render (settled_components_of base)).2
    rw [← reread]
    unfold cleanComponents writePath
    rw [reverse_reverse]
    rfl
  have step : cleanStep true (componentsOf base).reverse name.val =
      name.val :: (componentsOf base).reverse := by
    unfold cleanStep
    rw [if_neg (by simp [nonempty, notDot]), if_neg notParent]
  have cleaned : cleanComponents (writePath base ++ '/' :: name.val) =
      componentsOf (base ++ [name]) := by
    unfold cleanComponents
    rw [is_rooted_write, splitOn_append_cons_self, foldl_append, kept,
      splitOn_eq_singleton noSlash, foldl_cons, step]
    simp [componentsOf]
  rw [join, cleanPath, cleaned, names_of_components_of]

def joinAll (base : Path) (names : List Name) : Path :=
  names.foldl (fun joined name => join joined name.val) base

@[simp]
theorem join_all (base : Path) (names : List Name) : joinAll base names = base ++ names := by
  unfold joinAll
  induction names generalizing base with
  | nil => simp
  | cons name rest ih =>
    rw [foldl_cons, ih, join_name, append_assoc]
    rfl

/-- `filepath.Abs`, which asks for the working directory where the path is
relative. -/
def abs (getwd : Option Path) (path : List Char) : Option Path :=
  if isAbs path then some (cleanPath path) else getwd.map (join · path)

/-- `filepath.Dir` -/
def dir (path : Path) : Path := path.dropLast

/-- A cleaned relative path: parent steps, then names. -/
structure RelativePath where
  parents : Nat
  names : List Name

/-- `filepath.Rel`, which does not fail on two absolute paths. -/
def rel : Path → Path → RelativePath
  | [], target => ⟨0, target⟩
  | base, [] => ⟨base.length, []⟩
  | first :: base, name :: target =>
    if first = name then rel base target else ⟨base.length + 1, name :: target⟩

theorem rel_parents_eq_zero {base target : Path} (inside : (rel base target).parents = 0) :
    target = base ++ (rel base target).names := by
  induction base generalizing target with
  | nil => rfl
  | cons first base ih =>
    cases target with
    | nil => cases inside
    | cons name target =>
      unfold rel at inside ⊢
      split_ifs at inside ⊢ with same
      rw [cons_append, same, ← ih inside]

end RuneTerminal.Go.Filepath
