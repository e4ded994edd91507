import Mathlib.Data.List.Forall2
import Mathlib.Data.List.Infix

/-! Patterns with symbols, with a wildcard for one item and with one for any number. Reading along a
text and along the units of its letters come to the same if, wherever the reading gets, a wildcard
for one unit meets a letter of one unit and units are compared as the symbol is. -/

namespace RuneTerminal.Kit.Glob

open List

inductive Wild (Symbol : Type) where
  | many
  | one
  | symbol (symbol : Symbol)
  deriving DecidableEq

/-- A wildcard stands for any items that are `free`, a symbol for the items that are the
same. -/
inductive Matches {Symbol Item : Type} (free : Item → Prop) (same : Symbol → Item → Prop) :
    List (Wild Symbol) → List Item → Prop
  | nil : Matches free same [] []
  | skip {pattern : List (Wild Symbol)} {text : List Item} :
      Matches free same pattern text → Matches free same (.many :: pattern) text
  | take {pattern : List (Wild Symbol)} {item : Item} {text : List Item} : free item →
      Matches free same (.many :: pattern) text →
      Matches free same (.many :: pattern) (item :: text)
  | one {pattern : List (Wild Symbol)} {item : Item} {text : List Item} : free item →
      Matches free same pattern text → Matches free same (.one :: pattern) (item :: text)
  | symbol {symbol : Symbol} {pattern : List (Wild Symbol)} {item : Item} {text : List Item} :
      same symbol item → Matches free same pattern text →
      Matches free same (.symbol symbol :: pattern) (item :: text)

def Wild.read {Letter : Type} [DecidableEq Letter] (many one letter : Letter) : Wild Letter :=
  if letter = many then .many else if letter = one then .one else .symbol letter

section

variable {Symbol Item : Type} {free free' : Item → Prop} {same same' : Symbol → Item → Prop}
variable {pattern : List (Wild Symbol)} {text : List Item} {item : Item}

theorem matches_nil_iff : Matches free same [] text ↔ text = [] := by
  constructor
  · intro matched
    cases matched
    rfl
  · rintro rfl
    exact .nil

theorem matches_symbol_cons_iff {symbol : Symbol} :
    Matches free same (.symbol symbol :: pattern) (item :: text) ↔ same symbol item ∧
    Matches free same pattern text := by
  constructor
  · intro matched
    cases matched with
    | symbol first rest => exact ⟨first, rest⟩
  · rintro ⟨first, rest⟩
    exact .symbol first rest

theorem matches_one_cons_iff : Matches free same (.one :: pattern) (item :: text) ↔
    free item ∧ Matches free same pattern text := by
  constructor
  · intro matched
    cases matched with
    | one first rest => exact ⟨first, rest⟩
  · rintro ⟨first, rest⟩
    exact .one first rest

theorem Matches.take_all {items : List Item} (allFree : ∀ item ∈ items, free item)
    (matched : Matches free same (.many :: pattern) text) :
    Matches free same (.many :: pattern) (items ++ text) := by
  induction items with
  | nil => exact matched
  | cons item items ih =>
    apply Matches.take (allFree item mem_cons_self)
    exact ih fun other mem => allFree other (mem_cons_of_mem item mem)

theorem matches_many_iff : Matches free same (.many :: pattern) text ↔ ∃ count ≤ text.length,
    (∀ item ∈ text.take count, free item) ∧ Matches free same pattern (text.drop count) := by
  constructor
  · intro matched
    induction text with
    | nil =>
      cases matched with
      | skip rest =>
        exact ⟨0, Nat.le_refl _, fun _ mem => absurd mem not_mem_nil, rest⟩
    | cons item text ih =>
      cases matched with
      | skip rest =>
        exact ⟨0, Nat.zero_le _, fun _ mem => absurd mem not_mem_nil, rest⟩
      | take first rest =>
        rcases ih rest with ⟨count, bound, taken, left⟩
        refine ⟨count + 1, Nat.succ_le_succ bound, ?_, left⟩
        intro other mem
        rcases mem_cons.mp mem with same | later
        · rw [same]
          exact first
        · exact taken other later
  · rintro ⟨count, _, taken, rest⟩
    have whole := (Matches.skip rest).take_all taken
    rw [take_append_drop] at whole
    exact whole

theorem Matches.imp (matched : Matches free same pattern text)
    (freer : ∀ item ∈ text, free item → free' item)
    (coarser : ∀ symbol, .symbol symbol ∈ pattern →
      ∀ item ∈ text, same symbol item → same' symbol item) :
    Matches free' same' pattern text := by
  induction matched with
  | nil => exact .nil
  | skip _ ih =>
    apply Matches.skip
    apply ih freer
    intro symbol mem
    exact coarser symbol (mem_cons_of_mem _ mem)
  | take first _ ih =>
    apply Matches.take (freer _ mem_cons_self first)
    apply ih
    · intro item mem
      exact freer item (mem_cons_of_mem _ mem)
    · intro symbol symbolMember item mem
      exact coarser symbol symbolMember item (mem_cons_of_mem _ mem)
  | one first _ ih =>
    apply Matches.one (freer _ mem_cons_self first)
    apply ih
    · intro item mem
      exact freer item (mem_cons_of_mem _ mem)
    · intro symbol symbolMember item mem
      exact coarser symbol (mem_cons_of_mem _ symbolMember) item
        (mem_cons_of_mem _ mem)
  | symbol first _ ih =>
    apply Matches.symbol (coarser _ mem_cons_self _ mem_cons_self first)
    apply ih
    · intro item mem
      exact freer item (mem_cons_of_mem _ mem)
    · intro symbol symbolMember item mem
      exact coarser symbol (mem_cons_of_mem _ symbolMember) item
        (mem_cons_of_mem _ mem)

theorem Matches.stands (matched : Matches free same pattern text) (mem : item ∈ text) :
    free item ∨ ∃ symbol, .symbol symbol ∈ pattern ∧ same symbol item := by
  induction matched with
  | nil => cases mem
  | skip _ ih =>
    refine (ih mem).imp id ?_
    rintro ⟨symbol, symbolMember, first⟩
    exact ⟨symbol, mem_cons_of_mem _ symbolMember, first⟩
  | take first _ ih =>
    rcases mem_cons.mp mem with rfl | later
    · exact .inl first
    · exact ih later
  | one first _ ih =>
    rcases mem_cons.mp mem with rfl | later
    · exact .inl first
    · refine (ih later).imp id ?_
      rintro ⟨symbol, symbolMember, first⟩
      exact ⟨symbol, mem_cons_of_mem _ symbolMember, first⟩
  | symbol first _ ih =>
    rcases mem_cons.mp mem with rfl | later
    · exact .inr ⟨_, mem_cons_self, first⟩
    · refine (ih later).imp id ?_
      rintro ⟨symbol, symbolMember, first⟩
      exact ⟨symbol, mem_cons_of_mem _ symbolMember, first⟩

end

section

variable {Letter Unit : Type}

/-- The units of a pattern: those of its symbols, and a wildcard for each wildcard. -/
def Wild.spell (code : Letter → List Unit) : Wild Letter → List (Wild Unit)
  | .many => [.many]
  | .one => [.one]
  | .symbol letter => (code letter).map .symbol

/-- The first unit of a letter tells how many there are, and is no unit inside a letter. -/
structure SelfSynchronizing (code : Letter → List Unit) (same : Unit → Unit → Prop) : Prop where
  written : ∀ letter, code letter ≠ []
  length : ∀ {left right : Letter} {first first' : Unit} {others others' : List Unit},
    code left = first :: others → code right = first' :: others' → same first first' →
    others.length = others'.length
  inside : ∀ {left right : Letter} {first : Unit} {others : List Unit},
    code left = first :: others → ∀ unit ∈ (code right).tail, ¬same first unit

def SameUnits (code : Letter → List Unit) (same : Unit → Unit → Prop) (left right : Letter) :
    Prop :=
  List.Forall₂ same (code left) (code right)

variable {code : Letter → List Unit} {same : Unit → Unit → Prop} {units others : List Unit}

theorem matches_symbols_iff {pattern : List (Wild Unit)} {text : List Unit}
    (sameLength : units.length = others.length) :
    Matches (fun _ => True) same (units.map .symbol ++ pattern) (others ++ text) ↔
    List.Forall₂ same units others ∧ Matches (fun _ => True) same pattern text := by
  induction units generalizing others with
  | nil =>
    rw [eq_nil_of_length_eq_zero sameLength.symm]
    simp
  | cons unit units ih =>
    cases others with
    | nil => cases sameLength
    | cons other others =>
      rw [map_cons, cons_append, cons_append, matches_symbol_cons_iff,
        ih (Nat.succ.inj sameLength), forall₂_cons, and_assoc]

/-- Wherever a reading of the pattern gets, a wildcard for one letter meets one of a single unit,
and a symbol meets a letter that the units compare with it as the letters do. -/
def steady (single : Letter → Bool) (alike same : Letter → Letter → Bool) :
    List (Wild Letter) → List Letter → Bool
  | [], _ => true
  | .many :: pattern, text => text.tails.all fun rest => steady single alike same pattern rest
  | .one :: _, [] => true
  | .one :: pattern, letter :: text => single letter && steady single alike same pattern text
  | .symbol _ :: _, [] => true
  | .symbol symbol :: pattern, letter :: text =>
    alike symbol letter && (!same symbol letter || steady single alike same pattern text)

section

variable {single : Letter → Bool} {alike sameLetter : Letter → Letter → Bool} {letter : Letter}
variable {pattern : List (Wild Letter)} {text : List Letter}

theorem steady_many (stays : steady single alike sameLetter (.many :: pattern) text = true)
    {rest : List Letter} (suffix : rest <:+ text) :
    steady single alike sameLetter pattern rest = true ∧
      steady single alike sameLetter (.many :: pattern) rest = true := by
  have along : ∀ later, later <:+ text → steady single alike sameLetter pattern later = true :=
    fun later isLater => all_eq_true.mp stays later ((mem_tails later text).mpr isLater)
  refine ⟨along rest suffix, all_eq_true.mpr ?_⟩
  intro later mem
  exact along later (((mem_tails later rest).mp mem).trans suffix)

theorem steady_one :
    steady single alike sameLetter (.one :: pattern) (letter :: text) = true ↔
      single letter = true ∧ steady single alike sameLetter pattern text = true := by
  rw [steady, Bool.and_eq_true]

theorem steady_symbol {symbol : Letter}
    (stays : steady single alike sameLetter (.symbol symbol :: pattern) (letter :: text) = true) :
    alike symbol letter = true ∧ (sameLetter symbol letter = true →
      steady single alike sameLetter pattern text = true) := by
  simpa only [steady, Bool.and_eq_true, Bool.or_eq_true, Bool.not_eq_true', ← Bool.not_eq_true,
    ← imp_iff_not_or] using stays

theorem steady_of_all (allSingle : ∀ letter ∈ text, single letter = true)
    (allAlike : ∀ symbol, .symbol symbol ∈ pattern → ∀ letter ∈ text, alike symbol letter = true) :
    steady single alike sameLetter pattern text = true := by
  induction pattern generalizing text with
  | nil => rfl
  | cons part pattern ih =>
    have later : ∀ rest, (∀ letter ∈ rest, letter ∈ text) →
        steady single alike sameLetter pattern rest = true := fun rest inText =>
      ih (fun letter mem => allSingle letter (inText letter mem)) fun symbol isSymbol letter mem =>
        allAlike symbol (mem_cons_of_mem part isSymbol) letter (inText letter mem)
    cases part with
    | many =>
      apply all_eq_true.mpr
      intro rest suffix
      exact later rest fun letter mem => ((mem_tails rest text).mp suffix).subset mem
    | one =>
      cases text with
      | nil => rfl
      | cons letter text =>
        exact steady_one.mpr ⟨allSingle letter mem_cons_self,
          later text fun other mem => mem_cons_of_mem letter mem⟩
    | symbol symbol =>
      cases text with
      | nil => rfl
      | cons letter text =>
        have isAlike := allAlike symbol mem_cons_self letter mem_cons_self
        rw [steady, isAlike, later text fun other mem => mem_cons_of_mem letter mem, Bool.or_true]
        rfl

variable (isSingle : ∀ letter, single letter = true → (code letter).length = 1)
include isSingle

theorem matches_after_letter (sync : SelfSynchronizing code same) (nonempty : others ≠ [])
    (inside : ∀ unit ∈ others, unit ∈ (code letter).tail)
    (stays : steady single alike sameLetter pattern (letter :: text) = true)
    (matched : Matches (fun _ => True) same (pattern.flatMap (Wild.spell code)) (others ++ units)) :
    Matches (fun _ => True) same (pattern.flatMap (Wild.spell code)) units := by
  induction pattern generalizing others with
  | nil =>
    rw [flatMap_nil, matches_nil_iff] at matched
    exact absurd (append_eq_nil_iff.mp matched).1 nonempty
  | cons part pattern ih =>
    rcases exists_cons_of_ne_nil nonempty with ⟨other, later, rfl⟩
    have isInside := inside other mem_cons_self
    cases part with
    | one =>
      have alone := isSingle letter (steady_one.mp stays).1
      rcases length_eq_one_iff.mp alone with ⟨unit, units⟩
      rw [units] at isInside
      cases isInside
    | symbol symbol =>
      rcases exists_cons_of_ne_nil (sync.written symbol) with ⟨first, rest, units⟩
      rw [flatMap_cons, Wild.spell, units, map_cons, cons_append, cons_append,
        matches_symbol_cons_iff] at matched
      exact absurd matched.1 (sync.inside units other isInside)
    | many =>
      have staysLater := (steady_many stays suffix_rfl).1
      clear nonempty isInside
      induction later generalizing other with
      | nil =>
        cases matched with
        | skip rest =>
          exact .skip (ih (cons_ne_nil other []) inside staysLater rest)
        | take _ rest => exact rest
      | cons next later leave =>
        cases matched with
        | skip rest =>
          exact .skip (ih (cons_ne_nil other _) inside staysLater rest)
        | take _ rest =>
          exact leave next (fun unit mem => inside unit (mem_cons_of_mem other mem)) rest

variable (isAlike : ∀ symbol letter, alike symbol letter = true →
  (SameUnits code same symbol letter ↔ sameLetter symbol letter = true))
include isAlike

theorem matches_of_matches_units (sync : SelfSynchronizing code same)
    (stays : steady single alike sameLetter pattern text = true)
    (matched : Matches (fun _ => True) same (pattern.flatMap (Wild.spell code))
      (text.flatMap code)) :
    Matches (fun _ => True) (fun symbol letter => sameLetter symbol letter = true) pattern
      text := by
  induction pattern generalizing text with
  | nil =>
    rw [flatMap_nil, matches_nil_iff, flatMap_eq_nil_iff] at matched
    cases text with
    | nil => exact .nil
    | cons letter text => exact absurd (matched letter mem_cons_self) (sync.written letter)
  | cons part pattern ih =>
    cases part with
    | many =>
      induction text with
      | nil =>
        cases matched with
        | skip rest =>
          exact .skip (ih (steady_many stays suffix_rfl).1 rest)
      | cons letter text along =>
        rcases exists_cons_of_ne_nil (sync.written letter) with ⟨first, rest, units⟩
        have staysAlong := (steady_many stays (suffix_cons letter text)).2
        rw [flatMap_cons, flatMap_cons, units] at matched
        cases matched with
        | skip matched =>
          apply Matches.skip
          apply ih (steady_many stays suffix_rfl).1
          rw [flatMap_cons, units]
          exact matched
        | take _ matched =>
          apply Matches.take trivial
          apply along staysAlong
          by_cases isSingleUnit : rest = []
          · rw [isSingleUnit] at matched
            exact matched
          apply matches_after_letter isSingle sync isSingleUnit _ stays matched
          intro unit mem
          rw [units]
          exact mem
    | one =>
      cases text with
      | nil => cases matched
      | cons letter text =>
        obtain ⟨alone, staysLater⟩ := steady_one.mp stays
        rcases length_eq_one_iff.mp (isSingle letter alone) with ⟨unit, units⟩
        rw [flatMap_cons, flatMap_cons, units] at matched
        exact .one trivial (ih staysLater (matches_one_cons_iff.mp matched).2)
    | symbol symbol =>
      rcases exists_cons_of_ne_nil (sync.written symbol) with ⟨first, others, units⟩
      cases text with
      | nil =>
        rw [flatMap_cons, Wild.spell, units] at matched
        cases matched
      | cons letter text =>
        rcases exists_cons_of_ne_nil (sync.written letter) with
          ⟨first', others', units'⟩
        rw [flatMap_cons, Wild.spell, flatMap_cons] at matched
        have firstSame : same first first' := by
          rw [units, units', map_cons, cons_append, cons_append,
            matches_symbol_cons_iff] at matched
          exact matched.1
        have sameLength : (code symbol).length = (code letter).length := by
          rw [units, units', length_cons, length_cons, sync.length units units' firstSame]
        rw [matches_symbols_iff sameLength] at matched
        obtain ⟨comparedAlike, staysLater⟩ := steady_symbol stays
        have isSame := (isAlike symbol letter comparedAlike).mp matched.1
        exact .symbol isSame (ih (staysLater isSame) matched.2)

theorem matches_units_of_matches (stays : steady single alike sameLetter pattern text = true)
    (matched : Matches (fun _ => True) (fun symbol letter => sameLetter symbol letter = true)
      pattern text) :
    Matches (fun _ => True) same (pattern.flatMap (Wild.spell code)) (text.flatMap code) := by
  induction matched with
  | nil => exact .nil
  | skip _ ih => exact .skip (ih (steady_many stays suffix_rfl).1)
  | take _ _ ih =>
    apply Matches.take_all fun _ _ => trivial
    exact ih (steady_many stays (suffix_cons _ _)).2
  | @one pattern letter text _ _ ih =>
    obtain ⟨alone, staysLater⟩ := steady_one.mp stays
    rcases length_eq_one_iff.mp (isSingle letter alone) with ⟨unit, units⟩
    rw [flatMap_cons, flatMap_cons, units]
    exact Matches.one trivial (ih staysLater)
  | symbol first _ ih =>
    obtain ⟨comparedAlike, staysLater⟩ := steady_symbol stays
    have sameUnits := (isAlike _ _ comparedAlike).mpr first
    exact (matches_symbols_iff sameUnits.length_eq).mpr ⟨sameUnits, ih (staysLater first)⟩

theorem matches_units_iff (sync : SelfSynchronizing code same)
    (stays : steady single alike sameLetter pattern text = true) :
    Matches (fun _ => True) same (pattern.flatMap (Wild.spell code)) (text.flatMap code) ↔
    Matches (fun _ => True) (fun symbol letter => sameLetter symbol letter = true) pattern text :=
  ⟨matches_of_matches_units isSingle isAlike sync stays,
    matches_units_of_matches isSingle isAlike stays⟩

end

end

end RuneTerminal.Kit.Glob
