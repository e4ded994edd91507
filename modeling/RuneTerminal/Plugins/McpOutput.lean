import RuneTerminal.Go.Strings
import RuneTerminal.Kit.Utf8

/-! `mcp_output_normalizer.go`: the output of a server as nodes of bounded depth and width. What
`json.Unmarshal` makes of a payload is a parameter. Texts are bytes, as a cut may end inside a
character. -/

namespace RuneTerminal.Plugins

open Go.Strings (trimSpace)
open Kit List

/-- A decoded value. A map has its members in any order. -/
inductive JSONValue (Number : Type) where
  | null
  | bool (value : Bool)
  | number (value : Number)
  | str (text : String)
  | arr (items : List (JSONValue Number))
  | obj (members : List (String × JSONValue Number))

inductive MCPScalar (Number : Type) where
  | null
  | bool (value : Bool)
  | number (value : Number)
  | text (bytes : List UInt8)

inductive MCPNormalizedNode (Number : Type) where
  | object (fields : List (String × MCPNormalizedNode Number))
  | array (items : List (MCPNormalizedNode Number))
  | scalar (value : MCPScalar Number)

abbrev MCPNormalizedField (Number : Type) := String × MCPNormalizedNode Number

structure MCPNormalizedOutput (Number : Type) where
  format : String := "mcp.normalized.v1"
  payloadType : String
  originalBytes : Nat
  truncated : Bool
  objectFields : List (MCPNormalizedField Number) := []
  arrayItems : List (MCPNormalizedNode Number) := []
  scalar : MCPScalar Number := .null
  notes : List String := []

structure MCPOutputNormalizer where
  maxPayloadBytes : Int
  maxFields : Int
  maxItems : Int
  maxDepth : Int
  maxStringLength : Int

def defaultMCPOutputNormalizer : MCPOutputNormalizer where
  maxPayloadBytes := 8192
  maxFields := 12
  maxItems := 12
  maxDepth := 3
  maxStringLength := 256

def MCPOutputNormalizer.withDefaults (n : MCPOutputNormalizer) : MCPOutputNormalizer where
  maxPayloadBytes := if n.maxPayloadBytes ≤ 0 then 8192 else n.maxPayloadBytes
  maxFields := if n.maxFields ≤ 0 then 12 else n.maxFields
  maxItems := if n.maxItems ≤ 0 then 12 else n.maxItems
  maxDepth := if n.maxDepth ≤ 0 then 3 else n.maxDepth
  maxStringLength := if n.maxStringLength ≤ 0 then 256 else n.maxStringLength

/-! Every function has the mark for a truncation beside its result. -/

section

variable {Number : Type}

def textBytes (text : String) : List UInt8 := Utf8.encode text.toList

def summaryNode (text : String) : MCPNormalizedNode Number := .scalar (.text (textBytes text))

def truncateString (n : MCPOutputNormalizer) (value : List UInt8) : List UInt8 × Bool :=
  if (value.length : Int) ≤ n.maxStringLength then (value, false)
  else (value.take n.maxStringLength.toNat ++ textBytes "...", true)

/-- The entries up to the limit, with a summary in place of the others. -/
def capped {Entry : Type} (most : Int) (summary : Entry) (entries : List (Entry × Bool)) :
    List Entry × Bool :=
  let limit := min (entries.length : Int) most
  let omitted := decide (limit < entries.length)
  let kept := entries.take limit.toNat
  (kept.map Prod.fst ++ (if omitted then [summary] else []), omitted || kept.any Prod.snd)

def sortFields {Value : Type} (fields : List ((String × Value) × Bool)) :
    List ((String × Value) × Bool) :=
  fields.mergeSort fun left right => decide (left.1.1 ≤ right.1.1)

/-- An object whose members are normalized already; below the depth they are not looked at. -/
def limitObject (n : MCPOutputNormalizer) (depth : Nat)
    (fields : List (MCPNormalizedField Number × Bool)) : List (MCPNormalizedField Number) × Bool :=
  if n.maxDepth ≤ depth then ([("summary", summaryNode "object omitted at max depth")], true)
  else capped n.maxFields ("summary", summaryNode "additional fields omitted") (sortFields fields)

def limitArray (n : MCPOutputNormalizer) (depth : Nat)
    (items : List (MCPNormalizedNode Number × Bool)) : List (MCPNormalizedNode Number) × Bool :=
  if n.maxDepth ≤ depth then ([summaryNode "array omitted at max depth"], true)
  else capped n.maxItems (summaryNode "additional items omitted") items

def normalizeScalar (n : MCPOutputNormalizer) : JSONValue Number → MCPScalar Number × Bool
  | .bool value => (.bool value, false)
  | .number value => (.number value, false)
  | .str text =>
    let (bytes, truncated) := truncateString n (textBytes (trimSpace text))
    (.text bytes, truncated)
  | _ => (.null, false)

mutual

def normalizeNode (n : MCPOutputNormalizer) (depth : Nat) :
    JSONValue Number → MCPNormalizedNode Number × Bool
  | .obj members =>
    let (fields, truncated) := limitObject n depth (normalizeMembers n (depth + 1) members)
    (.object fields, truncated)
  | .arr items =>
    let (items, truncated) := limitArray n depth (normalizeItems n (depth + 1) items)
    (.array items, truncated)
  | decoded =>
    let (scalar, truncated) := normalizeScalar n decoded
    (.scalar scalar, truncated)

def normalizeItems (n : MCPOutputNormalizer) (depth : Nat) :
    List (JSONValue Number) → List (MCPNormalizedNode Number × Bool)
  | [] => []
  | item :: rest => normalizeNode n depth item :: normalizeItems n depth rest

def normalizeMembers (n : MCPOutputNormalizer) (depth : Nat) :
    List (String × JSONValue Number) → List (MCPNormalizedField Number × Bool)
  | [] => []
  | (key, value) :: rest =>
    let (node, truncated) := normalizeNode n depth value
    ((key, node), truncated) :: normalizeMembers n depth rest

end

def scalarKind : JSONValue Number → String
  | .null => "null"
  | .bool _ => "boolean"
  | .number _ => "number"
  | .str _ => "string"
  | _ => "scalar"

def normalize (unmarshal : List UInt8 → Option (JSONValue Number)) (n : MCPOutputNormalizer)
    (raw : String) : MCPNormalizedOutput Number :=
  let normalizer := n.withDefaults
  let cleaned := textBytes (trimSpace raw)
  let originalBytes := cleaned.length
  if originalBytes = 0 then { payloadType := "empty", originalBytes := 0, truncated := false }
  else
    let clipped := decide (normalizer.maxPayloadBytes < originalBytes)
    let cleaned := if clipped then cleaned.take normalizer.maxPayloadBytes.toNat else cleaned
    let notes := if clipped then ["payload clipped to max bytes"] else []
    match unmarshal cleaned with
    | none =>
      let (preview, truncated) := truncateString normalizer cleaned
      { payloadType := "non_json"
        originalBytes := originalBytes
        truncated := clipped || truncated
        scalar := .text preview
        notes := notes ++ ["payload was not valid JSON and is represented as plain text"] }
    | some (.obj members) =>
      let (fields, truncated) :=
        limitObject normalizer 0 (normalizeMembers normalizer 1 members)
      { payloadType := "object"
        originalBytes := originalBytes
        truncated := clipped || truncated
        objectFields := fields
        notes := notes }
    | some (.arr items) =>
      let (items, truncated) := limitArray normalizer 0 (normalizeItems normalizer 1 items)
      { payloadType := "array"
        originalBytes := originalBytes
        truncated := clipped || truncated
        arrayItems := items
        notes := notes }
    | some decoded =>
      let (scalar, truncated) := normalizeScalar normalizer decoded
      { payloadType := scalarKind decoded
        originalBytes := originalBytes
        truncated := clipped || truncated
        scalar := scalar
        notes := notes }

end

section

variable {Number : Type} {n : MCPOutputNormalizer}

mutual

/-- The value and all in it stay within the limits; a text counts without the white space
around it. -/
def Respects (n : MCPOutputNormalizer) (depth : Nat) : JSONValue Number → Prop
  | .str text => (textBytes (trimSpace text)).length ≤ n.maxStringLength
  | .arr items =>
    depth < n.maxDepth ∧ items.length ≤ n.maxItems ∧ RespectsItems n (depth + 1) items
  | .obj members =>
    depth < n.maxDepth ∧ members.length ≤ n.maxFields ∧ RespectsMembers n (depth + 1) members
  | _ => True

def RespectsItems (n : MCPOutputNormalizer) (depth : Nat) : List (JSONValue Number) → Prop
  | [] => True
  | item :: rest => Respects n depth item ∧ RespectsItems n depth rest

def RespectsMembers (n : MCPOutputNormalizer) (depth : Nat) :
    List (String × JSONValue Number) → Prop
  | [] => True
  | (_, value) :: rest => Respects n depth value ∧ RespectsMembers n depth rest

end

mutual

/-- The value as a node, with its texts trimmed and its members in the order of their keys. -/
def plainNode : JSONValue Number → MCPNormalizedNode Number
  | .null => .scalar .null
  | .bool value => .scalar (.bool value)
  | .number value => .scalar (.number value)
  | .str text => .scalar (.text (textBytes (trimSpace text)))
  | .arr items => .array (plainItems items)
  | .obj members =>
    .object ((plainMembers members).mergeSort fun left right => decide (left.1 ≤ right.1))

def plainItems : List (JSONValue Number) → List (MCPNormalizedNode Number)
  | [] => []
  | item :: rest => plainNode item :: plainItems rest

def plainMembers : List (String × JSONValue Number) → List (MCPNormalizedField Number)
  | [] => []
  | (key, value) :: rest => (key, plainNode value) :: plainMembers rest

end

/-- A node within the limits, apart from what marks a truncation: the end of a text that was
cut, and a summary for what was left out. -/
inductive Limited (n : MCPOutputNormalizer) : Nat → MCPNormalizedNode Number → Prop
  | null {depth : Nat} : Limited n depth (.scalar .null)
  | bool {depth : Nat} (value : Bool) : Limited n depth (.scalar (.bool value))
  | number {depth : Nat} (value : Number) : Limited n depth (.scalar (.number value))
  | text {depth : Nat} {bytes : List UInt8} (short : bytes.length ≤ n.maxStringLength) :
      Limited n depth (.scalar (.text bytes))
  | cutText {depth : Nat} {bytes : List UInt8} (cut : bytes.length ≤ n.maxStringLength) :
      Limited n depth (.scalar (.text (bytes ++ textBytes "...")))
  | array {depth : Nat} {items : List (MCPNormalizedNode Number)} (inDepth : depth < n.maxDepth)
      (few : items.length ≤ n.maxItems) (each : ∀ item ∈ items, Limited n (depth + 1) item) :
      Limited n depth (.array items)
  | cutArray {depth : Nat} {items : List (MCPNormalizedNode Number)}
      (inDepth : depth < n.maxDepth) (few : items.length ≤ n.maxItems)
      (each : ∀ item ∈ items, Limited n (depth + 1) item) :
      Limited n depth (.array (items ++ [summaryNode "additional items omitted"]))
  | deepArray {depth : Nat} (tooDeep : n.maxDepth ≤ depth) :
      Limited n depth (.array [summaryNode "array omitted at max depth"])
  | object {depth : Nat} {fields : List (MCPNormalizedField Number)}
      (inDepth : depth < n.maxDepth) (few : fields.length ≤ n.maxFields)
      (each : ∀ field ∈ fields, Limited n (depth + 1) field.2) : Limited n depth (.object fields)
  | cutObject {depth : Nat} {fields : List (MCPNormalizedField Number)}
      (inDepth : depth < n.maxDepth) (few : fields.length ≤ n.maxFields)
      (each : ∀ field ∈ fields, Limited n (depth + 1) field.2) :
      Limited n depth
        (.object (fields ++ [("summary", summaryNode "additional fields omitted")]))
  | deepObject {depth : Nat} (tooDeep : n.maxDepth ≤ depth) :
      Limited n depth (.object [("summary", summaryNode "object omitted at max depth")])

theorem truncate_string_marks (n : MCPOutputNormalizer) (value : List UInt8) :
    (truncateString n value).2 = false ↔ (value.length : Int) ≤ n.maxStringLength := by
  unfold truncateString
  by_cases short : (value.length : Int) ≤ n.maxStringLength
  · simp [short]
  · simp [short]

theorem truncate_string_same {value : List UInt8} (whole : (truncateString n value).2 = false) :
    (truncateString n value).1 = value := by
  rw [truncate_string_marks] at whole
  rw [truncateString, if_pos whole]

theorem truncate_string_limited (n : MCPOutputNormalizer) (positive : 0 < n.maxStringLength)
    (depth : Nat) (value : List UInt8) :
    Limited n depth (.scalar (.text (truncateString n value).1) : MCPNormalizedNode Number) := by
  unfold truncateString
  by_cases short : (value.length : Int) ≤ n.maxStringLength
  · rw [if_pos short]
    exact .text short
  rw [if_neg short]
  apply Limited.cutText
  rw [length_take]
  omega

section

variable {Entry : Type} {most : Int} {summary : Entry} {entries : List (Entry × Bool)}

theorem capped_marks : (capped most summary entries).2 = false ↔ (entries.length : Int) ≤ most ∧
    ∀ entry ∈ entries, entry.2 = false := by
  unfold capped
  dsimp only
  by_cases few : (entries.length : Int) ≤ most
  · have all : (min (entries.length : Int) most).toNat = entries.length := by omega
    rw [all]
    simp
  · simp [few]

theorem capped_whole (few : (entries.length : Int) ≤ most) :
    (capped most summary entries).1 = entries.map Prod.fst := by
  have all : (min (entries.length : Int) most).toNat = entries.length := by omega
  have kept : ¬min (entries.length : Int) most < entries.length := by omega
  unfold capped
  dsimp only
  rw [all, take_length, decide_eq_false kept, if_neg Bool.false_ne_true, append_nil]

theorem capped_cases (positive : 0 < most) :
    ∃ kept : List Entry, (kept.length : Int) ≤ most ∧
      (∀ entry ∈ kept, ∃ pair ∈ entries, pair.1 = entry) ∧
      ((capped most summary entries).1 = kept ∨
        (capped most summary entries).1 = kept ++ [summary]) := by
  refine ⟨(entries.take (min (entries.length : Int) most).toNat).map Prod.fst, ?_, ?_, ?_⟩
  · rw [length_map, length_take]
    omega
  · intro entry mem
    obtain ⟨pair, isKept, same⟩ := mem_map.mp mem
    exact ⟨pair, mem_of_mem_take isKept, same⟩
  unfold capped
  dsimp only
  split_ifs
  · exact .inr rfl
  · exact .inl (append_nil _)

end

/-- The limits are positive once the defaults are filled in. -/
structure MCPOutputNormalizer.Positive (n : MCPOutputNormalizer) : Prop where
  maxPayloadBytes : 0 < n.maxPayloadBytes
  maxFields : 0 < n.maxFields
  maxItems : 0 < n.maxItems
  maxDepth : 0 < n.maxDepth
  maxStringLength : 0 < n.maxStringLength

theorem with_defaults_positive (n : MCPOutputNormalizer) : n.withDefaults.Positive := by
  constructor <;> (unfold MCPOutputNormalizer.withDefaults; dsimp only; split_ifs <;> omega)

theorem normalize_items_length (n : MCPOutputNormalizer) (depth : Nat)
    (items : List (JSONValue Number)) : (normalizeItems n depth items).length = items.length := by
  induction items with
  | nil => rfl
  | cons item rest ih => rw [normalizeItems, length_cons, ih, length_cons]

theorem normalize_members_length (n : MCPOutputNormalizer) (depth : Nat)
    (members : List (String × JSONValue Number)) :
    (normalizeMembers n depth members).length = members.length := by
  induction members with
  | nil => rfl
  | cons mem rest ih => rw [normalizeMembers, length_cons, ih, length_cons]

variable {depth : Nat} {items : List (MCPNormalizedNode Number × Bool)}

theorem limit_array_marks : (limitArray n depth items).2 = false ↔ depth < n.maxDepth ∧
    items.length ≤ n.maxItems ∧ ∀ item ∈ items, item.2 = false := by
  unfold limitArray
  by_cases tooDeep : n.maxDepth ≤ depth
  · simp [tooDeep]
  · rw [if_neg tooDeep, capped_marks]
    simp [not_le.mp tooDeep]

variable {fields : List (MCPNormalizedField Number × Bool)}

theorem limit_object_marks : (limitObject n depth fields).2 = false ↔ depth < n.maxDepth ∧
    fields.length ≤ n.maxFields ∧ ∀ field ∈ fields, field.2 = false := by
  unfold limitObject
  by_cases tooDeep : n.maxDepth ≤ depth
  · simp [tooDeep]
  · rw [if_neg tooDeep, capped_marks, sortFields]
    simp [not_le.mp tooDeep]

mutual

theorem normalize_node_marks (n : MCPOutputNormalizer) (depth : Nat) :
    ∀ value : JSONValue Number, (normalizeNode n depth value).2 = false ↔ Respects n depth value
  | .null | .bool _ | .number _ => by simp only [normalizeNode, normalizeScalar, Respects]
  | .str text => by
      simp only [normalizeNode, normalizeScalar, Respects, truncate_string_marks]
  | .arr items => by
      rw [normalizeNode, Respects]
      rw [limit_array_marks, normalize_items_length, normalize_items_marks n (depth + 1) items]
  | .obj members => by
      rw [normalizeNode, Respects]
      rw [limit_object_marks, normalize_members_length,
        normalize_members_marks n (depth + 1) members]

theorem normalize_items_marks (n : MCPOutputNormalizer) (depth : Nat) :
    ∀ items : List (JSONValue Number),
      (∀ item ∈ normalizeItems n depth items, item.2 = false) ↔ RespectsItems n depth items
  | [] => by simp [normalizeItems, RespectsItems]
  | item :: rest => by
      rw [normalizeItems, RespectsItems, List.forall_mem_cons, normalize_node_marks n depth item,
        normalize_items_marks n depth rest]

theorem normalize_members_marks (n : MCPOutputNormalizer) (depth : Nat) :
    ∀ members : List (String × JSONValue Number),
      (∀ field ∈ normalizeMembers n depth members, field.2 = false) ↔
        RespectsMembers n depth members
  | [] => by simp [normalizeMembers, RespectsMembers]
  | (key, value) :: rest => by
      rw [normalizeMembers, RespectsMembers, List.forall_mem_cons,
        normalize_node_marks n depth value, normalize_members_marks n depth rest]

end

theorem sort_fields_fst {Value : Type} (fields : List ((String × Value) × Bool)) :
    (sortFields fields).map Prod.fst = (fields.map Prod.fst).mergeSort fun left right =>
    decide (left.1 ≤ right.1) := by
  exact map_mergeSort fun _ _ _ _ => rfl

theorem limit_array_whole (inDepth : depth < n.maxDepth) (few : items.length ≤ n.maxItems) :
    (limitArray n depth items).1 = items.map Prod.fst := by
  rw [limitArray, if_neg (not_le.mpr inDepth), capped_whole few]

theorem limit_object_whole (inDepth : depth < n.maxDepth) (few : fields.length ≤ n.maxFields) :
    (limitObject n depth fields).1 = (fields.map Prod.fst).mergeSort fun left right =>
    decide (left.1 ≤ right.1) := by
  have fewSorted : ((sortFields fields).length : Int) ≤ n.maxFields := by
    rw [sortFields, length_mergeSort]
    exact few
  rw [limitObject, if_neg (not_le.mpr inDepth), capped_whole fewSorted, sort_fields_fst]

mutual

theorem normalize_node_plain (n : MCPOutputNormalizer) (depth : Nat) :
    ∀ value : JSONValue Number, Respects n depth value →
      (normalizeNode n depth value).1 = plainNode value
  | .null, _ => by rw [normalizeNode.eq_def]; rfl
  | .bool _, _ | .number _, _ => rfl
  | .str text, short => by
      have same := truncate_string_same ((truncate_string_marks n _).mpr short)
      exact congrArg (fun bytes => MCPNormalizedNode.scalar (.text bytes)) same
  | .arr items, ⟨inDepth, few, each⟩ => by
      rw [← normalize_items_length n (depth + 1)] at few
      rw [normalizeNode, plainNode]
      dsimp only
      rw [limit_array_whole inDepth few, normalize_items_plain n (depth + 1) items each]
  | .obj members, ⟨inDepth, few, each⟩ => by
      rw [← normalize_members_length n (depth + 1)] at few
      rw [normalizeNode, plainNode]
      dsimp only
      rw [limit_object_whole inDepth few, normalize_members_plain n (depth + 1) members each]

theorem normalize_items_plain (n : MCPOutputNormalizer) (depth : Nat) :
    ∀ items : List (JSONValue Number), RespectsItems n depth items →
      (normalizeItems n depth items).map Prod.fst = plainItems items
  | [], _ => rfl
  | item :: rest, ⟨first, others⟩ => by
      rw [normalizeItems, plainItems, List.map_cons, normalize_node_plain n depth item first,
        normalize_items_plain n depth rest others]

theorem normalize_members_plain (n : MCPOutputNormalizer) (depth : Nat) :
    ∀ members : List (String × JSONValue Number), RespectsMembers n depth members →
      (normalizeMembers n depth members).map Prod.fst = plainMembers members
  | [], _ => rfl
  | (key, value) :: rest, ⟨first, others⟩ => by
      rw [normalizeMembers, plainMembers, List.map_cons, normalize_node_plain n depth value first,
        normalize_members_plain n depth rest others]

end

theorem limit_array_limited (positive : n.Positive)
    (each : ∀ item ∈ items, Limited n (depth + 1) item.1) :
    Limited n depth (.array (limitArray n depth items).1) := by
  unfold limitArray
  by_cases tooDeep : n.maxDepth ≤ depth
  · rw [if_pos tooDeep]
    exact .deepArray tooDeep
  rw [if_neg tooDeep]
  obtain ⟨kept, few, fromItems, result⟩ := @capped_cases _ n.maxItems
    (summaryNode "additional items omitted" : MCPNormalizedNode Number) items positive.maxItems
  have limited : ∀ item ∈ kept, Limited n (depth + 1) item := by
    intro item mem
    obtain ⟨pair, isItem, same⟩ := fromItems item mem
    exact same ▸ each pair isItem
  rcases result with whole | cut
  · rw [whole]
    exact .array (not_le.mp tooDeep) few limited
  · rw [cut]
    exact .cutArray (not_le.mp tooDeep) few limited

theorem limit_object_limited (positive : n.Positive)
    (each : ∀ field ∈ fields, Limited n (depth + 1) field.1.2) :
    Limited n depth (.object (limitObject n depth fields).1) := by
  unfold limitObject
  by_cases tooDeep : n.maxDepth ≤ depth
  · rw [if_pos tooDeep]
    exact .deepObject tooDeep
  rw [if_neg tooDeep]
  obtain ⟨kept, few, fromFields, result⟩ := @capped_cases _ n.maxFields
    (("summary", summaryNode "additional fields omitted") : MCPNormalizedField Number)
    (sortFields fields) positive.maxFields
  have limited : ∀ field ∈ kept, Limited n (depth + 1) field.2 := by
    intro field mem
    obtain ⟨pair, isField, same⟩ := fromFields field mem
    rw [sortFields, mem_mergeSort] at isField
    exact same ▸ each pair isField
  rcases result with whole | cut
  · rw [whole]
    exact .object (not_le.mp tooDeep) few limited
  · rw [cut]
    exact .cutObject (not_le.mp tooDeep) few limited

mutual

theorem normalize_node_limited (positive : n.Positive) (depth : Nat) :
    ∀ value : JSONValue Number, Limited n depth (normalizeNode n depth value).1
  | .null => by
      rw [normalizeNode.eq_def]
      exact .null
  | .bool value => Limited.bool value
  | .number value => Limited.number value
  | .str text => truncate_string_limited n positive.maxStringLength depth _
  | .arr items => by
      rw [normalizeNode]
      exact limit_array_limited positive (normalize_items_limited positive (depth + 1) items)
  | .obj members => by
      rw [normalizeNode]
      exact limit_object_limited positive (normalize_members_limited positive (depth + 1) members)

theorem normalize_items_limited (positive : n.Positive) (depth : Nat) :
    ∀ items : List (JSONValue Number), ∀ item ∈ normalizeItems n depth items,
      Limited n depth item.1
  | [] => by
      intro item mem
      cases mem
  | item :: rest => by
      rw [normalizeItems, List.forall_mem_cons]
      exact ⟨normalize_node_limited positive depth item,
        normalize_items_limited positive depth rest⟩

theorem normalize_members_limited (positive : n.Positive) (depth : Nat) :
    ∀ members : List (String × JSONValue Number), ∀ field ∈ normalizeMembers n depth members,
      Limited n depth field.1.2
  | [] => by
      intro field mem
      cases mem
  | (key, value) :: rest => by
      rw [normalizeMembers, List.forall_mem_cons]
      exact ⟨normalize_node_limited positive depth value,
        normalize_members_limited positive depth rest⟩

end

def MCPNormalizedOutput.node (output : MCPNormalizedOutput Number) : MCPNormalizedNode Number :=
  if output.payloadType = "object" then .object output.objectFields
  else if output.payloadType = "array" then .array output.arrayItems
  else .scalar output.scalar

theorem normalize_decoded {unmarshal : List UInt8 → Option (JSONValue Number)} {raw : String}
    {value : JSONValue Number} (nonempty : textBytes (trimSpace raw) ≠ [])
    (fits : (textBytes (trimSpace raw)).length ≤ n.withDefaults.maxPayloadBytes)
    (decodes : unmarshal (textBytes (trimSpace raw)) = some value) :
    (normalize unmarshal n raw).node = (normalizeNode n.withDefaults 0 value).1 ∧
    (normalize unmarshal n raw).truncated = (normalizeNode n.withDefaults 0 value).2 := by
  have some : (textBytes (trimSpace raw)).length ≠ 0 := by
    rw [ne_eq, length_eq_zero_iff]
    exact nonempty
  have whole : decide (n.withDefaults.maxPayloadBytes < (textBytes (trimSpace raw)).length) =
      false := decide_eq_false (not_lt.mpr fits)
  unfold normalize
  dsimp only
  rw [if_neg some, whole, if_neg Bool.false_ne_true, decodes]
  cases value with
  | null | bool | number => exact ⟨rfl, rfl⟩
  | str text => exact ⟨rfl, Bool.false_or _⟩
  | arr | obj =>
    exact ⟨rfl, Bool.false_or _⟩

end

/-- The output of a payload stays within the limits apart from the marks of a truncation, and is
marked exactly when the value does not stay within them. -/
theorem normalized_output_within_limits {Number : Type}
    {unmarshal : List UInt8 → Option (JSONValue Number)} (refusesEmpty : unmarshal [] = none)
    {n : MCPOutputNormalizer} {raw : String} {value : JSONValue Number}
    (fits : (textBytes (trimSpace raw)).length ≤ n.withDefaults.maxPayloadBytes)
    (decodes : unmarshal (textBytes (trimSpace raw)) = some value) :
    Limited n.withDefaults 0 (normalize unmarshal n raw).node ∧
    ((normalize unmarshal n raw).truncated = false ↔ Respects n.withDefaults 0 value) ∧
    ((normalize unmarshal n raw).truncated = false →
      (normalize unmarshal n raw).node = plainNode value) := by
  have nonempty : textBytes (trimSpace raw) ≠ [] := by
    intro empty
    rw [empty, refusesEmpty] at decodes
    cases decodes
  obtain ⟨node, truncated⟩ := normalize_decoded nonempty fits decodes
  rw [node, truncated]
  refine ⟨normalize_node_limited (with_defaults_positive n) 0 value,
    normalize_node_marks n.withDefaults 0 value, ?_⟩
  intro unmarked
  exact normalize_node_plain n.withDefaults 0 value
    ((normalize_node_marks n.withDefaults 0 value).mp unmarked)

def decodesAs (payload : String) (value : JSONValue Int) (bytes : List UInt8) :
    Option (JSONValue Int) :=
  if bytes = textBytes payload then some value else none

def statusPayload : String := "\x7b\"ok\":true,\"note\":\" done \"\x7d"

def statusValue : JSONValue Int := .obj [("ok", .bool true), ("note", .str " done ")]

theorem status_within_limits :
    Limited defaultMCPOutputNormalizer.withDefaults 0
      (normalize (decodesAs statusPayload statusValue) defaultMCPOutputNormalizer
        statusPayload).node ∧
    ((normalize (decodesAs statusPayload statusValue) defaultMCPOutputNormalizer
        statusPayload).truncated =
        false ↔
      Respects defaultMCPOutputNormalizer.withDefaults 0 statusValue) ∧
    ((normalize (decodesAs statusPayload statusValue) defaultMCPOutputNormalizer
        statusPayload).truncated =
        false →
      (normalize (decodesAs statusPayload statusValue) defaultMCPOutputNormalizer
        statusPayload).node =
        plainNode statusValue) := by
  have same : textBytes (trimSpace statusPayload) = textBytes statusPayload := by decide +kernel
  have decodes : decodesAs statusPayload statusValue (textBytes (trimSpace statusPayload)) =
      some statusValue := if_pos same
  exact normalized_output_within_limits rfl (by decide +kernel) decodes

def narrowNormalizer : MCPOutputNormalizer where
  maxPayloadBytes := 4096
  maxFields := 2
  maxItems := 2
  maxDepth := 2
  maxStringLength := 6

def longPayload : String := "[\"123456789\",2,3]"

def longValue : JSONValue Int := .arr [.str "123456789", .number 2, .number 3]

/-- An array with an item too many has one more item than the limit allows, the summary, and
a text that was cut has three more bytes. -/
theorem summary_is_one_more :
    (normalize (decodesAs longPayload longValue) narrowNormalizer longPayload).payloadType =
        "array" ∧
      (normalize (decodesAs longPayload longValue) narrowNormalizer longPayload).arrayItems.length =
        3 ∧
      narrowNormalizer.withDefaults.maxItems = 2 ∧
      (truncateString narrowNormalizer.withDefaults (textBytes "123456789")).1.length = 9 := by
  decide +kernel

end RuneTerminal.Plugins
