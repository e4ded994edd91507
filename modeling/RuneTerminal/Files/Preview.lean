import Mathlib.Algebra.Group.Int.Defs
import RuneTerminal.Files.Navigation
import RuneTerminal.Kit.Base64
import RuneTerminal.Kit.Utf8

/-! `readFSPreviewResolved` and `readRemoteFSPreview` read one byte more than they show and cut it
off again. UTF-8 without NUL is shown as text, and the rest as a hex dump. -/

namespace RuneTerminal.Files

open Go.Filepath Go.Strings Kit Kit.FileTree List

abbrev Bytes := List UInt8

inductive PreviewKind
  | hex
  | text

structure FSReadResult where
  path : String
  preview : Bytes
  previewAvailable : Bool
  previewKind : PreviewKind
  previewBytes : Nat
  sizeBytes : Int
  truncated : Bool

inductive PreviewError
  | fsPathNotFound
  | fsPathNotFile
  | os (err : OsError)
  | payloadInvalid
  | sizeInvalid
  | corruptInput

def hasNULByte (payload : Bytes) : Bool := payload.any (· == 0)

/-- `%0*x` -/
def hexNumber (width n : Nat) : List Char :=
  let digits := Nat.toDigits 16 n
  List.replicate (width - digits.length) '0' ++ digits

def hexColumn (row : Bytes) (index : Nat) : List Char :=
  (match row[index]? with
    | some value => hexNumber 2 value.toNat
    | none => "  ".toList) ++ if index ≠ 15 then [' '] else []

def printable (value : UInt8) : Char :=
  if 32 ≤ value ∧ value ≤ 126 then Char.ofNat value.toNat else '.'

def hexRow (payload : Bytes) (offset : Nat) : List Char :=
  let row := (payload.drop offset).take 16
  hexNumber 8 offset ++ "  ".toList ++ (List.range 16).flatMap (hexColumn row) ++
    "  |".toList ++ row.map printable ++ ['|']

def formatHexPreview (payload : Bytes) : List Char :=
  ['\n'].intercalate ((List.range ((payload.length + 15) / 16)).map fun row =>
    hexRow payload (16 * row))

def previewResult (path : String) (previewBytes : Bytes) (sizeBytes : Int) (truncated : Bool) :
    FSReadResult :=
  let isHex := hasNULByte previewBytes || !Utf8.valid previewBytes
  { path := path
    preview := if isHex then Utf8.encode (formatHexPreview previewBytes) else previewBytes
    previewAvailable := true
    previewKind := if isHex then .hex else .text
    previewBytes := previewBytes.length
    sizeBytes := sizeBytes
    truncated := truncated }

def previewLimit (maxBytes : Int64) : Int64 := if maxBytes ≤ 0 then 8192 else maxBytes

def readCount (maxBytes : Int64) : Int64 := previewLimit maxBytes + 1

def readFront (content : Bytes) (maxBytes : Int64) : Bytes :=
  content.take (readCount maxBytes).toInt.toNat

/-- The bytes that were read, cut down to the limit, and whether that was needed. -/
def cutToLimit (payload : Bytes) (maxBytes : Int64) : Bytes × Bool :=
  let truncated := decide ((previewLimit maxBytes).toInt < payload.length)
  (if truncated then payload.take (previewLimit maxBytes).toInt.toNat else payload, truncated)

def readFSPreviewResolved (tree : Tree Name Bytes) (targetPath : Path) (maxBytes : Int64) :
    Except PreviewError FSReadResult :=
  match stat tree targetPath with
  | .error .notExist => .error .fsPathNotFound
  | .error err => .error (.os err)
  | .ok (_, .dir) => .error .fsPathNotFile
  | .ok (_, .link _) => .error (.os .invalid)
  | .ok (_, .file content) =>
    let (previewBytes, truncated) := cutToLimit (readFront content maxBytes) maxBytes
    .ok (previewResult (String.ofList (writePath targetPath)) previewBytes content.length
      truncated)

/-- What the script prints for a file, where the tool `base64` may break its
output into lines. -/
def previewOutput (base64 : Bytes → List Char) (content : Bytes) (maxBytes : Int64) : List Char :=
  "__RTMETA__".toList ++ (toString content.length).toList ++
    '\n' :: base64 (readFront content maxBytes)

def isLineBlank (c : Char) : Bool := c == '\n' || c == '\r' || c == '\t' || c == ' '

def parseRemoteFSBase64Payload (stdout : List Char) : Except PreviewError (Bytes × Int) :=
  match stdout.span (· ≠ '\n') with
  | (_, []) => .error .payloadInvalid
  | (line, _ :: rest) =>
    if ¬"__RTMETA__".toList <+: line then .error .payloadInvalid
    else
      let size := (trimSpace (String.ofList line)).toList
      let size := if "__RTMETA__".toList <+: size then size.drop 10 else size
      match atoi (String.ofList size) with
      | none => .error .sizeInvalid
      | some sizeBytes =>
        match Base64.decode (rest.filter (!isLineBlank ·)) with
        | none => .error .corruptInput
        | some payload => .ok (payload, sizeBytes)

def readRemoteFSPreview (stdout : List Char) (remotePath : String) (maxBytes : Int64) :
    Except PreviewError FSReadResult :=
  match parseRemoteFSBase64Payload stdout with
  | .error err => .error err
  | .ok (payload, sizeBytes) =>
    let (payload, truncated) := cutToLimit payload maxBytes
    .ok (previewResult remotePath payload sizeBytes truncated)

variable {content : Bytes} {maxBytes : Int64} {base64 : Bytes → List Char}

theorem preview_limit_positive (maxBytes : Int64) : 0 < (previewLimit maxBytes).toInt := by
  unfold previewLimit
  split_ifs with small
  · decide
  · rw [Int64.le_iff_toInt_le, not_le] at small
    exact small

theorem read_count_cases (maxBytes : Int64) :
    (readCount maxBytes).toInt = (previewLimit maxBytes).toInt + 1 ∨ (previewLimit maxBytes).toInt =
    2 ^ 63 - 1 ∧ (readCount maxBytes).toInt < 0 := by
  have positive := preview_limit_positive maxBytes
  have bound := (previewLimit maxBytes).toInt_lt
  have one : (1 : Int64).toInt = 1 := by decide
  have sum : (readCount maxBytes).toInt = ((previewLimit maxBytes).toInt + 1).bmod (2 ^ 64) := by
    rw [readCount, Int64.toInt_add, one]
  by_cases greatest : (previewLimit maxBytes).toInt = 2 ^ 63 - 1
  · refine .inr ⟨greatest, ?_⟩
    rw [sum, greatest]
    decide
  · left
    rw [sum]
    apply Int.bmod_eq_of_le <;> omega

theorem cut_to_limit_eq (payload : Bytes) (maxBytes : Int64) :
    (cutToLimit payload maxBytes).1 = payload.take (previewLimit maxBytes).toInt.toNat := by
  unfold cutToLimit
  dsimp only
  split_ifs with longer
  · rfl
  · rw [decide_eq_true_eq] at longer
    rw [take_of_length_le]
    omega

theorem cut_read_front (content : Bytes) (maxBytes : Int64) :
    (cutToLimit (readFront content maxBytes) maxBytes).1 = if (readCount maxBytes).toInt <
    0 then [] else content.take (previewLimit maxBytes).toInt.toNat := by
  have positive := preview_limit_positive maxBytes
  rw [cut_to_limit_eq, readFront]
  rcases read_count_cases maxBytes with next | ⟨greatest, negative⟩
  · rw [if_neg (by omega), take_take, min_eq_left (by omega)]
  · have nothing : (readCount maxBytes).toInt.toNat = 0 := by omega
    rw [if_pos negative, nothing, take_zero, take_nil]

theorem parse_preview_output
    (encodes : ∀ bytes, (base64 bytes).filter (!isLineBlank ·) = Base64.encode bytes)
    (fits : content.length < 2 ^ 63) :
    parseRemoteFSBase64Payload (previewOutput base64 content maxBytes) =
    .ok (readFront content maxBytes, content.length) := by
  have line : "__RTMETA__".toList ++ (toString content.length).toList =
      ("__RTMETA__" ++ toString content.length).toList := by
    rw [String.toList_append]
  have clean : CleanID ("__RTMETA__" ++ toString content.length) :=
    clean_id_append_number (by decide) (by decide) content.length
  have stem : ∀ c ∈ "__RTMETA__".toList, decide (c ≠ '\n') = true := by
    intro c mem
    have each : ("__RTMETA__".toList.all fun c => decide (c ≠ '\n')) = true := by decide
    exact all_eq_true.mp each c mem
  have oneLine : ∀ c ∈ "__RTMETA__".toList ++ (toString content.length).toList,
      decide (c ≠ '\n') = true := by
    intro c mem
    rcases mem_append.mp mem with inStem | inSize
    · exact stem c inStem
    have digits : (toString content.length).toList = Nat.toDigits 10 content.length := by simp
    rw [digits] at inSize
    have isDigit : c.isDigit = true :=
      Nat.isDigit_of_mem_toDigits (by decide) (by decide) inSize
    rw [decide_eq_true_eq]
    rintro rfl
    cases isDigit
  have marked : "__RTMETA__".toList <+: "__RTMETA__".toList ++ (toString content.length).toList :=
    prefix_append _ _
  have size : ("__RTMETA__".toList ++ (toString content.length).toList).drop 10 =
      (toString content.length).toList := drop_left' rfl
  unfold parseRemoteFSBase64Payload previewOutput
  rw [span_eq_takeWhile_dropWhile, takeWhile_append_of_pos oneLine,
    dropWhile_append_of_pos oneLine]
  simp only [takeWhile_cons, dropWhile_cons, ne_eq, not_true_eq_false, decide_false,
    Bool.false_eq_true, if_false, append_nil, marked]
  rw [line, String.ofList_toList, clean.1, ← line, if_pos marked, size, String.ofList_toList,
    atoi_to_string fits]
  rw [encodes, Base64.decode_encode]

/-- The preview is there as text, and the text is how the content starts. -/
def ShowsText (content : Bytes) (result : Except PreviewError FSReadResult) : Prop :=
  ∃ read, result = .ok read ∧ read.previewAvailable = true ∧ read.previewKind = .text ∧
    read.preview <+: content

/-- The limit falls behind the first byte of a character and before its last one. -/
def CutsCharacter (content : Bytes) (maxBytes : Int64) : Prop :=
  ∃ byte, content[(previewLimit maxBytes).toInt.toNat]? = some byte ∧ ¬byte.IsUTF8FirstByte

section

theorem shows_text_result_iff {path : String} {previewBytes : Bytes} {sizeBytes : Int}
    {truncated : Bool} (noNUL : 0 ∉ previewBytes) (isFront : previewBytes <+: content) :
    ShowsText content (.ok (previewResult path previewBytes sizeBytes truncated)) ↔
    Utf8.IsText previewBytes := by
  have visible : hasNULByte previewBytes = false := by
    rw [hasNULByte, any_eq_false]
    intro byte mem isNUL
    rw [beq_iff_eq] at isNUL
    exact noNUL (isNUL ▸ mem)
  rw [← Utf8.valid_iff]
  constructor
  · rintro ⟨read, same, -, kind, -⟩
    cases same
    unfold previewResult at kind
    simpa [visible] using kind
  · intro isText
    refine ⟨_, rfl, rfl, ?_, ?_⟩
    · simp [previewResult, visible, isText]
    · simpa [previewResult, visible, isText] using isFront

theorem shown_is_text_iff (isText : Utf8.IsText content) (fits : content.length < 2 ^ 63) :
    Utf8.IsText (cutToLimit (readFront content maxBytes) maxBytes).1 ↔
    ¬CutsCharacter content maxBytes := by
  have positive := preview_limit_positive maxBytes
  rw [cut_read_front]
  rcases read_count_cases maxBytes with next | ⟨greatest, negative⟩
  · rw [if_neg (by omega)]
    obtain ⟨text, rfl⟩ := isText
    have whole := take_append_drop (previewLimit maxBytes).toInt.toNat (Utf8.encode text)
    rw [Utf8.is_text_front_iff whole]
    constructor
    · rintro starts ⟨byte, found, other⟩
      obtain ⟨bound, rfl⟩ := List.getElem?_eq_some_iff.mp found
      exact other (starts _ _ (drop_eq_getElem_cons bound))
    intro intact byte after isRest
    by_contra other
    refine intact ⟨byte, ?_, other⟩
    have head := head?_drop (l := Utf8.encode text)
      (i := (previewLimit maxBytes).toInt.toNat)
    rw [isRest] at head
    exact head.symm
  · -- Behind the greatest limit there is nothing to cut.
    rw [if_pos negative]
    constructor
    · rintro - ⟨byte, found, -⟩
      obtain ⟨bound, -⟩ := List.getElem?_eq_some_iff.mp found
      omega
    · intro _
      exact ⟨[], rfl⟩

theorem shown_front (content : Bytes) (maxBytes : Int64) :
    (cutToLimit (readFront content maxBytes) maxBytes).1 <+: content := by
  rw [cut_read_front]
  split_ifs
  · exact nil_prefix
  · exact take_prefix _ _

theorem shown_no_nul (noNUL : 0 ∉ content) :
    0 ∉ (cutToLimit (readFront content maxBytes) maxBytes).1 := fun mem =>
  noNUL ((shown_front content maxBytes).subset mem)

variable (isText : Utf8.IsText content) (noNUL : 0 ∉ content) (fits : content.length < 2 ^ 63)
include isText noNUL fits

theorem local_shows_text_iff {tree : Tree Name Bytes} {targetPath place : Path}
    (found : stat tree targetPath = .ok (place, .file content)) (maxBytes : Int64) :
    ShowsText content (readFSPreviewResolved tree targetPath maxBytes) ↔
    ¬CutsCharacter content maxBytes := by
  unfold readFSPreviewResolved
  rw [found]
  rw [shows_text_result_iff (shown_no_nul noNUL) (shown_front content maxBytes),
    shown_is_text_iff isText fits]

theorem remote_shows_text_iff
    (encodes : ∀ bytes, (base64 bytes).filter (!isLineBlank ·) = Base64.encode bytes)
    (remotePath : String) (maxBytes : Int64) :
    ShowsText content
      (readRemoteFSPreview (previewOutput base64 content maxBytes) remotePath maxBytes) ↔
    ¬CutsCharacter content maxBytes := by
  unfold readRemoteFSPreview
  rw [parse_preview_output encodes fits]
  rw [shows_text_result_iff (shown_no_nul noNUL) (shown_front content maxBytes),
    shown_is_text_iff isText fits]

end

/-- Both previews show a text as one exactly if their limit cuts no character. -/
theorem previews_show_text_iff {content : Bytes} (isText : Utf8.IsText content)
    (noNUL : 0 ∉ content) (fits : content.length < 2 ^ 63) {tree : Tree Name Bytes}
    {targetPath place : Path} (found : stat tree targetPath = .ok (place, .file content))
    {base64 : Bytes → List Char}
    (encodes : ∀ bytes, (base64 bytes).filter (!isLineBlank ·) = Base64.encode bytes)
    (remotePath : String) (maxBytes : Int64) :
    ShowsText content (readFSPreviewResolved tree targetPath maxBytes) ∧
      ShowsText content
        (readRemoteFSPreview (previewOutput base64 content maxBytes) remotePath maxBytes) ↔
    ¬CutsCharacter content maxBytes := by
  rw [local_shows_text_iff isText noNUL fits found,
    remote_shows_text_iff isText noNUL fits encodes, and_self]

def fileName : Name := ⟨['f'], by decide⟩

def accent : Bytes := Utf8.encode ['é']

def accentTree : Tree Name Bytes := Tree.bare.create [fileName] (.file accent) rfl rfl

theorem encode_not_blank (bytes : Bytes) :
    (Base64.encode bytes).filter (!isLineBlank ·) = Base64.encode bytes := by
  rw [filter_eq_self]
  intro c mem
  have each : (('=' :: Base64.alphabet).all (!isLineBlank ·)) = true := by decide
  exact all_eq_true.mp each c (Base64.encode_mem mem)

theorem previews_show_accent :
    ShowsText accent (readFSPreviewResolved accentTree [fileName] 2) ∧
      ShowsText accent (readRemoteFSPreview (previewOutput Base64.encode accent 2) "f" 2) := by
  have isText : Utf8.IsText accent := ⟨['é'], rfl⟩
  apply (previews_show_text_iff isText (by decide +kernel) (by decide +kernel) rfl
    encode_not_blank "f" 2).mpr
  rintro ⟨byte, found, -⟩
  cases found

/-- At a limit of one byte the letter is cut, and both previews show hex. -/
theorem cut_accent_is_hex :
    ¬ShowsText accent (readFSPreviewResolved accentTree [fileName] 1) ∧
      ¬ShowsText accent (readRemoteFSPreview (previewOutput Base64.encode accent 1) "f" 1) := by
  have cut : CutsCharacter accent 1 := ⟨0xa9, by decide +kernel, by decide⟩
  have isText : Utf8.IsText accent := ⟨['é'], rfl⟩
  have noNUL : 0 ∉ accent := by decide +kernel
  have fits : accent.length < 2 ^ 63 := by decide +kernel
  rw [local_shows_text_iff isText noNUL fits rfl,
    remote_shows_text_iff isText noNUL fits encode_not_blank]
  exact ⟨not_not.mpr cut, not_not.mpr cut⟩

end RuneTerminal.Files
