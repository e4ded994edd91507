import RuneTerminal.Go.Filepath
import RuneTerminal.Kit.ShellWords

/-! The scripts of `core/app/fs_connection.go`: `ssh` joins its arguments with blanks, and the shell
there splits the line again. Only the path inside a script is quoted. -/

namespace RuneTerminal.Files

open Go
open Go.Strings (trimSpace hasPrefix)
open Kit List ShellWords

def normalizeRemoteFSPath (path fallback : String) : String :=
  let trimmedPath := if trimSpace path = "" then fallback else trimSpace path
  let cleanedPath := Filepath.clean trimmedPath
  if cleanedPath = "." ∧ hasPrefix trimmedPath "/" then "/" else cleanedPath

/-- `strings.ReplaceAll` of a quote by `'\''`. -/
def escapeQuotes (value : List Char) : List Char :=
  value.flatMap fun c => if c = '\'' then ['\'', '\\', '\'', '\''] else [c]

def quoteRemoteShellArg (value : String) : String :=
  if value = "" then "''" else String.ofList ('\'' :: escapeQuotes value.toList ++ ['\''])

/-- Within quotes, an escaped quote ends the quoting, stands for itself and starts it again. -/
theorem read_escaped_quotes (words : List (List Char)) (word value rest : List Char) :
    ShellWords.read .single words (some word) (escapeQuotes value ++ '\'' :: rest) =
    ShellWords.read .bare words (some (word ++ value)) rest := by
  induction value generalizing word with
  | nil =>
    rw [append_nil]
    rfl
  | cons c value ih =>
    have next := ih (word ++ [c])
    rw [append_assoc, singleton_append] at next
    rw [← next, escapeQuotes, flatMap_cons, append_assoc, ← escapeQuotes]
    by_cases quote : c = '\''
    · rw [if_pos quote, quote]
      rfl
    · rw [if_neg quote, singleton_append, ShellWords.read, if_neg quote]
      rfl

theorem read_quoted (words : List (List Char)) (value : String) (rest : List Char) :
    ShellWords.read .bare words none ((quoteRemoteShellArg value).toList ++ rest) =
    ShellWords.read .bare words (some value.toList) rest := by
  by_cases empty : value = ""
  · rw [quoteRemoteShellArg, if_pos empty, empty]
    rfl
  · have inner := read_escaped_quotes words [] value.toList rest
    rw [nil_append] at inner
    rw [quoteRemoteShellArg, if_neg empty, String.toList_ofList, ← inner, append_assoc,
      singleton_append]
    rfl

theorem quoted_argument_is_word (value : String) :
    ShellWords.splitWords (quoteRemoteShellArg value).toList = some [value.toList] := by
  have read := read_quoted [] value []
  rw [append_nil] at read
  rw [splitWords, firstCommand, read]
  rfl

def scriptHeader (path : String) : String :=
  "set -eu\n" ++ "path=" ++ quoteRemoteShellArg (normalizeRemoteFSPath path ".") ++ "\n"

def maxFSFileContentBytes : Nat := 1024 * 1024

def listRemoteFSScript (path : String) : String :=
  scriptHeader path ++
    "if [ ! -e \"$path\" ]; then printf '__RTERR__not_found\\n'; exit 4; fi\n" ++
    "if [ ! -d \"$path\" ]; then printf '__RTERR__not_directory\\n'; exit 5; fi\n" ++
    "cd \"$path\"\n" ++
    "pwd\n" ++
    "printf '__RTSEP__\\n'\n" ++
    "find . -mindepth 1 -maxdepth 1 -print | LC_ALL=C sort | while IFS= read -r entry; do\n" ++
    "  name=$\x7bentry#./\x7d\n" ++
    "  [ -n \"$name\" ] || continue\n" ++
    "  if [ -d \"$entry\" ]; then kind=directory; else kind=file; fi\n" ++
    "  if stat_out=$(stat -c '%Y\t%s' \"$entry\" 2>/dev/null); then :; " ++
    "elif stat_out=$(stat -f '%m\t%z' \"$entry\" 2>/dev/null); then :; " ++
    "else stat_out='0\t0'; fi\n" ++
    "  printf '%s\t%s\t%s\\n' \"$name\" \"$kind\" \"$stat_out\"\n" ++
    "done\n"

def readRemoteFSPreviewScript (path : String) (maxBytes : Int) : String :=
  let limit := if maxBytes ≤ 0 then 8192 else maxBytes
  scriptHeader path ++
    "if [ ! -e \"$path\" ]; then printf '__RTERR__not_found\\n'; exit 4; fi\n" ++
    "if [ -d \"$path\" ]; then printf '__RTERR__not_file\\n'; exit 5; fi\n" ++
    "size=$(wc -c < \"$path\" | tr -d '[:space:]')\n" ++
    "printf '__RTMETA__%s\\n' \"$size\"\n" ++
    "dd if=\"$path\" bs=1 count=" ++ toString (limit + 1) ++ " 2>/dev/null | base64\n"

def readRemoteFSFileScript (path : String) : String :=
  scriptHeader path ++
    "if [ ! -e \"$path\" ]; then printf '__RTERR__not_found\\n'; exit 4; fi\n" ++
    "if [ -d \"$path\" ]; then printf '__RTERR__not_file\\n'; exit 5; fi\n" ++
    "size=$(wc -c < \"$path\" | tr -d '[:space:]')\n" ++
    "case \"$size\" in ''|*[!0-9]*) size=0 ;; esac\n" ++
    "if [ \"$size\" -gt " ++ toString maxFSFileContentBytes ++
    " ]; then printf '__RTERR__too_large\\n'; exit 6; fi\n" ++
    "printf '__RTMETA__%s\\n' \"$size\"\n" ++
    "base64 < \"$path\"\n"

def writeRemoteFSFileScript (path : String) : String :=
  scriptHeader path ++
    "if [ ! -e \"$path\" ]; then printf '__RTERR__not_found\\n' >&2; exit 4; fi\n" ++
    "if [ -d \"$path\" ]; then printf '__RTERR__not_file\\n' >&2; exit 5; fi\n" ++
    "cat > \"$path\"\n"

inductive RemoteOperation where
  | list (path : String)
  | readPreview (path : String) (maxBytes : Int)
  | readFile (path : String)
  | writeFile (path : String)

def RemoteOperation.path : RemoteOperation → String
  | .list path => path
  | .readPreview path _ => path
  | .readFile path => path
  | .writeFile path => path

def RemoteOperation.script : RemoteOperation → String
  | .list path => listRemoteFSScript path
  | .readPreview path maxBytes => readRemoteFSPreviewScript path maxBytes
  | .readFile path => readRemoteFSFileScript path
  | .writeFile path => writeRemoteFSFileScript path

def RemoteOperation.remoteArgs (operation : RemoteOperation) : List String :=
  ["sh", "-lc", operation.script]

/-- `ssh` sends its remote arguments as one line, with a blank between two of them. -/
def remoteLine (remoteArgs : List String) : List Char :=
  [' '].intercalate (remoteArgs.map String.toList)

/-- The argument vector that a remote shell makes of a line that is one command. -/
def remoteVector (line : List Char) : Option (List String) :=
  (ShellWords.splitWords line).map (List.map String.ofList)

theorem script_starts_with_header (operation : RemoteOperation) :
    ∃ body, operation.script = scriptHeader operation.path ++ body := by
  cases operation with
  | list path =>
    apply Exists.intro
    simp only [RemoteOperation.script, listRemoteFSScript, String.append_assoc]
    rfl
  | readPreview path maxBytes =>
    apply Exists.intro
    simp only [RemoteOperation.script, readRemoteFSPreviewScript, String.append_assoc]
    rfl
  | readFile path =>
    apply Exists.intro
    simp only [RemoteOperation.script, readRemoteFSFileScript, String.append_assoc]
    rfl
  | writeFile path =>
    apply Exists.intro
    simp only [RemoteOperation.script, writeRemoteFSFileScript, String.append_assoc]
    rfl

theorem script_first_line (operation : RemoteOperation) :
    ∃ rest, operation.script.toList = "set -eu".toList ++ '\n' :: rest := by
  rcases script_starts_with_header operation with ⟨body, script⟩
  have options : "set -eu\n".toList = "set -eu".toList ++ ['\n'] := by decide
  apply Exists.intro
  rw [script, scriptHeader, String.append_assoc, String.append_assoc, String.append_assoc,
    String.toList_append, options, append_assoc, singleton_append]

theorem remote_command_is_split (operation : RemoteOperation) :
    ∃ rest, ShellWords.firstCommand (remoteLine operation.remoteArgs) =
      some ⟨["sh", "-lc", "set", "-eu"].map String.toList, '\n' :: rest⟩ := by
  rcases script_first_line operation with ⟨rest, script⟩
  refine ⟨rest, ?_⟩
  have line : remoteLine operation.remoteArgs =
      "sh -lc set -eu".toList ++ '\n' :: rest := by
    have joined : remoteLine operation.remoteArgs =
        "sh -lc ".toList ++ operation.script.toList := by
      simp [remoteLine, RemoteOperation.remoteArgs]
    rw [joined, script]
    rfl
  rw [line]
  rfl

/-- The remote shell runs `sh -lc set -eu`, and then the rest of the script itself. -/
theorem remote_script_is_not_one_word (operation : RemoteOperation) :
    remoteVector (remoteLine operation.remoteArgs) ≠ some operation.remoteArgs ∧
      ∃ rest, ShellWords.firstCommand (remoteLine operation.remoteArgs) =
        some ⟨["sh", "-lc", "set", "-eu"].map String.toList, '\n' :: rest⟩ := by
  rcases remote_command_is_split operation with ⟨rest, command⟩
  refine ⟨?_, rest, command⟩
  rw [remoteVector, splitWords, command]
  exact nofun

/-- The listing of a directory whose name has a blank. -/
theorem listing_script_is_split : ¬∀ operation : RemoteOperation,
    remoteVector (remoteLine operation.remoteArgs) = some operation.remoteArgs := by
  intro claim
  have whole := claim (.list "/srv/my files")
  rcases remote_command_is_split (.list "/srv/my files") with ⟨rest, command⟩
  rw [remoteVector, splitWords, command] at whole
  cases whole

end RuneTerminal.Files
