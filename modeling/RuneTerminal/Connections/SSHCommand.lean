import RuneTerminal.Connections.Service
import RuneTerminal.Kit.Getopt

/-! `core/connections/ssh_command.go` puts its own options in front of the target. A target that
starts with a dash is read as options. -/

namespace RuneTerminal.Connections

open Go.Strings Kit
open Kit.Getopt (Flag Grammar Options)
open List

inductive CommandError where
  | missingConfig
  | hostRequired
  | sshUnavailable

def CommandError.text : CommandError → String
  | .missingConfig => "ssh connection is missing config"
  | .hostRequired => "ssh connection host is required"
  | .sshUnavailable => "ssh binary is not available on this machine"

def SSHConfig.target (config : SSHConfig) : String :=
  if trimSpace config.user ≠ "" then trimSpace config.user ++ "@" ++ trimSpace config.host
  else trimSpace config.host

/-- The options with an argument, in the order in which they are added. -/
def SSHConfig.ownOptions (config : SSHConfig) : List (Char × String) :=
  [('o', "BatchMode=yes"), ('o', "ConnectTimeout=5"), ('o', "StrictHostKeyChecking=accept-new")] ++
    (if 0 < config.port then [('p', toString config.port)] else []) ++
    if trimSpace config.identityFile ≠ "" then [('i', config.identityFile)] else []

def optionWords (option : Char × String) : List String :=
  [String.ofList ['-', option.1], option.2]

/-- `sshPath` is what `exec.LookPath` finds. -/
def buildSSHCommandArgs (sshPath : Option String) (config : Option SSHConfig)
    (remoteArgs : List String) : Except CommandError (String × List String) :=
  match config with
  | none => .error .missingConfig
  | some config =>
    if trimSpace config.host = "" then .error .hostRequired
    else
      match sshPath with
      | none => .error .sshUnavailable
      | some path =>
        .ok (path, config.ownOptions.flatMap optionWords ++ config.target :: remoteArgs)

def SSHConfig.ownFlags (config : SSHConfig) : List Flag :=
  config.ownOptions.map fun option => ⟨option.1, some option.2⟩

/-- What `ssh` documents of the three options that are added: each takes an argument. -/
structure ReadsOwnOptions (g : Grammar) : Prop where
  option : g.takesArgument 'o' = some true
  port : g.takesArgument 'p' = some true
  identity : g.takesArgument 'i' = some true

theorem own_option_letters {g : Grammar} (reads : ReadsOwnOptions g) (config : SSHConfig) :
    ∀ option ∈ config.ownOptions, option.1 ≠ '-' ∧ g.takesArgument option.1 = some true := by
  intro option mem
  have known : option.1 = 'o' ∨ option.1 = 'p' ∨ option.1 = 'i' := by
    simp only [SSHConfig.ownOptions, mem_append, mem_cons, not_mem_nil, or_false]
      at mem
    rcases mem with (((rfl | rfl | rfl) | port) | identity)
    · exact .inl rfl
    · exact .inl rfl
    · exact .inl rfl
    · split at port
      · rw [mem_singleton.mp port]
        exact .inr (.inl rfl)
      · cases port
    · split at identity
      · rw [mem_singleton.mp identity]
        exact .inr (.inr rfl)
      · cases identity
  rcases known with isOption | isPort | isIdentity
  · rw [isOption]
    exact ⟨by decide, reads.option⟩
  · rw [isPort]
    exact ⟨by decide, reads.port⟩
  · rw [isIdentity]
    exact ⟨by decide, reads.identity⟩

theorem read_option_words {g : Grammar} (options : List (Char × String))
    (letters : ∀ option ∈ options, option.1 ≠ '-' ∧ g.takesArgument option.1 = some true)
    (rest : List String) :
    Getopt.readOptions g none (options.flatMap optionWords ++ rest) =
      (Getopt.readOptions g none rest).map
        (Options.after (options.map fun option => ⟨option.1, some option.2⟩)) := by
  induction options with
  | nil => simp
  | cons option options ih =>
    rw [forall_mem_cons] at letters
    obtain ⟨⟨notDash, takes⟩, others⟩ := letters
    have read := Getopt.read_options_letter (String.toList_ofList) notDash takes option.2
      (options.flatMap optionWords ++ rest)
    change Getopt.readOptions g none (_ :: option.2 :: (options.flatMap optionWords ++ rest)) = _
    rw [read, ih others, Option.map_map]
    congr 1

theorem accepted_host {lib : TextLibrary} {env : Surroundings} {newID : String}
    {input : SaveSSHInput} {saved : SavedSSH}
    (accepted : normalizeSSHInput lib env newID input = .ok saved) : trimSpace saved.host ≠ "" := by
  unfold normalizeSSHInput at accepted
  dsimp only at accepted
  split at accepted
  · cases accepted
  next nonblank =>
    split at accepted
    · cases accepted
    · obtain ⟨policy, _, accepted⟩ := bind_eq_ok accepted
      cases accepted
      rwa [trim_space_twice]

/-- For an accepted profile `ssh` reads the target as its destination and no options but those
added, exactly when target and remote command do not start with options of their own. -/
theorem ssh_arguments_read_iff {g : Grammar} (reads : ReadsOwnOptions g) {lib : TextLibrary}
    {env : Surroundings} {newID : String} {input : SaveSSHInput} {saved : SavedSSH}
    (accepted : normalizeSSHInput lib env newID input = .ok saved) (path : String)
    (remoteArgs : List String) :
    ∃ arguments,
      buildSSHCommandArgs (some path) (some saved.config) remoteArgs = .ok (path, arguments) ∧
      ((∃ words,
          Getopt.parse g arguments = some ⟨saved.config.ownFlags, saved.config.target, words⟩) ↔
        Getopt.carriesOperand g saved.config.target remoteArgs = true) := by
  have host : trimSpace saved.config.host ≠ "" := accepted_host accepted
  refine ⟨saved.config.ownOptions.flatMap optionWords ++ saved.config.target :: remoteArgs, ?_, ?_⟩
  · rw [buildSSHCommandArgs, if_neg host]
  · apply Getopt.parse_operand_iff
    exact read_option_words _ (own_option_letters reads saved.config) _

/-- The letters of OpenSSH, first those that take an argument. Options after the
destination are read as well, unless `--` stood before it. -/
def openSSH : Grammar where
  takesArgument letter :=
    if "bceilmopBDEFIJLOPQRSwW".toList.contains letter then some true
    else if "1246afgknqstvxACGKMNTVXYy".toList.contains letter then some false
    else none
  readsPastOperand terminated := !terminated

theorem open_ssh_reads : ReadsOwnOptions openSSH := by
  constructor <;> decide +kernel

def plainLibrary : TextLibrary where
  matchRegexp _ _ := false
  toLower := id

def deployInput : SaveSSHInput where
  host := "build.example"
  user := "deploy"
  port := 22
  identityFile := "/keys/id"

def proxyInput : SaveSSHInput where
  host := "-oProxyCommand=touch /tmp/x"

theorem ssh_arguments_read_deploy : ∃ saved arguments words,
    normalizeSSHInput plainLibrary {} "conn_1" deployInput = .ok saved ∧
      buildSSHCommandArgs (some "/usr/bin/ssh") (some saved.config) ["sh", "-lc", "ls"] =
        .ok ("/usr/bin/ssh", arguments) ∧
      Getopt.parse openSSH arguments =
        some ⟨saved.config.ownFlags, "deploy@build.example", words⟩ := by
  have normal : (normalizeSSHInput plainLibrary {} "conn_1" deployInput).toOption.map
      (fun saved => decide (saved.config.target = "deploy@build.example" ∧
        Getopt.carriesOperand openSSH saved.config.target ["sh", "-lc", "ls"] = true)) =
      some true := by
    decide +kernel
  obtain ⟨saved, accepted, tested⟩ := Option.map_eq_some_iff.mp normal
  obtain ⟨target, carried⟩ := of_decide_eq_true tested
  have isAccepted := to_option_eq_some accepted
  obtain ⟨arguments, built, readIff⟩ :=
    ssh_arguments_read_iff open_ssh_reads isAccepted "/usr/bin/ssh" ["sh", "-lc", "ls"]
  obtain ⟨words, parsed⟩ := readIff.mpr carried
  exact ⟨saved, arguments, words, isAccepted, built, target ▸ parsed⟩

/-- A host that starts with a dash is read as an option, which runs a command of its own. -/
theorem host_read_as_option :
    ¬∀ lib env newID input saved path remoteArgs arguments,
      normalizeSSHInput lib env newID input = .ok saved →
      buildSSHCommandArgs (some path) (some saved.config) remoteArgs = .ok (path, arguments) →
      ∃ words,
        Getopt.parse openSSH arguments =
          some ⟨saved.config.ownFlags, saved.config.target, words⟩ := by
  intro claim
  have normal : (normalizeSSHInput plainLibrary {} "conn_1" proxyInput).toOption.map
      (fun saved => Getopt.carriesOperand openSSH saved.config.target ["sh", "-lc", "ls"]) =
      some false := by
    decide +kernel
  obtain ⟨saved, accepted, notCarried⟩ := Option.map_eq_some_iff.mp normal
  have isAccepted := to_option_eq_some accepted
  obtain ⟨arguments, built, readIff⟩ :=
    ssh_arguments_read_iff open_ssh_reads isAccepted "/usr/bin/ssh" ["sh", "-lc", "ls"]
  have carried := readIff.mp (claim _ _ _ _ saved _ _ arguments isAccepted built)
  rw [notCarried] at carried
  cases carried

end RuneTerminal.Connections
