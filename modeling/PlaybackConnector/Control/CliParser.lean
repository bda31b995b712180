import PlaybackConnector.Control.CommandProtocol
import PlaybackConnector.Settings.Data
import PlaybackConnector.Text.Case
import PlaybackConnector.Transition.Fallible

/-!
# The command line

How `apc2ctl` reads its arguments: `ParseWithCli` rewrites them as tokens for CLI11, whose callbacks
build the request. CLI11 is a parameter: what is relied on is that it runs the callbacks of the
options and of the positional argument in the order of the tokens.
-/

namespace PlaybackConnector.Control.Cli

open Settings (wide)

/-! ## Commands and options -/

/-- What the command line says. Source: `ParseResult` (`CliParser.hpp:14`). -/
structure ParseResult where
  /-- Source: `Send`. -/
  send : Bool := false
  /-- Source: `Request`. -/
  request : Request := {}
  /-- Source: `ExitCode`. -/
  exitCode : UInt32 := 0
  /-- Source: `Message`. -/
  message : WString := []

/-- Source: `Error` (`CliParser.cpp:51`). -/
def error (exitCode : UInt32) (message : WString) : ParseResult where
  send := false
  request := {}
  exitCode := exitCode
  message := message

/-- Source: `HelpText` (`CliParser.cpp:23`). -/
def helpText : WString :=
  ["AudioPlaybackConnector2 command line control",
    "",
    "Usage:",
    "  apc2ctl show",
    "  apc2ctl settings",
    "  apc2ctl status [--json]",
    "  apc2ctl list [--json]",
    "  apc2ctl connect (--id ID | --name NAME | --mac MAC | --alias ALIAS | --last | " ++
      "--default | TARGET)",
    "  apc2ctl disconnect (--id ID | --name NAME | --mac MAC | --alias ALIAS | --last | " ++
      "--default | TARGET)",
    "  apc2ctl reconnect (--id ID | --name NAME | --mac MAC | --alias ALIAS | --last | " ++
      "--default | TARGET)",
    "  apc2ctl toggle [--last | --default | --id ID | --name NAME | --mac MAC | --alias ALIAS | " ++
      "TARGET]",
    "  apc2ctl disconnect-all",
    "  apc2ctl reconnect-all",
    "  apc2ctl default show [--json] [--raw]",
    "  apc2ctl default set (--id ID | --name NAME | --mac MAC | --alias ALIAS | TARGET)",
    "  apc2ctl default clear",
    "  apc2ctl alias list [--json] [--raw]",
    "  apc2ctl alias set (--id ID | --name NAME | --mac MAC | --alias ALIAS | TARGET) " ++
      "(--value VALUE | VALUE)",
    "  apc2ctl alias clear (--id ID | --name NAME | --mac MAC | --alias ALIAS | TARGET)",
    "",
    "Use -- before a target or alias value that begins with '-'. TARGET is resolved as an exact " ++
      "device ID, then an exact",
    "alias or device name, then a MAC address contained in the device ID, and finally an " ++
      "alias/name substring. Equal-rank",
    "matches are rejected as ambiguous; use an explicit selector to disambiguate."].flatMap
    fun line => wide line ++ [10]

/-- An option that names a device. Source: `Selector` (`CliParser.cpp:102`). -/
structure Selector where
  /-- Source: `Name`. -/
  name : WString
  /-- Source: `Kind`. -/
  kind : TargetKind

/-- Source: `c_selectors` (`CliParser.cpp:106`). -/
def selectors : List Selector :=
  [⟨wide "--id", .id⟩, ⟨wide "--name", .name⟩, ⟨wide "--mac", .mac⟩, ⟨wide "--alias", .alias⟩]

/-- A command of the command line. Source: `CommandSpec` (`CliParser.cpp:110`). -/
structure CommandSpec where
  /-- Source: `Name`. -/
  name : WString
  /-- Source: `Subcommand`. -/
  subcommand : WString
  /-- Source: `Kind`. -/
  kind : CommandType

/-- Source: `c_commands` (`CliParser.cpp:115`). -/
def commands : List CommandSpec :=
  [⟨wide "show", [], .show⟩,
    ⟨wide "settings", [], .settings⟩,
    ⟨wide "status", [], .status⟩,
    ⟨wide "list", [], .list⟩,
    ⟨wide "disconnect-all", [], .disconnectAll⟩,
    ⟨wide "reconnect-all", [], .reconnectAll⟩,
    ⟨wide "connect", [], .connect⟩,
    ⟨wide "disconnect", [], .disconnect⟩,
    ⟨wide "reconnect", [], .reconnect⟩,
    ⟨wide "toggle", [], .toggleLast⟩,
    ⟨wide "default", wide "show", .defaultShow⟩,
    ⟨wide "default", wide "clear", .defaultClear⟩,
    ⟨wide "default", wide "set", .defaultSet⟩,
    ⟨wide "alias", wide "list", .aliasList⟩,
    ⟨wide "alias", wide "clear", .aliasClear⟩,
    ⟨wide "alias", wide "set", .aliasSet⟩]

/-- Source: `relative` (`CliParser.cpp:135`). -/
def CommandSpec.relative (spec : CommandSpec) : Bool :=
  spec.kind == .connect || spec.kind == .disconnect || spec.kind == .reconnect ||
    spec.kind == .toggleLast

/-- Source: `aliasValue` (`CliParser.cpp:137`). -/
def CommandSpec.aliasValue (spec : CommandSpec) : Bool := spec.kind == .aliasSet

/-- Source: `targets` (`CliParser.cpp:138`). -/
def CommandSpec.targets (spec : CommandSpec) : Bool :=
  spec.relative || spec.aliasValue || spec.kind == .defaultSet || spec.kind == .aliasClear

/-- How many words come before the command's arguments, with the program's name. Source: the
loop's start (`CliParser.cpp:152`). -/
def CommandSpec.words (spec : CommandSpec) : Nat := if spec.subcommand.isEmpty then 2 else 3

/-! ## Tokens -/

/-- An option as it was written, and the value read for it. Source: `OptionInput`
(`CliParser.cpp:98`). -/
structure OptionInput where
  /-- Source: `Name`. -/
  name : WString
  /-- Source: `Value`. -/
  value : Option WString
  deriving DecidableEq

/-- What CLI11 is given for an argument. The code hands it an index into `inputs` where a token
here carries the input itself; an input that is only its argument is that argument. Source: the
elements of `tokens` (`CliParser.cpp:147`). -/
inductive Token where
  | json
  | raw
  | last
  | default
  | selector (kind : TargetKind) (input : OptionInput)
  | value (input : OptionInput)
  | invalid (name : WString)
  | target (value : WString)
  deriving DecidableEq

/-- The value of an option and how many arguments it takes. Source: `ReadOptionValue`
(`CliParser.cpp:82`). -/
def readOptionValue (rest : List WString) : Option WString × Nat :=
  match rest with
  | [] => (none, 0)
  | value :: rest =>
    if value = wide "--" then
      match rest with
      | [] => (none, 0)
      | value :: _ => (some value, 2)
    else if value.head? = some 45 then (none, 0)
    else (some value, 1)

/-- What the loop makes of one argument. -/
structure Reading where
  /-- Pushed onto `tokens`. -/
  token : Option Token
  /-- Source: `ended`. -/
  ended : Bool
  /-- How many of the arguments that follow are taken with it. -/
  skip : Nat

variable (toLower : ToLower)

/-- Whether an argument is an option or a command's word, in any case. -/
def isWord (argument : WString) (word : String) : Bool :=
  Text.equalsIgnoreCase toLower argument (wide word)

/-- Source: `selector` (`CliParser.cpp:158`). -/
def findSelector (argument : WString) : Option Selector :=
  selectors.find? fun value => Text.equalsIgnoreCase toLower argument value.name

/-- The token of an option that takes a value. Source: `CliParser.cpp:173`. -/
def optionToken (argument : WString) (value : Option WString) : Token :=
  match findSelector toLower argument with
  | some selector => .selector selector.kind ⟨argument, value⟩
  | none => .value ⟨argument, value⟩

/-- Source: the body of the loop of `ParseWithCli` (`CliParser.cpp:153`). -/
def readArgument (spec : CommandSpec) (ended : Bool) (argument : WString) (rest : List WString) :
    Reading :=
  if spec.targets && !ended && argument == wide "--" then ⟨none, true, 0⟩
  else if !ended && (isWord toLower argument "--json" || isWord toLower argument "--raw") then
    ⟨some (if isWord toLower argument "--json" then .json else .raw), ended, 0⟩
  else if !ended && spec.targets && !spec.aliasValue &&
      (isWord toLower argument "--last" || isWord toLower argument "--default") then
    ⟨some (if isWord toLower argument "--last" then .last else .default), ended, 0⟩
  else if !ended && spec.targets &&
      ((findSelector toLower argument).isSome ||
        (spec.aliasValue && isWord toLower argument "--value")) then
    ⟨some (optionToken toLower argument (readOptionValue rest).1), ended, (readOptionValue rest).2⟩
  else if !spec.targets || (!ended && argument.head? == some 45) then
    ⟨some (.invalid argument), ended, 0⟩
  else ⟨some (.target argument), ended, 0⟩

/-- The tokens of the arguments from a place on; the next `skip` are taken. Source: the loop of
`ParseWithCli` (`CliParser.cpp:152`). -/
def tokenize (spec : CommandSpec) : Bool → Nat → List WString → List Token
  | _, _, [] => []
  | ended, skip + 1, _ :: rest => tokenize spec ended skip rest
  | ended, 0, argument :: rest =>
    let reading := readArgument toLower spec ended argument rest
    reading.token.toList ++ tokenize spec reading.ended reading.skip rest

/-! ## Callbacks -/

/-- What the callbacks write. Source: the locals of `ParseWithCli` (`CliParser.cpp:181`). -/
structure Parsed where
  /-- Source: `request`. -/
  request : Request := {}
  /-- Source: `positional`. -/
  positional : Option WString := none
  /-- Source: `alias`. -/
  deviceAlias : Option WString := none

/-- Source: `select` (`CliParser.cpp:186`). -/
def Parsed.select (parsed : Parsed) (kind : TargetKind) : Except WString Parsed :=
  if parsed.request.target ≠ .none ∨ parsed.positional.isSome then
    .error (wide "Only one device target selector is supported.\n")
  else .ok { parsed with request.target := kind }

/-- The value of an option, or why there is none. -/
def OptionInput.required (input : OptionInput) (message : WString) : Except WString WString :=
  match input.value with
  | none => .error message
  | some value => if value.isEmpty then .error message else .ok value

/-- Source: the assignments to `alias` (`CliParser.cpp:228`, `CliParser.cpp:239`). -/
def Parsed.setAlias (parsed : Parsed) (value : WString) : Except WString Parsed :=
  if parsed.deviceAlias.isSome then .error (wide "Only one alias value is supported.\n")
  else .ok { parsed with deviceAlias := some value }

/-- Source: the callback of `TARGET` (`CliParser.cpp:234`). -/
def Parsed.setPositional (spec : CommandSpec) (parsed : Parsed) (value : WString) :
    Except WString Parsed :=
  if parsed.request.target = .none ∧ parsed.positional = none then
    .ok { parsed with positional := some value }
  else if spec.aliasValue then parsed.setAlias value
  else if parsed.request.target ≠ .none then
    .error (wide "A positional target cannot be combined with a target selector.\n")
  else .error (wide "Only one positional target is supported.\n")

/-- The callback of a token. Source: the callbacks of `ParseWithCli` (`CliParser.cpp:194`). -/
def callback (spec : CommandSpec) (token : Token) (parsed : Parsed) : Except WString Parsed :=
  match token with
  | .json => .ok { parsed with request.flags := parsed.request.flags ||| commandFlagJson }
  | .raw => .ok { parsed with request.flags := parsed.request.flags ||| commandFlagRaw }
  | .last =>
    if spec.relative then parsed.select .last
    else .error (wide "This command requires an explicit device target.\n")
  | .default =>
    if spec.relative then parsed.select .default
    else .error (wide "This command requires an explicit device target.\n")
  | .selector kind input => do
    let parsed ← parsed.select kind
    let value ← input.required (wide "Missing value for " ++ input.name ++ wide ".\n")
    return { parsed with request.payload := value }
  | .value input => do
    let value ← input.required (wide "Missing value for --value.\n")
    parsed.setAlias value
  | .invalid name => .error (wide "Unknown option: " ++ name ++ wide "\n")
  | .target value => parsed.setPositional spec value

/-! ## The parser -/

/-- What CLI11 does with the tokens and their callbacks. -/
abbrev CliParse := List Token → (Token → Parsed → Except WString Parsed) → Parsed →
  Except WString Parsed

/-- CLI11 recognises every option and positional argument and runs its callback as soon as it is
parsed, which is what `trigger_on_parse` and `allow_extra_args` ask for; an exception of a callback
ends the parse. -/
def CliParse.InOrder (cli : CliParse) : Prop :=
  ∀ tokens callback parsed,
    cli tokens callback parsed = tokens.foldlM (fun parsed token => callback token parsed) parsed

/-- A parser that does this. -/
def inOrder : CliParse := fun tokens callback parsed =>
  tokens.foldlM (fun parsed token => callback token parsed) parsed

theorem inOrder_inOrder : CliParse.InOrder inOrder := fun _ _ _ => rfl

/-- Source: `CliParser.cpp:250`. -/
def Parsed.withPositional (parsed : Parsed) : Request :=
  match parsed.positional with
  | none => parsed.request
  | some positional =>
    { parsed.request with
      target := .auto
      payload := positional }

/-- Source: `CliParser.cpp:254`. -/
def withDefault (spec : CommandSpec) (request : Request) : Except WString Request :=
  if spec.targets && request.target == .none then
    if spec.kind = .toggleLast then .ok { request with target := .default }
    else .error (wide "A device target is required.\n")
  else .ok request

/-- Source: `CliParser.cpp:260`. -/
def requirePayload (spec : CommandSpec) (request : Request) : Except WString Request :=
  if spec.targets && request.target != .last && request.target != .default &&
      request.payload.isEmpty then
    .error (if spec.aliasValue then wide "A device target is required.\n"
      else wide "A non-empty device target is required.\n")
  else .ok request

/-- Source: `CliParser.cpp:263`. -/
def withAlias (spec : CommandSpec) (deviceAlias : Option WString) (request : Request) :
    Except WString Request :=
  if spec.aliasValue then
    match deviceAlias with
    | none => .error (wide "A non-empty alias value is required.\n")
    | some value =>
      if value.isEmpty then .error (wide "A non-empty alias value is required.\n")
      else .ok { request with payload := request.payload ++ (wide "\n" ++ value) }
  else .ok request

variable (cli : CliParse)

/-- Source: `ParseWithCli` (`CliParser.cpp:134`). -/
def parseWithCli (spec : CommandSpec) (argv : List WString) : Except WString Request := do
  let tokens := tokenize toLower spec false 0 (argv.drop spec.words)
  let parsed ← cli tokens (callback spec) { request := { command := spec.kind } }
  let request ← withDefault spec parsed.withPositional
  let request ← requirePayload spec request
  withAlias spec parsed.deviceAlias request

/-- Source: `family` (`CliParser.cpp:317`). -/
def isFamily (command : WString) : Bool :=
  isWord toLower command "default" || isWord toLower command "alias"

/-- The command of the words after the program's name. Source: `spec` (`CliParser.cpp:323`). -/
def findCommand (command : WString) (rest : List WString) : Option CommandSpec :=
  let subcommand := if isFamily toLower command then rest.headD [] else []
  commands.find? fun value => Text.equalsIgnoreCase toLower command value.name &&
    Text.equalsIgnoreCase toLower subcommand value.subcommand

/-- Why the words after the program's name are no command. Source: `CliParser.cpp:327`. -/
def unknownCommand (command : WString) (rest : List WString) : WString :=
  if isFamily toLower command then
    (if isWord toLower command "default" then wide "Unknown default command: "
      else wide "Unknown alias command: ") ++ rest.headD [] ++ wide "\n"
  else wide "Unknown command: " ++ command ++ wide "\n\n" ++ helpText

/-- Source: `ParseCommandLine` (`CliParser.cpp:311`). -/
def parseCommandLine (argv : List WString) : ParseResult :=
  match argv with
  | [] | [_] => error 0 helpText
  | _ :: command :: rest =>
    if isWord toLower command "help" || isWord toLower command "--help" ||
        isWord toLower command "-h" then
      error 0 helpText
    else if isFamily toLower command && rest.isEmpty then
      error 3 (if isWord toLower command "default" then
        wide "default requires show, set, or clear.\n"
      else wide "alias requires list, set, or clear.\n")
    else
      match findCommand toLower command rest with
      | none => error 3 (unknownCommand toLower command rest)
      | some spec =>
        match parseWithCli toLower cli spec argv with
        | .error message => error 3 message
        | .ok request =>
          { send := true
            request := request }

/-! ## The early scan -/

/-- Source: the options with a value in `JsonRequested` (`CliParser.cpp:280`). -/
def isValueOption (argument : WString) : Bool :=
  ["--id", "--name", "--mac", "--alias", "--value"].any (isWord toLower argument)

/-- How many arguments `JsonRequested` takes as the value of an option. Source:
`CliParser.cpp:283`. -/
def valueWidth (rest : List WString) : Nat :=
  match rest with
  | [] => 0
  | value :: _ =>
    if value = wide "--" then min 2 rest.length
    else if value.isEmpty || value.head? != some 45 then 1
    else 0

/-- The scan from a place on; the next arguments are taken. Source: the loop of `JsonRequested`
(`CliParser.cpp:278`). -/
def scanJson : Nat → List WString → Bool
  | _, [] => false
  | skip + 1, _ :: rest => scanJson skip rest
  | 0, argument :: rest =>
    if isValueOption toLower argument then scanJson (valueWidth rest) rest
    else if argument = wide "--" then false
    else if isWord toLower argument "--json" then true
    else scanJson 0 rest

/-- Source: `JsonRequested` (`CliParser.cpp:276`). -/
def jsonRequested (argv : List WString) : Bool := scanJson toLower 0 (argv.drop 1)

/-! ## What the loop reads -/

/-- What `readArgument` may make of an argument, by the rule that decides it. -/
inductive Reads (spec : CommandSpec) (argument : WString) (rest : List WString) :
    Bool → Reading → Prop where
  /-- `--` ends the options. -/
  | terminator : spec.targets = true → argument = wide "--" →
    Reads spec argument rest false ⟨none, true, 0⟩
  | json : isWord toLower argument "--json" = true →
    Reads spec argument rest false ⟨some .json, false, 0⟩
  | raw : isWord toLower argument "--raw" = true →
    Reads spec argument rest false ⟨some .raw, false, 0⟩
  | last : spec.targets = true → isWord toLower argument "--last" = true →
    Reads spec argument rest false ⟨some .last, false, 0⟩
  | default : spec.targets = true → isWord toLower argument "--default" = true →
    Reads spec argument rest false ⟨some .default, false, 0⟩
  | selector {selector : Selector} : spec.targets = true → selector ∈ selectors →
    Text.equalsIgnoreCase toLower argument selector.name = true →
    Reads spec argument rest false
      ⟨some (.selector selector.kind ⟨argument, (readOptionValue rest).1⟩), false,
        (readOptionValue rest).2⟩
  | value : spec.aliasValue = true → isWord toLower argument "--value" = true →
    Reads spec argument rest false
      ⟨some (.value ⟨argument, (readOptionValue rest).1⟩), false, (readOptionValue rest).2⟩
  | invalid {ended : Bool} : Reads spec argument rest ended ⟨some (.invalid argument), ended, 0⟩
  /-- An argument is positional after `--`, or if it does not begin with `-`. -/
  | target {ended : Bool} : spec.targets = true → (ended = false → argument.head? ≠ some 45) →
    Reads spec argument rest ended ⟨some (.target argument), ended, 0⟩

variable {toLower} {cli} {spec : CommandSpec} {argument : WString} {rest args argv : List WString}

theorem readArgument_reads (toLower : ToLower) (spec : CommandSpec) (argument : WString)
    (rest : List WString) (ended : Bool) : Reads toLower spec argument rest ended
      (readArgument toLower spec ended argument rest) := by
  unfold readArgument
  split
  · next h =>
    simp only [Bool.and_eq_true, Bool.not_eq_true', beq_iff_eq] at h
    obtain ⟨⟨htargets, rfl⟩, harg⟩ := h
    exact .terminator htargets harg
  split
  · next h =>
    simp only [Bool.and_eq_true, Bool.not_eq_true', Bool.or_eq_true] at h
    obtain ⟨rfl, hword⟩ := h
    split
    · next hjson => exact .json hjson
    · next hjson => exact .raw (hword.resolve_left hjson)
  split
  · next h =>
    simp only [Bool.and_eq_true, Bool.not_eq_true', Bool.or_eq_true] at h
    obtain ⟨⟨⟨rfl, htargets⟩, -⟩, hword⟩ := h
    split
    · next hlast => exact .last htargets hlast
    · next hlast => exact .default htargets (hword.resolve_left hlast)
  split
  · next h =>
    simp only [Bool.and_eq_true, Bool.not_eq_true', Bool.or_eq_true] at h
    obtain ⟨⟨rfl, htargets⟩, hoption⟩ := h
    unfold optionToken
    split
    · next selector hfind =>
      exact .selector htargets (List.mem_of_find?_eq_some hfind)
        (List.find?_some (p := fun value : Selector =>
          Text.equalsIgnoreCase toLower argument value.name) hfind)
    · next hfind =>
      rw [hfind] at hoption
      obtain ⟨halias, hvalue⟩ := hoption.resolve_left Bool.false_ne_true
      exact .value halias hvalue
  split
  · exact .invalid
  · next h =>
    simp only [Bool.or_eq_true, Bool.not_eq_true', Bool.and_eq_true, beq_iff_eq, not_or,
      not_and] at h
    exact .target (Bool.eq_true_of_not_eq_false h.1) h.2

/-- What a token of a command may be: where it is allowed, and that its text is an argument. -/
def Token.Fits (spec : CommandSpec) (args : List WString) : Token → Prop
  | .json | .raw | .invalid _ => True
  | .last | .default => spec.targets = true
  | .selector kind input => spec.targets = true ∧ (∃ selector ∈ selectors, selector.kind = kind) ∧
    ∀ value ∈ input.value, value ∈ args
  | .value input => spec.aliasValue = true ∧ ∀ value ∈ input.value, value ∈ args
  | .target text => spec.targets = true ∧ text ∈ args

theorem Token.Fits.cons {token : Token} (h : token.Fits spec rest) :
    token.Fits spec (argument :: rest) := by
  cases token with
  | selector kind input =>
    exact ⟨h.1, h.2.1, fun value hv => List.mem_cons_of_mem _ (h.2.2 value hv)⟩
  | value input => exact ⟨h.1, fun value hv => List.mem_cons_of_mem _ (h.2 value hv)⟩
  | target value => exact ⟨h.1, List.mem_cons_of_mem _ h.2⟩
  | _ => exact h

/-- The value read for an option is one of the arguments that follow. -/
theorem mem_of_readOptionValue {value : WString} (h : value ∈ (readOptionValue rest).1) :
    value ∈ rest := by
  unfold readOptionValue at h
  split at h
  · cases h
  · split at h
    · split at h
      · cases h
      · cases h
        exact List.mem_cons_of_mem _ List.mem_cons_self
    · split at h
      · cases h
      · cases h
        exact List.mem_cons_self

/-- What the loop reads of an argument fits the command. -/
theorem Reads.fits {ended : Bool} {reading : Reading}
    (h : Reads toLower spec argument rest ended reading) :
    ∀ token ∈ reading.token, token.Fits spec (argument :: rest) := by
  intro token htoken
  cases h with
  | terminator _ _ => cases htoken
  | json _ | raw _ | invalid =>
    cases htoken
    trivial
  | last htargets _ | default htargets _ =>
    cases htoken
    exact htargets
  | @selector selector htargets hmem _ =>
    cases htoken
    exact ⟨htargets, ⟨selector, hmem, rfl⟩,
      fun value hv => List.mem_cons_of_mem _ (mem_of_readOptionValue hv)⟩
  | value halias _ =>
    cases htoken
    exact ⟨halias, fun value hv => List.mem_cons_of_mem _ (mem_of_readOptionValue hv)⟩
  | target htargets _ =>
    cases htoken
    exact ⟨htargets, List.mem_cons_self⟩

/-- Every token fits its command. -/
theorem tokenize_fits (ended : Bool) (skip : Nat) :
    ∀ token ∈ tokenize toLower spec ended skip args, token.Fits spec args := by
  induction args generalizing ended skip with
  | nil =>
    intro token h
    cases ended <;> cases skip <;> cases h
  | cons argument rest ih =>
    intro token h
    cases skip with
    | succ skip => exact (ih ended skip token h).cons
    | zero =>
      rw [tokenize, List.mem_append] at h
      obtain h | h := h
      · exact (readArgument_reads _ _ _ _ ended).fits token (Option.mem_toList.1 h)
      · exact (ih _ _ token h).cons

/-! ## What the callbacks write -/

/-- What the callback of a token that does not throw has found and written. -/
inductive Writes (spec : CommandSpec) (parsed : Parsed) : Token → Parsed → Prop where
  | json : Writes spec parsed .json
    { parsed with request.flags := parsed.request.flags ||| commandFlagJson }
  | raw : Writes spec parsed .raw
    { parsed with request.flags := parsed.request.flags ||| commandFlagRaw }
  | last : spec.relative = true → parsed.request.target = .none → parsed.positional = none →
    Writes spec parsed .last { parsed with request.target := .last }
  | default : spec.relative = true → parsed.request.target = .none → parsed.positional = none →
    Writes spec parsed .default { parsed with request.target := .default }
  | selector {kind : TargetKind} {input : OptionInput} {text : WString} :
    parsed.request.target = .none → parsed.positional = none → input.value = some text →
    text ≠ [] → Writes spec parsed (.selector kind input)
      { parsed with
        request.target := kind
        request.payload := text }
  | value {input : OptionInput} {text : WString} : input.value = some text → text ≠ [] →
    parsed.deviceAlias = none →
    Writes spec parsed (.value input) { parsed with deviceAlias := some text }
  /-- The first positional argument is the target, if no option is. -/
  | positional {text : WString} : parsed.request.target = .none → parsed.positional = none →
    Writes spec parsed (.target text) { parsed with positional := some text }
  /-- The next one is the alias. -/
  | extra {text : WString} : ¬(parsed.request.target = .none ∧ parsed.positional = none) →
    spec.aliasValue = true → parsed.deviceAlias = none →
    Writes spec parsed (.target text) { parsed with deviceAlias := some text }

theorem Parsed.select_ok {parsed result : Parsed} {kind : TargetKind}
    (h : parsed.select kind = .ok result) : parsed.request.target = .none ∧
      parsed.positional = none ∧ result = { parsed with request.target := kind } := by
  unfold Parsed.select at h
  split at h
  · cases h
  · next hfree =>
    rw [not_or, not_not, Bool.not_eq_true, Option.isSome_eq_false_iff, Option.isNone_iff_eq_none]
      at hfree
    cases h
    exact ⟨hfree.1, hfree.2, rfl⟩

theorem Parsed.setAlias_ok {parsed result : Parsed} {text : WString}
    (h : parsed.setAlias text = .ok result) :
    parsed.deviceAlias = none ∧ result = { parsed with deviceAlias := some text } := by
  unfold Parsed.setAlias at h
  split at h
  · cases h
  · next hfree =>
    rw [Bool.not_eq_true, Option.isSome_eq_false_iff, Option.isNone_iff_eq_none] at hfree
    cases h
    exact ⟨hfree, rfl⟩

theorem OptionInput.required_ok {input : OptionInput} {message text : WString}
    (h : input.required message = .ok text) : input.value = some text ∧ text ≠ [] := by
  unfold OptionInput.required at h
  split at h
  · cases h
  · next value hvalue =>
    split at h
    · cases h
    · next hempty =>
      cases h
      exact ⟨hvalue, fun hnil => hempty (List.isEmpty_iff.2 hnil)⟩

theorem callback_writes {token : Token} {parsed result : Parsed}
    (h : callback spec token parsed = .ok result) : Writes spec parsed token result := by
  cases token with
  | json =>
    cases h
    exact .json
  | raw =>
    cases h
    exact .raw
  | last =>
    rw [callback] at h
    split at h
    · next hrelative =>
      obtain ⟨htarget, hpositional, rfl⟩ := Parsed.select_ok h
      exact .last hrelative htarget hpositional
    · cases h
  | default =>
    rw [callback] at h
    split at h
    · next hrelative =>
      obtain ⟨htarget, hpositional, rfl⟩ := Parsed.select_ok h
      exact .default hrelative htarget hpositional
    · cases h
  | selector kind input =>
    rw [callback, bind_eq_ok] at h
    obtain ⟨selected, hselect, h⟩ := h
    obtain ⟨htarget, hpositional, rfl⟩ := Parsed.select_ok hselect
    rw [bind_eq_ok] at h
    obtain ⟨text, hrequired, h⟩ := h
    obtain ⟨hvalue, hne⟩ := OptionInput.required_ok hrequired
    cases h
    exact .selector htarget hpositional hvalue hne
  | value input =>
    rw [callback, bind_eq_ok] at h
    obtain ⟨text, hrequired, h⟩ := h
    obtain ⟨hvalue, hne⟩ := OptionInput.required_ok hrequired
    obtain ⟨hfree, rfl⟩ := Parsed.setAlias_ok h
    exact .value hvalue hne hfree
  | invalid name => cases h
  | target text =>
    rw [callback, Parsed.setPositional] at h
    split at h
    · next hfree =>
      cases h
      exact .positional hfree.1 hfree.2
    split at h
    · next hfree halias =>
      obtain ⟨hnone, rfl⟩ := Parsed.setAlias_ok h
      exact .extra hfree halias hnone
    split at h <;> cases h

/-- The flags of a list of tokens. -/
def flagsOf (tokens : List Token) : UInt32 :=
  (if Token.json ∈ tokens then commandFlagJson else 0) |||
    (if Token.raw ∈ tokens then commandFlagRaw else 0)

/-- The flags that the tokens so far have set, after one more. -/
theorem Writes.flags {parsed result : Parsed} {token : Token} {before : List Token}
    (h : Writes spec parsed token result) (hflags : parsed.request.flags = flagsOf before) :
    result.request.flags = flagsOf (before ++ [token]) := by
  cases h with
  | json =>
    show parsed.request.flags ||| commandFlagJson = _
    rw [hflags]
    by_cases hjson : Token.json ∈ before <;> by_cases hraw : Token.raw ∈ before <;>
      simp only [flagsOf, List.mem_append, List.mem_singleton, hjson, hraw, reduceCtorEq, or_true,
        or_false, if_true, if_false] <;> rfl
  | raw =>
    show parsed.request.flags ||| commandFlagRaw = _
    rw [hflags]
    by_cases hjson : Token.json ∈ before <;> by_cases hraw : Token.raw ∈ before <;>
      simp only [flagsOf, List.mem_append, List.mem_singleton, hjson, hraw, reduceCtorEq, or_true,
        or_false, if_true, if_false] <;> rfl
  | _ => simpa [flagsOf] using hflags

/-! ## What an accepted command line is -/

/-- A command line that is sent has a command, whose arguments parse. -/
theorem parseCommandLine_send (h : (parseCommandLine toLower cli argv).send = true) :
    ∃ program command rest spec, argv = program :: command :: rest ∧
      findCommand toLower command rest = some spec ∧
      parseWithCli toLower cli spec argv = .ok (parseCommandLine toLower cli argv).request := by
  revert h
  unfold parseCommandLine
  split
  · exact nofun
  · exact nofun
  · next program command rest =>
    split
    · exact nofun
    split
    · exact nofun
    split
    · exact nofun
    · next spec hfind =>
      split
      · exact nofun
      · next request hparse =>
        exact fun _ => ⟨program, command, rest, spec, rfl, hfind, hparse⟩

/-- A request that is parsed is finished from what the callbacks of all the tokens have written. -/
theorem parseWithCli_ok (hcli : cli.InOrder) {request : Request}
    (h : parseWithCli toLower cli spec argv = .ok request) :
    ∃ parsed chosen kept,
      (tokenize toLower spec false 0 (argv.drop spec.words)).foldlM
        (fun parsed token => callback spec token parsed)
        { request := { command := spec.kind } } = .ok parsed ∧
      withDefault spec parsed.withPositional = .ok chosen ∧ requirePayload spec chosen = .ok kept ∧
      withAlias spec parsed.deviceAlias kept = .ok request := by
  rw [parseWithCli, bind_eq_ok] at h
  obtain ⟨parsed, hparsed, h⟩ := h
  rw [hcli] at hparsed
  rw [bind_eq_ok] at h
  obtain ⟨chosen, hchosen, h⟩ := h
  rw [bind_eq_ok] at h
  obtain ⟨kept, hkept, h⟩ := h
  exact ⟨parsed, chosen, kept, hparsed, hchosen, hkept, h⟩

theorem withDefault_ok {request chosen : Request} (h : withDefault spec request = .ok chosen) :
    (chosen = request ∧ (spec.targets = true → request.target ≠ .none)) ∨
      (request.target = .none ∧ spec.kind = .toggleLast ∧
        chosen = { request with target := .default }) := by
  unfold withDefault at h
  split at h
  · next hnone =>
    rw [Bool.and_eq_true, beq_iff_eq] at hnone
    split at h
    · next htoggle =>
      cases h
      exact .inr ⟨hnone.2, htoggle, rfl⟩
    · cases h
  · next hsome =>
    rw [Bool.and_eq_true, beq_iff_eq, not_and] at hsome
    cases h
    exact .inl ⟨rfl, hsome⟩

theorem requirePayload_ok {request kept : Request} (h : requirePayload spec request = .ok kept) :
    kept = request ∧ (spec.targets = true → request.target ≠ .last → request.target ≠ .default →
      request.payload ≠ []) := by
  unfold requirePayload at h
  split at h
  · cases h
  · next hpayload =>
    simp only [Bool.and_eq_true, bne_iff_ne, List.isEmpty_iff, not_and] at hpayload
    cases h
    exact ⟨rfl, fun htargets hlast hdefault => hpayload ⟨⟨htargets, hlast⟩, hdefault⟩⟩

theorem withAlias_ok {deviceAlias : Option WString} {kept request : Request}
    (h : withAlias spec deviceAlias kept = .ok request) :
    (spec.aliasValue = false ∧ request = kept) ∨
      (spec.aliasValue = true ∧ ∃ text, text ≠ [] ∧ deviceAlias = some text ∧
        request = { kept with payload := kept.payload ++ 10 :: text }) := by
  unfold withAlias at h
  split at h
  · next halias =>
    split at h
    · cases h
    · next text =>
      split at h
      · cases h
      · next hempty =>
        cases h
        exact .inr ⟨halias, text, fun hnil => hempty (List.isEmpty_iff.2 hnil), rfl, rfl⟩
  · next halias =>
    cases h
    exact .inl ⟨Bool.eq_false_of_not_eq_true halias, rfl⟩

/-- The flags of a parsed request are those of its tokens. -/
theorem parseWithCli_flags (hcli : cli.InOrder) {request : Request}
    (h : parseWithCli toLower cli spec argv = .ok request) :
    request.flags = flagsOf (tokenize toLower spec false 0 (argv.drop spec.words)) := by
  obtain ⟨parsed, chosen, kept, hparsed, hchosen, hkept, hrequest⟩ := parseWithCli_ok hcli h
  have hflags : parsed.request.flags =
      flagsOf (tokenize toLower spec false 0 (argv.drop spec.words)) :=
    foldlM_establishes (motive := fun before parsed => parsed.request.flags = flagsOf before) rfl
      (fun _ _ _ _ _ hbefore hstep => (callback_writes hstep).flags hbefore) hparsed
  have hpositional : parsed.withPositional.flags = parsed.request.flags := by
    unfold Parsed.withPositional
    split <;> rfl
  have hkeep : kept.flags = parsed.request.flags := by
    rw [(requirePayload_ok hkept).1]
    obtain ⟨rfl, -⟩ | ⟨-, -, rfl⟩ := withDefault_ok hchosen
    · exact hpositional
    · exact hpositional
  obtain ⟨-, rfl⟩ | ⟨-, text, -, -, rfl⟩ := withAlias_ok hrequest
  · exact hkeep.trans hflags
  · exact hkeep.trans hflags

/-- The command that is found is one of the table, under its words. -/
theorem findCommand_some {command : WString} (h : findCommand toLower command rest = some spec) :
    spec ∈ commands ∧ Text.equalsIgnoreCase toLower command spec.name = true ∧
      (spec.subcommand = [] ∨ ∃ subcommand args, rest = subcommand :: args ∧
        Text.equalsIgnoreCase toLower subcommand spec.subcommand = true) := by
  unfold findCommand at h
  have hwords := List.find?_some h
  simp only [Bool.and_eq_true] at hwords
  obtain ⟨hname, hsubcommand⟩ := hwords
  refine ⟨List.mem_of_find?_eq_some h, hname, ?_⟩
  have hempty : Text.equalsIgnoreCase toLower [] spec.subcommand = true → spec.subcommand = [] := by
    intro hequal
    unfold Text.equalsIgnoreCase at hequal
    rw [Bool.and_eq_true, beq_iff_eq] at hequal
    exact List.length_eq_zero_iff.1 hequal.1.symm
  split at hsubcommand
  · cases rest with
    | nil => exact .inl (hempty hsubcommand)
    | cons subcommand args => exact .inr ⟨subcommand, args, rfl, hsubcommand⟩
  · exact .inl (hempty hsubcommand)

end PlaybackConnector.Control.Cli
