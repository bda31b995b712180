import PlaybackConnector.Control.CliParser

/-!
# What the command line sends

A request that the command line accepts against what the server accepts: the wire's validation
(`IsRequestValid`) refuses it only for its length and, as the payload of `alias set` packs two texts
around a line feed, for line breaks in these. What the command adapter takes out of the payload is
what was given.
-/

namespace PlaybackConnector.Control.Cli

open Settings (wide)

/-! ## The adapter -/

/-- Source: `RequestTargetText` (`ControlCommandAdapter.cpp:101`). -/
def requestTargetText (request : Request) : WString :=
  if request.command = .aliasSet then
    match request.payload.findIdx? (· == 10) with
    | some separator => request.payload.take separator
    | none => request.payload
  else request.payload

/-- Where there is no line feed, `find` is `npos`, and one more is 0. Source: `RequestAlias`
(`ControlCommandAdapter.cpp:108`). -/
def requestAlias (request : Request) : WString :=
  if request.command = .aliasSet then
    match request.payload.findIdx? (· == 10) with
    | some separator => request.payload.drop (separator + 1)
    | none => request.payload
  else []

/-! ## What is given -/

/-- The text that an option naming a device is given. -/
def Token.selected : Token → List WString
  | .selector _ input => input.value.toList
  | _ => []

/-- The text of a positional argument. -/
def Token.positional : Token → List WString
  | .target text => [text]
  | _ => []

/-- The text that `--value` is given. -/
def Token.aliasValue : Token → List WString
  | .value input => input.value.toList
  | _ => []

/-- The texts of a command's arguments: what an option names the device by, then what is positional
in its order, then the value of `--value`. -/
def texts (tokens : List Token) : List WString :=
  tokens.flatMap Token.selected ++ (tokens.flatMap Token.positional ++
    tokens.flatMap Token.aliasValue)

/-- The texts that are given on a command line. -/
def given (toLower : ToLower) (argv : List WString) : List WString :=
  match argv with
  | _ :: command :: rest =>
    match findCommand toLower command rest with
    | some spec => texts (tokenize toLower spec false 0 (argv.drop spec.words))
    | none => []
  | _ => []

variable {toLower : ToLower} {cli : CliParse} {spec : CommandSpec} {argv args : List WString}

/-! ## The callbacks keep what is given -/

/-- What the callbacks have written for the tokens so far. -/
structure Builds (spec : CommandSpec) (before : List Token) (parsed : Parsed) : Prop where
  /-- The command is the table's. -/
  command : parsed.request.command = spec.kind
  /-- A target that an option names has the option's text for its payload; no other has one. -/
  selected : before.flatMap Token.selected =
    if parsed.request.isExplicitTarget then [parsed.request.payload] else []
  /-- There is no payload without a target that an option names. -/
  payload : parsed.request.isExplicitTarget = false → parsed.request.payload = []
  /-- The first positional argument is the target unless an option is; the alias is the other
  text. -/
  others : before.flatMap Token.positional ++ before.flatMap Token.aliasValue =
    parsed.positional.toList ++ parsed.deviceAlias.toList
  /-- A positional argument is the target as long as there is none. -/
  first : parsed.request.target = .none → parsed.positional = none →
    before.flatMap Token.positional = []
  /-- A value is the alias. -/
  unset : parsed.deviceAlias = none → before.flatMap Token.aliasValue = []
  /-- There is one target. -/
  one : parsed.request.target = .none ∨ parsed.positional = none
  /-- Only `alias set` takes an alias. -/
  deviceAlias : parsed.deviceAlias ≠ none → spec.aliasValue = true
  /-- What kind of target there is. -/
  kind : parsed.request.target = .none ∨ parsed.request.isExplicitTarget = true ∨
    (spec.relative = true ∧ (parsed.request.target = .last ∨ parsed.request.target = .default))
  /-- Only a command with a target has one. -/
  targets : parsed.request.target ≠ .none ∨ parsed.positional ≠ none → spec.targets = true

theorem builds_start : Builds spec [] { request := { command := spec.kind } } where
  command := rfl
  selected := rfl
  payload _ := rfl
  others := rfl
  first _ _ := rfl
  unset _ := rfl
  one := .inl rfl
  deviceAlias h := absurd rfl h
  kind := .inl rfl
  targets h := h.elim (fun hne => absurd rfl hne) (fun hne => absurd rfl hne)

/-- The kind of an option that names a device is an explicit one. -/
theorem explicit_of_selector {kind : TargetKind} (h : ∃ selector ∈ selectors, selector.kind = kind)
    (request : Request) (hkind : request.target = kind) : request.isExplicitTarget = true := by
  obtain ⟨selector, hmem, rfl⟩ := h
  simp only [selectors, List.mem_cons, List.not_mem_nil, or_false] at hmem
  unfold Request.isExplicitTarget
  rw [hkind]
  obtain rfl | rfl | rfl | rfl := hmem <;> rfl

/-- Without a target there is none that an option names. -/
theorem not_explicit_of_none {request : Request} (h : request.target = .none) :
    request.isExplicitTarget = false := by
  unfold Request.isExplicitTarget
  rw [h]
  rfl

/-- A flag gives no text. -/
theorem Builds.flag {before : List Token} {parsed : Parsed} {token : Token}
    (hbuilds : Builds spec before parsed) (hselected : token.selected = [])
    (hpositional : token.positional = []) (hvalue : token.aliasValue = []) (flags : UInt32) :
    Builds spec (before ++ [token]) { parsed with request.flags := flags } := by
  have hselected' : (before ++ [token]).flatMap Token.selected = before.flatMap Token.selected := by
    simp [hselected]
  have hpositional' :
      (before ++ [token]).flatMap Token.positional = before.flatMap Token.positional := by
    simp [hpositional]
  have hvalue' :
      (before ++ [token]).flatMap Token.aliasValue = before.flatMap Token.aliasValue := by
    simp [hvalue]
  exact
    { hbuilds with
      selected := hselected'.trans hbuilds.selected
      others := by rw [hpositional', hvalue']; exact hbuilds.others
      first := fun htarget hnone => hpositional'.trans (hbuilds.first htarget hnone)
      unset := fun hnone => hvalue'.trans (hbuilds.unset hnone) }

/-- An option names the target: there was none, and the token gives the text that it has. -/
theorem Builds.select {before : List Token} {parsed : Parsed} {token : Token} {kind : TargetKind}
    {payload : WString} (hbuilds : Builds spec before parsed)
    (htarget : parsed.request.target = .none) (hpositional : parsed.positional = none)
    (htargets : spec.targets = true) (htoken : token.positional = [] ∧ token.aliasValue = [])
    {request : Request} (hrequest : request =
      { parsed.request with
        target := kind
        payload := payload })
    (hselected : token.selected = if request.isExplicitTarget then [payload] else [])
    (hempty : request.isExplicitTarget = false → payload = [] ∧ spec.relative = true ∧
      (kind = .last ∨ kind = .default)) :
    Builds spec (before ++ [token]) { parsed with request := request } := by
  have hnone : before.flatMap Token.selected = [] := by
    rw [hbuilds.selected, not_explicit_of_none htarget]
    rfl
  subst hrequest
  refine
    { command := hbuilds.command
      selected := ?_
      payload := fun hkind => (hempty hkind).1
      others := ?_
      first := fun _ hnone => ?_
      unset := fun hnone => ?_
      one := .inr hpositional
      deviceAlias := hbuilds.deviceAlias
      kind := ?_
      targets := fun _ => htargets }
  · simp only [List.flatMap_append, hnone, List.nil_append, List.flatMap_cons, List.flatMap_nil,
      List.append_nil]
    exact hselected
  · simp only [List.flatMap_append, List.flatMap_cons, List.flatMap_nil, htoken.1, htoken.2,
      List.append_nil]
    exact hbuilds.others
  · simp only [List.flatMap_append, List.flatMap_cons, List.flatMap_nil, htoken.1, List.append_nil]
    exact hbuilds.first htarget hpositional
  · simp only [List.flatMap_append, List.flatMap_cons, List.flatMap_nil, htoken.2, List.append_nil]
    exact hbuilds.unset hnone
  · cases hkind : Request.isExplicitTarget { parsed.request with
      target := kind
      payload := payload } with
    | true => exact .inr (.inl rfl)
    | false => exact .inr (.inr (hempty hkind).2)

/-- One more token keeps it. -/
theorem Builds.step {before : List Token} {parsed result : Parsed} {token : Token}
    (hbuilds : Builds spec before parsed) (hfits : token.Fits spec args)
    (h : Writes spec parsed token result) : Builds spec (before ++ [token]) result := by
  cases h with
  | json => exact hbuilds.flag rfl rfl rfl _
  | raw => exact hbuilds.flag rfl rfl rfl _
  | last hrelative htarget hpositional =>
    exact hbuilds.select htarget hpositional hfits ⟨rfl, rfl⟩ rfl rfl
      fun _ => ⟨hbuilds.payload (not_explicit_of_none htarget), hrelative, .inl rfl⟩
  | default hrelative htarget hpositional =>
    exact hbuilds.select htarget hpositional hfits ⟨rfl, rfl⟩ rfl rfl
      fun _ => ⟨hbuilds.payload (not_explicit_of_none htarget), hrelative, .inr rfl⟩
  | @selector kind input text htarget hpositional hvalue hne =>
    have hexplicit := explicit_of_selector hfits.2.1
      { parsed.request with
        target := kind
        payload := text } rfl
    refine hbuilds.select htarget hpositional hfits.1 ⟨rfl, rfl⟩ rfl ?_
      fun hfalse => absurd (hexplicit.symm.trans hfalse) nofun
    rw [hexplicit, Token.selected, hvalue]
    rfl
  | @value input text hvalue hne hfree =>
    have hunset := hbuilds.unset hfree
    have hothers := hbuilds.others
    rw [hunset, hfree] at hothers
    exact
      { hbuilds with
        selected := by
          simpa [Token.selected] using hbuilds.selected
        others := by
          simpa [Token.positional, Token.aliasValue, hvalue, hunset] using hothers
        first := fun htarget hnone => by
          simpa [Token.positional] using hbuilds.first htarget hnone
        unset := nofun
        deviceAlias := fun _ => hfits.1 }
  | @positional text htarget hpositional =>
    have hfirst := hbuilds.first htarget hpositional
    have hothers := hbuilds.others
    rw [hfirst, hpositional] at hothers
    exact
      { hbuilds with
        selected := by
          simpa [Token.selected] using hbuilds.selected
        others := by
          simpa [Token.positional, Token.aliasValue, hfirst] using hothers
        first := nofun
        unset := fun hnone => by
          simpa [Token.aliasValue] using hbuilds.unset hnone
        one := .inl htarget
        targets := fun _ => hfits.1 }
  | @extra text htaken halias hfree =>
    have hunset := hbuilds.unset hfree
    have hothers := hbuilds.others
    rw [hunset, hfree] at hothers
    exact
      { hbuilds with
        selected := by
          simpa [Token.selected] using hbuilds.selected
        others := by
          simpa [Token.positional, Token.aliasValue, hunset] using hothers
        first := fun htarget hnone => absurd ⟨htarget, hnone⟩ htaken
        unset := nofun
        deviceAlias := fun _ => halias }

/-! ## The request that is parsed -/

/-- What a request says of the texts that are given for it. -/
inductive Says (spec : CommandSpec) (request : Request) : List WString → Prop where
  /-- The command has no target. -/
  | plain : spec.targets = false → request.target = .none → request.payload = [] →
    Says spec request []
  /-- The target is the last device or the default one. -/
  | relative : spec.relative = true → request.target = .last ∨ request.target = .default →
    request.payload = [] → Says spec request []
  /-- The payload is the target. -/
  | device {target : WString} : spec.targets = true → spec.aliasValue = false →
    request.isExplicitTarget = true → target ≠ [] → request.payload = target →
    Says spec request [target]
  /-- The payload is the target and the alias around a line feed. -/
  | deviceAlias {target value : WString} : spec.aliasValue = true →
    request.isExplicitTarget = true → target ≠ [] → value ≠ [] →
    request.payload = target ++ 10 :: value → Says spec request [target, value]

theorem aliasValue_of_relative (h : spec.relative = true) : spec.aliasValue = false := by
  unfold CommandSpec.relative at h
  unfold CommandSpec.aliasValue
  generalize spec.kind = kind at h ⊢
  revert h
  cases kind <;> decide

theorem targets_of_aliasValue (h : spec.aliasValue = true) : spec.targets = true := by
  unfold CommandSpec.targets
  rw [h, Bool.or_true, Bool.true_or, Bool.true_or]

/-- A request whose target is given explicitly, once its alias is added. -/
theorem says_explicit {kept request : Request} {deviceAlias : Option WString}
    (htargets : spec.targets = true) (hexplicit : kept.isExplicitTarget = true)
    (hpayload : kept.payload ≠ []) (hallowed : deviceAlias ≠ none → spec.aliasValue = true)
    (h : withAlias spec deviceAlias kept = .ok request) :
    request.command = kept.command ∧ Says spec request (kept.payload :: deviceAlias.toList) := by
  obtain ⟨hnone, rfl⟩ | ⟨halias, text, htext, rfl, rfl⟩ := withAlias_ok h
  · have hunset : deviceAlias = none := by
      by_contra hset
      exact Bool.false_ne_true (hnone.symm.trans (hallowed hset))
    rw [hunset]
    exact ⟨rfl, .device htargets hnone hexplicit hpayload rfl⟩
  · exact ⟨rfl, .deviceAlias halias hexplicit hpayload htext rfl⟩

/-- A request whose target is not given explicitly has no alias. -/
theorem says_implicit {kept request : Request} {deviceAlias : Option WString}
    (hnone : spec.aliasValue = false) (hallowed : deviceAlias ≠ none → spec.aliasValue = true)
    (hmeans : Says spec kept []) (h : withAlias spec deviceAlias kept = .ok request) :
    request.command = kept.command ∧ Says spec request deviceAlias.toList := by
  have hunset : deviceAlias = none := by
    by_contra hset
    exact Bool.false_ne_true (hnone.symm.trans (hallowed hset))
  obtain ⟨-, rfl⟩ | ⟨halias, -⟩ := withAlias_ok h
  · rw [hunset]
    exact ⟨rfl, hmeans⟩
  · exact absurd (hnone.symm.trans halias) Bool.false_ne_true

/-- An explicit target is neither the last device nor the default one. -/
theorem ne_of_explicit {request : Request} (h : request.isExplicitTarget = true) :
    request.target ≠ .none ∧ request.target ≠ .last ∧ request.target ≠ .default := by
  unfold Request.isExplicitTarget at h
  generalize request.target = target at h ⊢
  revert h
  cases target <;> decide

section

variable {tokens : List Token} {parsed : Parsed} {chosen kept request : Request}

/-- The end of the parse with a positional target. -/
theorem Builds.finish_positional {positional : WString} (hbuilds : Builds spec tokens parsed)
    (hpositional : parsed.positional = some positional)
    (hchosen : withDefault spec parsed.withPositional = .ok chosen)
    (hkept : requirePayload spec chosen = .ok kept)
    (h : withAlias spec parsed.deviceAlias kept = .ok request) :
    request.command = spec.kind ∧ Says spec request (texts tokens) := by
  have htargets := hbuilds.targets (.inr (by rw [hpositional]; exact nofun))
  have hnone := hbuilds.one.resolve_right (by rw [hpositional]; exact nofun)
  have hwith : parsed.withPositional =
      { parsed.request with
        target := .auto
        payload := positional } := by
    rw [Parsed.withPositional, hpositional]
  rw [hwith] at hchosen
  rw [texts, hbuilds.others, hbuilds.selected, not_explicit_of_none hnone, hpositional]
  obtain ⟨rfl, hpayload⟩ := requirePayload_ok hkept
  obtain ⟨rfl, -⟩ | ⟨hauto, -⟩ := withDefault_ok hchosen
  · obtain ⟨hcommand, hmeans⟩ :=
      says_explicit htargets rfl (hpayload htargets nofun nofun) hbuilds.deviceAlias h
    exact ⟨hcommand.trans hbuilds.command, hmeans⟩
  · cases hauto

/-- The end of the parse where an option names the device. -/
theorem Builds.finish_option (hbuilds : Builds spec tokens parsed)
    (hpositional : parsed.positional = none)
    (hexplicit : parsed.request.isExplicitTarget = true)
    (hchosen : withDefault spec parsed.request = .ok chosen)
    (hkept : requirePayload spec chosen = .ok kept)
    (h : withAlias spec parsed.deviceAlias kept = .ok request) :
    request.command = spec.kind ∧ Says spec request (texts tokens) := by
  obtain ⟨hsome, hlast, hdefault⟩ := ne_of_explicit hexplicit
  have htargets := hbuilds.targets (.inl hsome)
  rw [texts, hbuilds.others, hbuilds.selected, hexplicit, hpositional]
  obtain ⟨rfl, hpayload⟩ := requirePayload_ok hkept
  obtain ⟨rfl, -⟩ | ⟨hnone, -⟩ := withDefault_ok hchosen
  · obtain ⟨hcommand, hmeans⟩ :=
      says_explicit htargets hexplicit (hpayload htargets hlast hdefault) hbuilds.deviceAlias h
    exact ⟨hcommand.trans hbuilds.command, hmeans⟩
  · exact absurd hnone hsome

/-- The end of the parse where nothing names a device. -/
theorem Builds.finish_implicit (hbuilds : Builds spec tokens parsed)
    (hpositional : parsed.positional = none)
    (hexplicit : parsed.request.isExplicitTarget = false)
    (hchosen : withDefault spec parsed.request = .ok chosen)
    (hkept : requirePayload spec chosen = .ok kept)
    (h : withAlias spec parsed.deviceAlias kept = .ok request) :
    request.command = spec.kind ∧ Says spec request (texts tokens) := by
  have hempty := hbuilds.payload hexplicit
  -- The command has no alias, and what is chosen has no target or a relative one.
  have hchosen : spec.aliasValue = false ∧ chosen.command = parsed.request.command ∧
      Says spec chosen [] := by
    obtain ⟨rfl, hsome⟩ | ⟨-, htoggle, rfl⟩ := withDefault_ok hchosen
    · obtain hnone | htrue | ⟨hrelative, hkind⟩ := hbuilds.kind
      · have htargets : spec.targets = false := Bool.eq_false_iff.2 fun h => hsome h hnone
        have halias : spec.aliasValue = false := Bool.eq_false_iff.2 fun h =>
          Bool.false_ne_true (htargets.symm.trans (targets_of_aliasValue h))
        exact ⟨halias, rfl, .plain htargets hnone hempty⟩
      · exact absurd (hexplicit.symm.trans htrue) Bool.false_ne_true
      · exact ⟨aliasValue_of_relative hrelative, rfl, .relative hrelative hkind hempty⟩
    · have hrelative : spec.relative = true := by
        rw [CommandSpec.relative, htoggle]
        rfl
      exact ⟨aliasValue_of_relative hrelative, rfl, .relative hrelative (.inr rfl) hempty⟩
  obtain ⟨halias, hcommand, hmeans⟩ := hchosen
  rw [texts, hbuilds.others, hbuilds.selected, hexplicit, hpositional]
  obtain ⟨rfl, -⟩ := requirePayload_ok hkept
  obtain ⟨hcommand', hmeans⟩ := says_implicit halias hbuilds.deviceAlias hmeans h
  exact ⟨hcommand'.trans (hcommand.trans hbuilds.command), hmeans⟩

end

/-- A request that is parsed says what is given. -/
theorem parseWithCli_means (hcli : cli.InOrder) {request : Request}
    (h : parseWithCli toLower cli spec argv = .ok request) :
    request.command = spec.kind ∧
      Says spec request (texts (tokenize toLower spec false 0 (argv.drop spec.words))) := by
  obtain ⟨parsed, chosen, kept, hparsed, hchosen, hkept, hrequest⟩ := parseWithCli_ok hcli h
  have hbuilds : Builds spec (tokenize toLower spec false 0 (argv.drop spec.words)) parsed :=
    foldlM_establishes builds_start (fun _ token _ _ hmem hbefore hstep =>
      hbefore.step (tokenize_fits false 0 token hmem) (callback_writes hstep)) hparsed
  cases hpositional : parsed.positional with
  | some positional => exact hbuilds.finish_positional hpositional hchosen hkept hrequest
  | none =>
    rw [Parsed.withPositional, hpositional] at hchosen
    cases hexplicit : parsed.request.isExplicitTarget with
    | true => exact hbuilds.finish_option hpositional hexplicit hchosen hkept hrequest
    | false => exact hbuilds.finish_implicit hpositional hexplicit hchosen hkept hrequest

/-- The texts that are given are arguments. -/
theorem texts_subset {tokens : List Token} (h : ∀ token ∈ tokens, token.Fits spec args) :
    ∀ text ∈ texts tokens, text ∈ args := by
  intro text htext
  rw [texts, List.mem_append, List.mem_append, List.mem_flatMap, List.mem_flatMap,
    List.mem_flatMap] at htext
  obtain ⟨token, hmem, htext⟩ | ⟨token, hmem, htext⟩ | ⟨token, hmem, htext⟩ := htext
  · cases token with
    | selector kind input => exact (h _ hmem).2.2 text (Option.mem_toList.1 htext)
    | _ => cases htext
  · cases token with
    | target value =>
      rw [List.mem_singleton.1 htext]
      exact (h _ hmem).2
    | _ => cases htext
  · cases token with
    | value input => exact (h _ hmem).2 text (Option.mem_toList.1 htext)
    | _ => cases htext

/-! ## What the server accepts -/

/-- A request of the command line is valid on the wire if it is short enough and what its command
asks for. -/
theorem isRequestValid_iff {request : Request} {tokens : List Token}
    (hid : request.correlationId.empty = false) (hcommand : request.command ≠ .unknown)
    (hflags : request.flags = flagsOf tokens) (hnul : 0 ∉ request.payload) :
    isRequestValid request = true ↔
      request.payload.length ≤ maxPayloadBytes / sizeofChar ∧ request.suitsCommand = true := by
  have hknown : isKnownCommand request.command.toUInt32 = true := by
    generalize request.command = command at hcommand
    cases command with
    | unknown => exact absurd rfl hcommand
    | _ => rfl
  have htarget : isKnownTarget request.target.toUInt32 = true := by
    generalize request.target = target
    cases target <;> rfl
  have hbits : areFlagsKnown request.flags = true := by
    rw [hflags, flagsOf]
    split <;> split <;> rfl
  have hplain : request.payload.contains 0 = false := by
    rw [Bool.eq_false_iff, ne_eq, List.contains_iff_mem]
    exact hnul
  simp only [isRequestValid, hid, hknown, htarget, hbits, hplain, Bool.not_false, Bool.true_and,
    Bool.and_true, Bool.and_eq_true, decide_eq_true_eq]

/-- The commands are known to the protocol. -/
theorem kind_ne_unknown (h : spec ∈ commands) : spec.kind ≠ .unknown := by
  have hall : ∀ spec ∈ commands, spec.kind ≠ .unknown := by decide
  exact hall spec h

section

variable {request : Request}

/-- A command without a target is sent as it should be. -/
theorem suits_plain (hspec : spec ∈ commands) (hcommand : request.command = spec.kind)
    (htargets : spec.targets = false) (htarget : request.target = .none)
    (hpayload : request.payload = []) : request.suitsCommand = true := by
  have hknown := kind_ne_unknown hspec
  unfold CommandSpec.targets CommandSpec.relative CommandSpec.aliasValue at htargets
  unfold Request.suitsCommand
  rw [hcommand, htarget, hpayload]
  generalize spec.kind = kind at hknown htargets
  cases kind <;> first | rfl | exact absurd rfl hknown | cases htargets

/-- So is one of the last device or the default one. -/
theorem suits_relative (hcommand : request.command = spec.kind)
    (hrelative : spec.relative = true)
    (htarget : request.target = .last ∨ request.target = .default)
    (hpayload : request.payload = []) : request.suitsCommand = true := by
  have heither : ((request.target == .last || request.target == .default) &&
      request.payload.isEmpty) = true := by
    rw [hpayload]
    obtain htarget | htarget := htarget <;> rw [htarget] <;> rfl
  unfold CommandSpec.relative at hrelative
  unfold Request.suitsCommand
  rw [hcommand, heither, Bool.or_true]
  generalize spec.kind = kind at hrelative
  cases kind <;> first | rfl | cases hrelative

/-- So is one of a device. -/
theorem suits_device (hcommand : request.command = spec.kind) (htargets : spec.targets = true)
    (halias : spec.aliasValue = false) (hexplicit : request.isExplicitTarget = true)
    (hpayload : request.payload ≠ []) : request.suitsCommand = true := by
  have hhas : request.hasExplicitTarget = true := by
    rw [Request.hasExplicitTarget, hexplicit, Bool.true_and, Bool.not_eq_true',
      Bool.eq_false_iff, ne_eq, List.isEmpty_iff]
    exact hpayload
  unfold CommandSpec.targets CommandSpec.relative CommandSpec.aliasValue at htargets
  unfold CommandSpec.aliasValue at halias
  unfold Request.suitsCommand
  rw [hcommand, hhas, Bool.true_or]
  generalize spec.kind = kind at htargets halias
  cases kind <;> first | rfl | exact absurd halias (by decide) | cases htargets

/-- A target without a line feed ends at the first one. -/
theorem findIdx_of_not_mem {target value : WString} (h : 10 ∉ target) :
    (target ++ 10 :: value).findIdx? (· == 10) = some target.length := by
  have hnone : target.findIdx? (· == 10) = none :=
    List.findIdx?_eq_none_iff.2 fun c hc => beq_eq_false_iff_ne.2 (ne_of_mem_of_not_mem hc h)
  have hfirst : (10 :: value : WString).findIdx? (· == 10) = some 0 := List.findIdx?_cons
  rw [List.findIdx?_append, hnone, hfirst]
  exact congrArg some (Nat.zero_add target.length)

/-- A line feed in the target leaves another one in what follows the first. -/
theorem mem_drop_of_mem {target : WString} (value : WString) (h : 10 ∈ target) :
    ∃ separator, (target ++ 10 :: value).findIdx? (· == 10) = some separator ∧
      10 ∈ (target ++ 10 :: value).drop (separator + 1) := by
  have hany : target.any (· == 10) = true := List.any_eq_true.2 ⟨10, h, beq_self_eq_true _⟩
  obtain ⟨separator, hfind⟩ := Option.isSome_iff_exists.1 (List.findIdx?_isSome.trans hany)
  have hlt : separator < target.length := (List.findIdx?_eq_some_iff_findIdx_eq.1 hfind).1
  refine ⟨separator, ?_, ?_⟩
  · rw [List.findIdx?_append, hfind]
    rfl
  · rw [List.drop_append_of_le_length hlt]
    exact List.mem_append_right _ List.mem_cons_self

/-- An alias is sent as it should be if neither text has a line break that the server would read
as one. -/
theorem suits_alias {target value : WString} (hcommand : request.command = .aliasSet)
    (hexplicit : request.isExplicitTarget = true) (htarget : target ≠ []) (hvalue : value ≠ [])
    (hpayload : request.payload = target ++ 10 :: value) :
    request.suitsCommand = true ↔ 10 ∉ target ∧ 13 ∉ value ∧ 10 ∉ value := by
  unfold Request.suitsCommand
  rw [hcommand, hpayload]
  simp only [hexplicit, Bool.true_and]
  by_cases hmem : 10 ∈ target
  · obtain ⟨separator, hfind, hdrop⟩ := mem_drop_of_mem value hmem
    rw [hfind]
    simp only [Bool.and_eq_true, List.all_eq_true]
    exact ⟨fun h => absurd (h.2 10 hdrop) (by decide), fun h => absurd hmem h.1⟩
  · have hdrop : (target ++ 10 :: value).drop (target.length + 1) = value := by
      rw [List.drop_append, List.drop_eq_nil_of_le (Nat.le_succ _)]
      simp
    have hpositive : 0 < target.length := List.length_pos_iff.2 htarget
    have hlength : target.length + 1 < (target ++ 10 :: value).length := by
      have hvalue : 0 < value.length := List.length_pos_iff.2 hvalue
      rw [List.length_append, List.length_cons]
      omega
    rw [findIdx_of_not_mem hmem]
    simp only [hdrop, hpositive, hlength, decide_true, Bool.true_and, List.all_eq_true,
      Bool.and_eq_true, bne_iff_ne]
    constructor
    · exact fun h => ⟨hmem, fun h13 => (h 13 h13).1 rfl, fun h10 => (h 10 h10).2 rfl⟩
    · exact fun h c hc => ⟨ne_of_mem_of_not_mem hc h.2.1, ne_of_mem_of_not_mem hc h.2.2⟩

end

/-! ## The command line and the server -/

/-- What the server makes of a request whose command was given these texts. -/
structure Agrees (request : Request) (texts : List WString) : Prop where
  /-- The payload is all that can make a request too long, and nothing else is wrong with it. -/
  accepted : request.command ≠ .aliasSet →
    (isRequestValid request = true ↔ request.payload.length ≤ maxPayloadBytes / sizeofChar)
  /-- The adapter's target is the one text that is given, if there is one. -/
  recovered : request.command ≠ .aliasSet →
    texts = (if request.isExplicitTarget then [requestTargetText request] else []) ∧
      (request.isExplicitTarget = false → requestTargetText request = []) ∧
      requestAlias request = []
  /-- For `alias set` a target and an alias are given, whose line breaks are wrong as well; if there
  are none, the adapter has both. -/
  aliasSet : request.command = .aliasSet → ∃ target value, texts = [target, value] ∧
    (isRequestValid request = true ↔ request.payload.length ≤ maxPayloadBytes / sizeofChar ∧
      10 ∉ target ∧ 13 ∉ value ∧ 10 ∉ value) ∧
    (isRequestValid request = true →
      requestTargetText request = target ∧ requestAlias request = value)

/-- A request says the same under any correlation id. -/
theorem Says.withId {request : Request} {texts : List WString} (h : Says spec request texts)
    (id : CorrelationId) : Says spec { request with correlationId := id } texts := by
  cases h with
  | plain htargets htarget hpayload => exact .plain htargets htarget hpayload
  | relative hrelative htarget hpayload => exact .relative hrelative htarget hpayload
  | device htargets halias hexplicit hne hpayload =>
    exact .device htargets halias hexplicit hne hpayload
  | deviceAlias halias hexplicit htarget hvalue hpayload =>
    exact .deviceAlias halias hexplicit htarget hvalue hpayload

/-- The payload consists of the texts and a line feed between them. -/
theorem Says.payload_mem {request : Request} {texts : List WString} (h : Says spec request texts)
    {character : UInt16} (hmem : character ∈ request.payload) :
    character = 10 ∨ ∃ text ∈ texts, character ∈ text := by
  cases h with
  | plain _ _ hpayload | relative _ _ hpayload =>
    rw [hpayload] at hmem
    cases hmem
  | device _ _ _ _ hpayload =>
    rw [hpayload] at hmem
    exact .inr ⟨_, List.mem_cons_self, hmem⟩
  | deviceAlias _ _ _ _ hpayload =>
    rw [hpayload, List.mem_append, List.mem_cons] at hmem
    obtain hmem | hmem | hmem := hmem
    · exact .inr ⟨_, List.mem_cons_self, hmem⟩
    · exact .inl hmem
    · exact .inr ⟨_, List.mem_cons_of_mem _ List.mem_cons_self, hmem⟩

/-- What a request says decides what the server makes of it. -/
theorem Says.agrees {request : Request} {texts : List WString} {tokens : List Token}
    (h : Says spec request texts) (hspec : spec ∈ commands)
    (hcommand : request.command = spec.kind) (hid : request.correlationId.empty = false)
    (hflags : request.flags = flagsOf tokens) (hnul : 0 ∉ request.payload) :
    Agrees request texts := by
  have hknown : request.command ≠ .unknown := hcommand ▸ kind_ne_unknown hspec
  have hvalid := isRequestValid_iff hid hknown hflags hnul
  -- Where there is no alias, the payload is the target.
  have hother (hkind : spec.aliasValue = false) : request.command ≠ .aliasSet := by
    rw [hcommand]
    intro halias
    rw [CommandSpec.aliasValue, halias] at hkind
    cases hkind
  have htarget (hne : request.command ≠ .aliasSet) : requestTargetText request = request.payload :=
    if_neg hne
  have halias (hne : request.command ≠ .aliasSet) : requestAlias request = [] := if_neg hne
  have haccepted (hsuits : request.suitsCommand = true) :
      isRequestValid request = true ↔ request.payload.length ≤ maxPayloadBytes / sizeofChar :=
    hvalid.trans ⟨And.left, fun hlength => ⟨hlength, hsuits⟩⟩
  cases h with
  | plain htargets hnone hpayload =>
    have hsuits := suits_plain hspec hcommand htargets hnone hpayload
    have hne : request.command ≠ .aliasSet := hother (Bool.eq_false_iff.2 fun h =>
      Bool.false_ne_true (htargets.symm.trans (targets_of_aliasValue h)))
    refine ⟨fun _ => haccepted hsuits, fun _ => ⟨?_, fun _ => ?_, halias hne⟩,
      fun heq => absurd heq hne⟩
    · rw [not_explicit_of_none hnone]
      rfl
    · rw [htarget hne, hpayload]
  | relative hrelative hkind hpayload =>
    have hsuits := suits_relative hcommand hrelative hkind hpayload
    have hne : request.command ≠ .aliasSet := hother (aliasValue_of_relative hrelative)
    have hnot : request.isExplicitTarget = false := Bool.eq_false_iff.2 fun h =>
      hkind.elim (ne_of_explicit h).2.1 (ne_of_explicit h).2.2
    refine ⟨fun _ => haccepted hsuits, fun _ => ⟨?_, fun _ => ?_, halias hne⟩,
      fun heq => absurd heq hne⟩
    · rw [hnot]
      rfl
    · rw [htarget hne, hpayload]
  | device htargets hnone hexplicit hnonempty hpayload =>
    have hsuits := suits_device hcommand htargets hnone hexplicit (hpayload ▸ hnonempty)
    have hne : request.command ≠ .aliasSet := hother hnone
    refine ⟨fun _ => haccepted hsuits, fun _ => ⟨?_, fun hfalse => ?_, halias hne⟩,
      fun heq => absurd heq hne⟩
    · rw [hexplicit, htarget hne, hpayload]
      rfl
    · exact absurd (hfalse.symm.trans hexplicit) Bool.false_ne_true
  | @deviceAlias target value hkind hexplicit htext hvalue hpayload =>
    have heq : request.command = .aliasSet := hcommand.trans (beq_iff_eq.1 hkind)
    have hsuits := suits_alias heq hexplicit htext hvalue hpayload
    refine ⟨fun hne => absurd heq hne, fun hne => absurd heq hne,
      fun _ => ⟨target, value, rfl, hvalid.trans (and_congr_right fun _ => hsuits), ?_⟩⟩
    intro haccepted
    have hplain : 10 ∉ target := (hsuits.1 (hvalid.1 haccepted).2).1
    rw [requestTargetText, requestAlias, if_pos heq, if_pos heq, hpayload,
      findIdx_of_not_mem hplain]
    constructor
    · exact List.take_left
    · show (target ++ 10 :: value).drop (target.length + 1) = value
      rw [List.drop_append, List.drop_eq_nil_of_le (Nat.le_succ _)]
      simp

/-- Every request that the command line sends is what the server accepts, but for its length and,
for `alias set`, its line breaks; and the server's adapter takes from it what was given. -/
theorem parseCommandLine_agrees (hcli : cli.InOrder) (hnul : ∀ argument ∈ argv, 0 ∉ argument)
    (h : (parseCommandLine toLower cli argv).send = true) {id : CorrelationId}
    (hid : id.empty = false) :
    Agrees { (parseCommandLine toLower cli argv).request with correlationId := id }
      (given toLower argv) := by
  obtain ⟨program, command, rest, spec, rfl, hfind, hparse⟩ := parseCommandLine_send h
  obtain ⟨hcommand, hmeans⟩ := parseWithCli_means hcli hparse
  have hgiven : given toLower (program :: command :: rest) =
      texts (tokenize toLower spec false 0 ((program :: command :: rest).drop spec.words)) := by
    rw [given, hfind]
  have hflags := parseWithCli_flags hcli hparse
  rw [hgiven]
  refine (hmeans.withId id).agrees (findCommand_some hfind).1 hcommand hid hflags fun hmem => ?_
  obtain hten | ⟨text, htext, hmem⟩ := hmeans.payload_mem hmem
  · exact absurd hten (by decide)
  · exact hnul text (List.mem_of_mem_drop (texts_subset (tokenize_fits false 0) text htext)) hmem

/-- A target that is positional and an alias that begins with `-`. -/
theorem parseCommandLine_agrees_alias :
    Agrees { (parseCommandLine asciiToLower inOrder
        (["apc2ctl", "alias", "set", "tv", "--value", "--", "-x"].map wide)).request with
          correlationId := ⟨0, 1⟩ }
      (given asciiToLower (["apc2ctl", "alias", "set", "tv", "--value", "--", "-x"].map wide)) :=
  parseCommandLine_agrees inOrder_inOrder (by decide) (by decide) rfl

end PlaybackConnector.Control.Cli
