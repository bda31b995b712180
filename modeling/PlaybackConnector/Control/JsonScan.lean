import PlaybackConnector.Control.CliParser

/-!
# The early scan for `--json`

`JsonRequested` looks for `--json` without parsing. On every command line that is accepted it finds
what the parser finds: both take the same arguments as values of options, and everything else that
the scan steps over is no option.
-/

namespace PlaybackConnector.Control.Cli

open Settings (wide)

variable {toLower : ToLower} {cli : CliParse} {spec : CommandSpec} {argument : WString}
  {rest args argv : List WString}

/-! ## Words -/

/-- The options that `JsonRequested` takes with a value. -/
def valueOptions : List String := ["--id", "--name", "--mac", "--alias", "--value"]

/-- Whether an ASCII word is none of these, in any case. -/
def isApart (word : WString) (others : List String) : Bool :=
  word.all (· < 128) && others.all fun other => (wide other).all (· < 128) &&
    Text.lowerInvariant asciiToLower (wide other) != Text.lowerInvariant asciiToLower word

/-- An argument that is one word is no other. -/
theorem not_isWord (hlaw : toLower.Documented) {word : WString} (others : List String)
    (hapart : isApart word others = true)
    (hword : Text.equalsIgnoreCase toLower argument word = true) :
    ∀ other ∈ others, isWord toLower argument other = false := by
  intro other hmem
  rw [isApart, Bool.and_eq_true, List.all_eq_true, List.all_eq_true] at hapart
  obtain ⟨hascii, hothers⟩ := hapart
  have hother := hothers other hmem
  rw [Bool.and_eq_true, List.all_eq_true, bne_iff_ne] at hother
  obtain ⟨hotherAscii, hne⟩ := hother
  refine Bool.eq_false_iff.2 fun h => hne ?_
  have hlower := (Text.equalsIgnoreCase_iff.1 h).symm.trans (Text.equalsIgnoreCase_iff.1 hword)
  rwa [Text.lowerInvariant_ascii hlaw fun c hc => of_decide_eq_true (hotherAscii c hc),
    Text.lowerInvariant_ascii hlaw fun c hc => of_decide_eq_true (hascii c hc)] at hlower

/-- What the scan looks for. -/
def scanned : List String := valueOptions ++ ["--", "--json"]

/-- The scan steps over an argument that is none of the words it looks for. -/
theorem scanJson_step (h : ∀ other ∈ scanned, isWord toLower argument other = false) :
    scanJson toLower 0 (argument :: rest) = scanJson toLower 0 rest := by
  have hoption : isValueOption toLower argument = false := by
    rw [isValueOption, List.any_eq_false]
    intro other hmem
    rw [h other (List.mem_append_left _ hmem)]
    exact Bool.false_ne_true
  have hend : argument ≠ wide "--" := by
    rintro rfl
    have hfalse := h "--" (by decide)
    rw [isWord, Text.equalsIgnoreCase_refl] at hfalse
    cases hfalse
  rw [scanJson, hoption, if_neg Bool.false_ne_true, if_neg hend, h "--json" (by decide),
    if_neg Bool.false_ne_true]

/-- The scan stops at `--json`. -/
theorem scanJson_json (hlaw : toLower.Documented)
    (hword : isWord toLower argument "--json" = true) :
    scanJson toLower 0 (argument :: rest) = true := by
  have hothers := not_isWord hlaw (valueOptions ++ ["--"]) (by decide) hword
  have hoption : isValueOption toLower argument = false := by
    rw [isValueOption, List.any_eq_false]
    intro other hmem
    rw [hothers other (List.mem_append_left _ hmem)]
    exact Bool.false_ne_true
  have hend : argument ≠ wide "--" := by
    rintro rfl
    have hfalse := hothers "--" (by decide)
    rw [isWord, Text.equalsIgnoreCase_refl] at hfalse
    cases hfalse
  rw [scanJson, hoption, if_neg Bool.false_ne_true, if_neg hend, if_pos hword]

/-- The scan ends at `--`. -/
theorem scanJson_end (hlaw : toLower.Documented) :
    scanJson toLower 0 (wide "--" :: rest) = false := by
  have hself : Text.equalsIgnoreCase toLower (wide "--") (wide "--") = true :=
    Text.equalsIgnoreCase_refl
  have hothers := not_isWord hlaw valueOptions (by decide) hself
  have hoption : isValueOption toLower (wide "--") = false := by
    rw [isValueOption, List.any_eq_false]
    intro other hmem
    rw [hothers other hmem]
    exact Bool.false_ne_true
  rw [scanJson, hoption, if_neg Bool.false_ne_true, if_pos rfl]

/-- The scan takes with an option what the parser reads as its value. -/
theorem scanJson_option (hoption : isValueOption toLower argument = true)
    (hvalue : (readOptionValue rest).1.isSome = true) :
    scanJson toLower 0 (argument :: rest) = scanJson toLower (readOptionValue rest).2 rest := by
  have hwidth : valueWidth rest = (readOptionValue rest).2 := by
    unfold readOptionValue at hvalue ⊢
    unfold valueWidth
    split at hvalue
    · cases hvalue
    · next value rest =>
      split at hvalue
      · next hend =>
        cases rest with
        | nil => cases hvalue
        | cons next rest =>
          rw [if_pos hend, if_pos hend]
          exact Nat.min_eq_left (Nat.le_add_left 2 rest.length)
      · next hend =>
        split at hvalue
        · cases hvalue
        · next hdash =>
          have hplain : (value.isEmpty || value.head? != some 45) = true :=
            Bool.or_eq_true_iff.2 (.inr (bne_iff_ne.2 hdash))
          rw [if_neg hend, if_neg hend, if_neg hdash, if_pos hplain]
  rw [scanJson, if_pos hoption, hwidth]

/-! ## The scan and the tokens -/

/-- A token whose callback does not throw for what it is alone: no unknown option, and an option
that takes a value has one. -/
def Token.IsReadable : Token → Prop
  | .invalid _ => False
  | .selector _ input | .value input => input.value.isSome = true
  | _ => True

theorem Writes.isReadable {parsed result : Parsed} {token : Token}
    (h : Writes spec parsed token result) : token.IsReadable := by
  cases h with
  | selector _ _ hvalue _ => exact Option.isSome_of_mem hvalue
  | value hvalue _ _ => exact Option.isSome_of_mem hvalue
  | _ => trivial

/-- After `--` nothing is an option. -/
theorem json_not_mem_ended (skip : Nat) :
    Token.json ∉ tokenize toLower spec true skip args := by
  induction args generalizing skip with
  | nil => cases skip <;> exact List.not_mem_nil
  | cons argument rest ih =>
    cases skip with
    | succ skip => exact ih skip
    | zero =>
      rw [tokenize, List.mem_append]
      have hreads := readArgument_reads toLower spec argument rest true
      generalize readArgument toLower spec true argument rest = reading at hreads
      rintro (hmem | hmem)
      · cases hreads <;> simp at hmem
      · cases hreads <;> exact ih _ hmem

/-- An option that names a device takes a value. -/
theorem isValueOption_of_selector {selector : Selector} (hmem : selector ∈ selectors)
    (hword : Text.equalsIgnoreCase toLower argument selector.name = true) :
    isValueOption toLower argument = true := by
  rw [isValueOption, List.any_eq_true]
  simp only [selectors, List.mem_cons, List.not_mem_nil, or_false] at hmem
  obtain rfl | rfl | rfl | rfl := hmem
  · exact ⟨"--id", by decide, hword⟩
  · exact ⟨"--name", by decide, hword⟩
  · exact ⟨"--mac", by decide, hword⟩
  · exact ⟨"--alias", by decide, hword⟩

/-- What does not begin with `-` is none of the words that the scan looks for. -/
theorem not_isWord_of_plain (hlaw : toLower.Documented) (hplain : argument.head? ≠ some 45) :
    ∀ other ∈ scanned, isWord toLower argument other = false := by
  intro other hmem
  have hheads : ∀ other ∈ scanned, (wide other).head? = some 45 := by decide
  exact Bool.eq_false_iff.2 fun hword =>
    hplain (Text.head_of_equalsIgnoreCase hlaw (hheads other hmem) hword)

/-- The tokens of a request that is parsed are readable. -/
theorem parseWithCli_isReadable (hcli : cli.InOrder) {request : Request}
    (h : parseWithCli toLower cli spec argv = .ok request) :
    ∀ token ∈ tokenize toLower spec false 0 (argv.drop spec.words), token.IsReadable := by
  obtain ⟨parsed, chosen, kept, hparsed, -⟩ := parseWithCli_ok hcli h
  refine foldlM_establishes (motive := fun before _ => ∀ token ∈ before, token.IsReadable) nofun
    ?_ hparsed
  intro before token state after _ hbefore hstep other hother
  obtain hother | hother := List.mem_append.1 hother
  · exact hbefore other hother
  · rw [List.mem_singleton.1 hother]
    exact (callback_writes hstep).isReadable

/-- The JSON flag tells whether `--json` is one of the tokens. -/
theorem json_mem_iff {tokens : List Token} :
    Token.json ∈ tokens ↔ flagsOf tokens &&& commandFlagJson ≠ 0 := by
  unfold flagsOf
  by_cases hjson : Token.json ∈ tokens <;> by_cases hraw : Token.raw ∈ tokens <;>
    simp only [hjson, hraw, if_true, if_false, true_iff, false_iff] <;> decide

/-- Where every token is readable, the scan finds `--json` if it is one of the tokens: both take
the same arguments with an option, so the scan looks at the arguments that become tokens. -/
theorem scanJson_iff (hlaw : toLower.Documented) (skip : Nat)
    (hreadable : ∀ token ∈ tokenize toLower spec false skip args, token.IsReadable) :
    scanJson toLower skip args = true ↔ Token.json ∈ tokenize toLower spec false skip args := by
  induction args generalizing skip with
  | nil =>
    have hscan : scanJson toLower skip [] = false := by cases skip <;> rfl
    have htokens : tokenize toLower spec false skip [] = [] := by cases skip <;> rfl
    rw [hscan, htokens]
    exact ⟨nofun, nofun⟩
  | cons argument rest ih =>
    cases skip with
    | succ skip => exact ih skip hreadable
    | zero =>
      rw [tokenize] at hreadable ⊢
      have hreads := readArgument_reads toLower spec argument rest false
      generalize readArgument toLower spec false argument rest = reading at hreads hreadable ⊢
      have hrest := fun token hmem => hreadable token (List.mem_append_right _ hmem)
      have hfirst := fun token (hmem : token ∈ reading.token) =>
        hreadable token (List.mem_append_left _ (Option.mem_toList.2 hmem))
      -- An argument that is no option with a value is stepped over.
      have hstep {word : WString} (hapart : isApart word scanned = true)
          (hword : Text.equalsIgnoreCase toLower argument word = true) :
          scanJson toLower 0 (argument :: rest) = scanJson toLower 0 rest :=
        scanJson_step (not_isWord hlaw scanned hapart hword)
      cases hreads with
      | terminator htargets hend =>
        rw [hend, scanJson_end hlaw]
        exact ⟨nofun, fun hmem => absurd hmem (json_not_mem_ended 0)⟩
      | json hword =>
        rw [scanJson_json hlaw hword]
        exact ⟨fun _ => List.mem_cons_self, fun _ => rfl⟩
      | raw hword =>
        rw [hstep (by decide) hword, ih 0 hrest]
        simp
      | last htargets hword =>
        rw [hstep (by decide) hword, ih 0 hrest]
        simp
      | default htargets hword =>
        rw [hstep (by decide) hword, ih 0 hrest]
        simp
      | selector htargets hmem hword =>
        rw [scanJson_option (isValueOption_of_selector hmem hword) (hfirst _ rfl), ih _ hrest]
        simp
      | value halias hword =>
        have hoption : isValueOption toLower argument = true :=
          List.any_eq_true.2 ⟨"--value", by decide, hword⟩
        rw [scanJson_option hoption (hfirst _ rfl), ih _ hrest]
        simp
      | invalid => exact (hfirst _ rfl).elim
      | target htargets hdash =>
        rw [scanJson_step (not_isWord_of_plain hlaw (hdash rfl)), ih 0 hrest]
        simp

/-! ## The early scan and the parser -/

/-- The words of a command are stepped over. -/
theorem jsonRequested_words (hlaw : toLower.Documented) {program command : WString}
    (h : findCommand toLower command rest = some spec) :
    jsonRequested toLower (program :: command :: rest) =
      scanJson toLower 0 ((program :: command :: rest).drop spec.words) := by
  obtain ⟨hspec, hname, hsubcommand⟩ := findCommand_some h
  have hapart : ∀ spec ∈ commands, isApart spec.name scanned = true ∧
      isApart spec.subcommand scanned = true := by decide
  have hcommand : jsonRequested toLower (program :: command :: rest) =
      scanJson toLower 0 rest :=
    scanJson_step (not_isWord hlaw scanned (hapart spec hspec).1 hname)
  rw [hcommand, CommandSpec.words]
  split
  · rfl
  · next hne =>
    rw [List.isEmpty_iff] at hne
    obtain ⟨subcommand, args, rfl, hword⟩ := hsubcommand.resolve_left hne
    exact scanJson_step (not_isWord hlaw scanned (hapart spec hspec).2 hword)

/-- On every command line that is accepted, the early scan finds what the parsed request says. -/
theorem jsonRequested_iff (hlaw : toLower.Documented) (hcli : cli.InOrder)
    (h : (parseCommandLine toLower cli argv).send = true) :
    jsonRequested toLower argv = true ↔
      (parseCommandLine toLower cli argv).request.flags &&& commandFlagJson ≠ 0 := by
  obtain ⟨program, command, rest, spec, rfl, hfind, hparse⟩ := parseCommandLine_send h
  rw [jsonRequested_words hlaw hfind, scanJson_iff hlaw 0 (parseWithCli_isReadable hcli hparse),
    parseWithCli_flags hcli hparse, json_mem_iff]

/-- For both, `--json` is no flag where `--id` takes it as its value. -/
theorem jsonRequested_value :
    jsonRequested asciiToLower (["apc2ctl", "connect", "--id", "--", "--json"].map wide) = true ↔
      (parseCommandLine asciiToLower inOrder
        (["apc2ctl", "connect", "--id", "--", "--json"].map wide)).request.flags &&&
          commandFlagJson ≠ 0 :=
  jsonRequested_iff asciiToLower_documented inOrder_inOrder (by decide)

end PlaybackConnector.Control.Cli
