import PlaybackConnector.Json.Grammar
import PlaybackConnector.Settings.Data
import Mathlib

/-!
# Errors of the command-line client

`LocalError` (`CliParser.cpp`): what the client itself reports when there is no answer to print, as
it is or as JSON. `localError_json`: the JSON is one line, and the only value that the line denotes
is the object with the exit code and the message, up to the line breaks at the end of the message.
-/

namespace PlaybackConnector.Control.Cli

open JsonGrammar
open Settings (wide)

/-- Source: `hex` (`CliParser.cpp:55`). -/
def hex : WString := wide "0123456789abcdef"

/-- The digit for the four bits of a character from a position on. -/
def hexAt (character shift : UInt16) : UInt16 := hex.getD ((character >>> shift) &&& 0xF).toNat 0

/-- What is appended for a character. Source: the `switch` of `AppendJsonString`
(`CliParser.cpp:58`). -/
def escapeJsonCharacter (character : UInt16) : WString :=
  if character = 34 then wide "\\\""
  else if character = 92 then wide "\\\\"
  else if character = 8 then wide "\\b"
  else if character = 12 then wide "\\f"
  else if character = 10 then wide "\\n"
  else if character = 13 then wide "\\r"
  else if character = 9 then wide "\\t"
  else if character < 32 then
    wide "\\u" ++ [hexAt character 12, hexAt character 8, hexAt character 4, hexAt character 0]
  else [character]

/-- Source: `AppendJsonString` (`CliParser.cpp:54`). -/
def appendJsonString (output value : WString) : WString :=
  output ++ [34] ++ value.flatMap escapeJsonCharacter ++ [34]

/-- A carriage return or a line feed. -/
def isLineBreak (character : UInt16) : Bool := character = 13 ∨ character = 10

/-- Source: `LocalError` (`CliParser.cpp:298`). The exit code is its number, which need not be that
of an enumerator: the client passes what `ParseCommandLine` returned. -/
def localError (jsonRequested : Bool) (code : UInt32) (message : WString) : WString :=
  if !jsonRequested then message
  else
    let message := message.rdropWhile isLineBreak
    let output := wide "\x7b\"ok\":false,\"exitCode\":"
    let output := output ++ decimal code.toNat
    let output := output ++ wide ",\"message\":"
    let output := appendJsonString output message
    output ++ wide "\x7d\n"

/-! ## The digits of an escape -/

theorem hexDigitValue_hex : ∀ n < 16, hexDigitValue (hex.getD n 0) = some n := by decide

theorem printable_hex : ∀ n < 16, 32 ≤ hex.getD n 0 := by decide

theorem toNat_bits (character shift : UInt16) :
    ((character >>> shift) &&& 0xF).toNat = character.toNat / 2 ^ (shift.toNat % 16) % 16 := by
  rw [UInt16.toNat_and, UInt16.toNat_shiftRight, Nat.shiftRight_eq_div_pow]
  exact Nat.and_two_pow_sub_one_eq_mod _ 4

theorem bits_lt (character shift : UInt16) : ((character >>> shift) &&& 0xF).toNat < 16 := by
  rw [toNat_bits]
  exact Nat.mod_lt _ (by decide)

theorem hexDigitValue_hexAt (character shift : UInt16) :
    hexDigitValue (hexAt character shift) = some ((character >>> shift) &&& 0xF).toNat :=
  hexDigitValue_hex _ (bits_lt character shift)

/-- The four digits are those of the character. -/
theorem digits_character (character : UInt16) :
    (((((character >>> 12) &&& 0xF).toNat * 16 + ((character >>> 8) &&& 0xF).toNat) * 16 +
      ((character >>> 4) &&& 0xF).toNat) * 16 + ((character >>> 0) &&& 0xF).toNat).toUInt16 =
      character := by
  have hlt := character.toNat_lt
  have h12 : ((character >>> 12) &&& 0xF).toNat = character.toNat / 4096 % 16 := toNat_bits _ _
  have h8 : ((character >>> 8) &&& 0xF).toNat = character.toNat / 256 % 16 := toNat_bits _ _
  have h4 : ((character >>> 4) &&& 0xF).toNat = character.toNat / 16 % 16 := toNat_bits _ _
  have h0 : ((character >>> 0) &&& 0xF).toNat = character.toNat / 1 % 16 := toNat_bits _ _
  rw [h12, h8, h4, h0, show ((character.toNat / 4096 % 16 * 16 + character.toNat / 256 % 16) * 16 +
    character.toNat / 16 % 16) * 16 + character.toNat / 1 % 16 = character.toNat by omega]
  exact UInt16.ofNat_toNat

/-! ## The message -/

/-- What is appended for a character denotes that character. -/
theorem characters_escape (character : UInt16) {input text rest : WString}
    (h : Characters input text rest) :
    Characters (escapeJsonCharacter character ++ input) (character :: text) rest := by
  unfold escapeJsonCharacter
  split_ifs with hquote hbackslash hb hf hn hr ht hcontrol
  · exact hquote ▸ .short rfl h
  · exact hbackslash ▸ .short rfl h
  · exact hb ▸ .short rfl h
  · exact hf ▸ .short rfl h
  · exact hn ▸ .short rfl h
  · exact hr ▸ .short rfl h
  · exact ht ▸ .short rfl h
  · have hhex := Characters.hex (hexDigitValue_hexAt character 12) (hexDigitValue_hexAt character 8)
      (hexDigitValue_hexAt character 4) (hexDigitValue_hexAt character 0) h
    rw [digits_character] at hhex
    exact hhex
  · exact .unescaped (UInt16.not_lt.1 hcontrol) hquote hbackslash h

/-- The escaped text denotes the text. -/
theorem characters_appendJson (value rest : WString) :
    Characters (value.flatMap escapeJsonCharacter ++ 34 :: rest) value rest := by
  induction value with
  | nil => exact .close rest
  | cons character value ih =>
    rw [List.flatMap_cons, List.append_assoc]
    exact characters_escape character ih

/-- No control character. -/
def isPrintable (unit : UInt16) : Bool := 32 ≤ unit

/-- Nothing that is appended for a character is a control character. -/
theorem printable_escape (character : UInt16) :
    (escapeJsonCharacter character).all isPrintable := by
  unfold escapeJsonCharacter
  split_ifs with hquote hbackslash hb hf hn hr ht hcontrol
  all_goals try rfl
  · have hhex : ∀ shift, isPrintable (hexAt character shift) = true := fun shift =>
      decide_eq_true (printable_hex _ (bits_lt character shift))
    rw [List.all_append, List.all_cons, List.all_cons, List.all_cons, List.all_cons, hhex, hhex,
      hhex, hhex]
    rfl
  · rw [List.all_cons, isPrintable, decide_eq_true (UInt16.not_lt.1 hcontrol)]
    rfl

/-- The units of a decimal number are no control characters. -/
theorem printable_decimal (n : Nat) : (decimal n).all isPrintable :=
  List.all_eq_true.2 fun unit hunit =>
    decide_eq_true (UInt16.le_trans (by decide) ((isDigits_decimal n).2 unit hunit).1)

/-! ## The line -/

/-- What is written before the line feed, with every literal in its parts. -/
def errorLine (code : UInt32) (message : WString) : WString :=
  123 :: 34 :: (wide "ok" ++ 34 :: 58 :: (wide "false" ++ 44 ::
    34 :: (wide "exitCode" ++ 34 :: 58 :: (decimal code.toNat ++ 44 ::
      34 :: (wide "message" ++ 34 :: 58 ::
        34 :: (message.flatMap escapeJsonCharacter ++ 34 :: [125]))))))

theorem localError_line (code : UInt32) (message : WString) :
    localError true code message = errorLine code (message.rdropWhile isLineBreak) ++ [10] := by
  have hfirst : wide "\x7b\"ok\":false,\"exitCode\":" = 123 :: 34 :: (wide "ok" ++ 34 :: 58 ::
      (wide "false" ++ 44 :: 34 :: (wide "exitCode" ++ [34, 58]))) := by decide
  have hsecond : wide ",\"message\":" = 44 :: 34 :: (wide "message" ++ [34, 58]) := by decide
  have hlast : wide "\x7d\n" = [125, 10] := by decide
  simp only [localError, appendJsonString, errorLine, hfirst, hsecond, hlast, Bool.not_true,
    Bool.false_eq_true, if_false, List.cons_append, List.append_assoc, List.nil_append]

theorem printable_errorLine (code : UInt32) (message : WString) :
    (errorLine code message).all isPrintable := by
  have hok : (wide "ok").all isPrintable = true := by decide
  have hfalse : (wide "false").all isPrintable = true := by decide
  have hexitCode : (wide "exitCode").all isPrintable = true := by decide
  have hmessage : (wide "message").all isPrintable = true := by decide
  have hescaped : (message.flatMap escapeJsonCharacter).all isPrintable = true := by
    rw [List.all_flatMap]
    exact List.all_eq_true.2 fun character _ => printable_escape character
  simp only [errorLine, List.all_cons, List.all_append, hok, hfalse, hexitCode, hmessage, hescaped,
    printable_decimal]
  rfl

/-- The line is the object. -/
theorem document_errorLine (code : UInt32) (message : WString) :
    Document (errorLine code message) (.object [(wide "ok", .bool false),
      (wide "exitCode", .number (decimal code.toNat)), (wide "message", .string message)]) := by
  have hcomma : ∀ unit ∈ (44 :: ([] : WString)).head?, ¬ IsNumberUnit unit := by
    rintro _ ⟨⟩
    decide
  refine ⟨[], .object (.more (.plain (by decide) rfl (.false _)) rfl ?_), rfl⟩
  refine .more (.plain (by decide) (skipSpace_decimal _ _) (reads_decimal _ hcomma)) rfl ?_
  exact .last (.plain (by decide) rfl (.string (characters_appendJson message _))) rfl

/-- The JSON is one line, and what the line denotes is the object with the exit code and the
message without the line breaks at its end, and nothing else. -/
theorem localError_json (code : UInt32) (message : WString) :
    ∃ line, localError true code message = line ++ [10] ∧ 10 ∉ line ∧
      ∀ value, Document line value ↔ value = .object [(wide "ok", .bool false),
        (wide "exitCode", .number (decimal code.toNat)),
        (wide "message", .string (message.rdropWhile isLineBreak))] := by
  refine ⟨_, localError_line code message, fun hmem => ?_, fun value => ⟨fun hvalue => ?_, ?_⟩⟩
  · have h := List.all_eq_true.1 (printable_errorLine code (message.rdropWhile isLineBreak)) 10 hmem
    exact absurd h (by decide)
  · exact hvalue.unique (document_errorLine code _)
  · rintro rfl
    exact document_errorLine code _

-- A quotation mark, a backslash and a tab, with line breaks after them.
example : localError true 3 (wide "A\"\\\t\n\r\n") =
    wide "\x7b\"ok\":false,\"exitCode\":3,\"message\":\"A\\\"\\\\\\t\"\x7d\n" := by decide

end PlaybackConnector.Control.Cli
