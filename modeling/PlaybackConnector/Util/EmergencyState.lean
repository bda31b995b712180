import PlaybackConnector.Text.Utf8
import PlaybackConnector.Transition.Ring
import Mathlib

/-!
# The emergency log

`EmergencyState` (`Logger.cpp`): the last lines of the log in memory that is allocated at startup,
for a dump in which nothing may be allocated. Every write to a fixed buffer is checked here: an
access outside of it has no result. `snapshot_calls`: whatever is added and however often a snapshot
is taken in between, there is no such access, and a snapshot has the last lines in their order.
-/

namespace PlaybackConnector.Logger

/-- Source: `Line` (`Logger.cpp:159`). -/
structure Line where
  /-- Source: `Bytes`. -/
  bytes : Vector UInt8 1024 := .replicate 1024 0
  /-- Source: `Length`. -/
  length : UInt16 := 0

/-- The bytes of a line that are written to a dump. -/
def Line.text (line : Line) : List UInt8 := line.bytes.toList.take line.length.toNat

/-- Source: `EmergencyState` (`Logger.cpp:158`). -/
structure EmergencyState where
  /-- Source: `Lines`. -/
  lines : Vector Line 100 := .replicate 100 {}
  /-- Source: `Scratch`. -/
  scratch : Vector Line 100 := .replicate 100 {}
  /-- Source: `Next`. -/
  next : Nat := 0
  /-- Source: `Count`. -/
  count : Nat := 0

/-! ## Adding -/

/-- A carriage return or a line feed. -/
def isLineEnd (byte : UInt8) : Bool := byte = 13 ∨ byte = 10

/-- Copies bytes into a buffer from an offset on, if they are inside of it. -/
def copyBytes {size : Nat} : Vector UInt8 size → Nat → List UInt8 → Option (Vector UInt8 size)
  | buffer, _, [] => some buffer
  | buffer, offset, byte :: data =>
    if h : offset < size then copyBytes (buffer.set offset byte) (offset + 1) data else none

/-- Back from a count of bytes, less than all of them, to the first byte of a character. Source:
`Logger.cpp:172`. -/
def backUp (text : List UInt8) : Nat → Nat
  | 0 => 0
  | count + 1 =>
    if isContinuation (text.getD (count + 1) 0) then backUp text count else count + 1

/-- How many bytes of a text are kept. Source: `Logger.cpp:169`. -/
def keptCount (text : List UInt8) : Nat :=
  let truncated := text.length > 1022
  let count := min text.length (if truncated then 1019 else 1022)
  if count < text.length then backUp text count else count

/-- `...`. -/
def ellipsis : List UInt8 := [46, 46, 46]

/-- The marker of a text that is cut. -/
def markerOf (text : List UInt8) : List UInt8 := if text.length > 1022 then ellipsis else []

/-- Writes a text into a line. Source: `Logger.cpp:177`. -/
def fill (text : List UInt8) (line : Line) : Option Line := do
  let count := keptCount text
  let bytes ← copyBytes line.bytes 0 (text.take count)
  let bytes ← copyBytes bytes count (markerOf text)
  let count := count + (markerOf text).length
  let bytes ← copyBytes bytes count [13]
  let bytes ← copyBytes bytes (count + 1) [10]
  some { bytes := bytes, length := UInt16.ofNat (count + 2) }

/-- A line is in its place, and the next one follows. Source: `Logger.cpp:185`. -/
def EmergencyState.put (state : EmergencyState) (line : Line) : EmergencyState :=
  { state with
    lines := state.lines.setIfInBounds state.next line
    next := (state.next + 1) % 100
    count := min (state.count + 1) 100 }

/-- Source: `Add` (`Logger.cpp:166`). -/
def add (text : List UInt8) (state : EmergencyState) : Option EmergencyState := do
  let line ← state.lines[state.next]?
  let line ← fill (text.rdropWhile isLineEnd) line
  some (state.put line)

/-! ## Taking a snapshot -/

/-- One round of the loop. Source: `Logger.cpp:195`. -/
def copyLine (state : EmergencyState) (first : Nat) (scratch : Vector Line 100) (index : Nat) :
    Option (Vector Line 100) := do
  let line ← state.lines[(first + index) % 100]?
  if h : index < 100 then some (scratch.set index line) else none

/-- Whether the lock is acquired decides about the snapshot, whose result is the number of lines in
the scratch space. Source: `Snapshot` (`Logger.cpp:190`). -/
def snapshot (acquired : Bool) (state : EmergencyState) :
    Option (Option Nat × EmergencyState) :=
  if !acquired then some (none, state)
  else do
    let first := if state.count = 100 then state.next else 0
    let scratch ← (List.range state.count).foldlM (copyLine state first) state.scratch
    some (some state.count, { state with scratch := scratch })

/-! ## What a line is filled with -/

section
variable {α : Type} {size : Nat} {text front : List UInt8}

/-- An element after a beginning makes it longer by one. -/
theorem prefix_set {front list : List α} (hbegins : front <+: list)
    (hlt : front.length < list.length) (element : α) :
    front ++ [element] <+: list.set front.length element := by
  obtain ⟨rest, rfl⟩ := hbegins
  cases rest with
  | nil => rw [List.append_nil] at hlt; exact absurd hlt (Nat.lt_irrefl _)
  | cons _ rest =>
    rw [List.set_append_right _ _ (Nat.le_refl _), Nat.sub_self]
    exact ⟨rest, by rw [List.set_cons_zero, List.append_assoc]; rfl⟩

/-- A copy that fits succeeds, and what was before it stays. -/
theorem copyBytes_prefix (data : List UInt8) {front : List UInt8} {buffer : Vector UInt8 size}
    (hbegins : front <+: buffer.toList) (hfits : front.length + data.length ≤ size) :
    ∃ result, copyBytes buffer front.length data = some result ∧
      front ++ data <+: result.toList := by
  induction data generalizing front buffer with
  | nil => exact ⟨buffer, rfl, by rwa [List.append_nil]⟩
  | cons byte data ih =>
    rw [List.length_cons] at hfits
    have hlt : front.length < size := by omega
    have hlength : front.length < buffer.toList.length := by rwa [Vector.length_toList]
    have hset : front ++ [byte] <+: (buffer.set front.length byte).toList := by
      rw [Vector.toList_set]
      exact prefix_set hbegins hlength byte
    have hrest : (front ++ [byte]).length + data.length ≤ size := by
      rw [List.length_append, List.length_singleton]
      omega
    obtain ⟨result, hcopy, hresult⟩ := ih hset hrest
    rw [List.length_append, List.length_singleton] at hcopy
    rw [List.append_assoc] at hresult
    exact ⟨result, by rw [copyBytes, dif_pos hlt, hcopy], hresult⟩

theorem backUp_le (text : List UInt8) : ∀ count, backUp text count ≤ count
  | 0 => Nat.le_refl _
  | count + 1 => by
    rw [backUp]
    split
    · exact Nat.le_succ_of_le (backUp_le text count)
    · exact Nat.le_refl _

/-- A text that fits is kept, of any other one no more than its first 1019 bytes. -/
theorem keptCount_eq (text : List UInt8) :
    keptCount text = if text.length > 1022 then backUp text 1019 else text.length := by
  rw [keptCount]
  by_cases hlong : text.length > 1022
  · have hmin : min text.length 1019 = 1019 := by omega
    rw [if_pos hlong, if_pos hlong, hmin, if_pos (by omega)]
  · have hmin : min text.length 1022 = text.length := by omega
    rw [if_neg hlong, if_neg hlong, hmin, if_neg (Nat.lt_irrefl _)]

theorem keptCount_le (text : List UInt8) : keptCount text ≤ text.length := by
  rw [keptCount_eq]
  split
  · exact Nat.le_trans (backUp_le text 1019) (by omega)
  · exact Nat.le_refl _

/-- There is room for the marker and for the line break. -/
theorem keptCount_marker (text : List UInt8) :
    keptCount text + (markerOf text).length ≤ 1022 := by
  rw [keptCount_eq, markerOf]
  split
  · have hle := backUp_le text 1019
    have hmarker : ellipsis.length = 3 := rfl
    omega
  · rw [List.length_nil]
    omega

/-- The line of a text that has no line break at its end. -/
def lineText (text : List UInt8) : List UInt8 :=
  text.take (keptCount text) ++ markerOf text ++ [13, 10]

theorem length_kept (text : List UInt8) : (text.take (keptCount text)).length = keptCount text := by
  rw [List.length_take]
  exact Nat.min_eq_left (keptCount_le text)

theorem length_lineText (text : List UInt8) :
    (lineText text).length = keptCount text + (markerOf text).length + 2 := by
  rw [lineText, List.length_append, List.length_append, length_kept]
  rfl

theorem length_lineText_le (text : List UInt8) : (lineText text).length ≤ 1024 := by
  have hle := keptCount_marker text
  rw [length_lineText]
  omega

/-- A line is filled within its bytes, whatever it was filled with before. -/
theorem fill_eq (text : List UInt8) (line : Line) :
    ∃ result, fill text line = some result ∧ result.text = lineText text ∧
      result.length.toNat = (lineText text).length := by
  have hroom := keptCount_marker text
  have hkept := length_kept text
  obtain ⟨first, hfirst, hbegins⟩ := copyBytes_prefix (text.take (keptCount text))
    (List.nil_prefix (l := line.bytes.toList)) (by rw [List.length_nil]; omega)
  rw [List.length_nil] at hfirst
  rw [List.nil_append] at hbegins
  obtain ⟨second, hsecond, hbegins⟩ := copyBytes_prefix (markerOf text) hbegins (by omega)
  rw [hkept] at hsecond
  have hlength : (text.take (keptCount text) ++ markerOf text).length =
      keptCount text + (markerOf text).length := by
    rw [List.length_append, hkept]
  obtain ⟨third, hthird, hbegins⟩ := copyBytes_prefix [13] hbegins (by
    rw [hlength, List.length_singleton]; omega)
  rw [hlength] at hthird
  obtain ⟨last, hlast, hbegins⟩ := copyBytes_prefix [10] hbegins (by
    rw [List.length_append, hlength, List.length_singleton, List.length_singleton]; omega)
  rw [List.length_append, hlength, List.length_singleton] at hlast
  rw [List.append_assoc] at hbegins
  have hwhole : lineText text <+: last.toList := hbegins
  have hlineText := length_lineText text
  have hcount : (UInt16.ofNat (keptCount text + (markerOf text).length + 2)).toNat =
      (lineText text).length := by
    rw [UInt16.toNat_ofNat', Nat.mod_eq_of_lt (by omega), hlineText]
  refine ⟨⟨last, UInt16.ofNat (keptCount text + (markerOf text).length + 2)⟩, ?_, ?_, hcount⟩
  · simp only [fill, hfirst, hsecond, hthird, hlast, Option.bind_eq_bind, Option.bind_some]
  · rw [Line.text, hcount]
    exact (List.prefix_iff_eq_take.1 hwhole).symm

/-- What a line in the log is. -/
structure Line.IsWellFormed (line : Line) : Prop where
  fits : line.length.toNat ≤ 1024
  isUtf8 : IsUtf8 line.text
  ends : [13, 10] <:+ line.text

/-- Without the line breaks at its end, a text still encodes characters. -/
theorem isUtf8_trimmed (h : IsUtf8 text) : IsUtf8 (text.rdropWhile isLineEnd) := by
  rw [← List.rdropWhile_append_rtakeWhile (p := isLineEnd) (l := text)] at h
  refine h.of_append fun byte hbyte => ?_
  have hend := List.mem_rtakeWhile_imp (List.mem_of_mem_head? hbyte)
  obtain rfl | rfl := of_decide_eq_true hend <;> rfl

/-- Where the count comes to rest there is the first byte of a character, if it is not the start of
the text. -/
theorem backUp_rests (text : List UInt8) : ∀ count, backUp text count = 0 ∨
    isContinuation (text.getD (backUp text count) 0) = false
  | 0 => .inl rfl
  | count + 1 => by
    rw [backUp]
    split
    · exact backUp_rests text count
    · next hfirst => exact .inr (Bool.eq_false_iff.2 hfirst)

/-- A text is cut before the first byte of a character. -/
theorem isUtf8_kept (h : IsUtf8 text) : IsUtf8 (text.take (keptCount text)) := by
  rw [keptCount_eq]
  split
  · obtain hzero | hfirst := backUp_rests text 1019
    · rw [hzero]
      exact ⟨[], rfl⟩
    · refine h.take _ fun byte hbyte => ?_
      rwa [List.getD_eq_getElem?_getD, hbyte] at hfirst
  · rwa [List.take_length]

theorem isUtf8_lineText (h : IsUtf8 text) : IsUtf8 (lineText text) := by
  have hmarker : IsUtf8 (markerOf text) := by
    rw [markerOf]
    split
    · exact ⟨['.', '.', '.'], by decide⟩
    · exact ⟨[], rfl⟩
  exact ((isUtf8_kept h).append hmarker).append ⟨['\r', '\n'], by decide⟩

end

/-! ## The log -/

/-- The lines as a ring. -/
def EmergencyState.ring (state : EmergencyState) : Ring Line 100 where
  slots := state.lines
  next := state.next
  count := state.count

/-- A line is the one of a text. -/
def IsLineOf (text : List UInt8) (line : Line) : Prop :=
  line.IsWellFormed ∧ line.text = lineText (text.rdropWhile isLineEnd)

/-- The log has been given these texts: the lines that it was given are theirs. -/
def Holds (state : EmergencyState) (texts : List (List UInt8)) : Prop :=
  ∃ history, state.ring.Holds history ∧ List.Forall₂ IsLineOf texts history

theorem map_text {texts : List (List UInt8)} {history : List Line}
    (h : List.Forall₂ IsLineOf texts history) :
    history.map Line.text = texts.map fun text => lineText (text.rdropWhile isLineEnd) := by
  induction h with
  | nil => rfl
  | cons hline _ ih => rw [List.map_cons, List.map_cons, hline.2, ih]

theorem isWellFormed_of_mem {texts : List (List UInt8)} {history : List Line} {line : Line}
    (h : List.Forall₂ IsLineOf texts history) (hmem : line ∈ history) : line.IsWellFormed := by
  induction h with
  | nil => cases hmem
  | cons hline _ ih =>
    obtain rfl | hmem := List.mem_cons.1 hmem
    · exact hline.1
    · exact ih hmem

section
variable {state : EmergencyState} {texts : List (List UInt8)}

theorem holds_initial (scratch : Vector Line 100) : Holds { scratch := scratch } [] :=
  ⟨[], Ring.Holds.empty _, .nil⟩

theorem ring_put (state : EmergencyState) (line : Line) :
    (state.put line).ring = state.ring.put line := rfl

/-- A text that is added is one more of them. -/
theorem add_holds (h : Holds state texts) {text : List UInt8} (htext : IsUtf8 text) :
    ∃ after, add text state = some after ∧ Holds after (texts ++ [text]) := by
  obtain ⟨history, hring, hlines⟩ := h
  have hnext : state.next < 100 := hring.next_lt (by decide)
  obtain ⟨line, hfill, hline, hlength⟩ :=
    fill_eq (text.rdropWhile isLineEnd) state.lines[state.next]
  have hwell : line.IsWellFormed := {
    fits := hlength ▸ length_lineText_le _
    isUtf8 := hline ▸ isUtf8_lineText (isUtf8_trimmed htext)
    ends := hline ▸ List.suffix_append _ _ }
  refine ⟨state.put line, ?_, history ++ [line], ?_, ?_⟩
  · simp only [add, Vector.getElem?_eq_getElem hnext, hfill, Option.bind_eq_bind, Option.bind_some]
  · rw [ring_put]
    exact hring.put (by decide) line
  · exact List.rel_append hlines (.cons ⟨hwell, hline⟩ .nil)

/-- The rounds of the loop copy the lines that they are about, in their order. -/
theorem copyLines (state : EmergencyState) (first : Nat) (scratch : Vector Line 100) :
    ∀ count ≤ 100, ∃ copied, (List.range count).foldlM (copyLine state first) scratch =
      some copied ∧ copied.toList.take count = (List.range count).filterMap fun index =>
        state.lines[(first + index) % 100]?
  | 0, _ => ⟨scratch, rfl, rfl⟩
  | count + 1, hcount => by
    obtain ⟨copied, hcopied, htake⟩ := copyLines state first scratch count (by omega)
    have hslot : (first + count) % 100 < 100 := Nat.mod_lt _ (by decide)
    have hindex : count < copied.toList.length := by
      rw [Vector.length_toList]
      exact hcount
    refine ⟨copied.set count state.lines[(first + count) % 100], ?_, ?_⟩
    · simp only [List.range_succ, List.foldlM_append, hcopied, List.foldlM_cons, List.foldlM_nil,
        copyLine, Vector.getElem?_eq_getElem hslot, Option.bind_eq_bind, Option.bind_some,
        dif_pos (show count < 100 from hcount)]
      rfl
    · have hset : count < (copied.toList.set count state.lines[(first + count) % 100]).length := by
        rwa [List.length_set]
      rw [Vector.toList_set, List.range_succ, List.filterMap_append, ← htake,
        ← List.take_append_getElem hset, List.take_set_of_le (Nat.le_refl _),
        List.getElem_set_self, List.filterMap_cons, Vector.getElem?_eq_getElem hslot]
      rfl

/-- What a snapshot has to be: the last of the lines, in the order in which the texts were added,
each of them whole. -/
structure IsSnapshot (texts : List (List UInt8)) (lines : List Line) : Prop where
  /-- The lines are those of the last texts. -/
  texts_eq : lines.map Line.text =
    (texts.map fun text => lineText (text.rdropWhile isLineEnd)).drop (texts.length - 100)
  /-- Each is within its buffer, encodes characters and ends with a line break. -/
  wellFormed : ∀ line ∈ lines, line.IsWellFormed

/-- The scratch space has the snapshot. -/
theorem snapshot_holds (h : Holds state texts) :
    ∃ after, snapshot true state = some (some (min texts.length 100), after) ∧
      Holds after texts ∧ IsSnapshot texts (after.scratch.toList.take (min texts.length 100)) := by
  obtain ⟨history, hring, hlines⟩ := h
  have hcount : state.count = min texts.length 100 := by
    rw [hlines.length_eq]
    exact hring.count
  obtain ⟨copied, hcopied, htake⟩ := copyLines state (if state.count = 100 then state.next else 0)
    state.scratch state.count (by omega)
  have helements : copied.toList.take state.count = history.drop (texts.length - 100) := by
    rw [htake, hlines.length_eq, ← hring.elements (by decide)]
    rfl
  have hlast := List.forall₂_drop (texts.length - 100) hlines
  refine ⟨{ state with scratch := copied }, ?_, ⟨history, hring, hlines⟩, ?_⟩
  · rw [← hcount]
    simp only [snapshot, hcopied, Bool.not_true, Bool.false_eq_true, if_false, Option.bind_eq_bind,
      Option.bind_some]
  · rw [← hcount, helements]
    exact ⟨by rw [map_text hlast, List.map_drop], fun line hline => isWellFormed_of_mem hlast hline⟩

end

/-! ## Runs -/

/-- What is called, `snapshot` with what becomes of the attempt to acquire the lock. -/
inductive Call
  | add (text : List UInt8)
  | snapshot (acquired : Bool)

/-- The text that a call adds. -/
def Call.text : Call → Option (List UInt8)
  | add text => some text
  | snapshot _ => none

/-- The state after a call. -/
def call (state : EmergencyState) : Call → Option EmergencyState
  | .add text => add text state
  | .snapshot acquired => (snapshot acquired state).map Prod.snd

section
variable {state : EmergencyState} {texts : List (List UInt8)}

theorem call_holds (h : Holds state texts) (next : Call) (hnext : ∀ text ∈ next.text, IsUtf8 text) :
    ∃ after, call state next = some after ∧ Holds after (texts ++ next.text.toList) := by
  cases next with
  | add text => exact add_holds h (hnext text rfl)
  | snapshot acquired =>
    rw [Call.text, Option.toList_none, List.append_nil]
    cases acquired with
    | false => exact ⟨state, rfl, h⟩
    | true =>
      obtain ⟨after, hsnapshot, hafter, -⟩ := snapshot_holds h
      exact ⟨after, by rw [call, hsnapshot]; rfl, hafter⟩

theorem calls_holds (calls : List Call) (hvalid : ∀ text ∈ calls.filterMap Call.text, IsUtf8 text)
    (h : Holds state texts) :
    ∃ after, calls.foldlM call state = some after ∧
      Holds after (texts ++ calls.filterMap Call.text) := by
  induction calls generalizing state texts with
  | nil => exact ⟨state, rfl, by rwa [List.filterMap_nil, List.append_nil]⟩
  | cons next calls ih =>
    have hsplit : (next :: calls).filterMap Call.text =
        next.text.toList ++ calls.filterMap Call.text := by
      rw [List.filterMap_cons]
      cases next.text <;> rfl
    rw [hsplit] at hvalid ⊢
    obtain ⟨between, hcall, hbetween⟩ := call_holds h next fun text htext =>
      hvalid text (List.mem_append_left _ (Option.mem_toList.2 htext))
    obtain ⟨after, hcalls, hafter⟩ := ih
      (fun text htext => hvalid text (List.mem_append_right _ htext)) hbetween
    refine ⟨after, ?_, by rwa [List.append_assoc] at hafter⟩
    rw [List.foldlM_cons, hcall]
    exact hcalls

end

/-- Whatever valid texts are added, and whatever snapshots are taken in between, no call accesses
anything outside of its buffers, and a snapshot has the last lines. -/
theorem snapshot_calls (calls : List Call)
    (hvalid : ∀ text ∈ calls.filterMap Call.text, IsUtf8 text) :
    ∃ state after, calls.foldlM call {} = some state ∧
      snapshot true state = some (some (min (calls.filterMap Call.text).length 100), after) ∧
      IsSnapshot (calls.filterMap Call.text)
        (after.scratch.toList.take (min (calls.filterMap Call.text).length 100)) := by
  obtain ⟨state, hcalls, hstate⟩ := calls_holds calls hvalid (holds_initial _)
  obtain ⟨after, hsnapshot, -, hafter⟩ := snapshot_holds hstate
  exact ⟨state, after, hcalls, hsnapshot, hafter⟩

/-- Two texts, the first one with a line break of its own, and a snapshot whose lock is not
acquired. -/
theorem snapshot_calls_two : ∃ state after,
    [Call.add [104, 105, 10], .snapshot false, .add [0xC3, 0xA9]].foldlM call {} = some state ∧
      snapshot true state = some (some 2, after) ∧
      (after.scratch.toList.take 2).map Line.text =
        [[104, 105, 13, 10], [0xC3, 0xA9, 13, 10]] := by
  have hvalid : ∀ text ∈ [Call.add [104, 105, 10], .snapshot false,
      .add [0xC3, 0xA9]].filterMap Call.text, IsUtf8 text := by
    intro text htext
    obtain rfl | htext := List.mem_cons.1 htext
    · exact ⟨['h', 'i', '\n'], by decide⟩
    · obtain rfl := List.mem_singleton.1 htext
      exact ⟨['é'], by decide⟩
  obtain ⟨state, after, hcalls, hsnapshot, hlines⟩ := snapshot_calls _ hvalid
  exact ⟨state, after, hcalls, hsnapshot, hlines.texts_eq.trans (by decide)⟩

end PlaybackConnector.Logger
