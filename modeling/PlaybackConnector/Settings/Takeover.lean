import PlaybackConnector.Settings.Saved

/-!
# Settings that were not taken over

What becomes of a file that `Load` found. It is written over only once its settings were taken over
or it was preserved (`WriteSafe`), unless `Load` throws between decoding the file and taking it over:
that exit goes on as though there were no file.
-/

namespace PlaybackConnector.Settings

namespace Store

variable {lib : TextLibraries} {s t : State} {e : Event}

/-- The event is a call of `WriteAtomically`. -/
def State.writesAtomically (lib : TextLibraries) (s : State) : Event → Prop
  | .write thread _ => ∃ remaining captured, s.calls thread = .writing remaining captured ∧
      (encode lib captured.snapshot).isSome = true
  | .workerWrite _ => ∃ captured, s.worker = .writing captured ∧
      (encode lib captured.snapshot).isSome = true
  | _ => False

/-- A file that `Load` found is written over only once it was taken over or preserved. -/
def WriteSafe (lib : TextLibraries) (s : State) (e : Event) : Prop :=
  s.writesAtomically lib e → s.existed = true → s.takenOver = true ∨ s.preserved = true

/-- Staging the decoded settings does not throw. -/
def Event.Stages : Event → Prop
  | .stagingThrew => False
  | _ => True

/-! ## The invariant -/

/-- Why a store takes no setter: a load is under way, the file could not be preserved, or it is
fenced. -/
def State.Blocked (s : State) : Prop :=
  s.loadActive = true ∨ s.preservationFailed = true ∨ s.shutdownRequested = true

/-- What holds of the file that was found. While it is neither taken over nor preserved, the store
takes no setter. -/
structure Takeover (s : State) : Prop where
  reading : s.loader = some .reading → s.existed = false
  ended : s.loader = some (.ended true) → s.existed = true → s.preserved = true
  blocked : s.existed = true → s.takenOver = true ∨ s.preserved = true ∨
    (s.revision = 0 ∧ s.Blocked)
  unclaimed : s.loadClaimed = false → s.existed = false

theorem takeover_initial : Takeover {} :=
  ⟨fun h => (nomatch h), fun h => (nomatch h), fun h => (nomatch h), fun _ => rfl⟩

/-! ## Events that are not about the load -/

/-- The load and what became of the file are the same. -/
structure SameLoad (s t : State) : Prop where
  loader : t.loader = s.loader
  existed : t.existed = s.existed
  preserved : t.preserved = s.preserved
  takenOver : t.takenOver = s.takenOver
  loadClaimed : t.loadClaimed = s.loadClaimed
  loadActive : t.loadActive = s.loadActive
  preservationFailed : t.preservationFailed = s.preservationFailed
  shutdownRequested : s.shutdownRequested = true → t.shutdownRequested = true

/-- The steps of `Load`. -/
def Event.IsLoad : Event → Prop
  | .load | .readNothing | .readContent _ | .readThrew | .reportThrew | .preserveCorrupt _
  | .completeLoad | .stagingThrew | .commitLoad _ => True
  | _ => False

theorem finishFlush_sameLoad (thread : ThreadId) (result : Bool) (s : State) :
    SameLoad s (s.finishFlush thread result) := by
  cases thread <;> exact ⟨rfl, rfl, rfl, rfl, rfl, rfl, rfl, id⟩

theorem attempt_sameLoad (thread : ThreadId) (remaining : Nat) (s : State) :
    SameLoad s (attempt thread remaining s) := by
  unfold attempt
  split
  · exact finishFlush_sameLoad ..
  · split
    · exact finishFlush_sameLoad ..
    · exact ⟨rfl, rfl, rfl, rfl, rfl, rfl, rfl, id⟩

theorem enter_sameLoad (thread : ThreadId) (remaining : Nat) (s : State) :
    SameLoad s (enter thread remaining s) := by
  unfold enter
  split
  · exact finishFlush_sameLoad ..
  · simp only
    split
    · have hattempt := attempt_sameLoad thread ‹Nat› { s with timerArmed := false }
      exact { hattempt with }
    · exact ⟨rfl, rfl, rfl, rfl, rfl, rfl, rfl, id⟩

theorem step_sameLoad (hload : ¬ e.IsLoad) : SameLoad s (step lib s e) := by
  cases e with
  | commit mutation now =>
    simp only [step, commit]
    repeat' split
    all_goals exact ⟨rfl, rfl, rfl, rfl, rfl, rfl, rfl, id⟩
  | flushNow number maximumAttempts ready =>
    simp only [step]
    split <;> exact ⟨rfl, rfl, rfl, rfl, rfl, rfl, rfl, id⟩
  | enter thread =>
    simp only [step]
    split
    · exact enter_sameLoad ..
    · exact ⟨rfl, rfl, rfl, rfl, rfl, rfl, rfl, id⟩
  | wake thread =>
    simp only [step]
    split
    · exact attempt_sameLoad ..
    · exact ⟨rfl, rfl, rfl, rfl, rfl, rfl, rfl, id⟩
  | write thread succeeds =>
    simp only [step]
    split
    · rename_i captured _
      obtain ⟨_, _, heq, -⟩ := write_cases lib captured succeeds s
      rw [heq]
      exact ⟨rfl, rfl, rfl, rfl, rfl, rfl, rfl, id⟩
    · exact ⟨rfl, rfl, rfl, rfl, rfl, rfl, rfl, id⟩
  | completeWrite thread now =>
    simp only [step]
    split
    · rename_i revision _ succeeded _
      obtain ⟨_, _, _, _, heq, -⟩ := completeWriteLocked_cases revision succeeded now s
      rw [heq]
      exact ⟨rfl, rfl, rfl, rfl, rfl, rfl, rfl, id⟩
    · exact ⟨rfl, rfl, rfl, rfl, rfl, rfl, rfl, id⟩
  | workerLook now ready =>
    simp only [step, workerLook]
    repeat' split
    all_goals exact ⟨rfl, rfl, rfl, rfl, rfl, rfl, rfl, id⟩
  | workerWrite succeeds =>
    simp only [step]
    split
    · rename_i captured _
      obtain ⟨_, _, heq, -⟩ := write_cases lib captured succeeds s
      rw [heq]
      exact ⟨rfl, rfl, rfl, rfl, rfl, rfl, rfl, id⟩
    · exact ⟨rfl, rfl, rfl, rfl, rfl, rfl, rfl, id⟩
  | workerComplete now =>
    simp only [step]
    split
    · rename_i revision _ succeeded _
      obtain ⟨_, _, _, _, heq, -⟩ := completeWriteLocked_cases revision succeeded now s
      rw [heq]
      exact ⟨rfl, rfl, rfl, rfl, rfl, rfl, rfl, id⟩
    · exact ⟨rfl, rfl, rfl, rfl, rfl, rfl, rfl, id⟩
  | workerStore | completeShutdown drained =>
    simp only [step]
    split <;> exact ⟨rfl, rfl, rfl, rfl, rfl, rfl, rfl, id⟩
  | workerFinish | close mode maximumAttempts | joinShutdown drained =>
    exact ⟨rfl, rfl, rfl, rfl, rfl, rfl, rfl, id⟩
  | fence => exact ⟨rfl, rfl, rfl, rfl, rfl, rfl, rfl, fun _ => rfl⟩
  | _ => exact absurd trivial hload

/-- A blocked store keeps its revision, but for the load. -/
theorem blocked_revision (hcore : Core s) (henabled : Enabled s e) (hload : ¬ e.IsLoad)
    (hblocked : s.Blocked) : (step lib s e).revision = s.revision := by
  cases hcompletes : s.completes e with
  | some captured =>
    obtain ⟨_, succeeded, now, _, _, -, -, hstep, -⟩ :=
      completes_cases lib hcore henabled hcompletes
    obtain ⟨_, _, _, _, heq, -⟩ := completeWriteLocked_cases captured.revision succeeded now s
    rw [hstep, heq]
  | none =>
    by_cases hcommit : ∃ mutation now, e = .commit mutation now
    · obtain ⟨mutation, now, rfl⟩ := hcommit
      have hrejected : s.closing = true ∨ s.shutdownRequested = true ∨ s.preservationFailed = true := by
        rcases hblocked with h | h | h
        · exact (henabled.2.resolve_left (by simp [h])).imp_right .inl
        · exact .inr (.inr h)
        · exact .inr (.inl h)
      simp only [step, commit, if_pos hrejected]
    · refine (step_same lib hcore henabled (by simpa using hcommit) ?_ hcompletes).revision
      rintro now rfl
      exact hload trivial

/-- An event that is not about the load keeps what is known of the file. -/
theorem Takeover.same (hs : Takeover s) (hsame : SameLoad s t)
    (hrevision : s.Blocked → t.revision = s.revision) : Takeover t := by
  refine ⟨?_, ?_, ?_, ?_⟩
  · rw [hsame.loader, hsame.existed]
    exact hs.reading
  · rw [hsame.loader, hsame.existed, hsame.preserved]
    exact hs.ended
  · rw [hsame.existed, hsame.takenOver, hsame.preserved]
    intro hexists
    rcases hs.blocked hexists with h | h | ⟨hzero, hblocked⟩
    · exact .inl h
    · exact .inr (.inl h)
    · refine .inr (.inr ⟨(hrevision hblocked).trans hzero, ?_⟩)
      unfold State.Blocked
      rw [hsame.loadActive, hsame.preservationFailed]
      exact hblocked.imp_right (.imp_right hsame.shutdownRequested)
  · rw [hsame.loadClaimed, hsame.existed]
    exact hs.unclaimed

/-! ## The steps of the load -/

theorem load_takeover (hs : Takeover s) : Takeover (load s) := by
  unfold load
  split
  · exact hs
  · rename_i hopen
    simp only [not_or, Bool.not_eq_true] at hopen
    have hnew := hs.unclaimed hopen.1
    split
    · exact ⟨hs.reading, hs.ended, fun h => (nomatch hnew.symm.trans h), fun _ => hnew⟩
    · exact ⟨fun _ => hnew, fun h => (nomatch h), fun h => (nomatch hnew.symm.trans h), fun _ => hnew⟩

/-- The file is found, while the load keeps every setter away. -/
theorem found_takeover (hcore : Core s) (hloader : s.loader = some .reading)
    {loader : Load} (hfound : loader ≠ .reading ∧ loader ≠ .ended true)
    (lastFile : Option ByteArray) :
    Takeover { s with existed := true, loader := some loader, lastFile } := by
  have hactive := hcore.loader (by rw [hloader]; rfl)
  obtain ⟨hzero, hclaimed, -⟩ := hcore.loading hactive
  exact ⟨fun h => absurd (Option.some.inj h) hfound.1, fun h => absurd (Option.some.inj h) hfound.2,
    fun _ => .inr (.inr ⟨hzero, .inl hactive⟩), fun h => nomatch hclaimed.symm.trans h⟩

theorem preserveCorrupt_takeover (hs : Takeover s) (preserved : Bool) :
    Takeover (step lib s (.preserveCorrupt preserved)) := by
  refine ⟨fun h => (nomatch h), fun h _ => ?_, fun h => ?_, hs.unclaimed⟩
  · simp only [step, Option.some.injEq, Load.ended.injEq] at h
    simp [step, h]
  · rcases hs.blocked h with h | h | h
    · exact .inl h
    · exact .inr (.inl (by simp [step, h]))
    · exact .inr (.inr h)

/-- `Load` ends and takes nothing over: the file was preserved, or the store stays blocked. -/
theorem completeLoad_takeover (hs : Takeover s) (hcore : Core s) {originalPreserved : Bool}
    (hloader : s.loader = some (.ended originalPreserved)) :
    Takeover (completeLoadWithoutCommit originalPreserved s) := by
  obtain ⟨hzero, hclaimed, -⟩ := hcore.loading (hcore.loader (by rw [hloader]; rfl))
  refine ⟨fun h => (nomatch h), fun h => (nomatch h), fun h => ?_, fun h => nomatch hclaimed.symm.trans h⟩
  cases originalPreserved with
  | true => exact .inr (.inl (hs.ended hloader h))
  | false => exact .inr (.inr ⟨hzero, .inr (.inl rfl)⟩)

theorem commitLoad_takeover (hs : Takeover s) (hcore : Core s) (hloader : s.loader.isSome = true)
    (decoded : DecodedSettings) (now : Nat) : Takeover (commitLoad decoded now s) := by
  obtain ⟨hzero, hclaimed, -⟩ := hcore.loading (hcore.loader hloader)
  have hunclaimed : s.loadClaimed = false → s.existed = false := hs.unclaimed
  unfold commitLoad
  split
  · rename_i hrefused
    have hfence := hrefused.resolve_right (by simpa using hzero)
    exact ⟨fun h => (nomatch h), fun h => (nomatch h), fun _ => .inr (.inr ⟨hzero, .inr (.inr hfence)⟩),
      hunclaimed⟩
  · cases hrewrite : decoded.needsRewrite with
    | true => exact ⟨fun h => (nomatch h), fun h => (nomatch h), fun _ => .inl rfl, hunclaimed⟩
    | false => exact ⟨fun h => (nomatch h), fun h => (nomatch h), fun _ => .inl rfl, hunclaimed⟩

theorem step_takeover (hs : Takeover s) (hcore : Core s) (henabled : Enabled s e)
    (hstages : e.Stages) : Takeover (step lib s e) := by
  by_cases hload : e.IsLoad
  · cases e with
    | load => exact load_takeover hs
    | readNothing =>
      have hnew := hs.reading henabled
      exact ⟨fun h => (by cases h), fun _ h => (by cases hnew.symm.trans h),
        fun h => (by cases hnew.symm.trans h), fun _ => hnew⟩
    | readContent bytes =>
      simp only [step, readContent]
      split
      · exact found_takeover hcore henabled (by simp) s.lastFile
      · exact found_takeover hcore henabled (by simp) (some bytes)
    | readThrew => exact found_takeover hcore henabled (by simp) s.lastFile
    | reportThrew => exact ⟨fun h => (by cases h), fun h => (by cases h), hs.blocked, hs.unclaimed⟩
    | preserveCorrupt preserved => exact preserveCorrupt_takeover hs preserved
    | completeLoad =>
      obtain ⟨originalPreserved, hloader⟩ := henabled
      simp only [step, hloader]
      exact completeLoad_takeover hs hcore hloader
    | stagingThrew => exact absurd hstages id
    | commitLoad now =>
      obtain ⟨bytes, decoded, hloader⟩ := henabled
      simp only [step, hloader]
      exact commitLoad_takeover hs hcore (by rw [hloader]; rfl) decoded now
    | _ => exact absurd hload id
  · exact hs.same (step_sameLoad hload) (blocked_revision hcore henabled hload)

/-! ## In every run -/

/-- Who writes has captured a change, and a store that takes changes has its file safe. -/
theorem writeSafe (hs : Takeover s) (hcore : Core s) : WriteSafe lib s e := by
  intro hwrites hexists
  have hwriter : ∃ thread captured, s.writeOf thread = some captured := by
    cases e with
    | write thread succeeds =>
      obtain ⟨remaining, captured, hcalls, -⟩ := hwrites
      exact ⟨thread, captured, writeOf_of_calls hcalls⟩
    | workerWrite succeeds =>
      obtain ⟨captured, hworker, -⟩ := hwrites
      exact ⟨.worker, captured, writeOf_of_worker hcore hworker⟩
    | _ => exact absurd hwrites id
  obtain ⟨thread, captured, hwrite⟩ := hwriter
  have hcaptured := hcore.writers.captured thread captured hwrite
  rcases hs.blocked hexists with h | h | ⟨hzero, -⟩
  · exact .inl h
  · exact .inr h
  · omega

/-- In every run in which staging the decoded settings does not throw, a file that `Load` found is
written over only once its settings were taken over or it was preserved. -/
theorem found_file_safe (events : List Event) (hrun : (settingsStore lib).Run {} events)
    (hstages : ∀ e ∈ events, e.Stages) : (settingsStore lib).Always (WriteSafe lib) {} events := by
  have hok := hrun.and (EventSystem.always_of_forall hstages)
  have hstep : ∀ s e, Enabled s e ∧ e.Stages → Inv s ∧ Takeover s →
      Inv (step lib s e) ∧ Takeover (step lib s e) := fun s e hok hs =>
    ⟨step_inv lib s e hok.1 hs.1, step_takeover hs.2 hs.1.core hok.1 hok.2⟩
  have hsafe : ∀ s e, Enabled s e ∧ e.Stages → Inv s ∧ Takeover s → WriteSafe lib s e :=
    fun _ _ _ hs => writeSafe hs.2 hs.1.core
  exact hok.of_invariant hstep hsafe ⟨inv_initial, takeover_initial⟩

/-! ## A file that is lost -/

/-- A file that holds the default settings. -/
def defaultFile : ByteArray := (encode textLibraries {}).getD .empty

/-- `Load` reads the file. -/
def readingEvents : List Event := [.load, .readContent defaultFile]

/-- A setter is called, and the worker saves the change. -/
def savingEvents : List Event :=
  [.commit (.setStartWithWindows true) 0, .workerLook 300 true, .workerWrite true]

theorem decodePersisted_defaultFile :
    decodePersisted textLibraries defaultFile = some { data := {}, needsRewrite := false } := by
  obtain ⟨bytes, hbytes⟩ := valid_default.encode_isSome lawful_textLibraries
  have hfile : defaultFile = bytes := by rw [defaultFile, hbytes]; rfl
  rw [hfile]
  exact decodePersisted_of_encode lawful_textLibraries valid_default hbytes

theorem step_readContent {bytes : ByteArray} {decoded : DecodedSettings}
    (h : decodePersisted lib bytes = some decoded) :
    (settingsStore lib).step s (.readContent bytes) = { s with
      existed := true
      loader := some (.decoded bytes decoded)
      lastFile := some bytes } := by
  simp only [settingsStore, step, readContent, h]

/-- The only step of `readingEvents` that decodes is taken by its lemma, not by evaluation. -/
theorem exec_readingEvents : (settingsStore textLibraries).exec {} readingEvents =
    { ({} : State) with
      loadClaimed := true
      loadActive := true
      existed := true
      loader := some (.decoded defaultFile { data := {}, needsRewrite := false })
      lastFile := some defaultFile } := by
  have hread := step_readContent (s := load {}) decodePersisted_defaultFile
  rw [readingEvents, EventSystem.exec_cons, EventSystem.exec_cons, EventSystem.exec_nil]
  exact hread

/-- Staging the decoded settings throws, the store goes on with the default settings, and the next
change overwrites the file. -/
theorem unstaged_file_lost :
    (settingsStore textLibraries).Run {}
      (readingEvents ++ [.stagingThrew, .completeLoad] ++ savingEvents) ∧
    ¬ (settingsStore textLibraries).Always (WriteSafe textLibraries) {}
      (readingEvents ++ [.stagingThrew, .completeLoad] ++ savingEvents) := by
  have hvalid : SettingsData.Valid { startWithWindows := true } :=
    ⟨{ valid_default.persistable with }, valid_default.ratingPrompt⟩
  obtain ⟨bytes, hbytes⟩ := hvalid.encode_isSome lawful_textLibraries
  have hread := exec_readingEvents
  constructor
  · rw [List.append_assoc, EventSystem.run_append, hread]
    exact ⟨⟨trivial, rfl, trivial⟩, ⟨_, _, rfl⟩, ⟨true, rfl⟩, ⟨trivial, .inl rfl⟩, rfl, ⟨_, rfl, rfl⟩,
      trivial⟩
  · rw [List.append_assoc, EventSystem.always_append, hread]
    rintro ⟨-, -, -, -, -, hwrite, -⟩
    have hsafe := hwrite
      ⟨{ revision := 1, snapshot := { startWithWindows := true } }, rfl, by rw [hbytes]; rfl⟩ rfl
    exact hsafe.elim (fun h => nomatch h) fun h => nomatch h

/-- The settings of the file are taken over, and the next change is written. -/
theorem found_file_safe_loaded : (settingsStore textLibraries).Always (WriteSafe textLibraries) {}
    (readingEvents ++ [.commitLoad 0] ++ savingEvents) := by
  have hread := exec_readingEvents
  refine found_file_safe _ ?_ (by simp [readingEvents, savingEvents, Event.Stages])
  rw [List.append_assoc, EventSystem.run_append, hread]
  exact ⟨⟨trivial, rfl, trivial⟩, ⟨_, _, rfl⟩, ⟨trivial, .inl rfl⟩, rfl, ⟨_, rfl, rfl⟩, trivial⟩

end Store

end PlaybackConnector.Settings
