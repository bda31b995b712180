import PlaybackConnector.Settings.Persistence
import PlaybackConnector.Settings.Size

/-!
# Saved means on disk

What the revisions promise about the file: when the store is clean, the file that was last read or
written decodes to the settings (`Contents`), which are what `Load` took over with every setter since
applied; and a flush or a shutdown that reports success has left a clean store behind (`Reports`).
-/

namespace PlaybackConnector.Settings

namespace Store

variable {lib : TextLibraries} {s t : State} {e : Event} {thread : ThreadId} {captured : Write}
  {remaining now : Nat} {result ready : Bool}

/-- The file that was last read or written successfully decodes to the settings. -/
def FileHolds (lib : TextLibraries) (s : State) (data : SettingsData) : Prop :=
  ∃ bytes, s.lastFile = some bytes ∧
    decodePersisted lib bytes = some { data, needsRewrite := false }

/-- The invariant of the settings and the file. -/
structure Contents (lib : TextLibraries) (s : State) : Prop where
  valid : s.data.Valid
  history : s.data = s.applied.foldl Mutation.apply s.base
  applied : s.applied ≠ [] → 0 < s.revision
  loaded : ∀ bytes decoded, s.loader = some (.decoded bytes decoded) →
    s.lastFile = some bytes ∧ decodePersisted lib bytes = some decoded
  current : ∀ thread captured, s.writeOf thread = some captured →
    captured.snapshot.Valid ∧ (captured.revision = s.revision → captured.snapshot = s.data)
  written : ∀ thread captured, s.writeOf thread = some captured →
    captured.succeeded = some true → FileHolds lib s captured.snapshot
  saved : 0 < s.revision → s.revision = s.persistedRevision → FileHolds lib s s.data

theorem contents_initial (lib : TextLibraries) : Contents lib {} := by
  have hnone : ∀ thread, ({} : State).writeOf thread = none := fun thread => by
    simp [State.writeOf, Flush.write, Worker.write]
  refine ⟨valid_default, rfl, fun h => absurd rfl h, fun _ _ h => (by cases h), ?_, ?_,
    fun h => absurd h (Nat.lt_irrefl 0)⟩
  · intro thread captured hwrite
    rw [hnone] at hwrite
    cases hwrite
  · intro thread captured hwrite
    rw [hnone] at hwrite
    cases hwrite

/-! ## Events -/

/-- An event that changes neither the settings nor the file keeps what is known of them. -/
theorem Contents.same (hs : Contents lib s) (hsame : SameSettings s t)
    (hfile : t.lastFile = s.lastFile)
    (hloader : ∀ bytes decoded, t.loader = some (.decoded bytes decoded) →
      s.loader = some (.decoded bytes decoded))
    (hwrites : ∀ thread captured, t.writeOf thread = some captured →
      s.writeOf thread = some captured ∨
        captured = { revision := s.revision, snapshot := s.data }) : Contents lib t := by
  have hholds : ∀ data, FileHolds lib s data → FileHolds lib t data := by
    rintro data ⟨bytes, hbytes, hdecoded⟩
    exact ⟨bytes, hfile.trans hbytes, hdecoded⟩
  refine ⟨?_, ?_, ?_, ?_, ?_, ?_, ?_⟩
  · rw [hsame.data]
    exact hs.valid
  · rw [hsame.data, hsame.applied, hsame.base]
    exact hs.history
  · rw [hsame.applied, hsame.revision]
    exact hs.applied
  · intro bytes decoded h
    rw [hfile]
    exact hs.loaded bytes decoded (hloader bytes decoded h)
  · intro thread captured h
    rw [hsame.revision, hsame.data]
    rcases hwrites thread captured h with h | rfl
    · exact hs.current thread captured h
    · exact ⟨hs.valid, fun _ => rfl⟩
  · intro thread captured h hsucceeded
    rcases hwrites thread captured h with h | rfl
    · exact hholds _ (hs.written thread captured h hsucceeded)
    · cases hsucceeded
  · rw [hsame.revision, hsame.persistedRevision, hsame.data]
    exact fun hpos hclean => hholds _ (hs.saved hpos hclean)

theorem Contents.quiet (hs : Contents lib s) (hquiet : Quiet s t) : Contents lib t :=
  hs.same hquiet.toSameSettings hquiet.lastFile hquiet.loader hquiet.writes

/-- A setter: what a writer has captured is no longer current. -/
theorem commit_contents (hs : Contents lib s) (hcore : Core s) {mutation : Mutation}
    (hadmitted : mutation.admitted) (hdates : mutation.DatesValid)
    (hmay : s.loadActive = false ∨ s.closing = true ∨ s.shutdownRequested = true) :
    Contents lib (commit mutation now s) := by
  unfold commit
  split
  · exact hs
  · rename_i hopen
    simp only [not_or, Bool.not_eq_true] at hopen
    have hloaded : s.loadActive = false := by simpa [hopen.1, hopen.2.1] using hmay
    have hloader : s.loader.isSome = false := Bool.eq_false_iff.2 fun h => by
      simpa [hloaded] using hcore.loader h
    split
    · exact hs
    · simp only
      split
      · exact hs
      · rename_i hchanged
        have hpersisted := hcore.persisted
        have happly : Mutation.apply s.data mutation = (mutation.change s.data).2 := by
          unfold Mutation.apply
          rw [if_pos ⟨hadmitted, by simpa using hchanged⟩]
        refine ⟨change_valid hs.valid hadmitted hdates, ?_, fun _ => Nat.succ_pos _, ?_, ?_,
          hs.written, ?_⟩
        · simp only [List.foldl_append, List.foldl_cons, List.foldl_nil]
          rw [← hs.history, happly]
        · intro bytes decoded h
          simp [show s.loader = _ from h] at hloader
        · intro thread captured hwrite
          have hcaptured := hcore.writers.captured thread captured hwrite
          refine ⟨(hs.current thread captured hwrite).1, fun h => ?_⟩
          simp only at h
          omega
        · intro _ hclean
          simp only at hclean
          omega

/-- `Write` returns: on success the file is what was captured. -/
theorem write_holds (hlib : lib.Lawful) (hvalid : captured.snapshot.Valid) (succeeds : Bool)
    (s : State) : ∃ succeeded file, write lib captured succeeds s =
      ({ captured with succeeded := some succeeded }, { s with lastFile := file }) ∧
      (succeeded = true → FileHolds lib { s with lastFile := file } captured.snapshot) := by
  obtain ⟨succeeded, file, heq, hwritten, -⟩ := write_cases lib captured succeeds s
  refine ⟨succeeded, file, heq, fun h => ?_⟩
  obtain ⟨bytes, hbytes, rfl⟩ := hwritten h
  exact ⟨bytes, rfl, decodePersisted_of_encode hlib hvalid hbytes⟩

/-- The only writer has written. -/
theorem Contents.wrote (hs : Contents lib s) (hcore : Core s) {succeeded : Bool}
    {file : Option ByteArray} (hwrite : s.writeOf thread = some captured)
    (hnew : succeeded = true → FileHolds lib { s with lastFile := file } captured.snapshot)
    {calls : ThreadId → Flush} {worker : Worker}
    (hwrites : State.writeOf { s with calls, worker } =
      Function.update s.writeOf thread (some { captured with succeeded := some succeeded })) :
    Contents lib { s with calls, worker, lastFile := file } := by
  have hcaptured := hcore.writers.captured thread captured hwrite
  have hpos : s.revision ≠ 0 := by omega
  have hone : ∀ thread' captured', State.writeOf { s with calls, worker } thread' =
      some captured' → captured' = { captured with succeeded := some succeeded } := by
    intro thread' captured' h
    rw [hwrites, Function.update_apply] at h
    split at h
    · exact (Option.some.inj h).symm
    · rename_i hne
      exact absurd (hcore.writers.sole _ _ _ _ h hwrite) hne
  refine ⟨hs.valid, hs.history, hs.applied, ?_, ?_, ?_, ?_⟩
  · intro bytes decoded h
    have hloader : s.loader.isSome = true := by rw [show s.loader = _ from h]; rfl
    exact absurd (hcore.loading (hcore.loader hloader)).1 hpos
  · intro thread' captured' h
    rw [hone thread' captured' h]
    exact hs.current thread captured hwrite
  · intro thread' captured' h hsucceeded
    rw [hone thread' captured' h] at hsucceeded ⊢
    exact hnew (Option.some.inj hsucceeded)
  · intro _ hclean
    simp only at hclean
    omega

/-- The only writer has completed: what it wrote is recorded as persisted, unless the store is
fenced. -/
theorem completes_contents (hs : Contents lib s) (hcore : Core s) (henabled : Enabled s e)
    (hcompletes : s.completes e = some captured) : Contents lib (step lib s e) := by
  obtain ⟨thread, succeeded, now, calls, worker, hwrite, hsucceeded, hstep, hnone⟩ :=
    completes_cases lib hcore henabled hcompletes
  obtain ⟨persistedRevision, _, _, _, heq, hpersisted, -⟩ :=
    completeWriteLocked_cases captured.revision succeeded now s
  have hcaptured := hcore.writers.captured thread captured hwrite
  rw [hstep, heq]
  refine ⟨hs.valid, hs.history, hs.applied, hs.loaded, ?_, ?_, ?_⟩
  · exact fun thread' captured' h => nomatch (hnone thread').symm.trans h
  · exact fun thread' captured' h => nomatch (hnone thread').symm.trans h
  · intro hpos hclean
    simp only [hpersisted] at hclean
    split at hclean
    · rename_i hrecorded
      have hrevision : captured.revision = s.revision := by omega
      have hholds := hs.written thread captured hwrite (by rw [hsucceeded, hrecorded.2])
      rw [(hs.current thread captured hwrite).2 hrevision] at hholds
      exact hholds
    · omega

theorem commitLoad_contents (hs : Contents lib s) (hcore : Core s) {bytes : ByteArray}
    {decoded : DecodedSettings} (hloader : s.loader = some (.decoded bytes decoded)) (now : Nat) :
    Contents lib (commitLoad decoded now s) := by
  obtain ⟨hfile, hdecoded⟩ := hs.loaded bytes decoded hloader
  have hzero := (hcore.loading (hcore.loader (by rw [hloader]; rfl))).1
  have happlied : s.applied = [] := Decidable.byContradiction fun h => by
    have hpos := hs.applied h
    omega
  have hwrites : ∀ thread captured, s.writeOf thread ≠ some captured := by
    intro thread captured h
    have hcaptured := hcore.writers.captured thread captured h
    omega
  unfold commitLoad
  split
  · exact hs.same ⟨rfl, rfl, rfl, rfl, rfl⟩ rfl (fun _ _ h => nomatch h) fun _ _ h => .inl h
  · have hsaved : decoded.needsRewrite = false → FileHolds lib s decoded.data := fun h =>
      ⟨bytes, hfile, by rw [hdecoded, ← h]⟩
    cases hrewrite : decoded.needsRewrite with
    | true =>
      refine ⟨valid_of_decodePersisted hdecoded, ?_, fun _ => Nat.one_pos, fun _ _ h => (nomatch h),
        fun thread captured h => absurd h (hwrites thread captured),
        fun thread captured h => absurd h (hwrites thread captured), fun _ h => (nomatch h)⟩
      exact (congrArg (List.foldl Mutation.apply decoded.data) happlied).symm
    | false =>
      refine ⟨valid_of_decodePersisted hdecoded, ?_, fun _ => Nat.one_pos, fun _ _ h => (nomatch h),
        fun thread captured h => absurd h (hwrites thread captured),
        fun thread captured h => absurd h (hwrites thread captured), fun _ _ => hsaved hrewrite⟩
      exact (congrArg (List.foldl Mutation.apply decoded.data) happlied).symm

/-- The dates that a setter is given are valid. -/
def Event.DatesValid : Event → Prop
  | .commit mutation _ => mutation.DatesValid
  | _ => True

theorem step_contents (hlib : lib.Lawful) (hs : Contents lib s) (hcore : Core s)
    (henabled : Enabled s e) (hdates : e.DatesValid) : Contents lib (step lib s e) := by
  by_cases hquiet : e.IsQuiet
  · exact hs.quiet (step_quiet lib hcore henabled hquiet)
  cases e with
  | commit mutation now => exact commit_contents hs hcore henabled.1 hdates henabled.2
  | load =>
    simp only [step, load]
    split
    · exact hs
    · split
      · exact hs.same ⟨rfl, rfl, rfl, rfl, rfl⟩ rfl (fun _ _ h => h) fun _ _ h => .inl h
      · exact hs.same ⟨rfl, rfl, rfl, rfl, rfl⟩ rfl (fun _ _ h => by cases h) fun _ _ h => .inl h
  | readContent bytes =>
    have hzero := (hcore.loading (hcore.loader
      (by rw [show s.loader = some .reading from henabled]; rfl))).1
    have hpersisted := hcore.persisted
    have hwrites : ∀ thread captured, s.writeOf thread ≠ some captured := by
      intro thread captured h
      have hcaptured := hcore.writers.captured thread captured h
      omega
    simp only [step, readContent]
    split
    · exact hs.same ⟨rfl, rfl, rfl, rfl, rfl⟩ rfl (fun _ _ h => by cases h) fun _ _ h => .inl h
    · rename_i decoded hdecoded
      refine ⟨hs.valid, hs.history, hs.applied, ?_,
        fun thread captured h => absurd h (hwrites thread captured),
        fun thread captured h => absurd h (hwrites thread captured), ?_⟩
      · intro bytes' decoded' h
        cases h
        exact ⟨rfl, hdecoded⟩
      · intro hpos
        simp only at hpos
        omega
  | completeLoad =>
    obtain ⟨originalPreserved, hloader⟩ := henabled
    simp only [step, hloader]
    exact hs.same ⟨rfl, rfl, rfl, rfl, rfl⟩ rfl (fun _ _ h => by cases h) fun _ _ h => .inl h
  | commitLoad now =>
    obtain ⟨bytes, decoded, hloader⟩ := henabled
    simp only [step, hloader]
    exact commitLoad_contents hs hcore hloader now
  | write thread succeeds =>
    obtain ⟨remaining, captured, hcalls, -⟩ := henabled
    have hwrite := writeOf_of_calls hcalls
    obtain ⟨succeeded, file, heq, hholds⟩ :=
      write_holds hlib (hs.current thread captured hwrite).1 succeeds s
    have haway : s.calls thread ≠ .away := by simp [hcalls]
    have hwrites := writeOf_move_write
      (.writing remaining { captured with succeeded := some succeeded }) (hcore.worker_write haway)
    simp only [step, hcalls, heq]
    exact hs.wrote hcore hwrite hholds hwrites
  | workerWrite succeeds =>
    obtain ⟨captured, hworker, -⟩ := henabled
    have hwrite := writeOf_of_worker hcore hworker
    obtain ⟨succeeded, file, heq, hholds⟩ :=
      write_holds hlib (hs.current .worker captured hwrite).1 succeeds s
    have hwrites := writeOf_worker_write hcore (by simp [hworker])
      (.writing { captured with succeeded := some succeeded })
    simp only [step, hworker, heq]
    exact hs.wrote hcore hwrite hholds hwrites
  | completeWrite thread now =>
    have hwriting := henabled
    obtain ⟨remaining, captured, hcalls, -⟩ := hwriting
    have hcompletes : s.completes (.completeWrite thread now) = some captured := by
      simp [State.completes, hcalls, Flush.write]
    exact completes_contents hs hcore henabled hcompletes
  | workerComplete now =>
    have hwriting := henabled
    obtain ⟨captured, hworker, -⟩ := hwriting
    have hcompletes : s.completes (.workerComplete now) = some captured := by
      simp [State.completes, hworker, Worker.write]
    exact completes_contents hs hcore henabled hcompletes
  | close mode maximumAttempts =>
    exact hs.same ⟨rfl, rfl, rfl, rfl, rfl⟩ rfl (fun _ _ h => h) fun _ _ h => .inl h
  | _ => exact absurd trivial hquiet

/-! ## What is reported -/

/-- A success that the worker's last flush, and after it `Shutdown`, reports. -/
def Resulted (s : State) : Prop :=
  s.worker = .flushed true ∨ s.workerFlushResult = true ∨ s.shutdown = some (.fenced true) ∨
    s.shutdownResult = true

/-- The store has nothing to save, and no load is about to change that. -/
def State.Clean (s : State) : Prop := s.loadActive = false ∧ s.revision = s.persistedRevision

/-- The store is closing and, if it was not told to discard its changes, clean for good. -/
def Settled (s : State) : Prop := s.closing = true ∧ (s.discardRequested = false → s.Clean)

/-- The invariant of what is reported. -/
structure Reports (s : State) : Prop where
  flushing : s.worker = .flushing → s.closing = true
  spent : ∀ thread, s.calls thread = .entering 0 → 0 < s.revision
  settled : Resulted s → Settled s

theorem reports_initial : Reports {} :=
  ⟨fun h => (nomatch h), fun _ h => (nomatch h), fun h => by simp [Resulted] at h⟩

/-- A store that is closing takes no setter, and a clean one has no writer. -/
theorem settled_step (hcore : Core s) (henabled : Enabled s e) (hs : Settled s) :
    Settled (step lib s e) := by
  obtain ⟨hclosing, hclean⟩ := hs
  by_cases hquiet : e.IsQuiet
  · have h := step_quiet lib hcore henabled hquiet
    refine ⟨h.closing.trans hclosing, fun hkeep => ?_⟩
    rw [State.Clean, h.loadActive, h.revision, h.persistedRevision]
    exact hclean (h.discardRequested ▸ hkeep)
  have hloading : ∀ {loader}, s.loader = some loader → s.discardRequested = true := by
    intro loader hloader
    cases hkeep : s.discardRequested with
    | true => rfl
    | false =>
      have hloaded := hcore.loader (by rw [hloader]; rfl)
      rw [(hclean hkeep).1] at hloaded
      cases hloaded
  have hcompleted : ∀ captured, s.completes e = some captured → Settled (step lib s e) := by
    intro captured hcompletes
    obtain ⟨thread, succeeded, now, calls, worker, hwrite, -, hstep, -⟩ :=
      completes_cases lib hcore henabled hcompletes
    obtain ⟨persistedRevision, _, _, _, heq, -⟩ :=
      completeWriteLocked_cases captured.revision succeeded now s
    have hcaptured := hcore.writers.captured thread captured hwrite
    rw [hstep, heq]
    refine ⟨hclosing, fun hkeep => ?_⟩
    have hrevision := (hclean hkeep).2
    omega
  cases e with
  | commit mutation now =>
    simp only [step, commit, hclosing, true_or, if_true]
    exact ⟨hclosing, hclean⟩
  | load =>
    simp only [step, load, hclosing, true_or, or_true, if_true]
    exact ⟨hclosing, hclean⟩
  | readContent bytes =>
    simp only [step, readContent]
    split <;> exact ⟨hclosing, hclean⟩
  | completeLoad =>
    obtain ⟨originalPreserved, hloader⟩ := henabled
    simp only [step, hloader]
    exact ⟨hclosing, fun hkeep => ⟨rfl, (hclean hkeep).2⟩⟩
  | commitLoad now =>
    obtain ⟨bytes, decoded, hloader⟩ := henabled
    have hdiscard := hloading hloader
    have hcommit : (commitLoad decoded now s).closing = true ∧
        (commitLoad decoded now s).discardRequested = true := by
      unfold commitLoad
      simp only
      repeat' split
      all_goals exact ⟨hclosing, hdiscard⟩
    simp only [step, hloader]
    exact ⟨hcommit.1, fun hkeep => Bool.noConfusion (hcommit.2.symm.trans hkeep)⟩
  | write thread succeeds =>
    obtain ⟨remaining, captured, hcalls, -⟩ := henabled
    obtain ⟨_, _, heq, -⟩ := write_cases lib captured succeeds s
    simp only [step, hcalls, heq]
    exact ⟨hclosing, hclean⟩
  | workerWrite succeeds =>
    obtain ⟨captured, hworker, -⟩ := henabled
    obtain ⟨_, _, heq, -⟩ := write_cases lib captured succeeds s
    simp only [step, hworker, heq]
    exact ⟨hclosing, hclean⟩
  | completeWrite thread now =>
    have hcompletes := henabled
    obtain ⟨remaining, captured, hcalls, -⟩ := hcompletes
    exact hcompleted captured (by simp [State.completes, hcalls, Flush.write])
  | workerComplete now =>
    have hcompletes := henabled
    obtain ⟨captured, hworker, -⟩ := hcompletes
    exact hcompleted captured (by simp [State.completes, hworker, Worker.write])
  | close mode maximumAttempts => exact Bool.noConfusion (hclosing.symm.trans henabled)
  | _ => exact absurd trivial hquiet

theorem finishFlush_resulted (h : Resulted (s.finishFlush thread result)) :
    Resulted s ∨ (thread = .worker ∧ result = true) := by
  cases thread with
  | caller number => exact .inl h
  | worker =>
    rcases h with h | h
    · exact .inr ⟨rfl, by simpa [State.finishFlush] using h⟩
    · exact .inl (.inr h)

theorem finishFlush_returned {call : Call}
    (h : (s.finishFlush thread result).returned = (call, true) :: s.returned) : result = true := by
  cases thread with
  | worker => simp [State.finishFlush, State.move] at h
  | caller number =>
    simp only [State.finishFlush, State.move, List.cons.injEq, and_true, Prod.mk.injEq] at h
    exact h.2

/-- A flush that an attempt ends successfully. -/
theorem attempt_result (thread : ThreadId) (remaining : Nat) (hmay : s.MayAttempt) :
    (∃ result, attempt thread remaining s = s.finishFlush thread result ∧
      (result = true → s.discardRequested = false → s.Clean)) ∨
    ∃ captured, attempt thread remaining s =
      { s.move thread (.writing remaining captured) with writerActive := true } := by
  unfold attempt
  split
  · exact .inl ⟨false, rfl, fun h => (nomatch h)⟩
  · rename_i hopen
    rw [not_or] at hopen
    split
    · rename_i hclean
      refine .inl ⟨true, rfl, fun _ hkeep => ⟨?_, ?_⟩⟩
      · exact (hmay.resolve_left hopen.1).2
      · exact hclean.resolve_left (by simp [hkeep])
    · exact .inr ⟨_, rfl⟩

/-- A flush that goes on, or ends. -/
theorem enter_result (hcore : Core s) (hreports : Reports s)
    (hcalls : s.calls thread = .entering remaining) :
    (∃ timerArmed result, enter thread remaining s =
      State.finishFlush { s with timerArmed } thread result ∧
      (result = true → s.discardRequested = false → s.Clean)) ∨
    ∃ timerArmed writerActive flush, enter thread remaining s =
      { s.move thread flush with timerArmed, writerActive } ∧ flush ≠ .entering 0 := by
  unfold enter
  split
  · refine .inl ⟨s.timerArmed, s.revision == s.persistedRevision, rfl, fun hclean _ => ⟨?_, ?_⟩⟩
    · cases hloaded : s.loadActive with
      | false => rfl
      | true =>
        have hpos := hreports.spent thread hcalls
        have hzero := (hcore.loading hloaded).1
        omega
    · simpa using hclean
  · rename_i remaining
    simp only
    split
    · rename_i hmay
      rcases attempt_result thread remaining hmay with
        ⟨result, heq, hclean⟩ | ⟨captured, heq⟩
      · exact .inl ⟨false, result, heq, hclean⟩
      · exact .inr ⟨false, true, _, heq, by simp⟩
    · exact .inr ⟨false, s.writerActive, .waiting remaining, rfl, by simp⟩

theorem workerLook_resulted (h : Resulted (workerLook now ready s)) :
    Resulted s ∨ (s.closing = true ∧ s.discardRequested = true) := by
  unfold workerLook at h
  split at h
  · exact .inl (.inr (h.resolve_left (by simp)))
  · split at h
    · rename_i hclosing
      split at h
      · rename_i hdiscard
        exact .inr ⟨hclosing, hdiscard⟩
      · split at h
        · exact .inl (.inr (h.resolve_left (by simp)))
        · exact .inl (.inr (h.resolve_left (by simp)))
    · split at h
      · exact .inl (.inr (h.resolve_left (by simp)))
      · exact .inl h

/-- The store begins to close. -/
def Event.closes : Event → Bool
  | .close .. => true
  | _ => false

theorem Event.closes_eq_false (hquiet : e.IsQuiet) : e.closes = false := by
  cases e with
  | close => exact hquiet.elim
  | _ => rfl

/-- A store closes once, and revisions grow. -/
theorem step_monotone (lib : TextLibraries) (hcore : Core s) (henabled : Enabled s e) :
    (step lib s e).closing = (s.closing || e.closes) ∧ s.revision ≤ (step lib s e).revision := by
  have hkept : (s.closing || false) = s.closing := Bool.or_false _
  by_cases hquiet : e.IsQuiet
  · have h := step_quiet lib hcore henabled hquiet
    rw [Event.closes_eq_false hquiet, hkept]
    exact ⟨h.closing, Nat.le_of_eq h.revision.symm⟩
  have hcompleted : ∀ captured, s.completes e = some captured →
      (step lib s e).closing = s.closing ∧ s.revision ≤ (step lib s e).revision := by
    intro captured hcompletes
    obtain ⟨_, succeeded, now, _, _, -, -, hstep, -⟩ :=
      completes_cases lib hcore henabled hcompletes
    obtain ⟨_, _, _, _, heq, -⟩ := completeWriteLocked_cases captured.revision succeeded now s
    rw [hstep, heq]
    exact ⟨rfl, Nat.le_refl _⟩
  cases e with
  | commit mutation now =>
    simp only [step, commit]
    repeat' split
    all_goals first | exact ⟨hkept.symm, Nat.le_refl _⟩ | exact ⟨hkept.symm, Nat.le_succ _⟩
  | load =>
    simp only [step, load]
    repeat' split
    all_goals exact ⟨hkept.symm, Nat.le_refl _⟩
  | readContent bytes =>
    simp only [step, readContent]
    split <;> exact ⟨hkept.symm, Nat.le_refl _⟩
  | completeLoad =>
    obtain ⟨originalPreserved, hloader⟩ := henabled
    simp only [step, hloader]
    exact ⟨hkept.symm, Nat.le_refl _⟩
  | commitLoad now =>
    obtain ⟨bytes, decoded, hloader⟩ := henabled
    have hzero := (hcore.loading (hcore.loader (by rw [hloader]; rfl))).1
    simp only [step, hloader, commitLoad]
    repeat' split
    all_goals exact ⟨hkept.symm, by simp [hzero]⟩
  | write thread succeeds =>
    obtain ⟨remaining, captured, hcalls, -⟩ := henabled
    obtain ⟨_, _, heq, -⟩ := write_cases lib captured succeeds s
    simp only [step, hcalls, heq]
    exact ⟨hkept.symm, Nat.le_refl _⟩
  | workerWrite succeeds =>
    obtain ⟨captured, hworker, -⟩ := henabled
    obtain ⟨_, _, heq, -⟩ := write_cases lib captured succeeds s
    simp only [step, hworker, heq]
    exact ⟨hkept.symm, Nat.le_refl _⟩
  | completeWrite thread now =>
    have hcompletes := henabled
    obtain ⟨remaining, captured, hcalls, -⟩ := hcompletes
    exact hkept.symm ▸ hcompleted captured (by simp [State.completes, hcalls, Flush.write])
  | workerComplete now =>
    have hcompletes := henabled
    obtain ⟨captured, hworker, -⟩ := hcompletes
    exact hkept.symm ▸ hcompleted captured (by simp [State.completes, hworker, Worker.write])
  | close mode maximumAttempts => exact ⟨(Bool.or_true _).symm, Nat.le_refl _⟩
  | _ => exact absurd trivial hquiet

/-- What an event makes of the flushes and of the results, in terms of the state before it. -/
structure Moved (s t : State) : Prop where
  flushing : t.worker = .flushing → s.worker = .flushing ∨ s.closing = true
  spent : ∀ thread, t.calls thread = .entering 0 → s.calls thread = .entering 0 ∨ 0 < s.revision
  settled : Resulted t → Resulted s ∨ Settled s
  returned : ∀ call, t.returned = (call, true) :: s.returned → SameSettings s t ∧
    (s.discardRequested = false → s.revision = s.persistedRevision)

/-- An event that leaves all of them as they are. -/
theorem Moved.of_eq (hworker : t.worker = .flushing ∨ t.worker = .flushed true →
      t.worker = s.worker) (hcalls : t.calls = s.calls)
    (hresult : t.workerFlushResult = s.workerFlushResult)
    (hshutdown : t.shutdown = some (.fenced true) → s.shutdown = some (.fenced true))
    (hstored : t.shutdownResult = s.shutdownResult) (hreturned : t.returned = s.returned) :
    Moved s t := by
  refine ⟨fun h => .inl ?_, fun thread h => .inl (hcalls ▸ h), fun h => .inl ?_, ?_⟩
  · rw [← hworker (.inl h), h]
  · rcases h with h | h | h | h
    · exact .inl (by rw [← hworker (.inr h), h])
    · exact .inr (.inl (hresult ▸ h))
    · exact .inr (.inr (.inl (hshutdown h)))
    · exact .inr (.inr (.inr (hstored ▸ h)))
  · intro call h
    rw [hreturned] at h
    simp at h

theorem finishFlush_moved (hclosing : thread = .worker → s.closing = true)
    (hclean : result = true → s.discardRequested = false → s.Clean) :
    Moved s (s.finishFlush thread result) := by
  refine ⟨fun h => .inl ?_, fun thread' h => .inl ?_, fun h => ?_, fun call h => ⟨?_, ?_⟩⟩
  · cases thread with
    | caller number => exact h
    | worker => simp [State.finishFlush] at h
  · have hcalls : (s.finishFlush thread result).calls thread' =
        if thread' = thread then .away else s.calls thread' := by
      cases thread <;> exact calls_move ..
    rw [hcalls] at h
    split at h
    · cases h
    · exact h
  · exact (finishFlush_resulted h).imp_right fun hfinished =>
      ⟨hclosing hfinished.1, hclean hfinished.2⟩
  · cases thread <;> exact ⟨rfl, rfl, rfl, rfl, rfl⟩
  · exact fun hkeep => (hclean (finishFlush_returned h) hkeep).2

/-- A flush that goes on moves neither the worker's loop nor a result. -/
theorem move_moved (thread : ThreadId) {flush : Flush} (hflush : flush ≠ .entering 0)
    (timerArmed writerActive : Bool) : Moved s { s.move thread flush with timerArmed, writerActive } := by
  refine ⟨.inl, fun thread' h => .inl ?_, .inl, fun call h => by simp [State.move] at h⟩
  have hcalls : (s.move thread flush).calls thread' = .entering 0 := h
  rw [calls_move] at hcalls
  split at hcalls
  · exact absurd hcalls hflush
  · exact hcalls

theorem workerLook_moved : Moved s (workerLook now ready s) := by
  have hresulted : Resulted (workerLook now ready s) → Resulted s ∨ Settled s := fun h =>
    (workerLook_resulted h).imp_right fun ⟨hclosing, hdiscard⟩ =>
      ⟨hclosing, fun hkeep => nomatch hdiscard.symm.trans hkeep⟩
  refine ⟨?_, ?_, hresulted, ?_⟩
  · unfold workerLook
    split
    · exact fun h => nomatch h
    · split
      · rename_i hclosing
        exact fun _ => .inr hclosing
      · split
        · exact fun h => nomatch h
        · exact .inl
  · intro thread h
    have hcalls : (workerLook now ready s).calls thread = s.calls thread ∨
        (workerLook now ready s).calls thread = .entering (max s.shutdownAttempts 1) := by
      unfold workerLook
      repeat' split
      all_goals first | exact .inl rfl | skip
      simp only [calls_move]
      split
      · exact .inr rfl
      · exact .inl rfl
    rcases hcalls with hcalls | hcalls
    · exact .inl (hcalls ▸ h)
    · rw [hcalls, Flush.entering.injEq] at h
      omega
  · intro call h
    have hreturned : (workerLook now ready s).returned = s.returned := by
      unfold workerLook
      repeat' split
      all_goals rfl
    rw [hreturned] at h
    simp at h

theorem step_moved (lib : TextLibraries) (hcore : Core s) (hreports : Reports s) (henabled : Enabled s e) :
    Moved s (step lib s e) := by
  have hclosing : ∀ {thread}, s.calls thread ≠ .away → thread = .worker → s.closing = true := by
    rintro thread haway rfl
    exact hreports.flushing (hcore.flushing haway)
  cases e with
  | commit mutation now =>
    simp only [step, commit]
    repeat' split
    all_goals exact .of_eq (fun _ => rfl) rfl rfl (fun h => h) rfl rfl
  | load =>
    simp only [step, load]
    repeat' split
    all_goals exact .of_eq (fun _ => rfl) rfl rfl (fun h => h) rfl rfl
  | readContent bytes =>
    simp only [step, readContent]
    split <;> exact .of_eq (fun _ => rfl) rfl rfl (fun h => h) rfl rfl
  | readNothing | readThrew | reportThrew | preserveCorrupt preserved | stagingThrew =>
    exact .of_eq (fun _ => rfl) rfl rfl (fun h => h) rfl rfl
  | completeLoad =>
    simp only [step]
    split <;> exact .of_eq (fun _ => rfl) rfl rfl (fun h => h) rfl rfl
  | commitLoad now =>
    simp only [step]
    split
    · simp only [commitLoad]
      repeat' split
      all_goals exact .of_eq (fun _ => rfl) rfl rfl (fun h => h) rfl rfl
    · exact .of_eq (fun _ => rfl) rfl rfl (fun h => h) rfl rfl
  | flushNow number maximumAttempts ready =>
    cases ready with
    | true =>
      have hflush : Flush.entering (max maximumAttempts 1) ≠ .entering 0 := by
        rw [ne_eq, Flush.entering.injEq]
        omega
      exact move_moved (.caller number) hflush s.timerArmed s.writerActive
    | false => exact ⟨.inl, fun _ => .inl, .inl, fun call h => by simp [step] at h⟩
  | enter thread =>
    obtain ⟨remaining, hcalls⟩ := henabled
    simp only [step, hcalls]
    rcases enter_result hcore hreports hcalls with
      ⟨timerArmed, result, heq, hclean⟩ | ⟨timerArmed, writerActive, flush, heq, hflush⟩
    · have hmoved : Moved { s with timerArmed }
          (State.finishFlush { s with timerArmed } thread result) :=
        finishFlush_moved (hclosing (by simp [hcalls])) hclean
      rw [heq]
      refine ⟨hmoved.flushing, hmoved.spent, hmoved.settled, fun call h => ?_⟩
      obtain ⟨hsame, hclean⟩ := hmoved.returned call h
      exact ⟨{ hsame with }, hclean⟩
    · rw [heq]
      exact move_moved thread hflush timerArmed writerActive
  | wake thread =>
    obtain ⟨⟨remaining, hcalls⟩, hmay⟩ := henabled
    simp only [step, hcalls]
    rcases attempt_result thread remaining hmay with
      ⟨result, heq, hclean⟩ | ⟨captured, heq⟩
    · rw [heq]
      exact finishFlush_moved (hclosing (by simp [hcalls])) hclean
    · rw [heq]
      exact move_moved thread (by simp) s.timerArmed true
  | write thread succeeds =>
    obtain ⟨remaining, captured, hcalls, -⟩ := henabled
    obtain ⟨succeeded, _, heq, -⟩ := write_cases lib captured succeeds s
    have hflush : Flush.writing remaining { captured with succeeded := some succeeded } ≠
        .entering 0 := by simp
    have hmoved := move_moved (s := s) thread hflush s.timerArmed s.writerActive
    simp only [step, hcalls, heq]
    exact ⟨hmoved.flushing, hmoved.spent, hmoved.settled, fun call h => by simp [State.move] at h⟩
  | completeWrite thread now =>
    obtain ⟨remaining, ⟨revision, snapshot, _ | succeeded⟩, hcalls, hsucceeded⟩ := henabled
    · exact absurd rfl hsucceeded
    · have hcaptured := hcore.writers.captured thread _ (writeOf_of_calls hcalls)
      obtain ⟨_, _, _, _, heq, -⟩ := completeWriteLocked_cases revision succeeded now s
      simp only [step, hcalls, heq]
      exact ⟨.inl, fun _ _ => .inr (by omega), .inl, fun call h => by simp [State.move] at h⟩
  | workerLook now ready => exact workerLook_moved
  | workerWrite succeeds =>
    obtain ⟨captured, hworker, -⟩ := henabled
    obtain ⟨_, _, heq, -⟩ := write_cases lib captured succeeds s
    simp only [step, hworker, heq]
    exact .of_eq (by simp) rfl rfl (fun h => h) rfl rfl
  | workerComplete now =>
    obtain ⟨⟨revision, snapshot, _ | succeeded⟩, hworker, hsucceeded⟩ := henabled
    · exact absurd rfl hsucceeded
    · obtain ⟨_, _, _, _, heq, -⟩ := completeWriteLocked_cases revision succeeded now s
      simp only [step, hworker, heq]
      exact .of_eq (by simp) rfl rfl (fun h => h) rfl rfl
  | workerStore =>
    obtain ⟨result, hworker⟩ := henabled
    simp only [step, hworker]
    refine ⟨fun h => (by cases h), fun _ => .inl, fun h => .inl ?_, fun call h => by simp at h⟩
    rcases h with h | h | h
    · cases h
    · exact .inl (hworker.trans (congrArg Worker.flushed h))
    · exact .inr (.inr h)
  | workerFinish => exact .of_eq (by simp [step]) rfl rfl (fun h => h) rfl rfl
  | close mode maximumAttempts =>
    exact .of_eq (fun _ => rfl) rfl rfl (fun h => by cases h) rfl rfl
  | fence =>
    refine ⟨.inl, fun _ => .inl, fun h => .inl ?_, fun call h => by simp [step, fence] at h⟩
    rcases h with h | h | h | h
    · exact .inl h
    · exact .inr (.inl h)
    · refine .inr (.inl ?_)
      simp only [step, fence, Option.some.injEq, Shutdown.fenced.injEq, Bool.and_eq_true] at h
      exact h.2
    · exact .inr (.inr (.inr h))
  | completeShutdown drained =>
    obtain ⟨result, hshutdown⟩ := henabled
    simp only [step, hshutdown]
    refine ⟨.inl, fun _ => .inl, fun h => .inl ?_,
      fun call h => ⟨⟨rfl, rfl, rfl, rfl, rfl⟩, fun hkeep => ?_⟩⟩
    · rcases h with h | h | h | h
      · exact .inl h
      · exact .inr (.inl h)
      · cases h
      · exact .inr (.inr (.inl (hshutdown.trans (congrArg (some ∘ Shutdown.fenced) h))))
    · simp only [List.cons.injEq, Prod.mk.injEq, Bool.and_eq_true, and_true] at h
      obtain ⟨-, rfl, -⟩ := h
      exact ((hreports.settled (.inr (.inr (.inl hshutdown)))).2 hkeep).2
  | joinShutdown drained =>
    refine ⟨.inl, fun _ => .inl, .inl,
      fun call h => ⟨⟨rfl, rfl, rfl, rfl, rfl⟩, fun hkeep => ?_⟩⟩
    simp only [step, List.cons.injEq, Prod.mk.injEq, Bool.and_eq_true, and_true] at h
    exact ((hreports.settled (.inr (.inr (.inr h.2.1)))).2 hkeep).2

theorem step_reports (hcore : Core s) (hreports : Reports s) (henabled : Enabled s e) :
    Reports (step lib s e) := by
  have hmoved := step_moved lib hcore hreports henabled
  obtain ⟨hclosing, hrevision⟩ := step_monotone lib hcore henabled
  refine ⟨fun h => ?_, fun thread h => Nat.lt_of_lt_of_le ?_ hrevision, fun h => ?_⟩
  · rw [hclosing, (hmoved.flushing h).elim hreports.flushing id, Bool.true_or]
  · exact (hmoved.spent thread h).elim (hreports.spent thread) id
  · exact settled_step hcore henabled ((hmoved.settled h).elim hreports.settled id)

/-! ## In every run -/

/-- The invariant of the store and its file. -/
structure Saved (lib : TextLibraries) (s : State) : Prop where
  inv : Inv s
  contents : Contents lib s
  reports : Reports s

theorem saved_initial (lib : TextLibraries) : Saved lib {} :=
  ⟨inv_initial, contents_initial lib, reports_initial⟩

theorem step_saved (hlib : lib.Lawful) (s : State) (e : Event)
    (hok : Enabled s e ∧ e.DatesValid) (hs : Saved lib s) : Saved lib (step lib s e) :=
  ⟨step_inv lib s e hok.1 hs.inv, step_contents hlib hs.contents hs.inv.core hok.1 hok.2,
    step_reports hs.inv.core hs.reports hok.1⟩

/-- What an event may report and change. A call of `FlushNow` or `Shutdown` that returns true, of a
store that was not told to discard its changes, leaves a file that holds every setter applied so far;
and once the store is fenced no event changes the settings or a revision. -/
structure Truthful (lib : TextLibraries) (s : State) (e : Event) : Prop where
  reported : ∀ call, (step lib s e).returned = (call, true) :: s.returned →
    s.discardRequested = false → s.applied ≠ [] →
      FileHolds lib (step lib s e) (s.applied.foldl Mutation.apply s.base)
  fenced : s.shutdownRequested = true → (step lib s e).data = s.data ∧
    (step lib s e).revision = s.revision ∧ (step lib s e).persistedRevision = s.persistedRevision

/-- A fenced store keeps its settings and its revisions. -/
theorem fenced_same (hcore : Core s) (henabled : Enabled s e) (hfence : s.shutdownRequested = true) :
    (step lib s e).data = s.data ∧ (step lib s e).revision = s.revision ∧
      (step lib s e).persistedRevision = s.persistedRevision := by
  cases hcompletes : s.completes e with
  | some captured =>
    obtain ⟨_, succeeded, now, _, _, -, -, hstep, -⟩ :=
      completes_cases lib hcore henabled hcompletes
    obtain ⟨_, _, _, _, heq, hpersisted, -⟩ :=
      completeWriteLocked_cases captured.revision succeeded now s
    rw [hstep, heq]
    exact ⟨rfl, rfl, by simpa [hfence] using hpersisted⟩
  | none =>
    by_cases hcommit : ∃ mutation now, e = .commit mutation now
    · obtain ⟨mutation, now, rfl⟩ := hcommit
      simp [step, commit, hfence]
    by_cases hload : ∃ now, e = .commitLoad now
    · obtain ⟨now, rfl⟩ := hload
      obtain ⟨bytes, decoded, hloader⟩ := henabled
      simp [step, hloader, commitLoad, hfence]
    have hsame := step_same lib hcore henabled (by simpa using hcommit)
      (by simpa using hload) hcompletes
    exact ⟨hsame.data, hsame.revision, hsame.persistedRevision⟩

theorem truthful (hlib : lib.Lawful) (hs : Saved lib s) (hok : Enabled s e ∧ e.DatesValid) :
    Truthful lib s e := by
  refine ⟨fun call hreturned hkeep happlied => ?_, fenced_same hs.inv.core hok.1⟩
  obtain ⟨hsame, hclean⟩ := (step_moved lib hs.inv.core hs.reports hok.1).returned call hreturned
  have hnext := step_contents hlib hs.contents hs.inv.core hok.1 hok.2
  have hpos := hs.contents.applied happlied
  have hholds := hnext.saved (by rw [hsame.revision]; exact hpos)
    (by rw [hsame.revision, hsame.persistedRevision]; exact hclean hkeep)
  rwa [hsame.data, hs.contents.history] at hholds

/-- In every reachable state of a store that was given valid dates: a clean store's file decodes to
the settings; and at every step, a reported success has all applied setters in the file, and a fenced
store keeps its settings and revisions. -/
theorem saved_means_on_disk (hlib : lib.Lawful) (events : List Event)
    (hrun : (settingsStore lib).Run {} events) (hdates : ∀ e ∈ events, e.DatesValid) :
    (∀ s, s = (settingsStore lib).exec {} events → s.revision = s.persistedRevision →
      0 < s.persistedRevision → FileHolds lib s s.data) ∧
    (settingsStore lib).Always (Truthful lib) {} events := by
  have hok := hrun.and (EventSystem.always_of_forall hdates)
  have htruthful : ∀ s e, Enabled s e ∧ e.DatesValid → Saved lib s → Truthful lib s e :=
    fun s e hok hs => truthful hlib hs hok
  refine ⟨?_, hok.of_invariant (step_saved hlib) htruthful (saved_initial lib)⟩
  rintro s rfl hclean hpos
  have hs : Saved lib ((settingsStore lib).exec {} events) :=
    hok.invariant (step_saved hlib) (saved_initial lib)
  exact hs.contents.saved (hclean ▸ hpos) hclean

/-- A flush whose write the storage lets succeed. -/
theorem step_write_succeeds {bytes : ByteArray}
    (hcalls : s.calls thread = .writing remaining captured)
    (hbytes : encode lib captured.snapshot = some bytes) :
    step lib s (.write thread true) = { s with
      lastFile := some bytes
      calls := Function.update s.calls thread
        (.writing remaining { captured with succeeded := some true }) } := by
  simp [step, hcalls, write, hbytes, State.move]

/-- A change, and a call of `FlushNow` that captures it. -/
def flushingEvents : List Event :=
  [.commit (.setStartWithWindows true) 0, .flushNow 0 1 true, .enter (.caller 0)]

/-- The call completes its write, and returns. -/
def flushedEvents : List Event := [.completeWrite (.caller 0) 5, .enter (.caller 0)]

/-- The store when the call has returned. -/
def flushedStore : State := (settingsStore textLibraries).exec {}
  (flushingEvents ++ .write (.caller 0) true :: flushedEvents)

/-- A change is made and flushed: `FlushNow` returns true, and the file has it. -/
theorem saved_means_on_disk_flush : flushedStore.returned = [(.flushNow 0, true)] ∧
    FileHolds textLibraries flushedStore { startWithWindows := true } := by
  have hs : flushedStore = (settingsStore textLibraries).exec {}
    (flushingEvents ++ .write (.caller 0) true :: flushedEvents) := by rw [flushedStore]
  have hvalid : SettingsData.Valid { startWithWindows := true } :=
    ⟨{ valid_default.persistable with }, valid_default.ratingPrompt⟩
  obtain ⟨bytes, hbytes⟩ := hvalid.encode_isSome lawful_textLibraries
  have hcalls : ((settingsStore textLibraries).exec {} flushingEvents).calls (.caller 0) =
      .writing 0 { revision := 1, snapshot := { startWithWindows := true } } := rfl
  -- The only step that encodes is taken by its lemma, not by evaluation.
  have hwrite := step_write_succeeds hcalls hbytes
  have hstep : (settingsStore textLibraries).step = step textLibraries := rfl
  have hrun : (settingsStore textLibraries).Run {}
      (flushingEvents ++ .write (.caller 0) true :: flushedEvents) := by
    rw [EventSystem.run_append]
    refine ⟨⟨⟨trivial, .inl rfl⟩, rfl, ⟨1, rfl⟩, trivial⟩, ⟨0, _, hcalls, rfl⟩, ?_⟩
    rw [hstep, hwrite]
    exact ⟨⟨0, _, rfl, by simp⟩, ⟨0, rfl⟩, trivial⟩
  have hdates : ∀ e ∈ flushingEvents ++ .write (.caller 0) true :: flushedEvents,
      e.DatesValid := by
    simp [flushingEvents, flushedEvents, Event.DatesValid, Mutation.DatesValid]
  have hsaved := (saved_means_on_disk lawful_textLibraries _ hrun hdates).1 flushedStore hs
  rw [EventSystem.exec_append, EventSystem.exec_cons, hstep, hwrite] at hs
  obtain ⟨hdata, hrevision, hpersisted, hreturned⟩ :
      flushedStore.data = { startWithWindows := true } ∧ flushedStore.revision = 1 ∧
        flushedStore.persistedRevision = 1 ∧ flushedStore.returned = [(.flushNow 0, true)] := by
    rw [hs]
    exact ⟨rfl, rfl, rfl, rfl⟩
  refine ⟨hreturned, ?_⟩
  rw [← hdata]
  exact hsaved (hrevision.trans hpersisted.symm) (by rw [hpersisted]; exact Nat.one_pos)

end Store

end PlaybackConnector.Settings
