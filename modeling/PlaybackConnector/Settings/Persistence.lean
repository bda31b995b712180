import PlaybackConnector.Settings.Store
import Mathlib

/-!
# A dirty store has persistence on the way

The invariant of the store's persistence (`Inv`): at most one thread writes, and exactly while
`writerActive` is set; what it captured is newer than what is persisted (`Writers`); a load is under
way only while the revision is zero, so neither it nor a preservation that failed meets a dirty
store (`Core`); and a store that is dirty and not closing has its timer armed, a writer, or a flush
that waits to write (`Covered`).
-/

namespace PlaybackConnector.Settings

namespace Store

variable {lib : TextLibraries} {s : State} {thread : ThreadId} {remaining now : Nat}
  {captured captured' : Write} {succeeds result ready : Bool} {e : Event}

/-! ## Writers -/

/-- The writes under way, each by its thread, next to the revisions that they are about. -/
structure Writers (writes : ThreadId → Option Write) (writerActive : Bool)
    (persistedRevision revision : Nat) : Prop where
  sole : ∀ thread thread' captured captured', writes thread = some captured →
    writes thread' = some captured' → thread = thread'
  active : writerActive = true ↔ ∃ thread captured, writes thread = some captured
  captured : ∀ thread captured, writes thread = some captured →
    persistedRevision < captured.revision ∧ captured.revision ≤ revision

namespace Writers

variable {writes : ThreadId → Option Write} {writerActive : Bool} {persisted revision : Nat}

theorem eq_none (h : Writers writes false persisted revision) (thread : ThreadId) :
    writes thread = none := by
  cases hwrite : writes thread with
  | none => rfl
  | some captured => exact absurd (h.active.2 ⟨thread, captured, hwrite⟩) (by decide)

/-- A writer begins when there is none. -/
theorem begin (h : Writers writes false persisted revision)
    (hcaptured : persisted < captured.revision ∧ captured.revision ≤ revision) :
    Writers (Function.update writes thread (some captured)) true persisted revision := by
  have hone : ∀ thread' captured', Function.update writes thread (some captured) thread' =
      some captured' → thread' = thread ∧ captured' = captured := by
    intro thread' captured' hwrite
    by_cases heq : thread' = thread
    · subst heq
      rw [Function.update_self] at hwrite
      exact ⟨rfl, (Option.some.inj hwrite).symm⟩
    · rw [Function.update_of_ne heq, h.eq_none] at hwrite
      cases hwrite
  refine ⟨?_, ?_, ?_⟩
  · intro thread₁ thread₂ captured₁ captured₂ h₁ h₂
    rw [(hone _ _ h₁).1, (hone _ _ h₂).1]
  · exact iff_of_true rfl ⟨thread, captured, Function.update_self ..⟩
  · intro thread' captured' hwrite
    rw [(hone _ _ hwrite).2]
    exact hcaptured

/-- When the writer ends, nothing is under way. -/
theorem finish_eq_none (h : Writers writes writerActive persisted revision)
    (hwrite : writes thread = some captured) (thread' : ThreadId) :
    Function.update writes thread none thread' = none := by
  by_cases heq : thread' = thread
  · rw [heq, Function.update_self]
  · rw [Function.update_of_ne heq]
    cases hother : writes thread' with
    | none => rfl
    | some captured' => exact absurd (h.sole _ _ _ _ hother hwrite) heq

theorem finish (h : Writers writes writerActive persisted revision)
    (hwrite : writes thread = some captured) (persisted' : Nat) :
    Writers (Function.update writes thread none) false persisted' revision := by
  have hnone := h.finish_eq_none hwrite
  refine ⟨?_, ?_, ?_⟩
  · intro thread' _ _ _ h₁
    rw [hnone] at h₁
    cases h₁
  · simp [hnone]
  · intro thread' _ h₁
    rw [hnone] at h₁
    cases h₁

/-- The writer goes on with the revision that it captured. -/
theorem replace (h : Writers writes writerActive persisted revision)
    (hwrite : writes thread = some captured) (hrevision : captured'.revision = captured.revision) :
    Writers (Function.update writes thread (some captured')) writerActive persisted revision := by
  have hback : ∀ thread' captured₁, Function.update writes thread (some captured') thread' =
      some captured₁ → ∃ captured₂, writes thread' = some captured₂ ∧
        captured₂.revision = captured₁.revision := by
    intro thread' captured₁ h₁
    by_cases heq : thread' = thread
    · subst heq
      rw [Function.update_self] at h₁
      cases h₁
      exact ⟨captured, hwrite, hrevision.symm⟩
    · rw [Function.update_of_ne heq] at h₁
      exact ⟨captured₁, h₁, rfl⟩
  refine ⟨?_, ?_, ?_⟩
  · intro thread₁ thread₂ _ _ h₁ h₂
    obtain ⟨_, h₁, -⟩ := hback _ _ h₁
    obtain ⟨_, h₂, -⟩ := hback _ _ h₂
    exact h.sole _ _ _ _ h₁ h₂
  · exact iff_of_true (h.active.2 ⟨thread, captured, hwrite⟩)
      ⟨thread, captured', Function.update_self ..⟩
  · intro thread' captured₁ h₁
    obtain ⟨captured₂, h₂, heq⟩ := hback _ _ h₁
    rw [← heq]
    exact h.captured _ _ h₂

theorem mono (h : Writers writes writerActive persisted revision) {revision' : Nat}
    (hle : revision ≤ revision') : Writers writes writerActive persisted revision' :=
  ⟨h.sole, h.active, fun thread captured hwrite =>
    (h.captured thread captured hwrite).imp_right fun h => Nat.le_trans h hle⟩

end Writers

/-- The write of the worker's loop. -/
def Worker.write : Worker → Option Write
  | .writing captured => some captured
  | _ => none

/-- The write of a flush. -/
def Flush.write : Flush → Option Write
  | .writing _ captured => some captured
  | _ => none

/-- The write that a thread has under way. -/
def State.writeOf (s : State) (thread : ThreadId) : Option Write :=
  match (s.calls thread).write with
  | some captured => some captured
  | none => if thread = .worker then s.worker.write else none

/-- The invariant of the writers and the load. -/
structure Core (s : State) : Prop where
  writers : Writers s.writeOf s.writerActive s.persistedRevision s.revision
  persisted : s.persistedRevision ≤ s.revision
  loading : s.loadActive = true →
    s.revision = 0 ∧ s.loadClaimed = true ∧ s.preservationFailed = false
  loader : s.loader.isSome = true → s.loadActive = true
  preservation : s.preservationFailed = true → s.revision = 0 ∧ s.loadClaimed = true
  fenced : s.shutdownRequested = true → s.closing = true
  discard : s.discardRequested = true → s.closing = true
  shutdown : s.shutdown.isSome = true → s.closing = true
  flushing : s.calls .worker ≠ .away → s.worker = .flushing

/-- Somebody will write the store if it is dirty. -/
def Covered (s : State) : Prop :=
  s.revision ≠ s.persistedRevision → s.closing = false →
    s.timerArmed = true ∨ s.writerActive = true ∨
      ∃ thread remaining, s.calls thread = .waiting remaining

/-- The invariant of the persistence. -/
structure Inv (s : State) : Prop where
  core : Core s
  covered : Covered s

theorem inv_initial : Inv {} := by
  have hnone : ∀ thread, ({} : State).writeOf thread = none := fun thread => by
    simp [State.writeOf, Flush.write, Worker.write]
  refine ⟨⟨⟨?_, ?_, ?_⟩, Nat.le_refl _, ?_, ?_, ?_, ?_, ?_, ?_, ?_⟩, fun h => absurd rfl h⟩
  · intro thread thread' captured captured' h
    rw [hnone] at h
    cases h
  · simp [hnone]
  · intro thread captured h
    rw [hnone] at h
    cases h
  all_goals simp

/-! ## Calls -/

theorem calls_move (thread' : ThreadId) (flush : Flush) :
    (s.move thread flush).calls thread' = if thread' = thread then flush else s.calls thread' := by
  simp [State.move, Function.update_apply]

/-- A thread whose call has no write before or after. -/
theorem writeOf_move (flush : Flush) (hold : (s.calls thread).write = none)
    (hnew : flush.write = none) : (s.move thread flush).writeOf = s.writeOf := by
  funext thread'
  unfold State.writeOf
  rw [calls_move]
  by_cases h : thread' = thread
  · subst h
    rw [if_pos rfl, hnew, hold]
    rfl
  · rw [if_neg h]
    rfl

/-- The worker, whose loop has no write before or after. -/
theorem writeOf_worker (worker : Worker) (hold : s.worker.write = none)
    (hnew : worker.write = none) : State.writeOf { s with worker } = s.writeOf := by
  funext thread'
  simp only [State.writeOf, hold, hnew]

theorem writeOf_of_calls (h : s.calls thread = .writing remaining captured) :
    s.writeOf thread = some captured := by
  simp [State.writeOf, h, Flush.write]

/-- A flush whose thread is not in the worker's loop gets, changes or loses its write. -/
theorem writeOf_move_write (flush : Flush) (hthread : thread = .worker → s.worker.write = none) :
    (s.move thread flush).writeOf = Function.update s.writeOf thread flush.write := by
  funext thread'
  unfold State.writeOf
  rw [calls_move, Function.update_apply]
  by_cases h : thread' = thread
  · subst h
    rw [if_pos rfl, if_pos rfl]
    cases hwrite : flush.write with
    | some captured => rfl
    | none =>
      by_cases hworker : thread' = .worker
      · simpa [hworker, State.move] using hthread hworker
      · simp [hworker]
  · rw [if_neg h, if_neg h]
    rfl

theorem Core.move (hs : Core s) {flush : Flush} (hold : (s.calls thread).write = none)
    (hnew : flush.write = none) (hflushing : flush ≠ .away → thread = .worker →
      s.worker = .flushing) : Core (s.move thread flush) := by
  refine { hs with writers := ?_, flushing := ?_ }
  · rw [writeOf_move flush hold hnew]
    exact hs.writers
  · intro haway
    rw [calls_move] at haway
    split at haway
    · rename_i h
      exact hflushing haway h.symm
    · exact hs.flushing haway

theorem Covered.move (hs : Covered s) {flush : Flush}
    (hold : ∀ remaining, s.calls thread ≠ .waiting remaining) : Covered (s.move thread flush) := by
  intro hdirty hopen
  rcases hs hdirty hopen with h | h | ⟨thread', remaining, h⟩
  · exact .inl h
  · exact .inr (.inl h)
  · refine .inr (.inr ⟨thread', remaining, ?_⟩)
    rw [calls_move, if_neg]
    · exact h
    · rintro rfl
      exact hold remaining h

/-- The worker in `FlushSynchronously` has no write in its loop. -/
theorem Core.worker_write (hs : Core s) (h : s.calls thread ≠ .away) :
    thread = .worker → s.worker.write = none := by
  rintro rfl
  rw [hs.flushing h]
  rfl

theorem Core.flushing_move (hs : Core s) {flush : Flush} (haway : s.calls thread ≠ .away) :
    (s.move thread flush).calls .worker ≠ .away → s.worker = .flushing := by
  intro hcalls
  by_cases h : thread = .worker
  · subst h
    exact hs.flushing haway
  · refine hs.flushing ?_
    rwa [calls_move, if_neg (Ne.symm h)] at hcalls

theorem writeOf_finishFlush (hs : Core s) (hold : (s.calls thread).write = none)
    (haway : s.calls thread ≠ .away) (result : Bool) :
    (s.finishFlush thread result).writeOf = s.writeOf := by
  have hmove : (s.move thread .away).writeOf = s.writeOf := writeOf_move .away hold rfl
  cases thread with
  | caller number => exact hmove
  | worker =>
    have hworker : (s.finishFlush .worker result).writeOf = (s.move .worker .away).writeOf :=
      writeOf_worker (s := s.move .worker .away) _ (hs.worker_write haway rfl) rfl
    exact hworker.trans hmove

theorem finishFlush_core (hs : Core s) (hold : (s.calls thread).write = none)
    (haway : s.calls thread ≠ .away) (result : Bool) : Core (s.finishFlush thread result) := by
  have hmove : Core (s.move thread .away) := hs.move hold rfl (absurd rfl)
  have hwrite := writeOf_finishFlush hs hold haway result
  cases thread with
  | caller number => exact { hmove with }
  | worker =>
    refine { hmove with writers := ?_, flushing := ?_ }
    · rw [hwrite]
      exact hs.writers
    · intro hcalls
      refine absurd ?_ hcalls
      simp [State.finishFlush, State.move]

theorem finishFlush_covered (hs : Covered s)
    (hold : ∀ remaining, s.calls thread ≠ .waiting remaining) (result : Bool) :
    Covered (s.finishFlush thread result) := by
  cases thread with
  | caller number => exact hs.move hold
  | worker => exact hs.move hold

@[simp] theorem closing_finishFlush : (s.finishFlush thread result).closing = s.closing := by
  cases thread <;> rfl

@[simp] theorem revision_finishFlush : (s.finishFlush thread result).revision = s.revision := by
  cases thread <;> rfl

@[simp] theorem persistedRevision_finishFlush :
    (s.finishFlush thread result).persistedRevision = s.persistedRevision := by
  cases thread <;> rfl

/-- A store that is closing or clean needs nobody. -/
theorem covered_of (h : s.closing = true ∨ s.revision = s.persistedRevision) : Covered s := by
  intro hdirty hopen
  rcases h with h | h
  · rw [hopen] at h
    cases h
  · exact absurd h hdirty

/-! ## Critical sections -/

theorem attempt_inv (hs : Core s) (hmay : s.MayAttempt) (hold : (s.calls thread).write = none)
    (haway : s.calls thread ≠ .away) : Inv (attempt thread remaining s) := by
  unfold attempt
  split
  · rename_i hrefused
    refine ⟨finishFlush_core hs hold haway false, covered_of ?_⟩
    rw [closing_finishFlush, revision_finishFlush, persistedRevision_finishFlush]
    rcases hrefused with h | h
    · exact .inl (hs.fenced h)
    · have hzero := (hs.preservation h).1
      have hle := hs.persisted
      exact .inr (by omega)
  · rename_i hopen
    rw [not_or] at hopen
    split
    · rename_i hclean
      refine ⟨finishFlush_core hs hold haway true, covered_of ?_⟩
      rw [closing_finishFlush, revision_finishFlush, persistedRevision_finishFlush]
      exact hclean.imp_left hs.discard
    · rename_i hdirty
      rw [not_or] at hdirty
      obtain ⟨hidle, hloaded⟩ := hmay.resolve_left (by simpa using hopen.1)
      have hlt : s.persistedRevision < s.revision :=
        Nat.lt_of_le_of_ne hs.persisted (Ne.symm hdirty.2)
      have hwriters := hs.writers
      rw [hidle] at hwriters
      have hbegin : Writers
          (s.move thread (.writing remaining { revision := s.revision, snapshot := s.data })).writeOf
          true s.persistedRevision s.revision := by
        rw [writeOf_move_write _ (hs.worker_write haway)]
        exact hwriters.begin ⟨hlt, Nat.le_refl _⟩
      exact ⟨{ hs with writers := hbegin, flushing := hs.flushing_move haway },
        fun _ _ => .inr (.inl rfl)⟩

theorem enter_inv (hs : Inv s) (hcalls : s.calls thread = .entering remaining) :
    Inv (enter thread remaining s) := by
  have hold : (s.calls thread).write = none := by rw [hcalls]; rfl
  have haway : s.calls thread ≠ .away := by simp [hcalls]
  have hnot : ∀ remaining, s.calls thread ≠ .waiting remaining := by simp [hcalls]
  unfold enter
  split
  · exact ⟨finishFlush_core hs.core hold haway _, finishFlush_covered hs.covered hnot _⟩
  · rename_i remaining
    have hcore : Core { s with timerArmed := false } := { hs.core with }
    simp only
    split
    · rename_i hmay
      exact attempt_inv hcore hmay hold haway
    · refine ⟨hcore.move hold rfl fun _ hthread => ?_, fun _ _ => ?_⟩
      · subst hthread
        exact hs.core.flushing haway
      · exact .inr (.inr ⟨thread, remaining, (calls_move _ _).trans (if_pos rfl)⟩)

/-- What the completion of a write can do to the store. -/
theorem completeWriteLocked_cases (revision : Nat) (succeeded : Bool) (now : Nat) (s : State) :
    ∃ persistedRevision failures timerArmed due,
      completeWriteLocked revision succeeded now s =
        { s with writerActive := false, persistedRevision, failures, timerArmed, due } ∧
      persistedRevision = (if s.shutdownRequested = false ∧ succeeded = true then
        max s.persistedRevision revision else s.persistedRevision) ∧
      (s.shutdownRequested = false → s.closing = false → s.revision ≠ persistedRevision →
        timerArmed = true) := by
  unfold completeWriteLocked
  simp only
  split
  · rename_i hfenced
    exact ⟨_, _, _, _, rfl, by simp [hfenced], by simp [hfenced]⟩
  · rename_i hopen
    split
    · rename_i hsucceeded
      split
      · exact ⟨_, _, _, _, rfl, by simp [hopen, hsucceeded], fun _ _ _ => rfl⟩
      · rename_i hclean
        refine ⟨_, _, _, _, rfl, by simp [hopen, hsucceeded], fun h₁ h₂ h₃ => ?_⟩
        exact absurd ⟨h₃, by simp [h₁], by simp [h₂]⟩ hclean
    · rename_i hfailed
      split
      · exact ⟨_, _, _, _, rfl, by simp [hfailed], fun _ _ _ => rfl⟩
      · rename_i hclosing
        refine ⟨_, _, _, _, rfl, by simp [hfailed], fun h₁ h₂ _ => ?_⟩
        exact absurd ⟨by simp [h₁], by simp [h₂]⟩ hclosing

/-- What `Write` can do: it keeps what was captured, and leaves the store but for the file. -/
theorem write_cases (lib : TextLibraries) (captured : Write) (succeeds : Bool) (s : State) :
    ∃ succeeded file, write lib captured succeeds s =
      ({ captured with succeeded := some succeeded }, { s with lastFile := file }) ∧
      (succeeded = true → ∃ bytes, encode lib captured.snapshot = some bytes ∧
        file = some bytes) ∧
      (succeeded = false → file = s.lastFile) := by
  unfold write
  split
  · exact ⟨false, s.lastFile, rfl, by simp, fun _ => rfl⟩
  · rename_i bytes hbytes
    split
    · exact ⟨true, some bytes, rfl, fun _ => ⟨bytes, hbytes, rfl⟩, by simp⟩
    · exact ⟨false, s.lastFile, rfl, by simp, fun _ => rfl⟩

theorem writing_inv (hs : Inv s) (hcalls : s.calls thread = .writing remaining captured)
    (hrevision : captured'.revision = captured.revision) :
    Inv (s.move thread (.writing remaining captured')) := by
  have haway : s.calls thread ≠ .away := by simp [hcalls]
  refine ⟨{ hs.core with writers := ?_, flushing := hs.core.flushing_move haway },
    hs.covered.move (by simp [hcalls])⟩
  rw [writeOf_move_write _ (hs.core.worker_write haway)]
  exact hs.core.writers.replace (writeOf_of_calls hcalls) hrevision

theorem write_inv (hs : Inv s) (hcalls : s.calls thread = .writing remaining captured) :
    Inv (step lib s (.write thread succeeds)) := by
  obtain ⟨succeeded, file, heq, -⟩ := write_cases lib captured succeeds s
  have hmove : Inv (s.move thread
      (.writing remaining { captured with succeeded := some succeeded })) :=
    writing_inv hs hcalls rfl
  simp only [step, hcalls, heq]
  exact ⟨{ hmove.core with }, hmove.covered⟩

/-- The end of the only write, of a flush or of the worker's loop, whose thread goes on. -/
theorem completed_inv (hs : Inv s) (hwrite : s.writeOf thread = some captured) (succeeded : Bool)
    (now : Nat) {calls : ThreadId → Flush} {worker : Worker}
    (hflushing : calls .worker ≠ .away → worker = .flushing)
    (hwrites : State.writeOf { s with calls, worker } = Function.update s.writeOf thread none) :
    Inv { completeWriteLocked captured.revision succeeded now s with calls, worker } := by
  obtain ⟨persistedRevision, failures, timerArmed, due, heq, hpersisted, harmed⟩ :=
    completeWriteLocked_cases captured.revision succeeded now s
  have hcaptured := hs.core.writers.captured thread captured hwrite
  have hle : persistedRevision ≤ s.revision := by
    have hold := hs.core.persisted
    rw [hpersisted]
    split <;> omega
  have hwriters : Writers (State.writeOf { s with calls, worker }) false persistedRevision
      s.revision := by
    rw [hwrites]
    exact hs.core.writers.finish hwrite persistedRevision
  rw [heq]
  refine ⟨{ hs.core with writers := hwriters, persisted := hle, flushing := hflushing }, ?_⟩
  intro hdirty hopen
  have hfence : s.shutdownRequested = false := by
    cases hrequested : s.shutdownRequested with
    | false => rfl
    | true => exact absurd (hs.core.fenced hrequested) (by simpa using hopen)
  exact .inl (harmed hfence hopen hdirty)

theorem completeWrite_inv (hs : Inv s) (hcalls : s.calls thread = .writing remaining captured)
    (hsucceeded : captured.succeeded ≠ none) : Inv (step lib s (.completeWrite thread now)) := by
  obtain ⟨revision, snapshot, _ | succeeded⟩ := captured
  · exact absurd rfl hsucceeded
  have haway : s.calls thread ≠ .away := by simp [hcalls]
  have hwrite := writeOf_of_calls hcalls
  simp only [step, hcalls]
  have hmove : Inv { completeWriteLocked revision succeeded now s with
      calls := Function.update s.calls thread (.entering remaining), worker := s.worker } := by
    exact completed_inv hs hwrite succeeded now (hs.core.flushing_move haway)
      (writeOf_move_write (.entering remaining) (hs.core.worker_write haway))
  obtain ⟨_, _, _, _, heq, -⟩ := completeWriteLocked_cases revision succeeded now s
  rw [heq] at hmove ⊢
  exact hmove

theorem worker_away (hs : Core s) (h : s.worker ≠ .flushing) : s.calls .worker = .away :=
  Decidable.byContradiction fun hcalls => h (hs.flushing hcalls)

theorem writeOf_of_worker (hs : Core s) (h : s.worker = .writing captured) :
    s.writeOf .worker = some captured := by
  simp [State.writeOf, worker_away hs (by simp [h]), h, Flush.write, Worker.write]

/-- The worker's loop gets, changes or loses its write. -/
theorem writeOf_worker_write (hs : Core s) (h : s.worker ≠ .flushing) (worker : Worker) :
    State.writeOf { s with worker } = Function.update s.writeOf .worker worker.write := by
  funext thread
  rw [Function.update_apply]
  split
  · rename_i hthread
    subst hthread
    simp [State.writeOf, worker_away hs h, Flush.write]
  · rename_i hthread
    simp [State.writeOf, hthread]

theorem workerWrite_inv (hs : Inv s) (hworker : s.worker = .writing captured) :
    Inv (step lib s (.workerWrite succeeds)) := by
  obtain ⟨succeeded, file, heq, -⟩ := write_cases lib captured succeeds s
  have hnot : s.worker ≠ .flushing := by simp [hworker]
  have hwriters : Writers (State.writeOf { s with
      worker := .writing { captured with succeeded := some succeeded } }) s.writerActive
      s.persistedRevision s.revision := by
    rw [writeOf_worker_write hs.core hnot]
    exact hs.core.writers.replace (writeOf_of_worker hs.core hworker) rfl
  simp only [step, hworker, heq]
  refine ⟨{ hs.core with writers := hwriters, flushing := ?_ }, hs.covered⟩
  exact fun hcalls => absurd (worker_away hs.core hnot) hcalls

theorem workerComplete_inv (hs : Inv s) (hworker : s.worker = .writing captured)
    (hsucceeded : captured.succeeded ≠ none) : Inv (step lib s (.workerComplete now)) := by
  obtain ⟨revision, snapshot, _ | succeeded⟩ := captured
  · exact absurd rfl hsucceeded
  have hnot : s.worker ≠ .flushing := by simp [hworker]
  simp only [step, hworker]
  have hmove : Inv { completeWriteLocked revision succeeded now s with
      calls := s.calls, worker := .looping } :=
    completed_inv hs (writeOf_of_worker hs.core hworker) succeeded now
      (fun hcalls => absurd (worker_away hs.core hnot) hcalls)
      (writeOf_worker_write hs.core hnot .looping)
  obtain ⟨_, _, _, _, heq, -⟩ := completeWriteLocked_cases revision succeeded now s
  rw [heq] at hmove ⊢
  exact hmove

/-- The worker goes on at a place where it writes nothing. -/
theorem worker_inv (hs : Inv s) (haway : s.calls .worker = .away) (hold : s.worker.write = none)
    {worker : Worker} (hnew : worker.write = none) : Inv { s with worker } := by
  refine ⟨{ hs.core with writers := ?_, flushing := fun hcalls => absurd haway hcalls },
    hs.covered⟩
  rw [writeOf_worker worker hold hnew]
  exact hs.core.writers

theorem workerLook_inv (hs : Inv s) (hworker : s.worker = .looping) (now : Nat) (ready : Bool) :
    Inv (workerLook now ready s) := by
  have haway : s.calls .worker = .away := worker_away hs.core (by simp [hworker])
  have hold : s.worker.write = none := by rw [hworker]; rfl
  have hcalls : (s.calls .worker).write = none := by rw [haway]; rfl
  unfold workerLook
  split
  · exact worker_inv hs haway hold rfl
  · split
    · rename_i hclosing
      split
      · exact worker_inv hs haway hold rfl
      · split
        · have hwriters : Writers (State.writeOf
              { s.move .worker (.entering (max s.shutdownAttempts 1)) with worker := .flushing })
              s.writerActive s.persistedRevision s.revision := by
            have hmove := writeOf_move (.entering (max s.shutdownAttempts 1)) hcalls rfl
            have hwrite := (writeOf_worker (s := s.move .worker (.entering _)) .flushing hold rfl).trans
              hmove
            exact hwrite ▸ hs.core.writers
          exact ⟨{ hs.core with writers := hwriters, flushing := fun _ => rfl },
            covered_of (.inl hclosing)⟩
        · exact worker_inv hs haway hold rfl
    · split
      · rename_i hdue
        obtain ⟨-, -, hidle, -, hdirty, -⟩ := hdue
        have hwriters := hs.core.writers
        rw [show s.writerActive = false by simpa using hidle] at hwriters
        have hlt : s.persistedRevision < s.revision :=
          Nat.lt_of_le_of_ne hs.core.persisted (Ne.symm hdirty)
        have hbegin : Writers (State.writeOf { s with
            worker := .writing { revision := s.revision, snapshot := s.data } }) true
            s.persistedRevision s.revision := by
          rw [writeOf_worker_write hs.core (by simp [hworker])]
          exact hwriters.begin ⟨hlt, Nat.le_refl _⟩
        exact ⟨{ hs.core with writers := hbegin, flushing := fun hcalls => absurd haway hcalls },
          fun _ _ => .inr (.inl rfl)⟩
      · exact hs

/-! ## Setters and loads -/

theorem commit_inv (hs : Inv s) (mutation : Mutation) (now : Nat)
    (hmay : s.loadActive = false ∨ s.closing = true ∨ s.shutdownRequested = true) :
    Inv (commit mutation now s) := by
  unfold commit
  split
  · exact hs
  · rename_i hopen
    simp only [not_or, Bool.not_eq_true] at hopen
    obtain ⟨hclosing, hfence, hpreserved⟩ := hopen
    have hloaded : s.loadActive = false := by simpa [hclosing, hfence] using hmay
    split
    · exact hs
    · simp only
      split
      · exact hs
      · have hwriters := hs.core.writers.mono (Nat.le_succ s.revision)
        have hpersisted := hs.core.persisted
        exact ⟨{ hs.core with
          writers := hwriters
          persisted := Nat.le_succ_of_le hpersisted
          loading := fun h => by simp [hloaded] at h
          preservation := fun h => by simp [hpreserved] at h },
          fun _ _ => .inl rfl⟩

theorem load_inv (hs : Inv s) : Inv (load s) := by
  unfold load
  split
  · exact hs
  · rename_i hopen
    simp only [not_or, Bool.not_eq_true] at hopen
    have hpreserved : s.preservationFailed = false := Bool.eq_false_iff.2 fun h => by
      simpa [hopen.1] using (hs.core.preservation h).2
    split
    · rename_i hrevision
      have hloaded : s.loadActive = false := Bool.eq_false_iff.2 fun h =>
        hrevision (hs.core.loading h).1
      exact ⟨{ hs.core with
        loading := fun h => by simp [hloaded] at h
        preservation := fun h => by simp [hpreserved] at h }, hs.covered⟩
    · rename_i hzero
      exact ⟨{ hs.core with
        loading := fun _ => ⟨Decidable.not_not.1 hzero, rfl, hpreserved⟩
        loader := fun _ => rfl
        preservation := fun h => by simp [hpreserved] at h }, hs.covered⟩

/-- `Load` goes on: nothing else changes but what no code reads. -/
theorem loader_inv (hs : Inv s) {loader : Option Load} (hloader : s.loader.isSome = true)
    {existed preserved : Bool} {lastFile : Option ByteArray} :
    Inv { s with loader, existed, preserved, lastFile } :=
  ⟨{ hs.core with loader := fun _ => hs.core.loader hloader }, hs.covered⟩

/-- `Load` ends and takes nothing over. -/
theorem completeLoadWithoutCommit_inv (hs : Inv s) (hloader : s.loader.isSome = true)
    (originalPreserved : Bool) : Inv (completeLoadWithoutCommit originalPreserved s) := by
  obtain ⟨hzero, hclaimed, -⟩ := hs.core.loading (hs.core.loader hloader)
  exact ⟨{ hs.core with
    loading := fun h => by simp [completeLoadWithoutCommit] at h
    loader := fun h => by simp [completeLoadWithoutCommit] at h
    preservation := fun _ => ⟨hzero, hclaimed⟩ }, hs.covered⟩

theorem commitLoad_inv (hs : Inv s) (hloader : s.loader.isSome = true) (decoded : DecodedSettings)
    (now : Nat) : Inv (commitLoad decoded now s) := by
  obtain ⟨hzero, -, hpreserved⟩ := hs.core.loading (hs.core.loader hloader)
  unfold commitLoad
  split
  · exact ⟨{ hs.core with
      loading := fun h => by simp at h
      loader := fun h => by simp at h }, hs.covered⟩
  · -- Nothing was captured while the revision was zero.
    have hwrites : ∀ thread, s.writeOf thread = none := fun thread => by
      cases hwrite : s.writeOf thread with
      | none => rfl
      | some captured =>
        have hcaptured := hs.core.writers.captured thread captured hwrite
        omega
    have hwriters : ∀ persisted, Writers s.writeOf s.writerActive persisted 1 := fun persisted =>
      ⟨hs.core.writers.sole, hs.core.writers.active, fun thread captured hwrite => by
        rw [hwrites] at hwrite
        cases hwrite⟩
    cases hrewrite : decoded.needsRewrite with
    | true =>
      exact ⟨{ hs.core with
        writers := hwriters 0
        persisted := Nat.zero_le _
        loading := fun h => by simp at h
        loader := fun h => by simp at h
        preservation := fun h => by simp [hpreserved] at h },
        fun _ _ => .inl rfl⟩
    | false =>
      exact ⟨{ hs.core with
        writers := hwriters 1
        persisted := Nat.le_refl _
        loading := fun h => by simp at h
        loader := fun h => by simp at h
        preservation := fun h => by simp [hpreserved] at h },
        covered_of (.inr rfl)⟩

/-! ## Every event -/

theorem flushNow_inv (hs : Inv s) {number : Nat} (hcalls : s.calls (.caller number) = .away)
    (maximumAttempts : Nat) (ready : Bool) :
    Inv (step lib s (.flushNow number maximumAttempts ready)) := by
  have hold : (s.calls (.caller number)).write = none := by rw [hcalls]; rfl
  cases ready with
  | true =>
    exact ⟨hs.core.move hold rfl fun _ h => (by cases h), hs.covered.move (by simp [hcalls])⟩
  | false => exact ⟨{ hs.core with }, hs.covered⟩

theorem close_inv (hs : Inv s) (mode : ShutdownMode) (maximumAttempts : Nat) :
    Inv (close mode maximumAttempts s) :=
  ⟨{ hs.core with
    fenced := fun _ => rfl
    discard := fun _ => rfl
    shutdown := fun _ => rfl }, covered_of (.inl rfl)⟩

theorem fence_inv (hs : Inv s) (hshutdown : s.shutdown = some .draining) : Inv (fence s) := by
  have hclosing := hs.core.shutdown (by rw [hshutdown]; rfl)
  exact ⟨{ hs.core with
    fenced := fun _ => hclosing
    shutdown := fun _ => hclosing }, covered_of (.inl hclosing)⟩

theorem completeShutdown_inv (hs : Inv s) (drained : Bool)
    (hshutdown : s.shutdown = some (.fenced result)) :
    Inv (step lib s (.completeShutdown drained)) := by
  have hclosing := hs.core.shutdown (by rw [hshutdown]; rfl)
  simp only [step, hshutdown]
  exact ⟨{ hs.core with shutdown := fun _ => hclosing }, hs.covered⟩

/-- Every event keeps the invariant. -/
theorem step_inv (lib : TextLibraries) (s : State) (e : Event) (henabled : Enabled s e)
    (hs : Inv s) : Inv (step lib s e) := by
  cases e with
  | commit mutation now => exact commit_inv hs mutation now henabled.2
  | load => exact load_inv hs
  | readNothing => exact loader_inv hs (by rw [henabled]; rfl)
  | readContent bytes =>
    have hloader : s.loader.isSome = true := by rw [henabled]; rfl
    simp only [step, readContent]
    split
    · exact loader_inv hs hloader
    · exact loader_inv hs hloader
  | readThrew => exact loader_inv hs (by rw [henabled]; rfl)
  | reportThrew => exact ⟨{ hs.core with loader := fun h => by cases h }, hs.covered⟩
  | preserveCorrupt preserved => exact loader_inv hs (by rw [henabled]; rfl)
  | completeLoad =>
    obtain ⟨originalPreserved, hloader⟩ := henabled
    simp only [step, hloader]
    exact completeLoadWithoutCommit_inv hs (by rw [hloader]; rfl) originalPreserved
  | stagingThrew =>
    obtain ⟨bytes, decoded, hloader⟩ := henabled
    exact loader_inv hs (by rw [hloader]; rfl)
  | commitLoad now =>
    obtain ⟨bytes, decoded, hloader⟩ := henabled
    simp only [step, hloader]
    exact commitLoad_inv hs (by rw [hloader]; rfl) decoded now
  | flushNow number maximumAttempts ready => exact flushNow_inv hs henabled maximumAttempts ready
  | enter thread =>
    obtain ⟨remaining, hcalls⟩ := henabled
    simp only [step, hcalls]
    exact enter_inv hs hcalls
  | wake thread =>
    obtain ⟨⟨remaining, hcalls⟩, hmay⟩ := henabled
    simp only [step, hcalls]
    exact attempt_inv hs.core hmay (by rw [hcalls]; rfl) (by simp [hcalls])
  | write thread succeeds =>
    obtain ⟨remaining, captured, hcalls, -⟩ := henabled
    exact write_inv hs hcalls
  | completeWrite thread now =>
    obtain ⟨remaining, captured, hcalls, hsucceeded⟩ := henabled
    exact completeWrite_inv hs hcalls hsucceeded
  | workerLook now ready => exact workerLook_inv hs henabled now ready
  | workerWrite succeeds =>
    obtain ⟨captured, hworker, -⟩ := henabled
    exact workerWrite_inv hs hworker
  | workerComplete now =>
    obtain ⟨captured, hworker, hsucceeded⟩ := henabled
    exact workerComplete_inv hs hworker hsucceeded
  | workerStore =>
    obtain ⟨result, hworker⟩ := henabled
    have hmove : Inv { s with worker := .leaving } :=
      worker_inv hs (worker_away hs.core (by simp [hworker])) (by rw [hworker]; rfl) rfl
    simp only [step, hworker]
    exact ⟨{ hmove.core with }, hmove.covered⟩
  | workerFinish =>
    have hmove : Inv { s with worker := .finished } :=
      worker_inv hs (worker_away hs.core (by simp [show s.worker = .leaving from henabled]))
        (by rw [show s.worker = .leaving from henabled]; rfl) rfl
    exact ⟨{ hmove.core with }, hmove.covered⟩
  | close mode maximumAttempts => exact close_inv hs mode maximumAttempts
  | fence => exact fence_inv hs henabled
  | completeShutdown drained =>
    obtain ⟨result, hshutdown⟩ := henabled
    exact completeShutdown_inv hs drained hshutdown
  | joinShutdown drained => exact ⟨{ hs.core with }, hs.covered⟩

theorem run_inv {events : List Event} (hrun : (settingsStore lib).Run {} events) :
    Inv ((settingsStore lib).exec {} events) :=
  EventSystem.Always.invariant (step_inv lib) hrun inv_initial

/-! ## What an event leaves as it is -/

/-- The settings, their revisions and where they come from are the same. -/
structure SameSettings (s t : State) : Prop where
  data : t.data = s.data
  revision : t.revision = s.revision
  persistedRevision : t.persistedRevision = s.persistedRevision
  base : t.base = s.base
  applied : t.applied = s.applied

/-- The file, the load and what closes the store are the same too, and a write that is under way
either was before or has just captured the settings. -/
structure Quiet (s t : State) : Prop extends SameSettings s t where
  lastFile : t.lastFile = s.lastFile
  closing : t.closing = s.closing
  discardRequested : t.discardRequested = s.discardRequested
  loadActive : t.loadActive = s.loadActive
  loader : ∀ bytes decoded, t.loader = some (.decoded bytes decoded) →
    s.loader = some (.decoded bytes decoded)
  writes : ∀ thread captured, t.writeOf thread = some captured →
    s.writeOf thread = some captured ∨ captured = { revision := s.revision, snapshot := s.data }

theorem finishFlush_quiet (hs : Core s) (hold : (s.calls thread).write = none)
    (haway : s.calls thread ≠ .away) (result : Bool) : Quiet s (s.finishFlush thread result) := by
  have hwrites : ∀ thread' captured, (s.finishFlush thread result).writeOf thread' = some captured →
      s.writeOf thread' = some captured ∨ captured = { revision := s.revision, snapshot := s.data } :=
    fun thread' captured hwrite => .inl (writeOf_finishFlush hs hold haway result ▸ hwrite)
  cases thread with
  | caller number => exact ⟨⟨rfl, rfl, rfl, rfl, rfl⟩, rfl, rfl, rfl, rfl, fun _ _ h => h, hwrites⟩
  | worker => exact ⟨⟨rfl, rfl, rfl, rfl, rfl⟩, rfl, rfl, rfl, rfl, fun _ _ h => h, hwrites⟩

/-- A thread that begins to write has captured the settings. -/
theorem writes_update {writes : ThreadId → Option Write} {thread' : ThreadId}
    (h : Function.update writes thread (some captured) thread' = some captured') :
    writes thread' = some captured' ∨ captured' = captured := by
  rw [Function.update_apply] at h
  split at h
  · exact .inr (Option.some.inj h).symm
  · exact .inl h

theorem attempt_quiet (hs : Core s) (hold : (s.calls thread).write = none)
    (haway : s.calls thread ≠ .away) : Quiet s (attempt thread remaining s) := by
  unfold attempt
  split
  · exact finishFlush_quiet hs hold haway _
  · split
    · exact finishFlush_quiet hs hold haway _
    · refine ⟨⟨rfl, rfl, rfl, rfl, rfl⟩, rfl, rfl, rfl, rfl, fun _ _ h => h, ?_⟩
      intro thread' captured hwrite
      have hmove := writeOf_move_write (s := s)
        (.writing remaining { revision := s.revision, snapshot := s.data }) (hs.worker_write haway)
      exact writes_update (hmove ▸ hwrite)

theorem enter_quiet (hs : Core s) (hcalls : s.calls thread = .entering remaining) :
    Quiet s (enter thread remaining s) := by
  have hold : (s.calls thread).write = none := by rw [hcalls]; rfl
  have haway : s.calls thread ≠ .away := by simp [hcalls]
  have hcore : Core { s with timerArmed := false } := { hs with }
  unfold enter
  split
  · exact finishFlush_quiet hs hold haway _
  · rename_i remaining
    simp only
    split
    · have hattempt : Quiet { s with timerArmed := false }
          (attempt thread remaining { s with timerArmed := false }) := attempt_quiet hcore hold haway
      exact { hattempt with }
    · have hmove : (s.move thread (.waiting remaining)).writeOf = s.writeOf :=
        writeOf_move _ hold rfl
      exact ⟨⟨rfl, rfl, rfl, rfl, rfl⟩, rfl, rfl, rfl, rfl, fun _ _ h => h,
        fun thread' captured hwrite => .inl (hmove ▸ hwrite)⟩

theorem worker_quiet (hold : s.worker.write = none) {worker : Worker} (hnew : worker.write = none) :
    Quiet s { s with worker } := by
  refine ⟨⟨rfl, rfl, rfl, rfl, rfl⟩, rfl, rfl, rfl, rfl, fun _ _ h => h, ?_⟩
  intro thread captured hwrite
  exact .inl (writeOf_worker worker hold hnew ▸ hwrite)

theorem workerLook_quiet (hs : Core s) (hworker : s.worker = .looping) :
    Quiet s (workerLook now ready s) := by
  have haway : s.calls .worker = .away := worker_away hs (by simp [hworker])
  have hold : s.worker.write = none := by rw [hworker]; rfl
  have hcalls : (s.calls .worker).write = none := by rw [haway]; rfl
  unfold workerLook
  split
  · exact worker_quiet hold rfl
  · split
    · split
      · exact worker_quiet hold rfl
      · split
        · have hmove := (writeOf_worker (s := s.move .worker (.entering (max s.shutdownAttempts 1)))
            .flushing hold rfl).trans (writeOf_move _ hcalls rfl)
          exact ⟨⟨rfl, rfl, rfl, rfl, rfl⟩, rfl, rfl, rfl, rfl, fun _ _ h => h,
            fun thread captured hwrite => .inl (hmove ▸ hwrite)⟩
        · exact worker_quiet hold rfl
    · split
      · refine ⟨⟨rfl, rfl, rfl, rfl, rfl⟩, rfl, rfl, rfl, rfl, fun _ _ h => h, ?_⟩
        intro thread captured hwrite
        have hwrites := writeOf_worker_write hs (by simp [hworker])
          (.writing { revision := s.revision, snapshot := s.data })
        exact writes_update (hwrites ▸ hwrite)
      · exact ⟨⟨rfl, rfl, rfl, rfl, rfl⟩, rfl, rfl, rfl, rfl, fun _ _ h => h,
          fun _ _ h => .inl h⟩

/-- The events that are about neither the settings nor the file, nor begin to load or to close. -/
def Event.IsQuiet : Event → Prop
  | .commit .. | .load | .readContent _ | .completeLoad | .commitLoad _ | .write .. | .completeWrite ..
  | .workerWrite _ | .workerComplete _ | .close .. => False
  | _ => True

theorem step_quiet (lib : TextLibraries) (hs : Core s) (henabled : Enabled s e) (hquiet : e.IsQuiet) :
    Quiet s (step lib s e) := by
  cases e with
  | enter thread =>
    obtain ⟨remaining, hcalls⟩ := henabled
    simp only [step, hcalls]
    exact enter_quiet hs hcalls
  | wake thread =>
    obtain ⟨⟨remaining, hcalls⟩, -⟩ := henabled
    simp only [step, hcalls]
    exact attempt_quiet hs (by rw [hcalls]; rfl) (by simp [hcalls])
  | workerLook now ready => exact workerLook_quiet hs henabled
  | flushNow number maximumAttempts ready =>
    have hcalls : (s.calls (.caller number)).write = none := by
      rw [show s.calls (.caller number) = .away from henabled]
      rfl
    cases ready with
    | true =>
      have hmove : (s.move (.caller number) (.entering (max maximumAttempts 1))).writeOf = s.writeOf :=
        writeOf_move _ hcalls rfl
      exact ⟨⟨rfl, rfl, rfl, rfl, rfl⟩, rfl, rfl, rfl, rfl, fun _ _ h => h,
        fun thread captured hwrite => .inl (hmove ▸ hwrite)⟩
    | false => exact ⟨⟨rfl, rfl, rfl, rfl, rfl⟩, rfl, rfl, rfl, rfl, fun _ _ h => h, fun _ _ h => .inl h⟩
  | workerStore =>
    obtain ⟨result, hworker⟩ := henabled
    have hmove : Quiet s { s with worker := .leaving } :=
      worker_quiet (by rw [hworker]; rfl) rfl
    simp only [step, hworker]
    exact { hmove with }
  | workerFinish =>
    have hmove : Quiet s { s with worker := .finished } :=
      worker_quiet (by rw [show s.worker = .leaving from henabled]; rfl) rfl
    exact { hmove with }
  | completeShutdown drained =>
    obtain ⟨result, hshutdown⟩ := henabled
    simp only [step, hshutdown]
    exact ⟨⟨rfl, rfl, rfl, rfl, rfl⟩, rfl, rfl, rfl, rfl, fun _ _ h => h, fun _ _ h => .inl h⟩
  | fence | joinShutdown drained =>
    exact ⟨⟨rfl, rfl, rfl, rfl, rfl⟩, rfl, rfl, rfl, rfl, fun _ _ h => h, fun _ _ h => .inl h⟩
  | readNothing | readThrew | reportThrew | preserveCorrupt preserved | stagingThrew =>
    exact ⟨⟨rfl, rfl, rfl, rfl, rfl⟩, rfl, rfl, rfl, rfl, fun _ _ h => (nomatch h),
      fun _ _ h => .inl h⟩
  | _ => cases hquiet

/-- The write that an event completes. -/
def State.completes (s : State) : Event → Option Write
  | .completeWrite thread _ => (s.calls thread).write
  | .workerComplete _ => s.worker.write
  | _ => none

/-- Only a setter, the end of a write and the end of `Load` change the settings or a revision. -/
theorem step_same (lib : TextLibraries) (hs : Core s) (henabled : Enabled s e)
    (hcommit : ∀ mutation now, e ≠ .commit mutation now) (hload : ∀ now, e ≠ .commitLoad now)
    (hcompletes : s.completes e = none) : SameSettings s (step lib s e) := by
  by_cases hquiet : e.IsQuiet
  · exact (step_quiet lib hs henabled hquiet).toSameSettings
  cases e with
  | commit mutation now => exact absurd rfl (hcommit mutation now)
  | commitLoad now => exact absurd rfl (hload now)
  | completeWrite thread now =>
    obtain ⟨remaining, captured, hcalls, -⟩ := henabled
    simp [State.completes, hcalls, Flush.write] at hcompletes
  | workerComplete now =>
    obtain ⟨captured, hworker, -⟩ := henabled
    simp [State.completes, hworker, Worker.write] at hcompletes
  | load =>
    simp only [step, load]
    repeat' split
    all_goals exact ⟨rfl, rfl, rfl, rfl, rfl⟩
  | readContent bytes =>
    simp only [step, readContent]
    split <;> exact ⟨rfl, rfl, rfl, rfl, rfl⟩
  | completeLoad =>
    simp only [step]
    split <;> exact ⟨rfl, rfl, rfl, rfl, rfl⟩
  | write thread succeeds =>
    obtain ⟨remaining, captured, hcalls, -⟩ := henabled
    obtain ⟨_, _, heq, -⟩ := write_cases lib captured succeeds s
    simp only [step, hcalls, heq]
    exact ⟨rfl, rfl, rfl, rfl, rfl⟩
  | workerWrite succeeds =>
    obtain ⟨captured, hworker, -⟩ := henabled
    obtain ⟨_, _, heq, -⟩ := write_cases lib captured succeeds s
    simp only [step, hworker, heq]
    exact ⟨rfl, rfl, rfl, rfl, rfl⟩
  | close mode maximumAttempts => exact ⟨rfl, rfl, rfl, rfl, rfl⟩
  | _ => exact absurd trivial hquiet

/-! ## In every run -/

/-- A flush that waits can go on at once, and its thread then writes. -/
def AboutToWrite (lib : TextLibraries) (s : State) (thread : ThreadId) : Prop :=
  Enabled s (.wake thread) ∧ ∃ captured, (step lib s (.wake thread)).writeOf thread = some captured

/-- What an event makes of `persistedRevision`: the success of a write makes it the revision that was
captured, unless the store is fenced, and nothing else but the end of `Load` changes it. -/
structure RecordsWrite (lib : TextLibraries) (s : State) (e : Event) : Prop where
  recorded : ∀ captured, s.completes e = some captured → captured.succeeded = some true →
    s.shutdownRequested = false → (step lib s e).persistedRevision = captured.revision ∧
      captured.revision ≤ s.revision
  kept : (step lib s e).persistedRevision ≠ s.persistedRevision →
    (∃ captured, s.completes e = some captured ∧ captured.succeeded = some true) ∨
      ∃ now, e = .commitLoad now

/-- A waiting flush of a dirty store that nobody writes goes on at once and writes it. -/
theorem aboutToWrite (hs : Core s) (hdirty : s.revision ≠ s.persistedRevision)
    (hopen : s.closing = false) (hidle : s.writerActive = false)
    (hcalls : s.calls thread = .waiting remaining) : AboutToWrite lib s thread := by
  have hpersisted := hs.persisted
  have hfence : s.shutdownRequested = false := Bool.eq_false_iff.2 fun h => by
    simpa [hopen] using hs.fenced h
  have hkeep : s.discardRequested = false := Bool.eq_false_iff.2 fun h => by
    simpa [hopen] using hs.discard h
  have hloaded : s.loadActive = false := Bool.eq_false_iff.2 fun h => by
    have hzero := (hs.loading h).1
    omega
  have hpreserved : s.preservationFailed = false := Bool.eq_false_iff.2 fun h => by
    have hzero := (hs.preservation h).1
    omega
  refine ⟨⟨⟨remaining, hcalls⟩, .inr ⟨hidle, hloaded⟩⟩, ?_⟩
  refine ⟨{ revision := s.revision, snapshot := s.data }, ?_⟩
  have hcaptures : (s.move thread (.writing remaining
      { revision := s.revision, snapshot := s.data })).calls thread =
        .writing remaining { revision := s.revision, snapshot := s.data } :=
    (calls_move ..).trans (if_pos rfl)
  simp only [step, hcalls, attempt, hfence, hpreserved, hkeep, hdirty]
  exact writeOf_of_calls hcaptures

theorem persistedRevision_commit (mutation : Mutation) (now : Nat) :
    (commit mutation now s).persistedRevision = s.persistedRevision := by
  unfold commit
  simp only
  repeat' split
  all_goals rfl

/-- The end of a write, in terms of the write that it completes: none is under way after it. -/
theorem completes_cases (lib : TextLibraries) (hs : Core s) (henabled : Enabled s e)
    (hcompletes : s.completes e = some captured) :
    ∃ thread succeeded now calls worker, s.writeOf thread = some captured ∧
      captured.succeeded = some succeeded ∧ step lib s e =
        { completeWriteLocked captured.revision succeeded now s with calls, worker } ∧
      ∀ thread, State.writeOf { s with calls, worker } thread = none := by
  cases e with
  | completeWrite thread now =>
    obtain ⟨remaining, ⟨revision, snapshot, _ | succeeded⟩, hcalls, hsucceeded⟩ := henabled
    · exact absurd rfl hsucceeded
    · simp only [State.completes, hcalls, Flush.write, Option.some.injEq] at hcompletes
      subst hcompletes
      have hwrite := writeOf_of_calls hcalls
      have haway : s.calls thread ≠ .away := by simp [hcalls]
      have hwrites := writeOf_move_write (.entering remaining) (hs.worker_write haway)
      refine ⟨thread, succeeded, now, Function.update s.calls thread (.entering remaining),
        s.worker, hwrite, rfl, ?_, fun thread' => ?_⟩
      · obtain ⟨_, _, _, _, heq, -⟩ := completeWriteLocked_cases revision succeeded now s
        simp only [step, hcalls, heq, State.move]
      · exact (congrFun hwrites thread').trans (hs.writers.finish_eq_none hwrite thread')
  | workerComplete now =>
    obtain ⟨⟨revision, snapshot, _ | succeeded⟩, hworker, hsucceeded⟩ := henabled
    · exact absurd rfl hsucceeded
    · simp only [State.completes, hworker, Worker.write, Option.some.injEq] at hcompletes
      subst hcompletes
      have hwrite := writeOf_of_worker hs hworker
      have hwrites := writeOf_worker_write hs (by simp [hworker]) .looping
      refine ⟨.worker, succeeded, now, s.calls, .looping, hwrite, rfl, ?_, fun thread' => ?_⟩
      · obtain ⟨_, _, _, _, heq, -⟩ := completeWriteLocked_cases revision succeeded now s
        simp only [step, hworker, heq]
      · exact (congrFun hwrites thread').trans (hs.writers.finish_eq_none hwrite thread')
  | _ => cases hcompletes

theorem recordsWrite (hs : Inv s) (henabled : Enabled s e) : RecordsWrite lib s e := by
  have hcompleted : ∀ captured, s.completes e = some captured → ∃ thread succeeded,
      s.writeOf thread = some captured ∧ captured.succeeded = some succeeded ∧
      (step lib s e).persistedRevision = if s.shutdownRequested = false ∧ succeeded = true then
        max s.persistedRevision captured.revision else s.persistedRevision := by
    intro captured hcompletes
    obtain ⟨thread, succeeded, now, calls, worker, hwrite, hsucceeded, hstep, -⟩ :=
      completes_cases lib hs.core henabled hcompletes
    obtain ⟨_, _, _, _, heq, hpersisted, -⟩ :=
      completeWriteLocked_cases captured.revision succeeded now s
    exact ⟨thread, succeeded, hwrite, hsucceeded, by rw [hstep, heq]; exact hpersisted⟩
  refine ⟨fun captured hcompletes hsucceeded hfence => ?_, fun hchanged => ?_⟩
  · obtain ⟨thread, succeeded, hwrite, heq, hpersisted⟩ := hcompleted captured hcompletes
    have hcaptured := hs.core.writers.captured thread captured hwrite
    rw [hsucceeded] at heq
    cases heq
    rw [hpersisted, if_pos ⟨hfence, rfl⟩]
    omega
  · cases hcompletes : s.completes e with
    | some captured =>
      obtain ⟨thread, succeeded, -, heq, hpersisted⟩ := hcompleted captured hcompletes
      refine .inl ⟨captured, rfl, ?_⟩
      cases succeeded with
      | true => exact heq
      | false => exact absurd (by simpa using hpersisted) hchanged
    | none =>
      by_cases hload : ∃ now, e = .commitLoad now
      · exact .inr hload
      · refine absurd ?_ hchanged
        by_cases hcommit : ∃ mutation now, e = .commit mutation now
        · obtain ⟨mutation, now, rfl⟩ := hcommit
          exact persistedRevision_commit mutation now
        · exact (step_same lib hs.core henabled (by simpa using hcommit) (by simpa using hload)
            hcompletes).persistedRevision

/-- In every reachable state, a dirty store that is not closing has its timer armed, a writer, or a
flush about to write; at most one thread writes; and at every step of the run, what is recorded as
persisted is the revision that was captured and written. -/
theorem dirty_store_has_persistence (lib : TextLibraries) (events : List Event)
    (hrun : (settingsStore lib).Run {} events) :
    (∀ s, s = (settingsStore lib).exec {} events →
      (s.revision ≠ s.persistedRevision → s.closing = false → s.timerArmed = true ∨
        (∃ thread captured, s.writeOf thread = some captured) ∨
        ∃ thread, AboutToWrite lib s thread) ∧
      (∀ thread thread' captured captured', s.writeOf thread = some captured →
        s.writeOf thread' = some captured' → thread = thread')) ∧
    (settingsStore lib).Always (RecordsWrite lib) {} events := by
  refine ⟨?_, EventSystem.Always.of_invariant (S := settingsStore lib) (step_inv lib)
    (fun s e henabled hs => recordsWrite hs henabled) hrun inv_initial⟩
  rintro s rfl
  have hs : Inv ((settingsStore lib).exec {} events) := run_inv hrun
  refine ⟨fun hdirty hopen => ?_, hs.core.writers.sole⟩
  rcases hs.covered hdirty hopen with h | h | ⟨thread, remaining, hcalls⟩
  · exact .inl h
  · exact .inr (.inl (hs.core.writers.active.1 h))
  · cases hactive : State.writerActive ((settingsStore lib).exec {} events) with
    | true => exact .inr (.inl (hs.core.writers.active.1 hactive))
    | false => exact .inr (.inr ⟨thread, aboutToWrite hs.core hdirty hopen hactive hcalls⟩)

/-- The worker writes a first change while a second one and a call of `FlushNow` come in: the flush
takes the timer's place, and waits. -/
theorem dirty_store_has_persistence_flush :
    let events : List Event := [.commit (.setStartWithWindows true) 0, .workerLook 300 true,
      .commit (.setStartWithWindows false) 310, .flushNow 0 3 true, .enter (.caller 0)]
    let s := (settingsStore textLibraries).exec {} events
    s.timerArmed = false ∧ ((∃ thread captured, s.writeOf thread = some captured) ∨
      ∃ thread, AboutToWrite textLibraries s thread) := by
  intro events s
  have hrun : (settingsStore textLibraries).Run {} events :=
    ⟨⟨trivial, .inl rfl⟩, rfl, ⟨trivial, .inl rfl⟩, rfl, ⟨3, rfl⟩, trivial⟩
  have hidle : s.timerArmed = false := rfl
  refine ⟨hidle, ?_⟩
  have hpersistence := (dirty_store_has_persistence textLibraries events hrun).1 s rfl
  rcases hpersistence.1 (show (2 : Nat) ≠ 0 by decide) rfl with h | h
  · rw [hidle] at h
    cases h
  · exact h

end Store

end PlaybackConnector.Settings
