import PlaybackConnector.Service.Snapshot
import PlaybackConnector.Session.Pursuit

/-!
# Waits that give up

`WaitForCompletion` (`DeviceService.cpp:757`) waits for the completion of a `Connect` or a
`Reconnect`. A wait that gives up posts a task that cancels the operation, if the command began it;
until the task runs, the operation can be resolved, or another one can begin. The task then changes
no session, and otherwise it resolves the completion and releases the session
(`cancelled_wait_exact`).
-/

namespace PlaybackConnector

namespace Publication

variable {view : DeviceServiceSnapshot} {c : DeviceOperationCompletion} {pub : Publication}

/-! ## Completions -/

/-- The operation that a completion is of. -/
def operationOf (c : DeviceOperationCompletion) : WString × Nat × Bool :=
  (c.deviceId, c.epoch, c.ownsCancellation)

@[simp] theorem operationOf_resolve : operationOf (resolveOperation view c) = operationOf c := rfl

theorem operationStatus_congr {c' : DeviceOperationCompletion} (h : operationOf c' = operationOf c) :
    operationStatus view c' = operationStatus view c := by
  obtain ⟨hid, hrest⟩ := Prod.mk.inj h
  obtain ⟨hepoch, -⟩ := Prod.mk.inj hrest
  unfold operationStatus
  rw [hid, hepoch]

theorem resolveOperation_none (h : (resolveOperation view c).status = none) :
    c.status = none ∧ operationStatus view c = none := by
  unfold resolveOperation at h
  cases hstatus : c.status with
  | some status => simp [hstatus] at h
  | none => exact ⟨rfl, by simpa [hstatus] using h⟩

/-- The completion after the facts of a session, the latest first. -/
def resolveAll (view : DeviceSessionSnapshot → DeviceServiceSnapshot)
    (facts : List DeviceSessionFact) (c : DeviceOperationCompletion) : DeviceOperationCompletion :=
  facts.foldr (fun fact c => resolveOperation (view fact.snapshot) c) c

section
variable {view : DeviceSessionSnapshot → DeviceServiceSnapshot} {facts : List DeviceSessionFact}

theorem resolveAll_cons {fact : DeviceSessionFact} : resolveAll view (fact :: facts) c =
    resolveOperation (view fact.snapshot) (resolveAll view facts c) := rfl

theorem operationOf_resolveAll (view facts c) : operationOf (resolveAll view facts c) = operationOf c := by
  induction facts with
  | nil => rfl
  | cons fact facts ih => exact ih

/-- A completion that no fact resolved. -/
theorem resolveAll_none (h : (resolveAll view facts c).status = none) :
    c.status = none ∧ ∀ fact ∈ facts, operationStatus (view fact.snapshot) c = none := by
  induction facts with
  | nil => exact ⟨h, by simp⟩
  | cons fact facts ih =>
    rw [resolveAll_cons] at h
    obtain ⟨hbefore, hfact⟩ := resolveOperation_none h
    obtain ⟨hstatus, hfacts⟩ := ih hbefore
    rw [operationStatus_congr (operationOf_resolveAll _ _ _)] at hfact
    refine ⟨hstatus, fun fact' hmem => ?_⟩
    rcases List.mem_cons.1 hmem with rfl | hmem
    · exact hfact
    · exact hfacts fact' hmem

/-- A completion that every fact cancels or leaves open. -/
theorem resolveAll_cancels
    (h : ∀ fact ∈ facts, operationStatus (view fact.snapshot) c = none ∨
      operationStatus (view fact.snapshot) c = some .cancelled)
    (hstatus : c.status = none ∨ c.status = some .cancelled) :
    (resolveAll view facts c).status = none ∨
      (resolveAll view facts c).status = some .cancelled := by
  induction facts with
  | nil => exact hstatus
  | cons fact facts ih =>
    have hbefore := ih fun fact' hmem => h fact' (List.mem_cons_of_mem _ hmem)
    have hfact := h fact List.mem_cons_self
    rw [← operationStatus_congr (operationOf_resolveAll view facts c)] at hfact
    rw [resolveAll_cons]
    unfold resolveOperation
    rcases hbefore with hbefore | hbefore
    · simpa [hbefore] using hfact
    · simp [hbefore]

theorem onSessionFact_operations {fact : DeviceSessionFact}
    (h : (view fact.snapshot).isShutdown = false) :
    (onSessionFact view fact pub).operations =
      pub.operations.map (resolveOperation (view fact.snapshot)) := by
  unfold onSessionFact
  rw [if_neg (by simp [h])]
  unfold publish
  dsimp only
  split <;> rfl

theorem foldr_operations (h : ∀ snapshot, (view snapshot).isShutdown = false) :
    (facts.foldr (onSessionFact view) pub).operations =
      pub.operations.map (resolveAll view facts) := by
  induction facts with
  | nil => exact (List.map_id _).symm
  | cons fact facts ih =>
    rw [List.foldr_cons, onSessionFact_operations (h _), ih, List.map_map]
    rfl

end

theorem publish_operations {kind deviceId result terminal operation disconnectReason} :
    (pub.publish view kind deviceId result terminal operation disconnectReason).operations =
      pub.operations.map (resolveOperation view) := by
  unfold publish
  dsimp only
  split <;> rfl

end Publication

namespace DeviceService

open Publication (operationOf operationStatus resolveOperation resolveAll)

variable {p : ServicePlatform} {s t u : DeviceService} {deviceId : WString} {e : Event}
  {x : Session} {c : DeviceOperationCompletion} {task : ServiceTask}

/-! ## The status of an operation -/

theorem find?_unique {α : Type*} {l : List α} {P : α → Bool} {a : α} (hmem : a ∈ l)
    (ha : P a = true) (hunique : ∀ b ∈ l, P b = true → b = a) : l.find? P = some a := by
  cases hfind : l.find? P with
  | none => exact absurd ha (List.find?_eq_none.1 hfind a hmem)
  | some b =>
    rw [hunique b (List.mem_of_find?_eq_some hfind) (List.find?_some hfind)]

/-- The session's own snapshot in a snapshot of the service. -/
theorem find_view (hs : s.Inv) (hfind : s.find deviceId = some x)
    {snapshot : DeviceSessionSnapshot} (hid : snapshot.deviceId = deviceId) :
    (s.view (s.snapshotsWith deviceId snapshot)).sessions.find? (·.deviceId = deviceId) =
      some snapshot := by
  refine find?_unique ?_ (by simpa using hid) fun other hmem hother => ?_
  · refine (List.mem_insertionSort _).2 (List.mem_map.2 ⟨_, mem_of_find hfind, if_pos rfl⟩)
  · obtain ⟨entry, hentry, rfl⟩ := List.mem_map.1 ((List.mem_insertionSort _).1 hmem)
    split
    · rfl
    · rename_i hne
      rw [if_neg hne] at hother
      have howned : (Session.snapshot entry.2.toSessionState).deviceId = entry.1 :=
        (hs.owned entry hentry).deviceId
      exact absurd (howned.symm.trans (by simpa using hother)) hne

theorem snapshots_eq (hs : s.Inv) (hfind : s.find deviceId = some x) :
    s.snapshots = s.snapshotsWith deviceId (Session.snapshot x.toSessionState) := by
  refine List.map_congr_left fun entry hentry => ?_
  split
  · rename_i hid
    have hentry : s.find entry.1 = some entry.2 := find_of_mem hs.nodup hentry
    rw [hid, hfind] at hentry
    obtain rfl := Option.some.inj hentry
    rfl
  · rfl

/-- The session's snapshot leaves the operation open, or it resolves it. -/
theorem operationStatus_view (hs : s.Inv) (hsd : s.isShutdown = false)
    (hfind : s.find c.deviceId = some x) {snapshot : DeviceSessionSnapshot}
    (hid : snapshot.deviceId = c.deviceId) :
    operationStatus (s.view (s.snapshotsWith c.deviceId snapshot)) c =
      if snapshot.operationEpoch ≠ c.epoch ∨ snapshot.state = .idle then some .cancelled
      else if snapshot.state = .connected then some .succeeded
      else if snapshot.state = .failed then some .failed
      else none := by
  unfold operationStatus
  rw [if_neg (by simp [view, hsd]), find_view hs hfind hid]

theorem operationStatus_none_iff (hs : s.Inv) (hsd : s.isShutdown = false)
    (hfind : s.find c.deviceId = some x) {snapshot : DeviceSessionSnapshot}
    (hid : snapshot.deviceId = c.deviceId) :
    operationStatus (s.view (s.snapshotsWith c.deviceId snapshot)) c = none ↔
      Session.Unresolved c.epoch snapshot := by
  rw [operationStatus_view hs hsd hfind hid]
  unfold Session.Unresolved
  split
  · rename_i h
    simp only [reduceCtorEq, false_iff]
    rintro ⟨hepoch, hidle, -⟩
    exact h.elim (· hepoch) hidle
  · rename_i h
    obtain ⟨hepoch, hidle⟩ := not_or.1 h
    have hepoch := not_not.1 hepoch
    split
    · simp [*]
    · split <;> simp [*]

/-! ## The tasks of the sessions -/

theorem newFacts_eq {before after : Session} {new : List DeviceSessionFact}
    (h : after.ledger.facts = new ++ before.ledger.facts) : newFacts before after = new := by
  unfold newFacts
  rw [h]
  simp

theorem act_operations (hsd : s.isShutdown = false) (hfind : s.find deviceId = some x) :
    (s.act p deviceId e).publication.operations = s.publication.operations.map
      (resolveAll (fun snapshot => s.view (s.snapshotsWith deviceId snapshot))
        (newFacts x ((deviceSession (p.session deviceId)).step x e))) := by
  rw [act_of_some hfind]
  exact Publication.foldr_operations fun _ => hsd

theorem find_act_of_ne (hs : s.Inv) {other : WString} (hne : other ≠ deviceId)
    (hfind : s.find other = some x) : (s.act p deviceId e).find other = some x := by
  refine find_of_mem ?_ (mem_act_of_ne (mem_of_find hfind) hne)
  rw [ids_act]
  exact hs.nodup

/-- The operation of a completion has not come to an end: the session pursues it, or another
operation has begun. -/
def Pends (s : DeviceService) (c : DeviceOperationCompletion) : Prop :=
  ∃ x, s.find c.deviceId = some x ∧
    (c.epoch < x.operationEpoch ∨ c.epoch = x.operationEpoch ∧ Session.Pursuing x.toSessionState)

/-- The completions that a wait can cancel, and that are not resolved, pend. -/
def OperationsPend (s : DeviceService) : Prop :=
  ∀ c ∈ s.publication.operations, c.status = none → c.ownsCancellation = true →
    s.isShutdown = false ∧ s.Pends c

theorem Pends.congr {c' : DeviceOperationCompletion} (h : s.Pends c)
    (hc : operationOf c' = operationOf c) : s.Pends c' := by
  obtain ⟨hid, hrest⟩ := Prod.mk.inj hc
  obtain ⟨hepoch, -⟩ := Prod.mk.inj hrest
  unfold Pends
  rwa [hid, hepoch]

/-- A task of a session resolves the operation, or the operation pends further. -/
theorem Pends.act (h : s.Pends c) (hs : s.Inv) (hsd : s.isShutdown = false)
    (hne : e ≠ .operation .shutdown)
    (hen : ∀ x, s.find deviceId = some x → (deviceSession (p.session deviceId)).enabled x e)
    (hopen : ∀ x, s.find deviceId = some x →
      (resolveAll (fun snapshot => s.view (s.snapshotsWith deviceId snapshot))
        (newFacts x ((deviceSession (p.session deviceId)).step x e)) c).status = none) :
    (s.act p deviceId e).Pends c := by
  obtain ⟨x, hfind, hx⟩ := h
  by_cases hid : c.deviceId = deviceId
  · subst hid
    have hinv := (hs.owned_of_find hfind).inv
    have hlater := Session.step_later hinv (hen x hfind)
    refine ⟨_, find_act hs hfind hne (hen x hfind), ?_⟩
    rcases hx with hlt | ⟨hepoch, hp⟩
    · exact .inl (Nat.lt_of_lt_of_le hlt hlater.epoch)
    · rw [hepoch]
      rcases Session.step_tracked hinv (hen x hfind) hp with hlt | hpursued |
        ⟨new, fact, hf, hmem, hfact⟩
      · exact .inl hlt
      · exact .inr hpursued
      · have hnone := (Publication.resolveAll_none (hopen x hfind)).2
        obtain ⟨-, -, new', hf', hnew⟩ := hlater
        have hsame : new' = new := List.append_cancel_right (hf'.symm.trans hf)
        rw [newFacts_eq hf] at hnone
        have hdevice : fact.snapshot.deviceId = c.deviceId :=
          ((hnew fact (hsame ▸ hmem)).1).trans (hs.owned_of_find hfind).deviceId
        refine absurd ((operationStatus_none_iff hs hsd hfind hdevice).1 (hnone fact hmem)) ?_
        rwa [hepoch]
  · exact ⟨x, find_act_of_ne hs hid hfind, hx⟩

theorem OperationsPend.act (h : s.OperationsPend) (hs : s.Inv) (hne : e ≠ .operation .shutdown)
    (hen : ∀ x, s.find deviceId = some x → (deviceSession (p.session deviceId)).enabled x e) :
    (s.act p deviceId e).OperationsPend := by
  cases hfind : s.find deviceId with
  | none => rwa [act_of_none hfind]
  | some x =>
    intro c' hc' hstatus howns
    have hlive := hs.live_of_find hfind
    rw [act_operations hlive hfind] at hc'
    obtain ⟨c, hc, rfl⟩ := List.mem_map.1 hc'
    have hop := Publication.operationOf_resolveAll
      (fun snapshot => s.view (s.snapshotsWith deviceId snapshot))
      (newFacts x ((deviceSession (p.session deviceId)).step x e)) c
    have howner : c.ownsCancellation = true :=
      (congrArg (·.2.2) hop).symm.trans howns
    obtain ⟨-, hpends⟩ := h c hc (Publication.resolveAll_none hstatus).1 howner
    refine ⟨(shutdown_of_flags flags_act).trans hlive, ?_⟩
    refine Pends.congr (hpends.act hs hlive hne hen fun y hy => ?_) hop
    obtain rfl := Option.some.inj (hfind.symm.trans hy)
    exact hstatus

/-! ## Commands and their completions -/

/-- The completion of a command that returned is of the operation that the command returned, and a
wait cancels it if the command was accepted. -/
def CommandsComplete (s : DeviceService) : Prop :=
  ∀ r ∈ s.ledger.results, ∀ i, r.completion = some i →
    ∃ c, s.publication.operations[i]? = some c ∧
      operationOf c = (r.deviceId, r.operationEpoch, decide (r.kind = .accepted))

/-- What holds of the completions at every step of a task. -/
structure CompletionsSound (s : DeviceService) : Prop where
  pend : s.OperationsPend
  commands : s.CommandsComplete

/-- The completions of `t` are those of `s`, some of them resolved. -/
def Resolves (s t : DeviceService) : Prop :=
  ∃ f : DeviceOperationCompletion → DeviceOperationCompletion,
    t.publication.operations = s.publication.operations.map f ∧
      ∀ c, operationOf (f c) = operationOf c ∧ ((f c).status = none → c.status = none)

theorem Resolves.of_eq (h : t.publication.operations = s.publication.operations) : Resolves s t :=
  ⟨id, by rw [h, List.map_id], fun _ => ⟨rfl, id⟩⟩

theorem CommandsComplete.resolves (hs : s.CommandsComplete) (h : Resolves s t)
    (hresults : ∀ r ∈ t.ledger.results, r ∈ s.ledger.results ∨ r.completion = none) :
    t.CommandsComplete := by
  obtain ⟨f, hf, hsame⟩ := h
  intro r hr i hi
  rcases hresults r hr with hr | hnone
  · obtain ⟨c, hc, hop⟩ := hs r hr i hi
    refine ⟨f c, ?_, (hsame c).1.trans hop⟩
    rw [hf, List.getElem?_map, hc]
    rfl
  · exact absurd (hnone.symm.trans hi) (by simp)

theorem OperationsPend.resolves (hs : s.OperationsPend) (h : Resolves s t)
    (hsd : t.isShutdown = s.isShutdown)
    (hfind : ∀ deviceId x, s.find deviceId = some x → t.find deviceId = some x) :
    t.OperationsPend := by
  obtain ⟨f, hf, hsame⟩ := h
  intro c' hc' hstatus howns
  rw [hf] at hc'
  obtain ⟨c, hc, rfl⟩ := List.mem_map.1 hc'
  have hop := (hsame c).1
  have howner : c.ownsCancellation = true := (congrArg (·.2.2) hop).symm.trans howns
  obtain ⟨hlive, x, hx, hphase⟩ := hs c hc ((hsame c).2 hstatus) howner
  exact ⟨hsd.trans hlive, Pends.congr ⟨x, hfind _ _ hx, hphase⟩ hop⟩

theorem CompletionsSound.resolves (hs : s.CompletionsSound) (h : Resolves s t)
    (hsd : t.isShutdown = s.isShutdown)
    (hfind : ∀ deviceId x, s.find deviceId = some x → t.find deviceId = some x)
    (hresults : t.ledger.results = s.ledger.results) : t.CompletionsSound :=
  ⟨hs.pend.resolves h hsd hfind, hs.commands.resolves h fun r hr => .inl (by rwa [← hresults])⟩

/-- The sessions are the same. -/
theorem find_congr (h : t.sessions = s.sessions) (deviceId x) (hfind : s.find deviceId = some x) :
    t.find deviceId = some x := by
  unfold find at *
  rwa [h]

theorem act_resolves (hs : s.Inv) : Resolves s (s.act p deviceId e) := by
  cases hfind : s.find deviceId with
  | none =>
    rw [act_of_none hfind]
    exact .of_eq rfl
  | some x =>
    refine ⟨_, act_operations (hs.live_of_find hfind) hfind, fun c => ?_⟩
    exact ⟨Publication.operationOf_resolveAll _ _ _, fun h => (Publication.resolveAll_none h).1⟩

theorem CompletionsSound.act (h : s.CompletionsSound) (hs : s.Inv) (hne : e ≠ .operation .shutdown)
    (hen : ∀ x, s.find deviceId = some x → (deviceSession (p.session deviceId)).enabled x e) :
    (s.act p deviceId e).CompletionsSound := by
  refine ⟨h.pend.act hs hne hen, h.commands.resolves (act_resolves hs) fun r hr => .inl ?_⟩
  unfold DeviceService.act at hr
  split at hr <;> exact hr

theorem CompletionsSound.operate (h : s.CompletionsSound) (hs : s.Inv) {operation : Operation}
    (hne : operation ≠ .shutdown) : (s.operate p deviceId operation).CompletionsSound :=
  h.act hs (by simpa using hne) fun _ _ => Session.enabled_operation _

theorem CompletionsSound.emplace (h : s.CompletionsSound) :
    (s.emplace deviceId).CompletionsSound := by
  refine h.resolves (.of_eq rfl) rfl (fun other x hfind => ?_) rfl
  unfold find DeviceService.emplace at *
  rw [List.find?_append]
  cases hold : s.sessions.find? (·.1 = other) with
  | none => simp [hold] at hfind
  | some entry => simpa [hold] using hfind

theorem CompletionsSound.configure (h : s.CompletionsSound) (hs : s.Inv) :
    (s.configure p deviceId).CompletionsSound := by
  unfold DeviceService.configure
  dsimp only
  split
  · exact (h.operate hs (by simp)).operate (hs.operate (by simp)) (by simp)
  · exact h.operate hs (by simp)

theorem CompletionsSound.publish (h : s.CompletionsSound) (kind deviceId) :
    (s.publish kind deviceId).CompletionsSound := by
  refine h.resolves ⟨_, Publication.publish_operations, fun c => ⟨rfl, fun hnone => ?_⟩⟩ rfl
    (fun _ _ hfind => hfind) rfl
  exact (Publication.resolveOperation_none hnone).1

/-- A command returns with a completion. -/
theorem CompletionsSound.complete (h : s.CompletionsSound) {r : DeviceCommandResult}
    (hsessions : t.sessions = s.sessions) (hsd : t.isShutdown = s.isShutdown)
    (hops : t.publication.operations = s.publication.operations ++ [c])
    (hresults : t.ledger.results = r :: s.ledger.results)
    (hr : r.completion = some s.publication.operations.length)
    (hop : operationOf c = (r.deviceId, r.operationEpoch, decide (r.kind = .accepted)))
    (hpends : c.status = none → c.ownsCancellation = true → s.isShutdown = false ∧ s.Pends c) :
    t.CompletionsSound := by
  refine ⟨fun c' hc' hstatus howns => ?_, fun r' hr' i hi => ?_⟩
  · rw [hops] at hc'
    have hbefore : s.isShutdown = false ∧ s.Pends c' := by
      rcases List.mem_append.1 hc' with hold | hnew
      · exact h.pend c' hold hstatus howns
      · obtain rfl := List.mem_singleton.1 hnew
        exact hpends hstatus howns
    obtain ⟨hlive, x, hfind, hx⟩ := hbefore
    exact ⟨hsd.trans hlive, x, find_congr hsessions _ _ hfind, hx⟩
  · rw [hresults] at hr'
    rw [hops]
    rcases List.mem_cons.1 hr' with rfl | hold
    · obtain rfl := Option.some.inj (hr.symm.trans hi)
      exact ⟨c, by simp, hop⟩
    · obtain ⟨c', hc', hop'⟩ := h.commands r' hold i hi
      refine ⟨c', ?_, hop'⟩
      obtain ⟨hlt, -⟩ := List.getElem?_eq_some_iff.1 hc'
      rwa [List.getElem?_append_left hlt]

theorem CompletionsSound.completes (h : s.CompletionsSound) (hsessions : t.sessions = s.sessions)
    (hsd : t.isShutdown = s.isShutdown) (hc : Completes s t) : t.CompletionsSound := by
  cases hc with
  | same hops hresults =>
    exact ⟨h.pend.resolves (.of_eq hops) hsd (find_congr hsessions),
      h.commands.resolves (.of_eq hops) hresults⟩
  | coalesced command deviceId hops hresults =>
    exact h.complete hsessions hsd hops hresults rfl rfl fun _ howns => by cases howns

/-- An accepted command pends, if it was not resolved at once. -/
theorem newCompletion_pends (hs : s.Inv) (hfind : s.find deviceId = some x)
    (hgives : Session.GivesUp x.toSessionState) {kind : DeviceCommandResultKind}
    (hstatus : (s.newCompletion kind deviceId x.operationEpoch).status = none) :
    s.Pends (s.newCompletion kind deviceId x.operationEpoch) := by
  have hlive := hs.live_of_find hfind
  obtain ⟨-, hopen⟩ := Publication.resolveOperation_none hstatus
  rw [snapshots_eq hs hfind] at hopen
  obtain ⟨-, hidle, hconnected, hfailed⟩ := (operationStatus_none_iff
    (c := ⟨deviceId, x.operationEpoch, kind = .accepted, none⟩) hs hlive hfind
      (hs.owned_of_find hfind).deviceId).1 hopen
  refine ⟨x, hfind, .inr ⟨rfl, ?_, ?_⟩⟩
  · cases hl : x.lifecycle with
    | idle => exact absurd hl hidle
    | connected => exact absurd hl hconnected
    | failed => exact absurd hl hfailed
    | connecting => exact .inl rfl
    | disconnecting => exact .inr (.inl rfl)
    | waitingForReconnect => exact .inr (.inr rfl)
  · cases ha : x.isCloseContinuationAbandoned with
    | false => rfl
    | true => exact absurd (hgives ha) hfailed

/-- The command was accepted. -/
theorem CompletionsSound.accept (h : s.CompletionsSound) (hs : s.Inv)
    (hfind : s.find deviceId = some x) (hgives : Session.GivesUp x.toSessionState)
    {command : DeviceCommandKind} (hcommand : command = .connect ∨ command = .reconnect) :
    (s.result command .accepted deviceId).CompletionsSound := by
  have hepoch : (s.find deviceId).elim 0 (·.operationEpoch) = x.operationEpoch := by
    rw [hfind]
    rfl
  refine h.complete (c := s.newCompletion .accepted deviceId x.operationEpoch)
    (r := ⟨command, .accepted, deviceId, x.operationEpoch, some s.publication.operations.length⟩)
    rfl rfl ?_ ?_ rfl rfl fun hstatus _ => ?_
  · simp [result, hcommand, hepoch]
  · simp [result, hcommand, hepoch]
  · exact ⟨hs.live_of_find hfind, newCompletion_pends hs hfind hgives hstatus⟩

theorem CompletionsSound.request (h : s.CompletionsSound) (hs : s.Inv)
    (hfind : s.find deviceId = some x) (command : DeviceCommandKind)
    (operation : DeviceOperationKind) :
    (s.request p command operation deviceId x).CompletionsSound := by
  have hact : (s.operate p deviceId (.connect operation true)).CompletionsSound :=
    h.operate hs (by simp)
  have hafter := find_act (p := p) hs hfind (by simp)
    (Session.enabled_operation (.connect operation true))
  have hepoch : ((s.operate p deviceId (.connect operation true)).find deviceId).map
      (·.operationEpoch) = some ((deviceSession (p.session deviceId)).step x
        (.operation (.connect operation true))).operationEpoch := congrArg _ hafter
  unfold DeviceService.request
  dsimp only
  rw [hepoch]
  by_cases hsame : ((deviceSession (p.session deviceId)).step x
      (.operation (.connect operation true))).operationEpoch = x.operationEpoch
  · rw [if_pos (by simpa using hsame)]
    exact hact.completes rfl rfl (result_completes (fun _ => by simp) deviceId)
  · rw [if_neg (by simpa using hsame)]
    by_cases hcommand : command = .connect ∨ command = .reconnect
    · exact hact.accept (hs.operate (by simp)) hafter
        (Session.step_connect_givesUp (hs.owned_of_find hfind).inv _ _ hsame) hcommand
    · exact hact.completes rfl rfl (result_completes (fun h => absurd h hcommand) deviceId)

/-! ## The tasks -/

section
variable {ok : Event → Prop} {new : WString → Prop}

theorem Step.completions (h : Step p ok new s t) (hok : ∀ e, ok e → e ≠ .operation .shutdown)
    (hs : s.Inv) (hc : s.CompletionsSound) : t.CompletionsSound := by
  cases h with
  | act deviceId e hperf hen => exact hc.act hs (hok e hperf) hen
  | listen deviceId => exact hc.operate hs (by simp)
  | create deviceId hcr => exact hc.emplace.configure (hs.emplace hcr)
  | publish kind deviceId => exact hc.publish kind deviceId
  | request command operation deviceId x hperf hfind => exact hc.request hs hfind _ _
  | keep hk hcompletes =>
    exact hc.completes hk.sessions (shutdown_of_flags hk.flags) hcompletes

end

theorem prepare_completions : (task.prepare s).publication.operations = s.publication.operations ∧
    (task.prepare s).ledger.results = s.ledger.results := by
  unfold ServiceTask.prepare subscribe unsubscribe
  repeat' split
  all_goals exact ⟨rfl, rfl⟩

/-- The completions of `s` are completions of `t`, in their places. -/
def Lasts (s t : DeviceService) : Prop :=
  ∀ (i : Nat) (c : DeviceOperationCompletion), s.publication.operations[i]? = some c →
    ∃ c', t.publication.operations[i]? = some c' ∧ operationOf c' = operationOf c

theorem Lasts.refl : Lasts s s := fun _ c hc => ⟨c, hc, rfl⟩

theorem Lasts.trans (h : Lasts s t) (h' : Lasts t u) : Lasts s u := by
  intro i c hc
  obtain ⟨c', hc', hop⟩ := h i c hc
  obtain ⟨c'', hc'', hop'⟩ := h' i c' hc'
  exact ⟨c'', hc'', hop'.trans hop⟩

theorem Resolves.lasts (h : Resolves s t) : Lasts s t := by
  obtain ⟨f, hf, hsame⟩ := h
  intro i c hc
  refine ⟨f c, ?_, (hsame c).1⟩
  rw [hf, List.getElem?_map, hc]
  rfl

theorem Lasts.append {new : List DeviceOperationCompletion}
    (h : t.publication.operations = s.publication.operations ++ new) : Lasts s t := by
  intro i c hc
  obtain ⟨hlt, -⟩ := List.getElem?_eq_some_iff.1 hc
  exact ⟨c, by rwa [h, List.getElem?_append_left hlt], rfl⟩

theorem result_lasts (command kind deviceId) : Lasts s (s.result command kind deviceId) := by
  unfold result
  dsimp only
  split
  · exact .append rfl
  · exact (Resolves.of_eq rfl).lasts

theorem Completes.lasts (h : Completes s t) : Lasts s t := by
  cases h with
  | same hops => exact (Resolves.of_eq hops).lasts
  | coalesced _ _ hops => exact .append hops

theorem operate_lasts (hs : s.Inv) {operation : Operation} :
    Lasts s (s.operate p deviceId operation) := (act_resolves hs).lasts

theorem configure_lasts (hs : s.Inv) : Lasts s (s.configure p deviceId) := by
  unfold configure
  dsimp only
  split
  · exact (operate_lasts hs).trans (operate_lasts (hs.operate (by simp)))
  · exact operate_lasts hs

theorem Step.lasts {ok : Event → Prop} {new : WString → Prop} (h : Step p ok new s t)
    (hs : s.Inv) : Lasts s t := by
  cases h with
  | act => exact (act_resolves hs).lasts
  | listen => exact operate_lasts hs
  | create deviceId hcr =>
    have hemplace : Lasts s (s.emplace deviceId) := (Resolves.of_eq rfl).lasts
    exact hemplace.trans (configure_lasts (hs.emplace hcr))
  | publish =>
    exact Resolves.lasts ⟨_, Publication.publish_operations,
      fun c => ⟨rfl, fun h => (Publication.resolveOperation_none h).1⟩⟩
  | request => exact (operate_lasts hs).trans (result_lasts _ _ _)
  | keep _ hcompletes => exact hcompletes.lasts

/-- Nothing is published any more, and no command returns. -/
structure Muted (s t : DeviceService) : Prop where
  isShutdown : t.isShutdown = s.isShutdown
  operations : t.publication.operations = s.publication.operations
  results : t.ledger.results = s.ledger.results

theorem act_muted (hsd : s.isShutdown = true) : Muted s (s.act p deviceId e) := by
  refine ⟨shutdown_of_flags flags_act, ?_, ?_⟩
  · cases hfind : s.find deviceId with
    | none => rw [act_of_none hfind]
    | some x =>
      rw [act_of_some hfind]
      dsimp only
      induction newFacts x ((deviceSession (p.session deviceId)).step x e) with
      | nil => rfl
      | cons fact facts ih =>
        rw [List.foldr_cons, Publication.onSessionFact, if_pos (by exact hsd)]
        exact ih
  · unfold act
    split <;> rfl

theorem loop_muted {deviceIds : List WString} (hsd : s.isShutdown = true) :
    Muted s (deviceIds.foldl (fun s deviceId => s.operate p deviceId .shutdown) s) := by
  induction deviceIds generalizing s with
  | nil => exact ⟨rfl, rfl, rfl⟩
  | cons deviceId deviceIds ih =>
    have hact : Muted s (s.operate p deviceId .shutdown) := act_muted hsd
    have hrest := ih (hact.isShutdown.trans hsd)
    exact ⟨hrest.1.trans hact.1, hrest.2.trans hact.2, hrest.3.trans hact.3⟩

/-- A service that is shut down has resolved every operation. -/
theorem shutdown_resolves (hsd : s.isShutdown = false) :
    Resolves s (s.shutdown p) ∧ (s.shutdown p).ledger.results = s.ledger.results ∧
      ∀ c ∈ (s.shutdown p).publication.operations, c.status ≠ none := by
  have hloop : Muted { s with
      isShutdown := true
      isRunning := false
      watcher := s.watcher.shutdown } ({ s with
      isShutdown := true
      isRunning := false
      watcher := s.watcher.shutdown }.forEachSession fun deviceId s =>
        s.operate p deviceId .shutdown) := loop_muted rfl
  have hclosed : (s.shutdownSessions p).isShutdown = true := hloop.isShutdown
  have hops : (s.shutdown p).publication.operations = s.publication.operations.map
      (resolveOperation ((s.shutdownSessions p).view (s.shutdownSessions p).snapshots)) := by
    rw [shutdown_eq hsd, ← hloop.operations]
    exact Publication.publish_operations
  refine ⟨⟨_, hops, fun _ => ⟨rfl, fun h => (Publication.resolveOperation_none h).1⟩⟩, ?_,
    fun c' hc' hstatus => ?_⟩
  · rw [shutdown_eq hsd]
    exact hloop.results
  · rw [hops] at hc'
    obtain ⟨c, -, rfl⟩ := List.mem_map.1 hc'
    have hopen := (Publication.resolveOperation_none hstatus).2
    rw [operationStatus, if_pos (by exact hclosed)] at hopen
    cases hopen

theorem shutdown_completions (hc : s.CompletionsSound) :
    (s.shutdown p).CompletionsSound ∧ Lasts s (s.shutdown p) := by
  cases hsd : s.isShutdown with
  | true =>
    have hkeep : s.shutdown p = s := if_pos hsd
    rw [hkeep]
    exact ⟨hc, .refl⟩
  | false =>
    obtain ⟨hresolves, hresults, hresolved⟩ := shutdown_resolves (p := p) hsd
    refine ⟨⟨fun c hmem hstatus => absurd hstatus (hresolved c hmem), ?_⟩, hresolves.lasts⟩
    exact hc.commands.resolves hresolves fun r hr => .inl (by rwa [← hresults])

theorem run_completions (hen : (deviceService p).enabled s task) (hs : s.Inv)
    (hc : s.CompletionsSound) : (s.run p task).CompletionsSound ∧ Lasts s (s.run p task) := by
  by_cases hne : task = .shutdown
  · subst hne
    exact shutdown_completions hc
  · have hprepared : (task.prepare s).Inv := hs.congr sessions_prepare shutdown_prepare
    have hresolves : Resolves s (task.prepare s) := .of_eq prepare_completions.1
    have hsound : (task.prepare s).CompletionsSound :=
      hc.resolves hresolves shutdown_prepare (find_congr sessions_prepare) prepare_completions.2
    have hok := performs_not_shutdown hen
    exact (moves_preserve (I := fun t => t.Inv ∧ t.CompletionsSound ∧ Lasts s t)
      (fun _ _ hstep hi => ⟨hstep.inv hok hi.1, hstep.completions hok hi.1 hi.2.1,
        hi.2.2.trans (hstep.lasts hi.1)⟩) (run_steps hen hne)
      ⟨hprepared, hsound, hresolves.lasts⟩).2

theorem completions_initial : initial.CompletionsSound := by
  constructor
  · intro c hc
    cases hc
  · intro r hr
    cases hr

theorem exec_completions {tasks : List ServiceTask} (hs : s.Inv) (hc : s.CompletionsSound)
    (hrun : (deviceService p).Run s tasks) :
    ((deviceService p).exec s tasks).Inv ∧ ((deviceService p).exec s tasks).CompletionsSound ∧
      Lasts s ((deviceService p).exec s tasks) :=
  EventSystem.Always.invariant (S := deviceService p)
    (I := fun t => t.Inv ∧ t.CompletionsSound ∧ Lasts s t)
    (fun _ _ hen hi => ⟨run_inv hen hi.1, (run_completions hen hi.1 hi.2.1).1,
      hi.2.2.trans (run_completions hen hi.1 hi.2.1).2⟩) hrun ⟨hs, hc, .refl⟩

/-! ## The cancellation of an operation -/

theorem operationStatus_later (hs : s.Inv) (hsd : s.isShutdown = false)
    (hfind : s.find c.deviceId = some x) {snapshot : DeviceSessionSnapshot}
    (hid : snapshot.deviceId = c.deviceId) (hlt : c.epoch < snapshot.operationEpoch) :
    operationStatus (s.view (s.snapshotsWith c.deviceId snapshot)) c = some .cancelled := by
  rw [operationStatus_view hs hsd hfind hid, if_pos (.inl (Nat.ne_of_gt hlt))]

/-- A task of the session that leaves the operation open, or publishes that its epoch is over. -/
theorem resolveAll_openOrCancelled (hs : s.Inv) (hfind : s.find c.deviceId = some x)
    {after : Session} {new : List DeviceSessionFact}
    (hnew : after.ledger.facts = new ++ x.ledger.facts)
    (hdevice : ∀ fact ∈ new, fact.snapshot.deviceId = c.deviceId)
    (hfacts : ∀ fact ∈ new, Session.Unresolved c.epoch fact.snapshot ∨
      c.epoch < fact.snapshot.operationEpoch)
    (hstatus : c.status = none ∨ c.status = some .cancelled) :
    let c' := resolveAll (fun snapshot => s.view (s.snapshotsWith c.deviceId snapshot))
      (newFacts x after) c
    (c'.status = none ∨ c'.status = some .cancelled) ∧
      ((∃ fact ∈ new, c.epoch < fact.snapshot.operationEpoch) ∨ c.status = some .cancelled →
        c'.status = some .cancelled) := by
  intro c'
  have hlive := hs.live_of_find hfind
  have hopen : c'.status = none ∨ c'.status = some .cancelled := by
    refine Publication.resolveAll_cancels (fun fact hfact => ?_) hstatus
    rw [newFacts_eq hnew] at hfact
    rcases hfacts fact hfact with hopen | hlt
    · exact .inl ((operationStatus_none_iff hs hlive hfind (hdevice fact hfact)).2 hopen)
    · exact .inr (operationStatus_later hs hlive hfind (hdevice fact hfact) hlt)
  refine ⟨hopen, fun hcancels => hopen.resolve_left fun hnone => ?_⟩
  obtain ⟨hbefore, hnone⟩ := Publication.resolveAll_none hnone
  rcases hcancels with ⟨fact, hfact, hlt⟩ | hcancelled
  · have hlater := operationStatus_later hs hlive hfind (hdevice fact hfact) hlt
    rw [newFacts_eq hnew] at hnone
    exact absurd ((hnone fact hfact).symm.trans hlater) (by simp)
  · exact absurd (hbefore.symm.trans hcancelled) (by simp)

/-- The completion after a task of its session. -/
theorem act_completion (hs : s.Inv) (hfind : s.find c.deviceId = some x)
    (hen : (deviceSession (p.session c.deviceId)).enabled x e) {new : List DeviceSessionFact}
    (hnew : ((deviceSession (p.session c.deviceId)).step x e).ledger.facts =
      new ++ x.ledger.facts)
    (hfacts : ∀ fact ∈ new, Session.Unresolved c.epoch fact.snapshot ∨
      c.epoch < fact.snapshot.operationEpoch)
    (hstatus : c.status = none ∨ c.status = some .cancelled) {operation : Nat}
    (hop : s.publication.operations[operation]? = some c) :
    ∃ c', (s.act p c.deviceId e).publication.operations[operation]? = some c' ∧
      operationOf c' = operationOf c ∧ (c'.status = none ∨ c'.status = some .cancelled) ∧
      ((∃ fact ∈ new, c.epoch < fact.snapshot.operationEpoch) ∨ c.status = some .cancelled →
        c'.status = some .cancelled) := by
  obtain ⟨-, -, new', hnew', hdevice⟩ := Session.step_later (hs.owned_of_find hfind).inv hen
  obtain rfl := List.append_cancel_right (hnew'.symm.trans hnew)
  have hdevice : ∀ fact ∈ new', fact.snapshot.deviceId = c.deviceId := fun fact hfact =>
    (hdevice fact hfact).1.trans (hs.owned_of_find hfind).deviceId
  refine ⟨_, ?_, Publication.operationOf_resolveAll _ _ _,
    resolveAll_openOrCancelled hs hfind hnew hdevice hfacts hstatus⟩
  rw [act_operations (hs.live_of_find hfind) hfind, List.getElem?_map, hop]
  rfl

/-- The two operations that cancel an operation, on its session. -/
theorem cancelled_session (hs : s.Inv) (hfind : s.find deviceId = some x)
    (hp : Session.Pursuing x.toSessionState) (restoreIncoming : Bool) :
    let y := (deviceSession (p.session deviceId)).step x (.operation .cancelReconnect)
    let z := (deviceSession (p.session deviceId)).step y (.operation (.disconnect restoreIncoming))
    Session.Cancelled x y ∧ Session.Released z.toSessionState ∧
      (Session.Renounces x y ∧ z = y ∨ Session.Renounces y z) := by
  intro y z
  have howned := hs.owned_of_find hfind
  have hcancelled : Session.Cancelled x y :=
    Session.step_cancelReconnect_cancelled howned.inv howned.live hp
  have hy : Owned (deviceId, y) := howned.step (Session.enabled_operation _) (by simp)
  cases haccepts : Session.acceptsDisconnect y.toSessionState with
  | true =>
    refine ⟨hcancelled, ?_, .inr (Session.step_disconnect_renounces hy.inv haccepts _)⟩
    exact Session.disconnect_released haccepts restoreIncoming
  | false =>
    have hsame : z = y := Session.step_disconnect_refused hy.live haccepts _
    obtain ⟨hreleased, hrenounces⟩ := hcancelled.accepts.resolve_left (by simp [haccepts])
    rw [hsame]
    exact ⟨hcancelled, hreleased, .inl ⟨hrenounces, rfl⟩⟩

/-- Either operation publishes that the epoch is over, and the first leaves the operation open. -/
theorem cancelled_facts {y z : Session} (hcancelled : Session.Cancelled x y)
    (hover : Session.Renounces x y ∧ z = y ∨ Session.Renounces y z) (hlater : Session.Later x y) :
    ∃ new new', y.ledger.facts = new ++ x.ledger.facts ∧ z.ledger.facts = new' ++ y.ledger.facts ∧
      (∀ fact ∈ new, Session.Unresolved x.operationEpoch fact.snapshot ∨
        x.operationEpoch < fact.snapshot.operationEpoch) ∧
      (∀ fact ∈ new', x.operationEpoch < fact.snapshot.operationEpoch) ∧
      ((∃ fact ∈ new', x.operationEpoch < fact.snapshot.operationEpoch) ∨
        ∃ fact ∈ new, x.operationEpoch < fact.snapshot.operationEpoch) := by
  obtain ⟨new, hnew, hfacts⟩ := hcancelled.leavesOpen
  rcases hover with ⟨⟨renounced, hf, hne, hover⟩, rfl⟩ | ⟨renounced, hf, hne, hover⟩
  · obtain rfl := List.append_cancel_right (hf.symm.trans hnew)
    obtain ⟨fact, hfact⟩ := List.exists_mem_of_ne_nil _ hne
    exact ⟨renounced, [], hnew, rfl, hfacts, by simp, .inr ⟨fact, hfact, hover fact hfact⟩⟩
  · have hall : ∀ fact ∈ renounced, x.operationEpoch < fact.snapshot.operationEpoch :=
      fun fact hfact => Nat.lt_of_le_of_lt hlater.epoch (hover fact hfact)
    obtain ⟨fact, hfact⟩ := List.exists_mem_of_ne_nil _ hne
    exact ⟨new, renounced, hnew, hf, hfacts, hall, .inl ⟨fact, hfact, hall fact hfact⟩⟩

/-- The operations on the session cancel the completion, and release the session. -/
theorem cancelSession_cancels (hs : s.Inv) (hfind : s.find c.deviceId = some x)
    (hepoch : c.epoch = x.operationEpoch) (hp : Session.Pursuing x.toSessionState)
    (hstatus : c.status = none) {operation : Nat}
    (hop : s.publication.operations[operation]? = some c)
    (hu : u = s.operate p c.deviceId .cancelReconnect) (restoreIncoming : Bool) :
    let t := u.operate p c.deviceId (.disconnect restoreIncoming)
    (∃ c', t.publication.operations[operation]? = some c' ∧ c'.status = some .cancelled) ∧
      ∃ z, t.find c.deviceId = some z ∧ Session.Released z.toSessionState := by
  have hen (operation : Operation) {y : Session} :
      (deviceSession (p.session c.deviceId)).enabled y (.operation operation) :=
    Session.enabled_operation operation
  obtain ⟨hcancelled, hreleased, hover⟩ := cancelled_session (p := p) hs hfind hp restoreIncoming
  have hlater := Session.step_later (hs.owned_of_find hfind).inv
    (hen .cancelReconnect)
  have hinv : u.Inv := by
    rw [hu]
    exact hs.operate (by simp)
  have hufind := find_act hs hfind (by simp) (hen .cancelReconnect)
  obtain ⟨new, new', hnew, hnew', hfacts, hfacts', hcancels⟩ :=
    cancelled_facts hcancelled hover hlater
  rw [← hepoch] at hfacts hfacts' hcancels
  obtain ⟨c₁, hop₁, hsame, hopen₁, hcancels₁⟩ :=
    act_completion hs hfind (hen _) hnew hfacts (.inl hstatus) hop
  have hufind : u.find c.deviceId = some ((deviceSession (p.session c.deviceId)).step x
      (.operation .cancelReconnect)) := by
    rw [hu]
    exact hufind
  have hop₁ : u.publication.operations[operation]? = some c₁ := by
    rw [hu]
    exact hop₁
  obtain ⟨hid, hrest⟩ := Prod.mk.inj hsame
  obtain ⟨hepoch₁, -⟩ := Prod.mk.inj hrest
  rw [← hid] at hufind hnew' hreleased ⊢
  rw [← hepoch₁] at hfacts' hcancels
  have hen' {y : Session} : (deviceSession (p.session c₁.deviceId)).enabled y
      (.operation (.disconnect restoreIncoming)) := Session.enabled_operation _
  obtain ⟨c₂, hop₂, -, -, hcancels₂⟩ := act_completion hinv hufind hen' hnew'
    (fun fact hfact => .inr (hfacts' fact hfact)) hopen₁ hop₁
  refine ⟨⟨c₂, hop₂, hcancels₂ (hcancels.imp id fun ⟨fact, hfact, hlt⟩ => ?_)⟩, _,
    find_act hinv hufind (by simp) hen', hreleased⟩
  refine hcancels₁ (.inl ⟨fact, hfact, ?_⟩)
  rwa [← hepoch₁]

/-! ## Waits -/

/-- What a wait returns and posts, in the state in which it ends: the completion is resolved, or the
wait gives up, at its deadline or because it is asked to stop. The completion of another service's
command is not found. Source: `WaitForCompletion` (`DeviceService.cpp:757`). -/
def waitForCompletion (command : DeviceCommandResult) (onExecutor stopRequested : Bool)
    (s : DeviceService) : DeviceOperationStatus × Option ServiceTask :=
  match command.completion with
  | none => (.rejected, none)
  | some operation =>
    match s.publication.operations[operation]? with
    | none => (.rejected, none)
    | some completion =>
      if onExecutor then (.rejected, none)
      else
        match completion.status with
        | some status => (status, none)
        | none =>
          (if stopRequested then .cancelled else .timedOut,
            if completion.ownsCancellation then some (.cancelOperation operation) else none)

/-- What the cancellation of an operation does, whose completion is `c`. -/
structure CancelsExactly (p : ServicePlatform) (s : DeviceService) (operation : Nat)
    (c : DeviceOperationCompletion) : Prop where
  /-- An operation that was resolved, or that another one has replaced, is not cancelled. -/
  keeps : c.status.isSome = true ∨
    (s.find c.deviceId).map (·.operationEpoch) ≠ some c.epoch → s.cancelOperation p operation = s
  /-- Otherwise its completion is cancelled, and its session is released. -/
  cancels : c.status = none → (s.find c.deviceId).map (·.operationEpoch) = some c.epoch →
    (∃ c', (s.cancelOperation p operation).publication.operations[operation]? = some c' ∧
      c'.status = some .cancelled) ∧
    ∃ x, (s.cancelOperation p operation).find c.deviceId = some x ∧
      Session.Released x.toSessionState
  /-- The other sessions are left alone. -/
  others : ∀ deviceId x, deviceId ≠ c.deviceId → s.find deviceId = some x →
    (s.cancelOperation p operation).find deviceId = some x

theorem cancelOperation_pending {operation : Nat}
    (hop : s.publication.operations[operation]? = some c) (hstatus : c.status = none) :
    s.cancelOperation p operation = s.cancelSessionOperation p c.deviceId c.epoch := by
  unfold cancelOperation
  rw [hop]
  exact if_neg (by simp [hstatus])

theorem cancelOperation_keeps {operation : Nat}
    (hop : s.publication.operations[operation]? = some c)
    (hover : c.status.isSome = true ∨ (s.find c.deviceId).map (·.operationEpoch) ≠ some c.epoch) :
    s.cancelOperation p operation = s := by
  cases hstatus : c.status with
  | some status =>
    unfold cancelOperation
    rw [hop]
    exact if_pos (by simp [hstatus])
  | none =>
    rw [cancelOperation_pending hop hstatus]
    exact if_pos (.inr (hover.resolve_left (by simp [hstatus])))

/-- The cancellation of an operation that a wait may cancel. -/
theorem cancelOperation_exact (hs : s.Inv) (hc : s.CompletionsSound) {operation : Nat}
    (hop : s.publication.operations[operation]? = some c) (howns : c.ownsCancellation = true) :
    CancelsExactly p s operation c := by
  refine ⟨cancelOperation_keeps hop, fun hstatus hepoch => ?_, fun deviceId x hne hfind => ?_⟩
  · obtain ⟨hlive, x, hfind, hphase⟩ :=
      hc.pend c (List.mem_of_getElem? hop) hstatus howns
    have hcurrent : c.epoch = x.operationEpoch := by simpa [hfind, eq_comm] using hepoch
    obtain ⟨-, hp⟩ := hphase.resolve_left (by omega)
    rw [cancelOperation_pending hop hstatus]
    have hcancels := cancelSession_cancels (p := p) hs hfind hcurrent hp hstatus hop rfl
      (s.operate p c.deviceId .cancelReconnect).isIncomingEnabled
    have hgo : s.cancelSessionOperation p c.deviceId c.epoch =
        (s.operate p c.deviceId .cancelReconnect).operate p c.deviceId
          (.disconnect (s.operate p c.deviceId .cancelReconnect).isIncomingEnabled) :=
      if_neg (by simp [hlive, hepoch])
    rwa [hgo]
  · by_cases hover : c.status.isSome = true ∨
        (s.find c.deviceId).map (·.operationEpoch) ≠ some c.epoch
    · rwa [cancelOperation_keeps hop hover]
    · obtain ⟨hstatus, -⟩ := not_or.1 hover
      rw [cancelOperation_pending hop (by simpa using hstatus)]
      unfold cancelSessionOperation
      split
      · exact hfind
      · exact find_act_of_ne (hs.operate (by simp)) hne (find_act_of_ne hs hne hfind)

/-- A wait that gives up cancels the operation that its command has begun, and nothing else, however
late the task that it posts runs. -/
theorem cancelled_wait_exact {before after : List ServiceTask} {command : DeviceCommandResult}
    (hrun : (deviceService p).Run initial (before ++ after))
    (hreturned : command ∈ ((deviceService p).exec initial before).ledger.results)
    (onExecutor stopRequested : Bool) :
    let wait := waitForCompletion command onExecutor stopRequested
      ((deviceService p).exec initial before)
    let s := (deviceService p).exec initial (before ++ after)
    (command.kind ≠ .accepted → wait.2 = none) ∧
      ∀ task, wait.2 = some task → (deviceService p).enabled s task ∧
        ∃ operation c, task = .cancelOperation operation ∧
          command.completion = some operation ∧ s.publication.operations[operation]? = some c ∧
            operationOf c = (command.deviceId, command.operationEpoch, true) ∧
              CancelsExactly p s operation c := by
  intro wait s
  obtain ⟨hbefore, hafter⟩ := (deviceService p).run_append.1 hrun
  obtain ⟨hinv, hsound, -⟩ := exec_completions inv_initial completions_initial hbefore
  obtain ⟨hinv', hsound', hlasts⟩ := exec_completions hinv hsound hafter
  rw [← EventSystem.exec_append] at hinv' hsound' hlasts
  have hposted {task : ServiceTask} (htask : wait.2 = some task) : ∃ operation c,
      task = .cancelOperation operation ∧ command.completion = some operation ∧
        ((deviceService p).exec initial before).publication.operations[operation]? = some c ∧
          c.ownsCancellation = true := by
    unfold wait waitForCompletion at htask
    split at htask
    · cases htask
    rename_i operation hoperation
    split at htask
    · cases htask
    rename_i c hc
    split at htask
    · cases htask
    split at htask
    · cases htask
    dsimp only at htask
    split at htask
    · rename_i howns
      exact ⟨operation, c, (Option.some.inj htask).symm, hoperation, hc, howns⟩
    · cases htask
  refine ⟨fun hkind => ?_, fun task htask => ?_⟩
  · cases htask : wait.2 with
    | none => rfl
    | some task =>
      obtain ⟨operation, c, -, hcommand, hc, howns⟩ := hposted htask
      obtain ⟨c', hc', hop⟩ := hsound.commands command hreturned operation hcommand
      obtain rfl := Option.some.inj (hc.symm.trans hc')
      have haccepted := (congrArg (·.2.2) hop).symm.trans howns
      exact absurd (of_decide_eq_true haccepted) hkind
  · obtain ⟨operation, c, rfl, hcommand, hc, howns⟩ := hposted htask
    obtain ⟨c', hc', hop⟩ := hsound.commands command hreturned operation hcommand
    obtain rfl := Option.some.inj (hc.symm.trans hc')
    obtain ⟨c', hc', hsame⟩ := hlasts operation c hc
    have howns' : c'.ownsCancellation = true := (congrArg (·.2.2) hsame).trans howns
    have haccepted : decide (command.kind = .accepted) = true :=
      (congrArg (·.2.2) hop).symm.trans howns
    refine ⟨?_, operation, c', rfl, hcommand, hc', hsame.trans (hop.trans (by rw [haccepted])),
      cancelOperation_exact hinv' hsound' hc' howns'⟩
    have henabled : s.publication.operations[operation]?.any (·.ownsCancellation) = true := by
      rw [hc']
      exact howns'
    exact henabled

/-- A platform on which the listener's creation fails once, and its next start fails too. -/
def failingListener : ServicePlatform where
  session _ := { PlaybackConnector.obligingPlatform with
    create := fun call => if call = 14 then .threw else .connection 7
    start := fun call => call ≠ 17 }
  registers _ := true

/-- A device with a listener is connected, and its open fails transiently. -/
def transientFailure : List ServiceTask :=
  [.applySettingsPolicy ⟨1, true, true, []⟩ false, .connect [65],
    .callback [65] (.started 1 ⟨0, 7⟩ .success), .connect [65],
    .callback [65] (.closeBarrier 1 false), .callback [65] (.closeCooldown 1),
    .callback [65] (.started 2 ⟨1, 7⟩ .success),
    .callback [65] (.opened 2 ⟨1, 7⟩ ⟨.timedOut, true⟩), .callback [65] (.closeBarrier 2 false),
    .callback [65] (.closeCooldown 2)]

/-- The wait for the retry is cancelled, and the listener that was to be restored is closed again,
with a continuation other than `Idle`. -/
theorem cancelled_wait_closes_listener :
    let s := (deviceService failingListener).exec initial transientFailure
    (deviceService failingListener).Run initial (transientFailure ++ [.cancelOperation 1]) ∧
      s.publication.operations[1]? = some ⟨[65], 2, true, none⟩ ∧
      (s.find [65]).map (·.operationEpoch) = some 2 ∧
      ∃ x, (s.cancelOperation failingListener 1).find [65] = some x ∧
        ¬ (x.lifecycle = .idle ∨ x.lifecycle = .failed ∨
          x.lifecycle = .disconnecting ∧ x.pendingCloseContinuation = .idle ∧
            x.reconnectTimer = none ∨
          x.lifecycle = .connecting ∧ x.openImmediately = false) := by
  intro s
  have hphase : ((s.cancelOperation failingListener 1).find [65]).map (fun x =>
      (x.lifecycle, x.pendingCloseContinuation)) = some (.disconnecting, .retry) := by decide
  obtain ⟨x, hfind, hx⟩ := Option.map_eq_some_iff.1 hphase
  obtain ⟨hlifecycle, hcontinuation⟩ := Prod.mk.inj hx
  exact ⟨by decide, by decide, by decide, x, hfind, by simp [hlifecycle, hcontinuation]⟩

/-- A wait for a connection gives up while the connection is started. -/
theorem cancelled_wait_exact_connecting :
    let command : DeviceCommandResult := ⟨.connect, .accepted, [65], 1, some 0⟩
    let s := (deviceService obligingPlatform).exec initial [.connect [65]]
    (waitForCompletion command false false s).2 = some (.cancelOperation 0) ∧
      CancelsExactly obligingPlatform s 0 ⟨[65], 1, true, none⟩ := by
  intro command s
  have hposted : (waitForCompletion command false false s).2 = some (.cancelOperation 0) := by
    decide
  have hrun : (deviceService obligingPlatform).Run initial ([.connect [65]] ++ []) := by decide
  have hreturned : command ∈ ((deviceService obligingPlatform).exec initial
      [.connect [65]]).ledger.results := by decide
  obtain ⟨-, operation, c, heq, -, hop, -, hexact⟩ :=
    (cancelled_wait_exact hrun hreturned false false).2 _ hposted
  obtain rfl := ServiceTask.cancelOperation.inj heq
  have hc : s.publication.operations[0]? = some ⟨[65], 1, true, none⟩ := by decide
  obtain rfl := Option.some.inj (hop.symm.trans hc)
  exact ⟨hposted, hexact⟩

end DeviceService

end PlaybackConnector
