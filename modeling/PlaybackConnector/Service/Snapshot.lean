import PlaybackConnector.Service.Policy
import PlaybackConnector.Session.Silence
import Mathlib

/-!
# The published snapshot of the service

The service rebuilds its snapshot whenever a session publishes a fact, so the snapshot is as new as
the latest fact. It is the sorted list of the sessions' own snapshots after every task
(`published_snapshot_faithful`), unless the task is one of four whose last operation on a session
can be silent (`Silent`).
-/

namespace PlaybackConnector

namespace Publication

variable {view : DeviceServiceSnapshot} {kind : DeviceFactKind} {deviceId : WString}
  {result : DeviceConnectionResult} {terminal : Bool} {operation : DeviceOperationKind}
  {disconnectReason : DeviceDisconnectReason} {pub pub' pub'' : Publication}

/-- The publication `pub'` came after `pub`: its subscriber is the same, and was told if the
generation increased. -/
structure Delivers (pub pub' : Publication) : Prop where
  subscriber : pub'.subscriber = pub.subscriber
  generation : pub.generation ≤ pub'.generation
  delivered : ∃ new, pub'.facts = new ++ pub.facts ∧
    (∀ entry ∈ new, pub.subscriber = some entry.1) ∧
      (pub.generation < pub'.generation → pub.subscriber.isSome = true → new ≠ [])

theorem Delivers.of_same (hgen : pub'.generation = pub.generation)
    (hsub : pub'.subscriber = pub.subscriber) (hfacts : pub'.facts = pub.facts) :
    Delivers pub pub' :=
  ⟨hsub, Nat.le_of_eq hgen.symm, [], hfacts, by simp, fun h => absurd h (by simp [hgen])⟩

theorem Delivers.trans (h : Delivers pub pub') (h' : Delivers pub' pub'') :
    Delivers pub pub'' := by
  obtain ⟨hsub, hgen, new, hfacts, hto, hnew⟩ := h
  obtain ⟨hsub', hgen', new', hfacts', hto', hnew'⟩ := h'
  refine ⟨hsub'.trans hsub, Nat.le_trans hgen hgen', new' ++ new, ?_, fun entry hentry => ?_,
    fun hlt hsome => ?_⟩
  · rw [hfacts', hfacts, List.append_assoc]
  · rcases List.mem_append.1 hentry with hentry | hentry
    · exact hsub.symm.trans (hto' entry hentry)
    · exact hto entry hentry
  · by_cases hearly : pub.generation < pub'.generation
    · exact List.append_ne_nil_of_right_ne_nil _ (hnew hearly hsome)
    · have hlate : pub'.generation < pub''.generation := by omega
      exact List.append_ne_nil_of_left_ne_nil (hnew' hlate (by rwa [hsub])) _

theorem publish_sessions :
    (pub.publish view kind deviceId result terminal operation
      disconnectReason).publishedSnapshot.sessions = view.sessions := by
  unfold publish
  dsimp only
  split <;> rfl

theorem publish_generation :
    (pub.publish view kind deviceId result terminal operation disconnectReason).generation =
      pub.generation + 1 := by
  unfold publish
  dsimp only
  split <;> rfl

theorem publish_delivers :
    Delivers pub
      (pub.publish view kind deviceId result terminal operation disconnectReason) := by
  unfold publish
  cases hsub : pub.subscriber with
  | none =>
    exact ⟨by simp [updatePublishedSnapshot, hsub], by simp [updatePublishedSnapshot], [],
      by simp [updatePublishedSnapshot], by simp, fun _ h => by simp [hsub] at h⟩
  | some subscription =>
    exact ⟨by simp [updatePublishedSnapshot, hsub], by simp [updatePublishedSnapshot],
      [_], rfl, by simp [hsub], fun _ _ => by simp⟩

theorem onSessionFact_live {view : DeviceSessionSnapshot → DeviceServiceSnapshot}
    {fact : DeviceSessionFact} (h : (view fact.snapshot).isShutdown = false) :
    onSessionFact view fact pub =
      pub.publish (view fact.snapshot) (sessionFactKind fact) fact.snapshot.deviceId fact.result
        fact.isTerminalFailure fact.operation fact.disconnectReason :=
  if_neg (by simp [h])

theorem onSessionFact_delivers {view : DeviceSessionSnapshot → DeviceServiceSnapshot}
    {fact : DeviceSessionFact} : Delivers pub (onSessionFact view fact pub) := by
  unfold onSessionFact
  split
  · exact .of_same rfl rfl rfl
  · exact publish_delivers

theorem foldr_delivers {view : DeviceSessionSnapshot → DeviceServiceSnapshot}
    {facts : List DeviceSessionFact} : Delivers pub (facts.foldr (onSessionFact view) pub) := by
  induction facts with
  | nil => exact .of_same rfl rfl rfl
  | cons fact facts ih => exact ih.trans onSessionFact_delivers

end Publication

namespace DeviceService

variable {p : ServicePlatform} {s t u : DeviceService} {deviceId : WString} {x : Session}
  {task : ServiceTask} {e : Event}

/-! ## What the service reports -/

/-- The reports of the sessions, in the order of their ids. -/
def sortReports (reports : List SessionReport) : List SessionReport :=
  reports.insertionSort (·.deviceId ≤ ·.deviceId)

/-- What there is to report of the sessions. -/
def reports (s : DeviceService) : List SessionReport := s.snapshots.map (·.report)

/-- What the published snapshot reports. -/
def publishedReports (s : DeviceService) : List SessionReport :=
  s.publication.publishedSnapshot.sessions.map (·.report)

/-- The service reports its sessions with every generation of its snapshot. -/
def serviceReporter : Reporter DeviceService (List SessionReport) where
  live s := sortReports s.reports
  reported := publishedReports
  count s := s.publication.generation

/-- The service `t` was published, after `s`. -/
abbrev Since (s t : DeviceService) : Prop := serviceReporter.Since s t

/-- Whatever happened from `s` to `t` was published. -/
abbrev Told (s t : DeviceService) : Prop := serviceReporter.Told s t

theorem view_reports (live : List DeviceSessionSnapshot) :
    (s.view live).sessions.map (·.report) = sortReports (live.map (·.report)) :=
  List.map_insertionSort _ _ _ _ fun _ _ _ _ => Iff.rfl

theorem since_publish (kind deviceId) : Since s (s.publish kind deviceId) := by
  refine ⟨?_, ?_⟩
  · change _ < (Publication.publish ..).generation
    rw [Publication.publish_generation]
    exact Nat.lt_succ_self _
  · change (Publication.publish ..).publishedSnapshot.sessions.map _ = _
    rw [Publication.publish_sessions]
    exact view_reports _

theorem told_of_same (hsessions : t.sessions = s.sessions)
    (hpub : t.publication.publishedSnapshot = s.publication.publishedSnapshot)
    (hgen : t.publication.generation = s.publication.generation) : Told s t := by
  refine .inr ⟨?_, ?_, hgen⟩
  · change sortReports (t.sessions.map _ |>.map _) = sortReports (s.sessions.map _ |>.map _)
    rw [hsessions]
  · change t.publication.publishedSnapshot.sessions.map _ = _
    rw [hpub]
    rfl

theorem Kept.told (h : Kept s t) : Told s t := told_of_same h.sessions h.published h.generation

/-! ## The tasks of the sessions -/

theorem act_delivers : Publication.Delivers s.publication (s.act p deviceId e).publication := by
  unfold act
  split
  · exact .of_same rfl rfl rfl
  · exact Publication.foldr_delivers

theorem act_grows : serviceReporter.Grows s (s.act p deviceId e) := act_delivers.generation

/-- What the sessions report while one of them is in a task that reports the state it leaves. -/
theorem snapshotsWith_reports {snapshot : DeviceSessionSnapshot} {after : Session}
    (h : snapshot.report = (Session.snapshot after.toSessionState).report) :
    (s.snapshotsWith deviceId snapshot).map (·.report) =
      ((s.sessions.map fun entry => if entry.1 = deviceId then (deviceId, after) else entry).map
        fun entry => Session.snapshot entry.2.toSessionState).map (·.report) := by
  simp only [snapshotsWith, List.map_map]
  refine List.map_congr_left fun entry _ => ?_
  simp only [Function.comp_apply]
  split
  · exact h
  · rfl

theorem reports_eq : s.reports =
    s.sessions.map fun entry => (Session.snapshot entry.2.toSessionState).report := by
  simp [reports, snapshots, Function.comp_def]

/-- A task of a session that is published at its end. -/
theorem act_since (hs : s.Inv) (hfind : s.find deviceId = some x)
    (h : Session.Since x ((deviceSession (p.session deviceId)).step x e)) :
    Since s (s.act p deviceId e) := by
  obtain ⟨hlater, hcurrent⟩ := h
  have hsd := hs.live_of_find hfind
  generalize hafter : (deviceSession (p.session deviceId)).step x e = after at hlater hcurrent
  have hlater : x.ledger.facts.length < after.ledger.facts.length := hlater
  obtain ⟨fact, rest, hfacts⟩ : ∃ fact rest, after.ledger.facts = fact :: rest := by
    cases hfacts : after.ledger.facts with
    | nil => simp [hfacts] at hlater
    | cons fact rest => exact ⟨fact, rest, rfl⟩
  have hreport : fact.snapshot.report = (Session.snapshot after.toSessionState).report := by
    have hhead : after.ledger.facts.head?.map (fun fact => fact.snapshot.report) = _ := hcurrent
    rw [hfacts] at hhead
    exact Option.some.inj hhead
  obtain ⟨more, hnew⟩ : ∃ more, newFacts x after = fact :: more := by
    obtain ⟨n, hn⟩ := Nat.exists_eq_add_of_lt hlater
    refine ⟨rest.take n, ?_⟩
    have hcount : after.ledger.facts.length - x.ledger.facts.length = n + 1 := by omega
    unfold newFacts
    rw [hcount, hfacts, List.take_succ_cons]
  rw [act_of_some hfind, hafter]
  dsimp only
  rw [hnew, List.foldr_cons]
  refine ⟨?_, ?_⟩
  · change s.publication.generation < (Publication.onSessionFact _ _ _).generation
    rw [Publication.onSessionFact_live (by exact hsd), Publication.publish_generation]
    exact Nat.lt_succ_of_le Publication.foldr_delivers.generation
  · change (Publication.onSessionFact _ _ _).publishedSnapshot.sessions.map _ = _
    rw [Publication.onSessionFact_live (by exact hsd), Publication.publish_sessions, view_reports,
      snapshotsWith_reports hreport]
    rfl

/-- A task of a session whose reports tell what it does. -/
theorem act_told (hs : s.Inv) (h : ∀ x, s.find deviceId = some x →
      Session.Told x ((deviceSession (p.session deviceId)).step x e)) :
    Told s (s.act p deviceId e) := by
  cases hfind : s.find deviceId with
  | none =>
    rw [act_of_none hfind]
    exact .refl s
  | some x =>
    rcases h x hfind with hsince | hsame
    · exact .inl (act_since hs hfind hsince)
    · obtain ⟨hlive, -, hcount⟩ := hsame
      have hnew : newFacts x ((deviceSession (p.session deviceId)).step x e) = [] := by
        have hcount : ((deviceSession (p.session deviceId)).step x e).ledger.facts.length =
            x.ledger.facts.length := hcount
        simp [newFacts, hcount]
      rw [act_of_some hfind]
      dsimp only
      rw [hnew]
      refine .inr ⟨congrArg sortReports ?_, rfl, rfl⟩
      rw [reports_eq, reports_eq, List.map_map]
      refine List.map_congr_left fun entry hentry => ?_
      simp only [Function.comp_apply]
      split
      · rename_i hid
        have hx : s.find entry.1 = some entry.2 := find_of_mem hs.nodup hentry
        rw [hid, hfind] at hx
        obtain rfl := Option.some.inj hx
        exact Option.some.inj hlive
      · rfl

/-! ## Steps -/

theorem operate_since (hs : s.Inv) (hfind : s.find deviceId = some x) {operation : Operation}
    (h : Session.Since x ((deviceSession (p.session deviceId)).step x (.operation operation))) :
    Since s (s.operate p deviceId operation) :=
  act_since hs hfind h

/-- A new session reports the flags that it is given. -/
theorem create_since (hs : s.Inv) (hcr : s.creates deviceId = true) :
    Since s ((s.emplace deviceId).configure p deviceId) := by
  have hinv : (s.emplace deviceId).Inv := hs.emplace hcr
  have hfind : (s.emplace deviceId).find deviceId =
      some (Session.initial deviceId (s.deviceName deviceId)) :=
    find_of_mem hinv.nodup (List.mem_append_right _ (List.mem_singleton_self _))
  have hset : Since (s.emplace deviceId) ((s.emplace deviceId).operate p deviceId
      (.setReconnectEnabled ((s.emplace deviceId).isReconnectEnabledFor deviceId))) :=
    operate_since hinv hfind (Session.step_setReconnectEnabled_since rfl
      fun _ h => absurd h.1 (by simp [Session.cancelsActiveReconnect, Session.initial]))
  have hnew : Since s ((s.emplace deviceId).operate p deviceId
      (.setReconnectEnabled ((s.emplace deviceId).isReconnectEnabledFor deviceId))) :=
    .of_grows (t := s.emplace deviceId) (Nat.le_refl _) hset
  unfold configure
  dsimp only
  split
  · refine hnew.told (act_told (hinv.operate (by simp)) fun x hx => .inl ?_)
    rcases mem_act (mem_of_find hx) with ⟨hne, -⟩ | ⟨y, hy, heq⟩
    · exact absurd rfl hne
    obtain rfl := Option.some.inj (hfind.symm.trans hy)
    obtain ⟨-, rfl⟩ := Prod.mk.inj heq
    have howned := (owned_initial (creates_iff.1 hcr).1 (s.deviceName deviceId)).step
      (p := p) (Session.enabled_operation (.setReconnectEnabled
        ((s.emplace deviceId).isReconnectEnabledFor deviceId))) (by simp)
    refine Session.step_setIncomingEnabled_since howned.live ?_
      (Session.inactiveThenListen rfl ?_ ?_)
    · rw [howned.deviceId]
      exact howned.named
    · simp [Session.cancelsActiveReconnect, Session.initial]
    · simp [Session.ListensSilently, Session.initial]
  · exact hnew

section
variable {ok : Event → Prop} {new : WString → Prop}

theorem Step.delivers (h : Step p ok new s t) :
    Publication.Delivers s.publication t.publication := by
  cases h with
  | act | listen => exact act_delivers
  | create deviceId =>
    have hset (operation : Operation) : Publication.Delivers s.publication
        ((s.emplace deviceId).operate p deviceId operation).publication :=
      act_delivers (s := s.emplace deviceId)
    unfold configure
    dsimp only
    split
    · exact (hset _).trans act_delivers
    · exact hset _
  | publish => exact Publication.publish_delivers
  | request => exact act_delivers.trans (.of_same rfl rfl rfl)
  | keep hk => exact .of_same hk.generation hk.subscriber hk.facts

theorem Steps.delivers (h : Steps p ok new s t) :
    Publication.Delivers s.publication t.publication := by
  induction h with
  | refl => exact .of_same rfl rfl rfl
  | tail _ hstep ih => exact ih.trans hstep.delivers

theorem Steps.grows (h : Steps p ok new s t) : serviceReporter.Grows s t := h.delivers.generation

/-- A step that performs only what tells, in a service whose sessions have their flags. -/
theorem Step.told (h : Step p ok new s t) (hok : ∀ e, ok e → e.tells = true) (hs : s.Inv)
    (hagree : s.Agrees) : Told s t := by
  cases h with
  | act deviceId e hperf => exact act_told hs fun _ _ => Session.step_told (hok e hperf)
  | listen deviceId hin =>
    exact act_told hs fun x hx =>
      Session.listen_told Session.reentry_tells ((hagree _ (mem_of_find hx)).2.trans hin)
  | create deviceId hcr => exact .inl (create_since hs hcr)
  | publish kind deviceId => exact .inl (since_publish kind deviceId)
  | request command operation deviceId x hperf =>
    exact (act_told hs fun _ _ => Session.step_told (hok _ hperf)).trans (result_kept _ _ _).told
  | keep hk => exact hk.told

theorem Steps.told (h : Steps p ok new s t) (hok : ∀ e, ok e → e.tells = true)
    (hs : s.Inv) (hagree : s.Agrees) : Told s t := by
  have hne (e : Event) (hperf : ok e) : e ≠ .operation .shutdown := by
    rintro rfl
    exact absurd (hok _ hperf) (by decide)
  have htold := moves_preserve (I := fun t => t.Inv ∧ t.Agrees ∧ Told s t)
    (fun u v hstep hu => ⟨hstep.inv hne hu.1,
      hstep.agrees (fun e hperf => Session.setFlags_of_tells (hok e hperf)) hu.1 hu.2.1,
      hu.2.2.trans (hstep.told hok hu.1 hu.2.1)⟩) h ⟨hs, hagree, .refl s⟩
  exact htold.2.2

end

/-! ## The last session of a loop -/

/-- A task of a session leaves the other sessions in the map. -/
theorem mem_act_of_ne {entry : WString × Session} (h : entry ∈ s.sessions)
    (hne : entry.1 ≠ deviceId) : entry ∈ (s.act p deviceId e).sessions := by
  cases hfind : s.find deviceId with
  | none => rwa [act_of_none hfind]
  | some x =>
    rw [act_of_some hfind]
    exact List.mem_map.2 ⟨entry, h, if_neg hne⟩

/-- The session after its task. -/
theorem find_act (hs : s.Inv) (hfind : s.find deviceId = some x) (hne : e ≠ .operation .shutdown)
    (hen : (deviceSession (p.session deviceId)).enabled x e) :
    (s.act p deviceId e).find deviceId =
      some ((deviceSession (p.session deviceId)).step x e) := by
  have hinv : (s.act p deviceId e).Inv :=
    hs.act hne fun y hy => by rwa [Option.some.inj (hy.symm.trans hfind)]
  refine find_of_mem hinv.nodup ?_
  rw [act_of_some hfind]
  exact List.mem_map.2 ⟨_, mem_of_find hfind, if_pos rfl⟩

theorem mem_foldl_of_ne {body : WString → DeviceService → DeviceService}
    {entry : WString × Session} {deviceIds : List WString}
    (hframe : ∀ t deviceId, entry.1 ≠ deviceId → entry ∈ t.sessions →
      entry ∈ (body deviceId t).sessions)
    (hother : ∀ deviceId ∈ deviceIds, entry.1 ≠ deviceId) (h : entry ∈ s.sessions) :
    entry ∈ (deviceIds.foldl (fun s deviceId => body deviceId s) s).sessions := by
  induction deviceIds generalizing s with
  | nil => exact h
  | cons deviceId deviceIds ih =>
    refine ih (fun id hid => hother id (List.mem_cons_of_mem _ hid)) ?_
    exact hframe s deviceId (hother deviceId List.mem_cons_self) h

/-- A loop ends with the last session, which it finds as it was at its begin. -/
theorem forEachSession_last {body : WString → DeviceService → DeviceService} {ok : Event → Prop}
    {new : WString → Prop} {entry : WString × Session}
    (hsteps : ∀ t deviceId, t.flags = s.flags → Steps p ok new t (body deviceId t))
    (hne : ∀ e, ok e → e ≠ .operation .shutdown)
    (hframe : ∀ t deviceId, entry.1 ≠ deviceId → entry ∈ t.sessions →
      entry ∈ (body deviceId t).sessions)
    (hs : s.Inv) (hlast : s.sessions.getLast? = some entry) :
    ∃ t, s.forEachSession body = body entry.1 t ∧ Steps p ok new s t ∧ t.Inv ∧
      t.find entry.1 = some entry.2 := by
  obtain ⟨first, hsessions⟩ := List.getLast?_eq_some_iff.1 hlast
  have hids : s.ids = first.map Prod.fst ++ [entry.1] := by simp [ids, hsessions]
  have hnodup := hs.nodup
  rw [hids] at hnodup
  have hother (deviceId) (hmem : deviceId ∈ first.map Prod.fst) : entry.1 ≠ deviceId := by
    rintro rfl
    exact (List.nodup_append.1 hnodup).2.2 _ hmem _ (List.mem_singleton_self _) rfl
  have hstart : entry ∈ s.sessions := by simp [hsessions]
  have hfirst : Steps p ok new s ((first.map Prod.fst).foldl (fun s deviceId => body deviceId s) s) :=
    foldl_steps fun t ht deviceId _ => hsteps t deviceId ht
  have hmem : entry ∈ ((first.map Prod.fst).foldl (fun s deviceId => body deviceId s) s).sessions :=
    mem_foldl_of_ne hframe hother hstart
  have hinv := hfirst.inv hne hs
  refine ⟨_, ?_, hfirst, hinv, find_of_mem hinv.nodup hmem⟩
  rw [forEachSession, hids, List.foldl_append]
  rfl

theorem forEachSession_empty {body : WString → DeviceService → DeviceService}
    (h : s.sessions.getLast? = none) : s.forEachSession body = s := by
  rw [forEachSession, ids, List.getLast?_eq_none_iff.1 h]
  rfl

/-! ## Tasks -/

/-- What a policy does to a session stays unpublished: it cancels an automatic reconnect of the
session or not, and it changes the session's listener or not. -/
def FlagsSilently (p : Platform) (cancels : Bool) (incoming : Option Bool) (x : Session) : Prop :=
  match incoming with
  | none => cancels = true ∧ Session.CancelsSilently p x
  | some enabled =>
    if cancels then Session.CancelsThenListensSilently p x enabled
    else Session.ListensSilently x.toSessionState enabled

/-- The policy disables reconnecting for a session that is reconnecting. -/
def policyCancels (policy : DeviceSettingsPolicy) (entry : WString × Session) (s : DeviceService) :
    Bool :=
  s.reconnectChanged policy && !(s.adoptPolicy policy).isReconnectEnabledFor entry.1 &&
    Session.cancelsActiveReconnect entry.2.toSessionState

/-- The last thing that the task does to a session stays unpublished. A loop over the sessions is
published with its last session, and a policy that creates a session with that. -/
def Silent (p : ServicePlatform) (s : DeviceService) : ServiceTask → Prop
  | .cancelReconnect deviceId =>
    ∃ x, s.find deviceId = some x ∧ Session.CancelsSilently (p.session deviceId) x
  | .cancelPendingReconnects =>
    ∃ entry, s.sessions.getLast? = some entry ∧
      Session.CancelsSilently (p.session entry.1) entry.2
  | .cancelOperation operation =>
    ∃ completion x, s.publication.operations[operation]? = some completion ∧
      completion.status = none ∧ s.find completion.deviceId = some x ∧
        x.operationEpoch = completion.epoch ∧
          Session.cancelsActiveReconnect x.toSessionState = true ∧
            x.isCloseInFlight = true ∧ x.isCloseContinuationAbandoned = true
  | .applySettingsPolicy policy stopRequested =>
    s.acceptsPolicy policy stopRequested = true ∧
      ¬ (s.incomingChanged policy = true ∧ policy.allowIncomingConnections = true ∧
        ∃ device ∈ s.watcher.snapshot.devices, s.creates device.id = true) ∧
        ∃ entry, s.sessions.getLast? = some entry ∧
          FlagsSilently (p.session entry.1) (s.policyCancels policy entry)
            (if s.incomingChanged policy then some policy.allowIncomingConnections else none)
            entry.2
  | _ => False

theorem result_told (h : Told s t) (command kind deviceId) :
    Told s (t.result command kind deviceId) :=
  h.trans (result_kept command kind deviceId).told

theorem cancelReconnect_told (hs : s.Inv) (h : ¬ Silent p s (.cancelReconnect deviceId)) :
    Told s (s.cancelReconnect p deviceId) := by
  unfold cancelReconnect
  split
  · exact result_told (.refl s) _ _ _
  split
  · exact result_told (.refl s) _ _ _
  split
  · refine result_told (act_told hs fun x hx => .inl ?_) _ _ _
    exact Session.step_cancelReconnect_since (hs.owned_of_find hx).live fun hc => h ⟨x, hx, hc⟩
  · exact result_told (.refl s) _ _ _

theorem cancelPendingReconnects_told (hs : s.Inv) (h : ¬ Silent p s .cancelPendingReconnects) :
    Told s (s.cancelPendingReconnects p) := by
  unfold cancelPendingReconnects
  split
  · exact result_told (.refl s) _ _ _
  refine result_told ?_ _ _ _
  cases hlast : s.sessions.getLast? with
  | none =>
    rw [forEachSession_empty hlast]
    exact .refl s
  | some entry =>
    have hsteps (t : DeviceService) (deviceId : WString) (_ : t.flags = s.flags) :
        Steps p (fun e => e = .operation .cancelReconnect) (fun _ => False) t
          (t.operate p deviceId .cancelReconnect) := operate_step deviceId rfl
    obtain ⟨t, hloop, hsteps, hinv, hfind⟩ := forEachSession_last hsteps (by simp)
      (fun _ _ hne hmem => mem_act_of_ne hmem hne) hs hlast
    rw [hloop]
    refine .inl (.of_grows hsteps.grows (operate_since hinv hfind ?_))
    exact Session.step_cancelReconnect_since (hinv.owned_of_find hfind).live
      fun hc => h ⟨entry, hlast, hc⟩

/-- What a cancelled wait leaves unpublished, the disconnection that follows publishes. -/
theorem cancelSessionOperation_told {epoch : Nat} (hs : s.Inv)
    (h : ∀ x, s.find deviceId = some x → x.operationEpoch = epoch →
      ¬ (Session.cancelsActiveReconnect x.toSessionState = true ∧ x.isCloseInFlight = true ∧
        x.isCloseContinuationAbandoned = true)) :
    Told s (s.cancelSessionOperation p deviceId epoch) := by
  unfold cancelSessionOperation
  split
  · exact .refl s
  rename_i hgo
  obtain ⟨x, hfind, hepoch⟩ : ∃ x, s.find deviceId = some x ∧ x.operationEpoch = epoch := by
    have hcur := (not_or.1 hgo).2
    simpa using hcur
  have howned := hs.owned_of_find hfind
  have hcancel : (s.operate p deviceId .cancelReconnect).Inv := hs.operate (by simp)
  have hdisc (restoreIncoming : Bool) : Told (s.operate p deviceId .cancelReconnect)
      ((s.operate p deviceId .cancelReconnect).operate p deviceId (.disconnect restoreIncoming)) :=
    act_told hcancel fun _ _ => Session.step_told rfl
  by_cases hsilent : Session.CancelsSilently (p.session deviceId) x
  · have hnot := fun hclose => h x hfind hepoch ⟨hsilent.1, hclose⟩
    have hafter := find_act (p := p) hs hfind (by simp)
      (Session.enabled_operation .cancelReconnect)
    have haccepts := Session.cancelReconnect_accepts howned.live hsilent hnot
    exact .inl (.of_grows act_grows
      (operate_since hcancel hafter (Session.step_disconnect_since haccepts _)))
  · have hsince := operate_since (p := p) hs hfind
      (Session.step_cancelReconnect_since howned.live hsilent)
    exact .inl (hsince.told (hdisc _))

theorem cancelOperation_told {operation : Nat} (hs : s.Inv)
    (h : ¬ Silent p s (.cancelOperation operation)) : Told s (s.cancelOperation p operation) := by
  unfold cancelOperation
  split
  · exact .refl s
  rename_i completion hcompletion
  split
  · exact .refl s
  rename_i hpending
  refine cancelSessionOperation_told hs fun x hfind hepoch hstuck => h ?_
  exact ⟨completion, x, hcompletion, by simpa using hpending, hfind, hepoch, hstuck⟩

theorem getOrCreateSession_told (hs : s.Inv) : Told s (s.getOrCreateSession p deviceId) := by
  unfold getOrCreateSession
  split
  · rename_i hcr
    exact .inl (create_since hs hcr)
  · exact .refl s

theorem getOrCreateSession_inv (hs : s.Inv) : (s.getOrCreateSession p deviceId).Inv := by
  have hsteps : Steps p (fun _ => False) (fun _ => True) s (s.getOrCreateSession p deviceId) :=
    getOrCreateSession_steps fun _ => trivial
  exact hsteps.inv (fun _ h => h.elim) hs

theorem createSessions_told {devices : List DeviceIdentity} (hs : s.Inv) :
    Told s (devices.foldl (fun s device => s.getOrCreateSession p device.id) s) := by
  induction devices generalizing s with
  | nil => exact .refl s
  | cons device devices ih =>
    exact (getOrCreateSession_told hs).trans (ih (getOrCreateSession_inv hs))

/-- A session that one of the devices lacks is created, and published. -/
theorem createSessions_since {devices : List DeviceIdentity} (hs : s.Inv)
    (h : ∃ device ∈ devices, s.creates device.id = true) :
    Since s (devices.foldl (fun s device => s.getOrCreateSession p device.id) s) := by
  induction devices with
  | nil =>
    obtain ⟨device, hmem, -⟩ := h
    cases hmem
  | cons device devices ih =>
    rw [List.foldl_cons]
    cases hcr : s.creates device.id with
    | true =>
      have hget : s.getOrCreateSession p device.id =
          (s.emplace device.id).configure p device.id := if_pos hcr
      have hnew : Since s (s.getOrCreateSession p device.id) := by
        rw [hget]
        exact create_since hs hcr
      exact hnew.told (createSessions_told (getOrCreateSession_inv hs))
    | false =>
      have hget : s.getOrCreateSession p device.id = s := if_neg (by simp [hcr])
      rw [hget]
      refine ih ?_
      obtain ⟨other, hmem, hother⟩ := h
      rcases List.mem_cons.1 hmem with rfl | hmem
      · exact absurd (hcr.symm.trans hother) (by simp)
      · exact ⟨other, hmem, hother⟩

/-! ### Policies -/

/-- The last session of a policy's loop is published, unless what the policy does to it stays
silent. -/
theorem applyFlags_since {reconnectChanged incomingChanged : Bool} {cancels : Bool} (hs : s.Inv)
    (hfind : s.find deviceId = some x) (hchanged : reconnectChanged = true ∨ incomingChanged = true)
    (hcancels : cancels = (reconnectChanged && !s.isReconnectEnabledFor deviceId &&
      Session.cancelsActiveReconnect x.toSessionState))
    (hin : incomingChanged = true → x.isIncomingEnabled = !s.isIncomingEnabled)
    (h : ¬ FlagsSilently (p.session deviceId) cancels
      (if incomingChanged then some s.isIncomingEnabled else none) x) :
    Since s (s.applyFlags p reconnectChanged incomingChanged deviceId) := by
  have howned := hs.owned_of_find hfind
  have hname : x.deviceId ≠ [] := by
    rw [howned.deviceId]
    exact howned.named
  unfold applyFlags
  dsimp only
  cases reconnectChanged with
  | false =>
    obtain rfl : incomingChanged = true := by simpa using hchanged
    obtain rfl : cancels = false := by simpa using hcancels
    exact operate_since hs hfind (Session.step_setIncomingEnabled_since howned.live hname h)
  | true =>
    rw [if_pos rfl]
    cases incomingChanged with
    | false =>
      refine operate_since hs hfind (Session.step_setReconnectEnabled_since howned.live ?_)
      exact fun hoff hsilent => h ⟨by simp [hcancels, hoff, hsilent.1], hsilent⟩
    | true =>
      rw [if_pos rfl, incoming_of_flags flags_operate]
      have hstep := howned.step (p := p) (Session.enabled_operation
        (.setReconnectEnabled (s.isReconnectEnabledFor deviceId))) (by simp)
      have hafter := find_act (p := p) hs hfind (by simp) (Session.enabled_operation
        (.setReconnectEnabled (s.isReconnectEnabledFor deviceId)))
      have hname' := hstep.named
      rw [← hstep.deviceId] at hname'
      refine .of_grows act_grows (operate_since (hs.operate (by simp)) hafter
        (Session.step_setIncomingEnabled_since hstep.live hname' ?_))
      cases hoff : s.isReconnectEnabledFor deviceId with
      | true =>
        obtain rfl : cancels = false := by simpa [hoff] using hcancels
        exact Session.inactiveThenListen howned.live (by simp) h
      | false =>
        cases hactive : Session.cancelsActiveReconnect x.toSessionState with
        | false =>
          obtain rfl : cancels = false := by simpa [hactive] using hcancels
          exact Session.inactiveThenListen howned.live (fun _ => hactive) h
        | true =>
          obtain rfl : cancels = true := by simpa [hoff, hactive] using hcancels
          exact Session.cancelThenListen howned.inv howned.live hactive (hin rfl) h

/-- The operations of a policy. -/
def setsFlags (e : Event) : Prop :=
  ∃ enabled, e = .operation (.setReconnectEnabled enabled) ∨
    e = .operation (.setIncomingEnabled enabled)

theorem applyFlags_setsFlags {reconnectChanged incomingChanged : Bool} :
    Steps p setsFlags (fun _ => False) s (s.applyFlags p reconnectChanged incomingChanged deviceId) :=
  applyFlags_steps (fun enabled => ⟨enabled, .inl rfl⟩) fun _ => ⟨_, .inr rfl⟩

theorem ids_applyFlags {reconnectChanged incomingChanged : Bool} :
    (s.applyFlags p reconnectChanged incomingChanged deviceId).ids = s.ids := by
  unfold applyFlags operate
  cases reconnectChanged <;> cases incomingChanged <;> simp

/-- The loop of a policy leaves the inventory and the ids of the sessions as they are. -/
theorem creates_policyLoop {reconnectChanged incomingChanged : Bool} {deviceIds : List WString} :
    let t := deviceIds.foldl
      (fun s deviceId => s.applyFlags p reconnectChanged incomingChanged deviceId) s
    t.watcher = s.watcher ∧ ∀ deviceId, t.creates deviceId = s.creates deviceId := by
  induction deviceIds generalizing s with
  | nil => exact ⟨rfl, fun _ => rfl⟩
  | cons id ids ih =>
    have hflags : (s.applyFlags p reconnectChanged incomingChanged id).flags = s.flags :=
      applyFlags_setsFlags.flags
    refine ⟨ih.1.trans watcher_applyFlags, fun deviceId => (ih.2 deviceId).trans ?_⟩
    simp only [creates, ids_applyFlags, shutdown_of_flags hflags]

/-- The loop of a policy. -/
theorem policyLoop_told (policy : DeviceSettingsPolicy) (hs : s.Inv) (hagree : s.Agrees)
    (h : ∀ entry, s.sessions.getLast? = some entry →
      ¬ FlagsSilently (p.session entry.1) (s.policyCancels policy entry)
        (if s.incomingChanged policy then some policy.allowIncomingConnections else none) entry.2) :
    Told (s.adoptPolicy policy) ((s.adoptPolicy policy).forEachSession
      (applyFlags p (s.reconnectChanged policy) (s.incomingChanged policy))) := by
  have hadopt : (s.adoptPolicy policy).Inv := hs.congr rfl rfl
  by_cases hchanged : s.reconnectChanged policy = true ∨ s.incomingChanged policy = true
  · cases hlast : (s.adoptPolicy policy).sessions.getLast? with
    | none =>
      rw [forEachSession_empty hlast]
      exact .refl _
    | some entry =>
      have hframe (t : DeviceService) (deviceId : WString) (hne : entry.1 ≠ deviceId)
          (hmem : entry ∈ t.sessions) : entry ∈ (t.applyFlags p (s.reconnectChanged policy)
            (s.incomingChanged policy) deviceId).sessions := by
        unfold applyFlags
        cases s.reconnectChanged policy <;> cases s.incomingChanged policy
        · exact hmem
        · exact mem_act_of_ne hmem hne
        · exact mem_act_of_ne hmem hne
        · exact mem_act_of_ne (mem_act_of_ne hmem hne) hne
      obtain ⟨t, hloop, hsteps, hinv, hfind⟩ := forEachSession_last (p := p)
        (fun _ _ _ => applyFlags_setsFlags) (by rintro e ⟨enabled, rfl | rfl⟩ <;> simp) hframe
        hadopt hlast
      have hrec : t.isReconnectEnabledFor entry.1 = _ :=
        reconnect_of_settings (settings_of_flags hsteps.flags)
      have hin : t.isIncomingEnabled = policy.allowIncomingConnections :=
        incoming_of_flags hsteps.flags
      rw [hloop]
      refine .inl (.of_grows hsteps.grows (applyFlags_since hinv hfind hchanged rfl ?_ ?_))
      · intro hdiffers
        have hold := (hagree entry (List.mem_of_getLast? hlast)).2
        rw [hold, hin]
        have hne : s.isIncomingEnabled ≠ policy.allowIncomingConnections := by
          simpa [incomingChanged] using hdiffers
        cases hx : s.isIncomingEnabled <;> cases hy : policy.allowIncomingConnections <;> simp_all
      · rw [hrec, hin]
        exact h entry hlast
  · obtain ⟨hrec, hin⟩ : s.reconnectChanged policy = false ∧ s.incomingChanged policy = false := by
      simpa using hchanged
    have hsame : (s.adoptPolicy policy).forEachSession (applyFlags p false false) =
        s.adoptPolicy policy := List.foldl_fixed' (fun _ => rfl) _
    rw [hrec, hin, hsame]
    exact .refl _

theorem applySettingsPolicy_told {policy : DeviceSettingsPolicy} {stopRequested : Bool}
    (hs : s.Inv) (hagree : s.Agrees)
    (h : ¬ Silent p s (.applySettingsPolicy policy stopRequested)) :
    Told s (s.applySettingsPolicy p policy stopRequested) := by
  cases hgo : s.acceptsPolicy policy stopRequested with
  | false =>
    rw [applySettingsPolicy_refused hgo]
    exact .refl s
  | true =>
    have hadopt : Told s (s.adoptPolicy policy) := told_of_same rfl rfl rfl
    have hsteps : Steps p setsFlags (fun _ => False) (s.adoptPolicy policy)
        ((s.adoptPolicy policy).forEachSession
          (applyFlags p (s.reconnectChanged policy) (s.incomingChanged policy))) :=
      forEachSession_steps fun _ _ _ => applyFlags_setsFlags
    have hinv := hsteps.inv (by rintro e ⟨enabled, rfl | rfl⟩ <;> simp) (hs.congr rfl rfl)
    unfold applySettingsPolicy
    rw [if_neg (by simp [hgo])]
    dsimp only
    rw [incoming_of_flags hsteps.flags]
    by_cases hnew : s.incomingChanged policy = true ∧ policy.allowIncomingConnections = true ∧
        ∃ device ∈ s.watcher.snapshot.devices, s.creates device.id = true
    · obtain ⟨hin, hallow, hdevice⟩ := hnew
      rw [if_pos ⟨hin, hallow⟩]
      refine .inl (.of_grows hsteps.grows (createSessions_since hinv ?_))
      obtain ⟨hwatcher, hcreates⟩ := creates_policyLoop (p := p) (s := s.adoptPolicy policy)
      obtain ⟨device, hmem, hcr⟩ := hdevice
      refine ⟨device, ?_, (hcreates device.id).trans hcr⟩
      rw [forEachSession, hwatcher]
      exact hmem
    · have hloop := hadopt.trans (policyLoop_told (p := p) policy hs hagree
        fun entry hlast hsilent => h ⟨hgo, hnew, entry, hlast, hsilent⟩)
      split
      · exact hloop.trans (createSessions_told hinv)
      · exact hloop

/-! ### All tasks -/

theorem capture_told : Told s (s.capturePowerTransitionRecoveryAndSuspend p) := by
  unfold capturePowerTransitionRecoveryAndSuspend
  split
  · exact .refl s
  have hloop : Steps p (fun e => e = .operation .suspend) (fun _ => False) s.enterSuspension
      (s.enterSuspension.forEachSession fun deviceId s => s.operate p deviceId .suspend) :=
    forEachSession_steps fun _ deviceId _ => operate_step deviceId rfl
  have hgrows : serviceReporter.Grows s ((s.enterSuspension.forEachSession fun deviceId s =>
      s.operate p deviceId .suspend).captureRecovery s.recoveryDeviceIds) := hloop.grows
  exact .inl (.of_grows hgrows (since_publish _ _))

/-- The service when `Shutdown` has released its sessions. -/
def shutdownSessions (p : ServicePlatform) (s : DeviceService) : DeviceService :=
  { s with isShutdown := true, isRunning := false }.stopAndReleaseSessions p

theorem shutdownSessions_delivers :
    Publication.Delivers s.publication (s.shutdownSessions p).publication := by
  have hloop : Steps p (fun e => e = .operation .shutdown) (fun _ => False)
      { s with isShutdown := true, isRunning := false, watcher := s.watcher.shutdown }
      ({ s with
        isShutdown := true
        isRunning := false
        watcher := s.watcher.shutdown }.forEachSession fun deviceId s =>
          s.operate p deviceId .shutdown) :=
    forEachSession_steps fun _ deviceId _ => operate_step deviceId rfl
  exact hloop.delivers

theorem shutdown_eq (h : s.isShutdown = false) :
    s.shutdown p = ((s.shutdownSessions p).publish .shutdown []).releaseSubscriber :=
  if_neg (by simp [h])

theorem shutdown_told : Told s (s.shutdown p) := by
  cases hsd : s.isShutdown with
  | true =>
    have hkeep : s.shutdown p = s := if_pos hsd
    rw [hkeep]
    exact .refl s
  | false =>
    rw [shutdown_eq hsd]
    have hpublish : Since s ((s.shutdownSessions p).publish .shutdown []) :=
      .of_grows shutdownSessions_delivers.generation (since_publish _ _)
    exact .inl (hpublish.told (told_of_same rfl rfl rfl))

/-- The operations of the tasks that the sessions can leave unpublished. -/
def mayBeSilent : ServiceTask → Bool
  | .suspend | .suspendForPowerTransition | .shutdown | .applySettingsPolicy _ _
  | .cancelReconnect _ | .cancelPendingReconnects | .cancelOperation _ => true
  | _ => false

theorem performs_tells (hen : (deviceService p).enabled s task) (h : mayBeSilent task = false) :
    ∀ e, task.performs s e → e.tells = true := by
  intro e hperf
  cases task with
  | connect | reconnect | connectStartupTargets | reconnectAll =>
    obtain ⟨-, operation, rfl⟩ := hperf
    rfl
  | disconnect | disconnectAll =>
    obtain ⟨restore, rfl⟩ := hperf
    rfl
  | resume | resumeAfterPowerTransition | deviceAdded | deviceRemoved =>
    obtain rfl := hperf
    rfl
  | resumeSuspendedSessions =>
    rcases hperf.2 with rfl | rfl <;> rfl
  | callback deviceId event =>
    obtain rfl : e = event := hperf
    have hcall := hen.1
    cases e <;> first | rfl | cases hcall
  | suspend | suspendForPowerTransition | shutdown | applySettingsPolicy | cancelReconnect
  | cancelPendingReconnects | cancelOperation => cases h
  | _ => exact hperf.elim

theorem prepare_told : Told s (task.prepare s) := by
  refine told_of_same sessions_prepare ?_ ?_
  · unfold ServiceTask.prepare subscribe unsubscribe
    repeat' split
    all_goals rfl
  · unfold ServiceTask.prepare subscribe unsubscribe
    repeat' split
    all_goals rfl

/-- Every task that is not silent publishes what it does. -/
theorem run_told (hen : (deviceService p).enabled s task) (hs : s.Inv) (hagree : s.Agrees)
    (h : ¬ Silent p s task) : Told s (s.run p task) := by
  cases hmay : mayBeSilent task with
  | true =>
    cases task with
    | suspend => exact capture_told
    | suspendForPowerTransition =>
      exact (capture_told (p := p)).trans (told_of_same rfl rfl rfl)
    | shutdown => exact shutdown_told
    | applySettingsPolicy policy stopRequested => exact applySettingsPolicy_told hs hagree h
    | cancelReconnect deviceId => exact cancelReconnect_told hs h
    | cancelPendingReconnects => exact cancelPendingReconnects_told hs h
    | cancelOperation operation => exact cancelOperation_told hs h
    | _ => cases hmay
  | false =>
    have hshut : task ≠ .shutdown := by
      rintro rfl
      cases hmay
    have hsettings : (task.prepare s).settings = s.settings := settings_prepare fun policy stop h => by
      simp [h, mayBeSilent] at hmay
    have hprepared : (task.prepare s).Agrees := fun entry hentry =>
      (hagree entry (by rwa [sessions_prepare] at hentry)).congr hsettings
    exact prepare_told.trans ((run_steps hen hshut).told (performs_tells hen hmay)
      (hs.congr sessions_prepare shutdown_prepare) hprepared)

/-! ## Runs -/

/-- The published snapshot lists the sessions' own snapshots, by their ids and without duplicates,
as far as the owner acts on them. -/
def Faithful (s : DeviceService) : Prop :=
  s.publishedReports.Pairwise (fun x y => x.deviceId < y.deviceId) ∧
    s.publishedReports.Perm s.reports

/-- If there was something to report of the step from `s` to `t`, its generation is newer, and the
subscriber, if there was one, was told. -/
def Reported (s t : DeviceService) : Prop :=
  sortReports t.reports ≠ sortReports s.reports →
    s.publication.generation < t.publication.generation ∧
      ∀ subscription, s.publication.subscriber = some subscription →
        ∃ new, t.publication.facts = new ++ s.publication.facts ∧ ∃ fact, (subscription, fact) ∈ new

theorem Faithful.of_current (hs : s.Inv) (h : serviceReporter.Current s) : s.Faithful := by
  have hsorted : s.publishedReports = sortReports s.reports := h
  have hids : s.reports.map (·.deviceId) = s.ids := by
    simp only [reports, snapshots, ids, List.map_map]
    exact List.map_congr_left fun entry hentry => (hs.owned entry hentry).deviceId
  have hperm : (sortReports s.reports).Perm s.reports := List.perm_insertionSort _ _
  refine ⟨?_, by rwa [hsorted]⟩
  have hnodup : ((sortReports s.reports).map (·.deviceId)).Nodup := by
    refine (hperm.map _).nodup_iff.2 ?_
    rw [hids]
    exact hs.nodup
  have hle : (sortReports s.reports).Pairwise (fun x y => x.deviceId ≤ y.deviceId) := by
    have htotal : Std.Total fun x y : SessionReport => x.deviceId ≤ y.deviceId :=
      ⟨fun _ _ => Std.le_total⟩
    have htrans : IsTrans SessionReport fun x y => x.deviceId ≤ y.deviceId :=
      ⟨fun _ _ _ => Std.le_trans⟩
    exact List.pairwise_insertionSort _ _
  rw [hsorted]
  exact hle.imp₂ (fun _ _ hle hne => Std.lt_of_le_of_ne hle hne) (List.pairwise_map.1 hnodup)

theorem publication_prepare
    (h : ∀ subscription, task ≠ .subscribe ∧ task ≠ .unsubscribe subscription) :
    (task.prepare s).publication = s.publication := by
  cases task with
  | subscribe => exact absurd rfl (h 0).1
  | unsubscribe subscription => exact absurd rfl (h subscription).2
  | applySettingsPolicy | suspend | suspendForPowerTransition | resume
  | resumeAfterPowerTransition =>
    simp only [ServiceTask.prepare]
    split <;> rfl
  | _ => rfl

/-- A newer generation was delivered to the subscriber. -/
theorem run_delivers (hen : (deviceService p).enabled s task) :
    ∃ new, (s.run p task).publication.facts = new ++ s.publication.facts ∧
      (s.publication.generation < (s.run p task).publication.generation →
        ∀ subscription, s.publication.subscriber = some subscription →
          ∃ fact, (subscription, fact) ∈ new) := by
  have hdelivered {t : DeviceService} (h : Publication.Delivers s.publication t.publication) :
      ∃ new, t.publication.facts = new ++ s.publication.facts ∧
        (s.publication.generation < t.publication.generation →
          ∀ subscription, s.publication.subscriber = some subscription →
            ∃ fact, (subscription, fact) ∈ new) := by
    obtain ⟨-, -, new, hfacts, hto, hnew⟩ := h
    refine ⟨new, hfacts, fun hlt subscription hsub => ?_⟩
    obtain ⟨⟨other, fact⟩, hmem⟩ := List.exists_mem_of_ne_nil _ (hnew hlt (by simp [hsub]))
    obtain rfl := Option.some.inj (hsub.symm.trans (hto _ hmem))
    exact ⟨fact, hmem⟩
  by_cases hshut : task = .shutdown
  · subst hshut
    change ∃ new, (s.shutdown p).publication.facts = _ ∧ _
    cases hsd : s.isShutdown with
    | true =>
      have hkeep : s.shutdown p = s := if_pos hsd
      exact ⟨[], by rw [hkeep]; rfl, fun hlt => absurd hlt (by simp [run, hkeep])⟩
    | false =>
      have hrun : s.run p .shutdown = _ := shutdown_eq hsd
      rw [hrun, shutdown_eq hsd]
      exact hdelivered (t := (s.shutdownSessions p).publish .shutdown [])
        (shutdownSessions_delivers.trans Publication.publish_delivers)
  have hsteps := (run_steps hen hshut).delivers
  by_cases hsub : ∀ subscription, task ≠ .subscribe ∧ task ≠ .unsubscribe subscription
  · rw [publication_prepare hsub] at hsteps
    exact hdelivered hsteps
  · obtain ⟨hfacts, hgen⟩ : (s.run p task).publication.facts = s.publication.facts ∧
        (s.run p task).publication.generation = s.publication.generation := by
      cases task with
      | subscribe =>
        simp only [run, subscribe]
        split <;> exact ⟨rfl, rfl⟩
      | unsubscribe =>
        simp only [run, unsubscribe]
        split <;> exact ⟨rfl, rfl⟩
      | _ => simp at hsub
    exact ⟨[], hfacts, fun hlt => absurd hlt (by simp [hgen])⟩

/-- What a task that is not silent changes is reported. -/
theorem run_reported (hen : (deviceService p).enabled s task) (hs : s.Inv) (hagree : s.Agrees)
    (h : ¬ Silent p s task) : Reported s (s.run p task) := by
  intro hne
  obtain ⟨new, hfacts, hnew⟩ := run_delivers hen
  have hlater : s.publication.generation < (s.run p task).publication.generation :=
    (run_told hen hs hagree h).later hne
  exact ⟨hlater, fun subscription hsub => ⟨new, hfacts, hnew hlater subscription hsub⟩⟩

/-- A device whose connection is being closed when a policy enables incoming connections. -/
def listenWhileClosing : List ServiceTask :=
  [.connect [65], .disconnect [65], .applySettingsPolicy ⟨1, true, true, []⟩ false]

/-- The policy comes before the device is connected. -/
def listenThenConnect : List ServiceTask :=
  [.subscribe, .applySettingsPolicy ⟨1, true, true, []⟩ false, .connect [65], .disconnect [65]]

end DeviceService

end PlaybackConnector
