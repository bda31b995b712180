import PlaybackConnector.Service.Snapshot
import PlaybackConnector.Service.Coverage
import PlaybackConnector.Session.Joining

/-!
# Commands that are accepted, and commands that join

`Connect` and `Reconnect` tell from the session's epoch alone whether they were accepted or joined
what is under way. `command_joins` says where they leave the session: it is connected, on its way,
or failed, or the attempt that was begun has failed within the task. What the session does while
it starts its incoming listener is left out: it refuses the command, and the service takes the
refusal for a join (`command_not_joined`).
-/

namespace PlaybackConnector

namespace DeviceService

variable {p : ServicePlatform} {s t : DeviceService} {deviceId : WString} {e : Event} {x : Session}
  {task : ServiceTask} {I : Session → Prop}

/-! ## What every session keeps -/

/-- The property holds of every session. -/
def All (I : Session → Prop) (s : DeviceService) : Prop := ∀ entry ∈ s.sessions, I entry.2

/-- The property holds of new sessions, and their tasks keep it. -/
structure SessionInvariant (I : Session → Prop) : Prop where
  initial : ∀ deviceId deviceName, I (Session.initial deviceId deviceName)
  step : ∀ (q : Platform) x e, (deviceSession q).enabled x e → I x → I ((deviceSession q).step x e)

theorem All.find (h : s.All I) (hfind : s.find deviceId = some x) : I x := h _ (mem_of_find hfind)

theorem All.congr (h : s.All I) (hsessions : t.sessions = s.sessions) : t.All I := by
  rwa [All, hsessions]

theorem All.act (hI : SessionInvariant I) (h : s.All I) (hen : ∀ x, s.find deviceId = some x →
    (deviceSession (p.session deviceId)).enabled x e) : (s.act p deviceId e).All I := by
  intro entry hentry
  rcases mem_act hentry with ⟨-, hold⟩ | ⟨x, hx, rfl⟩
  · exact h entry hold
  · exact hI.step _ x e (hen x hx) (h.find hx)

theorem All.operate (hI : SessionInvariant I) (h : s.All I) (operation : Operation) :
    (s.operate p deviceId operation).All I :=
  h.act hI fun _ _ => Session.enabled_operation _

theorem All.configure (hI : SessionInvariant I) (h : s.All I) :
    (s.configure p deviceId).All I := by
  unfold DeviceService.configure
  dsimp only
  split
  · exact (h.operate hI _).operate hI _
  · exact h.operate hI _

theorem All.emplace (hI : SessionInvariant I) (h : s.All I) : (s.emplace deviceId).All I := by
  intro entry hentry
  rcases List.mem_append.1 hentry with hold | hnew
  · exact h entry hold
  · obtain rfl := List.mem_singleton.1 hnew
    exact hI.initial _ _

theorem Step.all {ok : Event → Prop} {new : WString → Prop} (hI : SessionInvariant I)
    (h : Step p ok new s t) (hs : s.All I) : t.All I := by
  cases h with
  | act deviceId e hperf hen => exact hs.act hI hen
  | listen deviceId => exact hs.operate hI _
  | create deviceId hcr => exact (hs.emplace hI).configure hI
  | publish kind deviceId => exact hs.congr rfl
  | request command operation deviceId =>
    have hconnect : (s.operate p deviceId (.connect operation true)).All I := hs.operate hI _
    exact hconnect.congr rfl
  | keep hk => exact hs.congr hk.sessions

theorem Steps.all {ok : Event → Prop} {new : WString → Prop} (hI : SessionInvariant I)
    (h : Steps p ok new s t) (hs : s.All I) : t.All I :=
  moves_preserve (fun _ _ hstep => hstep.all hI) h hs

theorem run_all (hI : SessionInvariant I) (hen : (deviceService p).enabled s task) (hs : s.All I) :
    (s.run p task).All I := by
  by_cases hne : task = .shutdown
  · subst hne
    cases hsd : s.isShutdown with
    | true =>
      have hrun : s.run p .shutdown = s := if_pos hsd
      rwa [hrun]
    | false =>
      intro entry hentry
      have hempty : (s.run p .shutdown).sessions = [] := shutdown_sessions hsd
      rw [hempty] at hentry
      cases hentry
  · exact (run_steps hen hne).all hI (hs.congr sessions_prepare)

/-- An invariant of the sessions holds of every session of every service that a run reaches. -/
theorem reachable_all (hI : SessionInvariant I) {tasks : List ServiceTask}
    (hrun : (deviceService p).Run initial tasks) : ((deviceService p).exec initial tasks).All I :=
  EventSystem.Always.invariant (S := deviceService p) (I := All I)
    (fun _ _ hen hs => run_all hI hen hs) hrun (by simp [All, initial])

theorem closesCoherent_sessions : SessionInvariant Session.ClosesCoherent :=
  ⟨Session.closesCoherent_initial, fun _ _ _ he hs => Session.step_closesCoherent he hs⟩

/-! ## Commands -/

/-- Where a command leaves the session that it finds. -/
def Joins (x y : Session) : Prop :=
  Session.Attempted (x.operationEpoch + 1) x.ledger.facts y ∨
    Session.AwaitsAbandoned x.toSessionState y.toSessionState

theorem not_isDisconnecting {x : Session} (h : isDisconnecting x = false) :
    x.isSuspended = true ∨ x.lifecycle ≠ .disconnecting := by
  by_cases hl : x.lifecycle = .disconnecting
  · exact .inl (by simpa [isDisconnecting, Session.isBusy, hl] using h)
  · exact .inr hl

/-- The session that is asked to connect. -/
theorem request_joins (hs : s.Inv) (hall : s.All Session.ClosesCoherent)
    (hfind : s.find deviceId = some x) {command : DeviceCommandKind}
    {operation : DeviceOperationKind} (hmanual : Session.IsManual operation)
    (hready : isDisconnecting x = false) (hlistener : ¬ Session.StartsIncoming x.toSessionState) :
    ∃ y, (s.request p command operation deviceId x).find deviceId = some y ∧ Joins x y := by
  have howned := hs.owned_of_find hfind
  have hname : x.deviceId ≠ [] := fun h => howned.named (howned.deviceId.symm.trans h)
  refine ⟨_, find_act hs hfind (by simp) (Session.enabled_operation _), ?_⟩
  exact Session.step_connect_attempted (hall.find hfind) howned.live hname hmanual
    (not_isDisconnecting hready) hlistener

theorem getOrCreateSession_find (hid : deviceId ≠ []) (hlive : s.isShutdown = false) :
    ∃ x, (s.getOrCreateSession p deviceId).find deviceId = some x := by
  have hmem := mem_getOrCreateSession (p := p) hid hlive
  exact Option.ne_none_iff_exists'.1 fun hnone => find_eq_none_iff.1 hnone hmem

/-- The service when a command has found its session. -/
def foundSession (p : ServicePlatform) (deviceId : WString) (s : DeviceService) : DeviceService :=
  (s.getOrCreateSession p deviceId).eraseRecovery deviceId

theorem connect_found (hid : deviceId ≠ []) (hgo : ¬ (s.isShutdown = true ∨ s.isSuspended = true))
    (hfound : (s.foundSession p deviceId).find deviceId = some x) :
    s.connect p deviceId =
      if isDisconnecting x then (s.foundSession p deviceId).result .connect .rejected deviceId
      else if x.lifecycle = .connected then
        (s.foundSession p deviceId).result .connect .coalesced deviceId
      else (s.foundSession p deviceId).request p .connect .manualConnect deviceId x := by
  unfold connect
  rw [if_neg hid, if_neg hgo]
  rw [foundSession] at hfound
  simp only [hfound, foundSession]

theorem reconnect_found (hid : deviceId ≠ []) (hgo : ¬ (s.isShutdown = true ∨ s.isSuspended = true))
    (hfound : (s.foundSession p deviceId).find deviceId = some x) :
    s.reconnect p deviceId =
      if isDisconnecting x then (s.foundSession p deviceId).result .reconnect .rejected deviceId
      else (s.foundSession p deviceId).request p .reconnect .manualReconnect deviceId x := by
  unfold reconnect
  rw [if_neg hid, if_neg hgo]
  rw [foundSession] at hfound
  simp only [hfound, foundSession]

/-- A command that is not rejected has a device. -/
theorem device_of_joins {r : DeviceCommandResult} {results : List DeviceCommandResult}
    (htask : task = .connect deviceId ∨ task = .reconnect deviceId)
    (hresult : (s.run p task).ledger.results = r :: results)
    (hkind : r.kind = .accepted ∨ r.kind = .coalesced) : deviceId ≠ [] := by
  rintro rfl
  have hrejected : r.kind = .rejected := by
    rcases htask with rfl | rfl <;> exact (List.cons.inj hresult).1 ▸ rfl
  simp [hrejected] at hkind

/-- A command that was not rejected finds the session of its device, and leaves it so that the
command has joined what the session does. -/
theorem command_joins {tasks : List ServiceTask} {r : DeviceCommandResult}
    (hrun : (deviceService p).Run initial tasks)
    (htask : task = .connect deviceId ∨ task = .reconnect deviceId)
    (hlive : ((deviceService p).exec initial tasks).isShutdown = false)
    (hactive : ((deviceService p).exec initial tasks).isSuspended = false)
    (hresult : (((deviceService p).exec initial tasks).run p task).ledger.results =
      r :: ((deviceService p).exec initial tasks).ledger.results)
    (hkind : r.kind = .accepted ∨ r.kind = .coalesced)
    (hlistener : ∀ x, (((deviceService p).exec initial tasks).getOrCreateSession p deviceId).find
      deviceId = some x → ¬ Session.StartsIncoming x.toSessionState) :
    ∃ x y, (((deviceService p).exec initial tasks).getOrCreateSession p deviceId).find deviceId =
        some x ∧
      (((deviceService p).exec initial tasks).run p task).find deviceId = some y ∧ Joins x y := by
  have hs := reachable_inv hrun
  have hall := reachable_all closesCoherent_sessions hrun
  generalize (deviceService p).exec initial tasks = s at *
  have hid := device_of_joins htask hresult hkind
  have hgo : ¬ (s.isShutdown = true ∨ s.isSuspended = true) := by simp [hlive, hactive]
  obtain ⟨x, hx⟩ := getOrCreateSession_find (p := p) hid hlive
  have hfound : (s.foundSession p deviceId).find deviceId = some x := hx
  have hfinv : (s.foundSession p deviceId).Inv := (getOrCreateSession_inv hs).congr rfl rfl
  have hsteps : Steps p (fun _ => False) (fun _ => True) s (s.getOrCreateSession p deviceId) :=
    getOrCreateSession_all
  have hfall : (s.foundSession p deviceId).All Session.ClosesCoherent :=
    (hsteps.all closesCoherent_sessions hall).congr rfl
  have hrejected {t : DeviceService} {command : DeviceCommandKind}
      (h : (t.result command .rejected deviceId).ledger.results = r :: s.ledger.results) : False := by
    obtain ⟨rfl, -⟩ := List.cons.inj h
    simp at hkind
  have hasked {command : DeviceCommandKind} {operation : DeviceOperationKind}
      (hmanual : Session.IsManual operation) (hready : isDisconnecting x = false) :
      ∃ y, ((s.foundSession p deviceId).request p command operation deviceId x).find deviceId =
        some y ∧ Joins x y :=
    request_joins hfinv hfall hfound hmanual hready (hlistener x hx)
  refine ⟨x, ?_⟩
  rcases htask with rfl | rfl
  · have hconnect : s.run p (.connect deviceId) = _ := connect_found hid hgo hfound
    rw [hconnect] at hresult ⊢
    split at hresult
    · exact (hrejected hresult).elim
    · next hready =>
      rw [if_neg hready]
      split
      · next hl => exact ⟨x, hx, hfound, .inl (.inl (.inl hl))⟩
      · obtain ⟨y, hy, hjoins⟩ := hasked (.inl rfl) (by simpa using hready)
        exact ⟨y, hx, hy, hjoins⟩
  · have hreconnect : s.run p (.reconnect deviceId) = _ := reconnect_found hid hgo hfound
    rw [hreconnect] at hresult ⊢
    split at hresult
    · exact (hrejected hresult).elim
    · next hready =>
      rw [if_neg hready]
      obtain ⟨y, hy, hjoins⟩ := hasked (.inr rfl) (by simpa using hready)
      exact ⟨y, hx, hy, hjoins⟩

/-! ## Commands that join nothing -/

/-- The last task of the run is a command that was not rejected, and the session of the device is
not connected, on its way to a connection that it will open, or failed. -/
def Strays (p : ServicePlatform) (tasks : List ServiceTask) (task : ServiceTask)
    (deviceId : WString) : Prop :=
  (deviceService p).Run initial (tasks ++ [task]) ∧
    ((deviceService p).exec initial tasks).isShutdown = false ∧
    ((deviceService p).exec initial tasks).isSuspended = false ∧
    (((deviceService p).exec initial tasks).run p task).ledger.results.tail =
      ((deviceService p).exec initial tasks).ledger.results ∧
    (((deviceService p).exec initial tasks).run p task).ledger.results.head?.any
      (fun r => r.kind = .accepted ∨ r.kind = .coalesced) = true ∧
    ((((deviceService p).exec initial tasks).run p task).find deviceId).any
      (fun y => ¬ Session.Joined y.toSessionState) = true

/-- A platform on which the first two connections cannot be created. -/
def failingCreate : ServicePlatform where
  session _ := { PlaybackConnector.obligingPlatform with
    create := fun call => if call < 2 then .threw else .connection 7 }
  registers _ := true

/-- A platform on which no connection can be started. -/
def failingStart : ServicePlatform where
  session _ := { PlaybackConnector.obligingPlatform with start := fun _ => false }
  registers _ := true

/-- Incoming connections are allowed. -/
def incomingAllowed : List ServiceTask := [.applySettingsPolicy ⟨1, true, true, []⟩ false]

/-- A disconnect times out, and the device is not recovered from the suspension that follows. -/
def suspendedAbandoned : List ServiceTask :=
  [.connect [65], .disconnect [65], .callback [65] (.closeBarrier 1 true),
    .suspendForPowerTransition, .resumeAfterPowerTransition]

/-- The listener is restored, the failed connection is closed, the close that was given up is
waited for, and the start of the listener is left alone. -/
theorem command_not_joined :
    Strays failingCreate incomingAllowed (.connect [65]) [65] ∧
      Strays failingStart [] (.connect [65]) [65] ∧
      Strays obligingPlatform suspendedAbandoned (.reconnect [65]) [65] ∧
      Strays obligingPlatform incomingAllowed (.connect [65]) [65] := by
  unfold Strays
  refine ⟨?_, ?_, ?_, ?_⟩
  all_goals exact ⟨by decide, by decide, by decide, by decide, by decide, by decide⟩

/-- A reconnect joins the connect that is under way. -/
theorem command_joins_connected :
    let s := (deviceService obligingPlatform).exec initial [.connect [65]]
    ∃ x y, (s.getOrCreateSession obligingPlatform [65]).find [65] = some x ∧
      (s.run obligingPlatform (.reconnect [65])).find [65] = some y ∧ Joins x y := by
  intro s
  have hrun : (deviceService obligingPlatform).Run initial [.connect [65]] := by decide
  have hlistener : ∀ x, (s.getOrCreateSession obligingPlatform [65]).find [65] = some x →
      ¬ Session.StartsIncoming x.toSessionState := by
    intro x hx hstarts
    have hopens : ((s.getOrCreateSession obligingPlatform [65]).find [65]).map
        (·.openImmediately) = some true := by
      decide
    rw [hx] at hopens
    exact absurd (Option.some.inj hopens) (by simp [hstarts.2])
  exact command_joins (r := ⟨.reconnect, .coalesced, [65], 1, some 1⟩) hrun (.inr rfl) (by decide)
    (by decide) (by decide) (.inr rfl) hlistener

end DeviceService

end PlaybackConnector
