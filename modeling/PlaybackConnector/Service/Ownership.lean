import PlaybackConnector.Service.Steps

/-!
# The sessions that the service owns

What holds of the service's map of sessions between its tasks, and at every step of one: the ids
are distinct, each session is the one of its device and lives as long as the service
(`DeviceService.Inv`). A loop over the sessions makes of each of them what its body does
(`mem_forEachSession`).
-/

namespace PlaybackConnector

namespace DeviceService

variable {p : ServicePlatform} {s t : DeviceService} {deviceId : WString} {e : Event}
  {x : Session} {task : ServiceTask}

/-- A session of the map. -/
structure Owned (entry : WString × Session) : Prop where
  inv : Session.Inv entry.2
  deviceId : entry.2.deviceId = entry.1
  live : entry.2.isShutdown = false
  named : entry.1 ≠ []

/-- What holds of the map of sessions. -/
structure Inv (s : DeviceService) : Prop where
  nodup : s.ids.Nodup
  owned : ∀ entry ∈ s.sessions, Owned entry
  shutdown : s.isShutdown = true → s.sessions = []

theorem inv_initial : initial.Inv := ⟨List.nodup_nil, by simp [initial], by simp [initial]⟩

theorem Inv.congr (hs : s.Inv) (hsessions : t.sessions = s.sessions)
    (hshut : t.isShutdown = s.isShutdown) : t.Inv := by
  obtain ⟨hn, ho, hsd⟩ := hs
  exact ⟨by rwa [ids, hsessions], by rwa [hsessions], by rwa [hsessions, hshut]⟩

theorem Inv.owned_of_find (hs : s.Inv) (h : s.find deviceId = some x) : Owned (deviceId, x) :=
  hs.owned _ (mem_of_find h)

/-- A service that has a session is not shut down. -/
theorem Inv.live_of_find (hs : s.Inv) (h : s.find deviceId = some x) : s.isShutdown = false := by
  cases hsd : s.isShutdown with
  | false => rfl
  | true =>
    have hmem := mem_of_find h
    rw [hs.shutdown hsd] at hmem
    cases hmem

/-- The flags of a session that a task has acted on. -/
theorem Owned.step_flags (h : Owned (deviceId, x))
    (hen : (deviceSession (p.session deviceId)).enabled x e) :
    Session.flags ((deviceSession (p.session deviceId)).step x e).toSessionState =
      e.setFlags (Session.flags x.toSessionState) :=
  Session.step_flags h.inv hen h.live

theorem Owned.step (h : Owned (deviceId, x))
    (hen : (deviceSession (p.session deviceId)).enabled x e) (hne : e ≠ .operation .shutdown) :
    Owned (deviceId, (deviceSession (p.session deviceId)).step x e) := by
  have hflags := h.step_flags hen
  have hset : (e.setFlags (Session.flags x.toSessionState)).deviceId = x.deviceId ∧
      (e.setFlags (Session.flags x.toSessionState)).isShutdown = x.isShutdown := by
    unfold Event.setFlags
    split <;> simp_all [Session.flags]
  rw [← hflags] at hset
  exact ⟨Session.step_inv hen h.inv, hset.1.trans h.deviceId, hset.2.trans h.live, h.named⟩

theorem Inv.act (hs : s.Inv) (hne : e ≠ .operation .shutdown)
    (hen : ∀ x, s.find deviceId = some x →
      (deviceSession (p.session deviceId)).enabled x e) : (s.act p deviceId e).Inv := by
  refine ⟨by simpa using hs.nodup, fun entry hentry => ?_, fun hsd => ?_⟩
  · rcases mem_act hentry with ⟨-, hold⟩ | ⟨x, hx, rfl⟩
    · exact hs.owned entry hold
    · exact (hs.owned_of_find hx).step (hen x hx) hne
  · have hempty := hs.shutdown (by rwa [shutdown_of_flags flags_act] at hsd)
    have hids : (s.act p deviceId e).ids = [] := by
      rw [ids_act, ids, hempty]
      rfl
    exact List.map_eq_nil_iff.1 hids

theorem Inv.operate (hs : s.Inv) {operation : Operation} (hne : operation ≠ .shutdown) :
    (s.operate p deviceId operation).Inv :=
  hs.act (by simpa using hne) fun _ _ => Session.enabled_operation _

theorem owned_initial (h : deviceId ≠ []) (deviceName : WString) :
    Owned (deviceId, Session.initial deviceId deviceName) :=
  ⟨Session.inv_initial deviceId deviceName, rfl, rfl, h⟩

theorem creates_iff : s.creates deviceId = true ↔
    deviceId ≠ [] ∧ s.isShutdown = false ∧ deviceId ∉ s.ids := by
  simp [creates, and_assoc]

theorem Inv.emplace (hs : s.Inv) (hcr : s.creates deviceId = true) : (s.emplace deviceId).Inv := by
  obtain ⟨hid, hsd, hnew⟩ := creates_iff.1 hcr
  refine ⟨?_, fun entry hentry => ?_, fun h => ?_⟩
  · simp only [ids, DeviceService.emplace, List.map_append, List.map_cons, List.map_nil]
    refine List.nodup_append.2 ⟨hs.nodup, List.nodup_singleton _, ?_⟩
    rintro a ha b hb rfl
    rw [List.mem_singleton.1 hb] at ha
    exact hnew ha
  · rcases List.mem_append.1 hentry with hold | hentry
    · exact hs.owned entry hold
    · obtain rfl := List.mem_singleton.1 hentry
      exact owned_initial hid _
  · exact absurd (hsd.symm.trans h) (by simp)

theorem Inv.configure (hs : s.Inv) : (s.configure p deviceId).Inv := by
  unfold DeviceService.configure
  dsimp only
  split
  · exact (hs.operate (by simp)).operate (by simp)
  · exact hs.operate (by simp)

section
variable {ok : Event → Prop} {new : WString → Prop}

theorem Step.inv (h : Step p ok new s t) (hok : ∀ e, ok e → e ≠ .operation .shutdown)
    (hs : s.Inv) : t.Inv := by
  cases h with
  | act deviceId e hperf hen => exact hs.act (hok e hperf) hen
  | listen deviceId => exact hs.operate (by simp)
  | create deviceId hcr => exact (hs.emplace hcr).configure
  | publish kind deviceId => exact hs.congr rfl rfl
  | request command operation deviceId =>
    have hconnect : (s.operate p deviceId (.connect operation true)).Inv := hs.operate (by simp)
    exact hconnect.congr rfl rfl
  | keep hk => exact hs.congr hk.sessions (shutdown_of_flags hk.flags)

theorem Steps.inv (h : Steps p ok new s t) (hok : ∀ e, ok e → e ≠ .operation .shutdown)
    (hs : s.Inv) : t.Inv :=
  moves_preserve (fun _ _ hstep => hstep.inv hok) h hs

end

/-! ## Loops -/

/-- What a body that acts on one session makes of it. -/
def ActsOn (body : WString → DeviceService → DeviceService) (P : DeviceService → Prop)
    (R : WString → Session → Session → Prop) : Prop :=
  ∀ s deviceId, P s → P (body deviceId s) ∧ ∀ entry ∈ (body deviceId s).sessions,
    entry.1 ≠ deviceId ∧ entry ∈ s.sessions ∨
      entry.1 = deviceId ∧ ∃ x, s.find deviceId = some x ∧ R deviceId x entry.2

theorem ActsOn.comp {body body' : WString → DeviceService → DeviceService}
    {P : DeviceService → Prop} {R R' : WString → Session → Session → Prop} (h : ActsOn body P R)
    (h' : ActsOn body' P R') :
    ActsOn (fun deviceId s => body' deviceId (body deviceId s)) P
      fun deviceId x z => ∃ y, R deviceId x y ∧ R' deviceId y z := by
  intro s deviceId hs
  obtain ⟨hP, hmem⟩ := h s deviceId hs
  obtain ⟨hP', hmem'⟩ := h' _ deviceId hP
  refine ⟨hP', fun entry hentry => ?_⟩
  rcases hmem' entry hentry with ⟨hne, hold⟩ | ⟨heq, y, hy, hR'⟩
  · exact (hmem entry hold).imp id fun hact => absurd hact.1 hne
  · rcases hmem _ (mem_of_find hy) with ⟨hne, -⟩ | ⟨-, x, hx, hR⟩
    · exact absurd rfl hne
    · exact .inr ⟨heq, x, hx, y, hR, hR'⟩

/-- A loop over distinct ids makes of each of their sessions what its body does, and leaves the
others as they are. -/
theorem mem_foldl {body : WString → DeviceService → DeviceService} {P : DeviceService → Prop}
    {R : WString → Session → Session → Prop} (hbody : ActsOn body P R) :
    ∀ {deviceIds : List WString} {s : DeviceService}, deviceIds.Nodup → P s →
      ∀ entry ∈ (deviceIds.foldl (fun s deviceId => body deviceId s) s).sessions,
        entry.1 ∉ deviceIds ∧ entry ∈ s.sessions ∨
          entry.1 ∈ deviceIds ∧ ∃ x, (entry.1, x) ∈ s.sessions ∧ R entry.1 x entry.2
  | [], _, _, _, entry, hentry => .inl ⟨List.not_mem_nil, hentry⟩
  | deviceId :: deviceIds, s, hn, hs, entry, hentry => by
    obtain ⟨hout, hn⟩ := List.nodup_cons.1 hn
    obtain ⟨hP, hmem⟩ := hbody s deviceId hs
    rcases mem_foldl hbody hn hP entry hentry with ⟨hnot, hold⟩ | ⟨hin, x, hx, hR⟩
    · rcases hmem entry hold with ⟨hne, hold⟩ | ⟨heq, x, hx, hR⟩
      · exact .inl ⟨by simp [hne, hnot], hold⟩
      · refine .inr ⟨by simp [heq], x, ?_, by rwa [heq]⟩
        rw [heq]
        exact mem_of_find hx
    · refine .inr ⟨List.mem_cons_of_mem _ hin, x, ?_, hR⟩
      rcases hmem _ hx with ⟨-, hold⟩ | ⟨heq, -⟩
      · exact hold
      · have heq : entry.1 = deviceId := heq
        exact absurd (heq ▸ hin) hout

theorem mem_forEachSession {body : WString → DeviceService → DeviceService}
    {P : DeviceService → Prop} {R : WString → Session → Session → Prop}
    (hbody : ActsOn body P R) (hn : s.ids.Nodup) (hs : P s) :
    ∀ entry ∈ (s.forEachSession body).sessions,
      ∃ x, (entry.1, x) ∈ s.sessions ∧ R entry.1 x entry.2 := by
  intro entry hentry
  rcases mem_foldl hbody hn hs entry hentry with ⟨hnot, hold⟩ | ⟨-, h⟩
  · exact absurd (List.mem_map.2 ⟨entry, hold, rfl⟩) hnot
  · exact h

/-! ## Tasks -/

theorem performs_not_shutdown (hen : (deviceService p).enabled s task) :
    ∀ e, task.performs s e → e ≠ .operation .shutdown := by
  rintro e hperf rfl
  cases task <;> simp [ServiceTask.performs] at hperf
  rename_i deviceId event
  obtain ⟨hcall, -⟩ := hen
  rw [← hperf] at hcall
  cases hcall

/-- `Shutdown` changes no other flag of the service. -/
theorem flags_shutdown (h : s.isShutdown = false) :
    (s.shutdown p).flags = flags { s with isShutdown := true } := by
  unfold shutdown
  rw [if_neg (by simp [h])]
  have hloop : Steps p (fun e => e = .operation .shutdown) (fun _ => False)
      { s with isShutdown := true, isRunning := false, watcher := s.watcher.shutdown }
      ({ s with
        isShutdown := true
        isRunning := false
        watcher := s.watcher.shutdown }.forEachSession fun deviceId s =>
          s.operate p deviceId .shutdown) :=
    forEachSession_steps fun _ deviceId _ => operate_step deviceId rfl
  have hflags := hloop.flags
  exact hflags

theorem shutdown_sessions (h : s.isShutdown = false) : (s.shutdown p).sessions = [] := by
  unfold shutdown
  rw [if_neg (by simp [h])]
  rfl

theorem Inv.shutdown_task (hs : s.Inv) : (s.shutdown p).Inv := by
  cases hsd : s.isShutdown with
  | true =>
    unfold DeviceService.shutdown
    rwa [if_pos hsd]
  | false =>
    have hempty := shutdown_sessions (p := p) hsd
    exact ⟨by simp [ids, hempty], by simp [hempty], fun _ => hempty⟩

/-- The invariant of the map of sessions holds between the tasks. -/
theorem run_inv (hen : (deviceService p).enabled s task) (hs : s.Inv) : (s.run p task).Inv := by
  by_cases hne : task = .shutdown
  · subst hne
    exact hs.shutdown_task
  · refine (run_steps hen hne).inv (performs_not_shutdown hen) ?_
    exact hs.congr sessions_prepare shutdown_prepare

theorem reachable_inv {tasks : List ServiceTask} (hrun : (deviceService p).Run initial tasks) :
    ((deviceService p).exec initial tasks).Inv :=
  EventSystem.Always.invariant (S := deviceService p) (I := Inv) (fun _ _ hen hs => run_inv hen hs)
    hrun inv_initial

end DeviceService

end PlaybackConnector
