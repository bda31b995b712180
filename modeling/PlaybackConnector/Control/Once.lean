import PlaybackConnector.Control.Ledger
import PlaybackConnector.Transition.History

/-!
# Executions of the request cache

What the history of the cache tells of its records (`Once`): a record is created for one execution,
has one response and serves it only, and leaves the cache only when it may. `Recorded` is how the
records go with the history; each section of the cache keeps it, and adds occurrences of one
delivery at most (`Grows`).
-/

namespace PlaybackConnector.Control

/-- The delivery that an occurrence is about. -/
def Occurrence.delivery? : Occurrence → Option Nat
  | .executed delivery _ _ | .served delivery _ _ _ | .refused delivery _ _ _
  | .sent delivery _ => some delivery
  | .completed _ _ | .removed _ _ _ => none

namespace RequestCache

/-! ## What is told -/

/-- Nothing is told of a delivery. -/
def Quiet (delivery : Nat) (history : List Occurrence) : Prop :=
  ∀ occurrence ∈ history, occurrence.delivery? ≠ some delivery

/-- An answer without a record: the request is another one than that of the record, or there is no
room, the deadline has passed, the server stops, or the handler cannot be run. -/
structure Refusal (request : Request) (response : Response) (records : List RequestRecord) :
    Prop where
  payload : response.payload = []
  correlationId : response.correlationId = request.correlationId
  code : (response.code = .invalidRequest ∧ ∃ r ∈ records, r.id = request.correlationId ∧
      sameRequest r.request request = false) ∨
    response.code = .busy ∨ response.code = .unavailable ∨ response.code = .operationFailed

/-- The record may leave the cache. -/
def Removable (o : CacheOptions) (r : RequestRecord) (pending : Nat) : Removal → Prop
  | .stopped => True
  | .expired now => r.isComplete = true ∧ r.activeDeliveries = 0 ∧ pending = 0 ∧
    if r.acknowledged then r.lastDeliveryCompletedAt + o.acknowledgedRecordLifetime ≤ now
    else r.completedAt + o.requestRecordLifetime ≤ now
  | .evicted => r.isComplete = true ∧ r.activeDeliveries = 0 ∧ pending = 0 ∧ r.acknowledged = true

/-- The record was created for the request. -/
def CreatedFor (serial : Nat) (request : Request) (history : List Occurrence) : Prop :=
  ∃ delivery request', .executed delivery serial request' ∈ history ∧
    request'.correlationId = request.correlationId ∧ sameRequest request' request = true

/-- What every occurrence comes with. A request is executed for a new record, and if one with its
correlation id was executed before, its record has left the cache. A record has one response, which
it serves to deliveries of its request. A delivery that is refused executes nothing, and what is
sent was served or refused. -/
def Once (o : CacheOptions) : Occurrence → List Occurrence → Prop
  | .executed delivery serial request, earlier => Quiet delivery earlier ∧
    ∀ delivery' serial' request', .executed delivery' serial' request' ∈ earlier →
      serial' ≠ serial ∧ (request'.correlationId = request.correlationId →
        ∃ r pending cause, .removed r pending cause ∈ earlier ∧ r.serial = serial')
  | .completed serial _, earlier =>
    (∃ delivery request, .executed delivery serial request ∈ earlier) ∧
      ∀ response, .completed serial response ∉ earlier
  | .served _ serial request response, earlier =>
    .completed serial response ∈ earlier ∧ CreatedFor serial request earlier
  | .refused delivery request response records, earlier =>
    Quiet delivery earlier ∧ Refusal request response records
  | .sent delivery response, earlier =>
    (∃ serial request, .served delivery serial request response ∈ earlier) ∨
      ∃ request records, .refused delivery request response records ∈ earlier
  | .removed r pending cause, _ => Removable o r pending cause

/-- How the records go with what is told. -/
structure Recorded (o : CacheOptions) (c : RequestCache) : Prop where
  once : Throughout (Once o) c.history
  ids : (c.requestRecords.map RequestRecord.id).Nodup
  serials : (c.requestRecords.map RequestRecord.serial).Nodup
  /-- The record of an execution is there, or has left. -/
  executed : ∀ delivery serial request, .executed delivery serial request ∈ c.history →
    serial < c.nextSerial ∧
      ((∃ r ∈ c.requestRecords, r.serial = serial ∧ r.request = request) ∨
        ∃ r pending cause, .removed r pending cause ∈ c.history ∧ r.serial = serial)
  record : ∀ r ∈ c.requestRecords, ∃ delivery, .executed delivery r.serial r.request ∈ c.history
  /-- A record has the response that was told. -/
  completed : ∀ serial response, .completed serial response ∈ c.history → serial < c.nextSerial ∧
    ∀ r ∈ c.requestRecords, r.serial = serial → r.isComplete = true ∧ r.response = response
  response : ∀ r ∈ c.requestRecords, r.isComplete = true →
    .completed r.serial r.response ∈ c.history

/-- The history goes on, with occurrences of a delivery at most. -/
def Grows (delivery : Option Nat) (history history' : List Occurrence) : Prop :=
  ∃ added, history' = added ++ history ∧
    ∀ occurrence ∈ added, occurrence.delivery? = none ∨ occurrence.delivery? = delivery

section
variable {delivery : Option Nat} {history history' history'' : List Occurrence}

theorem Grows.refl (delivery : Option Nat) (history : List Occurrence) :
    Grows delivery history history :=
  ⟨[], rfl, fun _ h => absurd h List.not_mem_nil⟩

theorem Grows.trans (h : Grows delivery history history') (h' : Grows delivery history' history'') :
    Grows delivery history history'' := by
  obtain ⟨added, rfl, hadded⟩ := h
  obtain ⟨added', rfl, hadded'⟩ := h'
  refine ⟨added' ++ added, (List.append_assoc ..).symm, fun occurrence hmem => ?_⟩
  obtain hmem | hmem := List.mem_append.1 hmem
  · exact hadded' occurrence hmem
  · exact hadded occurrence hmem

theorem Grows.cons {occurrence : Occurrence} (h : Grows delivery history history')
    (hdelivery : occurrence.delivery? = none ∨ occurrence.delivery? = delivery) :
    Grows delivery history (occurrence :: history') :=
  h.trans ⟨[occurrence], rfl, fun _ hmem => List.mem_singleton.1 hmem ▸ hdelivery⟩

/-- What grows without a delivery grows with any. -/
theorem Grows.weaken (h : Grows none history history') (delivery : Option Nat) :
    Grows delivery history history' := by
  obtain ⟨added, rfl, hadded⟩ := h
  exact ⟨added, rfl, fun occurrence hmem => .inl ((hadded occurrence hmem).elim id id)⟩

theorem Grows.mem (h : Grows delivery history history') {occurrence : Occurrence}
    (hmem : occurrence ∈ history) : occurrence ∈ history' := by
  obtain ⟨added, rfl, -⟩ := h
  exact List.mem_append_right _ hmem

/-- A delivery of which nothing is added stays quiet. -/
theorem Grows.quiet (h : Grows delivery history history') {other : Nat}
    (hother : delivery ≠ some other) (hquiet : Quiet other history) : Quiet other history' := by
  obtain ⟨added, rfl, hadded⟩ := h
  intro occurrence hmem
  obtain hmem | hmem := List.mem_append.1 hmem
  · obtain hnone | heq := hadded occurrence hmem
    · rw [hnone]
      exact nofun
    · rw [heq]
      exact hother
  · exact hquiet occurrence hmem

end

variable {o : CacheOptions} {c : RequestCache} {r : RequestRecord} {now serial delivery : Nat}
  {request : Request}

theorem Recorded.initial (o : CacheOptions) : Recorded o {} where
  once := trivial
  ids := List.nodup_nil
  serials := List.nodup_nil
  executed _ _ _ h := by cases h
  record _ h := by cases h
  completed _ _ h := by cases h
  response _ h := by cases h

/-! ## Records that go -/

theorem Recorded.remove (h : Recorded o c) {cause : Removal}
    (hremovable : Removable o r (c.pendingDeliveries r.id) cause) :
    Recorded o (c.remove r cause) := by
  have hsub : (c.remove r cause).requestRecords.Sublist c.requestRecords := List.erase_sublist
  exact {
    once := ⟨hremovable, h.once⟩
    ids := h.ids.sublist (hsub.map _)
    serials := h.serials.sublist (hsub.map _)
    executed := fun delivery serial request hmem => by
      obtain ⟨hlt, hrecord⟩ := h.executed delivery serial request
        ((List.mem_cons.1 hmem).resolve_left nofun)
      refine ⟨hlt, ?_⟩
      obtain ⟨other, hother, hserial, hrequest⟩ | ⟨other, pending, cause', hgone, hserial⟩ :=
        hrecord
      · by_cases heq : other = r
        · exact .inr ⟨r, _, cause, List.mem_cons_self, heq ▸ hserial⟩
        · exact .inl ⟨other, (List.mem_erase_of_ne heq).2 hother, hserial, hrequest⟩
      · exact .inr ⟨other, pending, cause', List.mem_cons_of_mem _ hgone, hserial⟩
    record := fun other hother => by
      obtain ⟨delivery, hmem⟩ := h.record other (hsub.subset hother)
      exact ⟨delivery, List.mem_cons_of_mem _ hmem⟩
    completed := fun serial response hmem => by
      obtain ⟨hlt, hsame⟩ :=
        h.completed serial response ((List.mem_cons.1 hmem).resolve_left nofun)
      exact ⟨hlt, fun other hother => hsame other (hsub.subset hother)⟩
    response := fun other hother hcomplete =>
      List.mem_cons_of_mem _ (h.response other (hsub.subset hother) hcomplete) }

/-- Records go, and nothing else happens. -/
theorem Recorded.pruneRequestRecords (h : Recorded o c) (now : Nat) :
    Recorded o (c.pruneRequestRecords o now) ∧
      Grows none c.history (c.pruneRequestRecords o now).history := by
  refine pruneFrom_induct (I := fun c' => Recorded o c' ∧ Grows none c.history c'.history)
    (fun c' r hc _ hretains => ?_) h.ids.of_map (List.Subset.refl _) ⟨h, Grows.refl ..⟩
  simp only [retains, Bool.or_eq_false_iff, Bool.not_eq_false', bne_eq_false_iff_eq,
    decide_eq_false_iff_not, Nat.not_lt] at hretains
  obtain ⟨⟨⟨hcomplete, hactive⟩, hpending⟩, htime⟩ := hretains
  refine ⟨hc.1.remove ⟨hcomplete, hactive, hpending, ?_⟩, hc.2.cons (.inl rfl)⟩
  cases hacknowledged : r.acknowledged <;> simpa [hacknowledged] using htime

theorem Recorded.makeRoom (h : Recorded o c) (reserved : Nat) :
    Recorded o (c.makeRoom o reserved).2 ∧
      Grows none c.history (c.makeRoom o reserved).2.history := by
  refine (makeRoom_induct (I := fun c' => Recorded o c' ∧ Grows none c.history c'.history)
    (fun c' r hc _ hevictable => ?_) ⟨h, Grows.refl ..⟩).1
  simp only [isEvictable, Bool.and_eq_true, beq_iff_eq] at hevictable
  obtain ⟨⟨⟨hcomplete, hacknowledged⟩, hactive⟩, hpending⟩ := hevictable
  exact ⟨hc.1.remove ⟨hcomplete, hactive, hpending, hacknowledged⟩, hc.2.cons (.inl rfl)⟩

/-! ## Records that stay -/

/-- The order of the records is of no account. -/
theorem Recorded.perm (h : Recorded o c) {records : List RequestRecord}
    (hperm : records.Perm c.requestRecords) : Recorded o { c with requestRecords := records } where
  once := h.once
  ids := (hperm.map _).nodup_iff.2 h.ids
  serials := (hperm.map _).nodup_iff.2 h.serials
  executed delivery serial request hmem := by
    obtain ⟨hlt, ⟨r, hr, hrecord⟩ | hgone⟩ := h.executed delivery serial request hmem
    · exact ⟨hlt, .inl ⟨r, hperm.mem_iff.2 hr, hrecord⟩⟩
    · exact ⟨hlt, .inr hgone⟩
  record r hr := h.record r (hperm.mem_iff.1 hr)
  completed serial response hmem := by
    obtain ⟨hlt, hsame⟩ := h.completed serial response hmem
    exact ⟨hlt, fun r hr => hsame r (hperm.mem_iff.1 hr)⟩
  response r hr := h.response r (hperm.mem_iff.1 hr)

theorem map_id_eq {f : RequestRecord → RequestRecord} (hrequest : ∀ r, (f r).request = r.request)
    (records : List RequestRecord) :
    (records.map f).map RequestRecord.id = records.map RequestRecord.id := by
  rw [List.map_map]
  exact List.map_congr_left fun r _ => congrArg Request.correlationId (hrequest r)

theorem map_serial_eq {f : RequestRecord → RequestRecord} (hserial : ∀ r, (f r).serial = r.serial)
    (records : List RequestRecord) :
    (records.map f).map RequestRecord.serial = records.map RequestRecord.serial := by
  rw [List.map_map]
  exact List.map_congr_left fun r _ => hserial r

/-- A change that leaves the request and the response of every record. -/
theorem Recorded.map (h : Recorded o c) {f : RequestRecord → RequestRecord}
    (hserial : ∀ r, (f r).serial = r.serial) (hrequest : ∀ r, (f r).request = r.request)
    (hcomplete : ∀ r, (f r).isComplete = r.isComplete)
    (hresponse : ∀ r, (f r).response = r.response) :
    Recorded o { c with requestRecords := c.requestRecords.map f } where
  once := h.once
  ids := map_id_eq hrequest c.requestRecords ▸ h.ids
  serials := map_serial_eq hserial c.requestRecords ▸ h.serials
  executed delivery serial request hmem := by
    obtain ⟨hlt, ⟨r, hr, heq, hsame⟩ | hgone⟩ := h.executed delivery serial request hmem
    · exact ⟨hlt, .inl ⟨f r, List.mem_map_of_mem hr, (hserial r).trans heq,
        (hrequest r).trans hsame⟩⟩
    · exact ⟨hlt, .inr hgone⟩
  record r hr := by
    obtain ⟨before, hbefore, rfl⟩ := List.mem_map.1 hr
    rw [hserial, hrequest]
    exact h.record before hbefore
  completed serial response hmem := by
    obtain ⟨hlt, hsame⟩ := h.completed serial response hmem
    refine ⟨hlt, fun r hr hr' => ?_⟩
    obtain ⟨before, hbefore, rfl⟩ := List.mem_map.1 hr
    rw [hcomplete, hresponse]
    exact hsame before hbefore ((hserial before).symm.trans hr')
  response r hr hdone := by
    obtain ⟨before, hbefore, rfl⟩ := List.mem_map.1 hr
    rw [hserial, hresponse]
    exact h.response before hbefore ((hcomplete before).symm.trans hdone)

theorem Recorded.modify (h : Recorded o c) (serial : Nat) {f : RequestRecord → RequestRecord}
    (hserial : ∀ r, (f r).serial = r.serial) (hrequest : ∀ r, (f r).request = r.request)
    (hcomplete : ∀ r, (f r).isComplete = r.isComplete)
    (hresponse : ∀ r, (f r).response = r.response) : Recorded o (c.modify serial f) := by
  refine h.map (fun r => ?_) (fun r => ?_) (fun r => ?_) fun r => ?_
  all_goals
    split
    · first
        | exact hserial r
        | exact hrequest r
        | exact hcomplete r
        | exact hresponse r
    · rfl

/-- Something happens that is neither an execution nor a completion. -/
theorem Recorded.note (h : Recorded o c) {occurrence : Occurrence}
    (honce : Once o occurrence c.history)
    (hexecuted : ∀ delivery serial request, occurrence ≠ .executed delivery serial request)
    (hcompleted : ∀ serial response, occurrence ≠ .completed serial response) :
    Recorded o (c.note occurrence) where
  once := ⟨honce, h.once⟩
  ids := h.ids
  serials := h.serials
  executed delivery serial request hmem := by
    obtain ⟨hlt, hrecord | ⟨r, pending, cause, hgone, hserial⟩⟩ :=
      h.executed delivery serial request
        ((List.mem_cons.1 hmem).resolve_left fun heq => hexecuted _ _ _ heq.symm)
    · exact ⟨hlt, .inl hrecord⟩
    · exact ⟨hlt, .inr ⟨r, pending, cause, List.mem_cons_of_mem _ hgone, hserial⟩⟩
  record r hr := by
    obtain ⟨delivery, hmem⟩ := h.record r hr
    exact ⟨delivery, List.mem_cons_of_mem _ hmem⟩
  completed serial response hmem := h.completed serial response
    ((List.mem_cons.1 hmem).resolve_left fun heq => hcompleted _ _ heq.symm)
  response r hr hdone := List.mem_cons_of_mem _ (h.response r hr hdone)

/-! ## A new record -/

theorem Recorded.create (h : Recorded o c) (hquiet : Quiet delivery c.history)
    (hnew : c.find request.correlationId = none) : Recorded o (c.create delivery request) where
  once := by
    refine ⟨⟨hquiet, fun delivery' serial' request' hmem => ?_⟩, h.once⟩
    obtain ⟨hlt, hrecord⟩ := h.executed delivery' serial' request' hmem
    refine ⟨Nat.ne_of_lt hlt, fun hid => ?_⟩
    obtain ⟨r, hr, -, rfl⟩ | hgone := hrecord
    · exact absurd (List.find?_eq_none.1 hnew r hr) (by simp [hid])
    · exact hgone
  ids := by
    refine List.nodup_cons.2 ⟨fun hmem => ?_, h.ids⟩
    obtain ⟨r, hr, hid⟩ := List.mem_map.1 hmem
    exact absurd (List.find?_eq_none.1 hnew r hr) (by simp [hid])
  serials := by
    refine List.nodup_cons.2 ⟨fun hmem => ?_, h.serials⟩
    obtain ⟨r, hr, hserial⟩ := List.mem_map.1 hmem
    obtain ⟨delivery', htold⟩ := h.record r hr
    exact absurd hserial (Nat.ne_of_lt (h.executed _ _ _ htold).1)
  executed delivery' serial request' hmem := by
    obtain heq | hmem := List.mem_cons.1 hmem
    · cases heq
      exact ⟨Nat.lt_succ_self _, .inl ⟨_, List.mem_cons_self, rfl, rfl⟩⟩
    · obtain ⟨hlt, ⟨r, hr, hrecord⟩ | ⟨r, pending, cause, hgone, hserial⟩⟩ :=
        h.executed delivery' serial request' hmem
      · exact ⟨Nat.lt_succ_of_lt hlt, .inl ⟨r, List.mem_cons_of_mem _ hr, hrecord⟩⟩
      · exact ⟨Nat.lt_succ_of_lt hlt,
          .inr ⟨r, pending, cause, List.mem_cons_of_mem _ hgone, hserial⟩⟩
  record r hr := by
    obtain rfl | hr := List.mem_cons.1 hr
    · exact ⟨delivery, List.mem_cons_self⟩
    · obtain ⟨delivery', hmem⟩ := h.record r hr
      exact ⟨delivery', List.mem_cons_of_mem _ hmem⟩
  completed serial response hmem := by
    obtain ⟨hlt, hsame⟩ := h.completed serial response ((List.mem_cons.1 hmem).resolve_left nofun)
    refine ⟨Nat.lt_succ_of_lt hlt, fun r hr hserial => ?_⟩
    obtain rfl | hr := List.mem_cons.1 hr
    · exact absurd hserial.symm (Nat.ne_of_lt hlt)
    · exact hsame r hr hserial
  response r hr hdone := by
    obtain rfl | hr := List.mem_cons.1 hr
    · cases hdone
    · exact List.mem_cons_of_mem _ (h.response r hr hdone)

/-! ## A response -/

theorem sameRequest_refl (request : Request) : sameRequest request request = true := by
  simp [sameRequest]

/-- A record has its response, and serves it to the delivery that executed its request. -/
theorem Recorded.completing (h : Recorded o c) (hr : r ∈ c.requestRecords)
    (hopen : r.isComplete = false) (response : Response) (completedAt : Nat) :
    Recorded o (c.completing delivery r response completedAt) := by
  obtain ⟨executor, hexecuted⟩ := h.record r hr
  have hnone : ∀ response', .completed r.serial response' ∉ c.history := fun response' hmem => by
    rw [((h.completed _ _ hmem).2 r hr rfl).1] at hopen
    cases hopen
  have hlt := (h.executed _ _ _ hexecuted).1
  let f (other : RequestRecord) : RequestRecord :=
    if other.serial = r.serial then other.completed response completedAt else other
  have hserial : ∀ other, (f other).serial = other.serial := fun other => by
    simp only [f]
    split <;> rfl
  have hrequest : ∀ other, (f other).request = other.request := fun other => by
    simp only [f]
    split <;> rfl
  exact {
    once := ⟨⟨List.mem_cons_self, executor, r.request, List.mem_cons_of_mem _ hexecuted, rfl,
      sameRequest_refl _⟩, ⟨⟨executor, r.request, hexecuted⟩, hnone⟩, h.once⟩
    ids := map_id_eq hrequest c.requestRecords ▸ h.ids
    serials := map_serial_eq hserial c.requestRecords ▸ h.serials
    executed := fun delivery' serial request hmem => by
      have htold := (List.mem_cons.1 ((List.mem_cons.1 hmem).resolve_left nofun)).resolve_left nofun
      obtain ⟨hlt, ⟨other, hother, heq, hsame⟩ | ⟨other, pending, cause, hgone, heq⟩⟩ :=
        h.executed delivery' serial request htold
      · exact ⟨hlt, .inl ⟨f other, List.mem_map_of_mem hother, (hserial other).trans heq,
          (hrequest other).trans hsame⟩⟩
      · exact ⟨hlt, .inr ⟨other, pending, cause,
          List.mem_cons_of_mem _ (List.mem_cons_of_mem _ hgone), heq⟩⟩
    record := fun other hother => by
      obtain ⟨before, hbefore, rfl⟩ := List.mem_map.1 hother
      obtain ⟨delivery', hmem⟩ := h.record before hbefore
      refine ⟨delivery', List.mem_cons_of_mem _ (List.mem_cons_of_mem _ ?_)⟩
      rw [show _ = before.serial from hserial before, show _ = before.request from hrequest before]
      exact hmem
    completed := fun serial response' hmem => by
      obtain heq | htold := List.mem_cons.1 ((List.mem_cons.1 hmem).resolve_left nofun)
      · cases heq
        refine ⟨hlt, fun other hother heq => ?_⟩
        obtain ⟨before, -, rfl⟩ := List.mem_map.1 hother
        have hbefore : before.serial = r.serial := (hserial before).symm.trans heq
        rw [if_pos hbefore]
        exact ⟨rfl, rfl⟩
      · obtain ⟨hlt', hsame⟩ := h.completed serial response' htold
        refine ⟨hlt', fun other hother heq => ?_⟩
        obtain ⟨before, hbefore, rfl⟩ := List.mem_map.1 hother
        have hold : before.serial = serial := (hserial before).symm.trans heq
        -- the record that is completed had no response
        have hne : before.serial ≠ r.serial := fun hsame' =>
          hnone response' (hsame' ▸ hold ▸ htold)
        rw [if_neg hne]
        exact hsame before hbefore hold
    response := fun other hother hdone => by
      obtain ⟨before, hbefore, rfl⟩ := List.mem_map.1 hother
      by_cases heq : before.serial = r.serial
      · rw [if_pos heq]
        refine List.mem_cons_of_mem _ ?_
        rw [show (before.completed response completedAt).serial = r.serial from heq]
        exact List.mem_cons_self
      · rw [if_neg heq] at hdone ⊢
        exact List.mem_cons_of_mem _ (List.mem_cons_of_mem _ (h.response before hbefore hdone)) }

/-! ## Requests -/

/-- What is told of a delivery that the cache has answered. -/
def Found.Told (delivery : Nat) (request : Request) (history : List Occurrence) : Found → Prop
  | .created _ | .failed => True
  | .served serial response => ∃ request, .served delivery serial request response ∈ history
  | .waits serial => Quiet delivery history ∧ CreatedFor serial request history
  | .refused response => ∃ request records, .refused delivery request response records ∈ history

/-- The cache has answered a delivery. -/
structure Answers (o : CacheOptions) (delivery : Nat) (request : Request) (c : RequestCache)
    (result : Found × RequestCache) : Prop where
  recorded : Recorded o result.2
  grows : Grows (some delivery) c.history result.2.history
  told : result.1.Told delivery request result.2.history

theorem Recorded.refuse (h : Recorded o c) (hquiet : Quiet delivery c.history) {code : ExitCode}
    (hcode : (code = .invalidRequest ∧ ∃ r ∈ c.requestRecords, r.id = request.correlationId ∧
      sameRequest r.request request = false) ∨
        code = .busy ∨ code = .unavailable ∨ code = .operationFailed) :
    Answers o delivery request c (c.refuse delivery request code) where
  recorded := h.note ⟨hquiet, rfl, rfl, hcode⟩ nofun nofun
  grows := (Grows.refl ..).cons (.inr rfl)
  told := ⟨request, c.requestRecords, List.mem_cons_self⟩

theorem Recorded.await (h : Recorded o c) (hquiet : Quiet delivery c.history)
    (hcreated : CreatedFor serial request c.history) (stopRequested deadlinePassed : Bool) :
    Answers o delivery request c
      (c.await delivery request serial stopRequested deadlinePassed) := by
  rw [RequestCache.await]
  split
  · exact ⟨h, Grows.refl .., hquiet, hcreated⟩
  · next r hfind =>
    obtain ⟨hr, hserial⟩ := mem_of_findSerial hfind
    split
    · split
      · exact h.refuse hquiet (.inr (.inr (.inl rfl)))
      · split
        · exact h.refuse hquiet (.inr (.inl rfl))
        · exact ⟨h, Grows.refl .., hquiet, hcreated⟩
    · next hcomplete =>
      have hdone : r.isComplete = true := by simpa using hcomplete
      have htaken : Recorded o (c.modify serial .taken) :=
        h.modify serial (fun _ => rfl) (fun _ => rfl) (fun _ => rfl) fun _ => rfl
      have hcompleted : .completed serial r.response ∈ c.history := hserial ▸ h.response r hr hdone
      exact {
        recorded := htaken.note ⟨hcompleted, hcreated⟩ (fun _ _ _ h => by cases h)
          fun _ _ h => by cases h
        grows := (Grows.refl ..).cons (.inr rfl)
        told := ⟨request, List.mem_cons_self⟩ }

theorem Answers.of_grows {c' : RequestCache} {result : Found × RequestCache}
    (h : Answers o delivery request c' result) (hgrows : Grows none c.history c'.history) :
    Answers o delivery request c result :=
  ⟨h.recorded, (hgrows.weaken _).trans h.grows, h.told⟩

/-- A request that has no record has none when there is room for one. -/
theorem find_makeRoom (reserved : Nat) {id : CorrelationId} (h : c.find id = none) :
    (c.makeRoom o reserved).2.find id = none :=
  (makeRoom_induct (I := fun c => c.find id = none) (fun _ _ hc _ _ =>
    List.find?_eq_none.2 fun other hmem =>
      List.find?_eq_none.1 hc other (List.mem_of_mem_erase hmem)) h).1

theorem Recorded.acquire (h : Recorded o c) (hquiet : Quiet delivery c.history) (now : Nat)
    (stopRequested deadlinePassed allocated : Bool) :
    Answers o delivery request c
      (c.acquire o delivery request now stopRequested deadlinePassed allocated) := by
  obtain ⟨hpruned, hgrows⟩ := h.pruneRequestRecords now
  have hquiet := hgrows.quiet nofun hquiet
  rw [RequestCache.acquire]
  refine Answers.of_grows ?_ hgrows
  generalize c.pruneRequestRecords o now = c at hpruned hquiet
  cases hfind : c.find request.correlationId with
  | some r =>
    obtain ⟨hr, hid⟩ := mem_of_find hfind
    dsimp only
    split
    · next hother =>
      refine hpruned.refuse hquiet (.inl ⟨rfl, r, hr, hid, ?_⟩)
      simpa using hother
    · next hsame =>
      obtain ⟨executor, hexecuted⟩ := hpruned.record r hr
      refine hpruned.await hquiet ⟨executor, r.request, hexecuted, hid, ?_⟩ _ _
      simpa using hsame
  | none =>
    obtain ⟨hroom, hgrows⟩ := hpruned.makeRoom (reservedBytes request)
    have hquiet := hgrows.quiet nofun hquiet
    have hnew := find_makeRoom (reservedBytes request) (o := o) hfind
    dsimp only
    refine Answers.of_grows ?_ hgrows
    generalize (c.makeRoom o (reservedBytes request)) = room at hroom hquiet hnew
    split
    · exact hroom.refuse hquiet (.inr (.inl rfl))
    · split
      · exact ⟨hroom, Grows.refl .., trivial⟩
      · exact ⟨hroom.create hquiet hnew, (Grows.refl ..).cons (.inr rfl), trivial⟩

/-! ## Deliveries -/

theorem Recorded.completeDelivery (h : Recorded o c) (id : CorrelationId) (serial : Nat)
    (acknowledged : Bool) (now : Nat) :
    Recorded o (c.completeDelivery o id serial acknowledged now) ∧
      Grows none c.history (c.completeDelivery o id serial acknowledged now).history := by
  rw [RequestCache.completeDelivery]
  split
  · exact ⟨h, Grows.refl ..⟩
  · split
    · exact ⟨h, Grows.refl ..⟩
    · have hdelivered : Recorded o (c.modify serial (.delivered acknowledged now)) :=
        h.modify serial (fun _ => rfl) (fun _ => rfl) (fun _ => rfl) fun _ => rfl
      exact hdelivered.pruneRequestRecords now

theorem Recorded.repend (h : Recorded o c) (pending : CorrelationId → Nat) :
    Recorded o { c with pendingDeliveries := pending } :=
  ⟨h.once, h.ids, h.serials, h.executed, h.record, h.completed, h.response⟩

/-- The execution of a record is over. -/
theorem Recorded.complete {holders : Holders} (h : Recorded o c) (hledger : Ledger o c holders)
    (hr : r ∈ c.requestRecords) (hopen : r.isComplete = false) (delivery : Nat)
    (response : Response) (completedAt : Nat) :
    Recorded o (c.complete o delivery r.serial response completedAt) ∧
      Grows (some delivery) c.history
        (c.complete o delivery r.serial response completedAt).history ∧
      .served delivery r.serial r.request response ∈
        (c.complete o delivery r.serial response completedAt).history := by
  rw [hledger.complete_eq hr]
  obtain ⟨hrecorded, hgrows⟩ :=
    (h.completing hr hopen response completedAt).pruneRequestRecords completedAt
  exact ⟨hrecorded, (((Grows.refl ..).cons (.inl rfl)).cons (.inr rfl)).trans (hgrows.weaken _),
    hgrows.mem List.mem_cons_self⟩

/-- The server has stopped. -/
theorem Recorded.stop {holders : Holders} (h : Recorded o c) (hledger : Ledger o c holders)
    (hidle : holders.executing = 0) : Recorded o c.stop ∧ Grows none c.history c.stop.history := by
  rw [hledger.stop_eq hidle]
  have hleft : Recorded o { c with
      pendingDeliveries := fun _ => 0
      requestRecords := c.requestRecords.map .abandoned } :=
    (h.repend fun _ => 0).map (fun _ => rfl) (fun _ => rfl) (fun _ => rfl) fun _ => rfl
  exact ⟨hleft, Grows.refl ..⟩

end RequestCache

end PlaybackConnector.Control
