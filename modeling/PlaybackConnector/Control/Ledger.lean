import PlaybackConnector.Control.RequestCache
import Mathlib

/-!
# The books of the request cache

`Ledger` is what the sections of the code keep: the sizes add up, and the counters of a record and
of a correlation id are the numbers of those who deliver the record and of those who are about to
ask for it. Who they are, the sections do not say: `Holders` counts them, and each section is a
theorem about what it makes of them.
-/

namespace PlaybackConnector.Control

namespace RequestCache

/-! ## Holders -/

/-- Who has to do with the cache: the deliveries that hold a record, those that are about to ask
for their request, those that execute the request of a record, and those that wait for one. -/
structure Holders where
  /-- The deliveries of records. -/
  delivering : Multiset (CorrelationId × Nat)
  /-- The deliveries that are pending. -/
  pending : Multiset CorrelationId
  /-- The executions. -/
  executing : Multiset (CorrelationId × Nat)
  /-- The deliveries that wait. -/
  waiting : Multiset (CorrelationId × Nat)

namespace Holders

@[ext]
theorem ext {h h' : Holders} (hdelivering : h.delivering = h'.delivering)
    (hpending : h.pending = h'.pending) (hexecuting : h.executing = h'.executing)
    (hwaiting : h.waiting = h'.waiting) : h = h' := by
  cases h
  cases h'
  simp_all

instance : Add Holders where
  add h h' := ⟨h.delivering + h'.delivering, h.pending + h'.pending, h.executing + h'.executing,
    h.waiting + h'.waiting⟩

instance : Zero Holders where
  zero := ⟨0, 0, 0, 0⟩

instance : AddCommMonoid Holders where
  add_assoc _ _ _ := by ext1 <;> exact Multiset.add_assoc _ _ _
  zero_add _ := by ext1 <;> exact Multiset.zero_add _
  add_zero _ := by ext1 <;> exact Multiset.add_zero _
  add_comm _ _ := by ext1 <;> exact Multiset.add_comm _ _
  nsmul := nsmulRec

variable (h h' : Holders)

@[simp] theorem add_delivering : (h + h').delivering = h.delivering + h'.delivering := rfl
@[simp] theorem add_pending : (h + h').pending = h.pending + h'.pending := rfl
@[simp] theorem add_executing : (h + h').executing = h.executing + h'.executing := rfl
@[simp] theorem add_waiting : (h + h').waiting = h.waiting + h'.waiting := rfl
@[simp] theorem zero_delivering : (0 : Holders).delivering = 0 := rfl
@[simp] theorem zero_pending : (0 : Holders).pending = 0 := rfl
@[simp] theorem zero_executing : (0 : Holders).executing = 0 := rfl
@[simp] theorem zero_waiting : (0 : Holders).waiting = 0 := rfl

/-- One delivery of a record. -/
@[simps] def delivers (key : CorrelationId × Nat) : Holders := ⟨{key}, 0, 0, 0⟩

/-- One pending delivery. -/
@[simps] def pends (id : CorrelationId) : Holders := ⟨0, {id}, 0, 0⟩

/-- One execution. -/
@[simps] def executes (key : CorrelationId × Nat) : Holders := ⟨0, 0, {key}, 0⟩

/-- One delivery that waits. -/
@[simps] def waits (key : CorrelationId × Nat) : Holders := ⟨0, 0, 0, {key}⟩

/-- Those who wait are pending. -/
def Covered : Prop := ∀ key ∈ h.waiting, key.1 ∈ h.pending

end Holders

theorem Holders.Covered.add {h h' : Holders} (hs : h.Covered) (hs' : h'.Covered) :
    (h + h').Covered := by
  intro key hkey
  rcases Multiset.mem_add.1 hkey with hkey | hkey
  · exact Multiset.mem_add.2 (.inl (hs key hkey))
  · exact Multiset.mem_add.2 (.inr (hs' key hkey))

/-! ## The ledger -/

/-- The books of the cache are in order. -/
structure Ledger (o : CacheOptions) (c : RequestCache) (h : Holders) : Prop where
  ids : (c.requestRecords.map RequestRecord.id).Nodup
  serials : (c.requestRecords.map RequestRecord.serial).Nodup
  fresh : ∀ r ∈ c.requestRecords, r.serial < c.nextSerial
  bytes : c.requestCacheBytes = (c.requestRecords.map RequestRecord.bytes).sum
  bytes_le : c.requestCacheBytes ≤ o.maxRequestCacheBytes
  length_le : c.requestRecords.length ≤ o.maxRequestRecords
  pending : ∀ id, c.pendingDeliveries id = h.pending.count id
  active : ∀ r ∈ c.requestRecords, r.activeDeliveries = h.delivering.count r.key
  delivering : ∀ key ∈ h.delivering, ∃ r ∈ c.requestRecords, r.key = key ∧ r.isComplete
  executed : ∀ r ∈ c.requestRecords, r.isComplete = false →
    h.executing.count r.key = 1 ∧ r.bytes = reservedBytes r.request
  executing : ∀ key ∈ h.executing, ∃ r ∈ c.requestRecords, r.key = key ∧ r.isComplete = false
  waiting : ∀ key ∈ h.waiting, ∃ r ∈ c.requestRecords, r.key = key
  covered : h.Covered

variable {o : CacheOptions} {c c' : RequestCache} {h h' : Holders} {r r' t : RequestRecord}
  {cause : Removal} {now serial delivery : Nat} {id : CorrelationId} {request : Request}

theorem Ledger.eq_of_id (hs : Ledger o c h) (hr : r ∈ c.requestRecords)
    (hr' : r' ∈ c.requestRecords) (hid : r.id = r'.id) : r = r' :=
  List.inj_on_of_nodup_map hs.ids hr hr' hid

theorem Ledger.eq_of_serial (hs : Ledger o c h) (hr : r ∈ c.requestRecords)
    (hr' : r' ∈ c.requestRecords) (hserial : r.serial = r'.serial) : r = r' :=
  List.inj_on_of_nodup_map hs.serials hr hr' hserial

theorem Ledger.find_eq (hs : Ledger o c h) (hr : r ∈ c.requestRecords) : c.find r.id = some r := by
  cases hfind : c.find r.id with
  | none => exact absurd (List.find?_eq_none.1 hfind r hr) (by simp)
  | some found =>
    have hid : found.id = r.id := by simpa using List.find?_some hfind
    rw [hs.eq_of_id (List.mem_of_find?_eq_some hfind) hr hid]

theorem Ledger.findSerial_eq (hs : Ledger o c h) (hr : r ∈ c.requestRecords) :
    c.findSerial r.serial = some r := by
  cases hfind : c.findSerial r.serial with
  | none => exact absurd (List.find?_eq_none.1 hfind r hr) (by simp)
  | some found =>
    have hserial : found.serial = r.serial := by simpa using List.find?_some hfind
    rw [hs.eq_of_serial (List.mem_of_find?_eq_some hfind) hr hserial]

theorem mem_of_find (hfind : c.find id = some r) : r ∈ c.requestRecords ∧ r.id = id :=
  ⟨List.mem_of_find?_eq_some hfind, by simpa using List.find?_some hfind⟩

theorem mem_of_findSerial (hfind : c.findSerial serial = some r) :
    r ∈ c.requestRecords ∧ r.serial = serial :=
  ⟨List.mem_of_find?_eq_some hfind, by simpa using List.find?_some hfind⟩

/-! ## Removals -/

/-- A record that nobody delivers or is about to ask for can leave the cache. -/
theorem Ledger.remove (hs : Ledger o c h) (hr : r ∈ c.requestRecords) (hcomplete : r.isComplete)
    (hactive : r.activeDeliveries = 0) (hpending : c.pendingDeliveries r.id = 0) :
    Ledger o (c.remove r cause) h := by
  have hsub : (c.remove r cause).requestRecords.Sublist c.requestRecords := List.erase_sublist
  have hsum := List.sum_map_erase RequestRecord.bytes hr
  have hbytes := hs.bytes
  have hstays : ∀ other ∈ c.requestRecords, other ≠ r →
      other ∈ (c.remove r cause).requestRecords :=
    fun other hmem hne => (List.mem_erase_of_ne hne).2 hmem
  exact {
    ids := hs.ids.sublist (hsub.map _)
    serials := hs.serials.sublist (hsub.map _)
    fresh := fun other hmem => hs.fresh other (hsub.subset hmem)
    bytes := by
      simp only [RequestCache.remove]
      omega
    bytes_le := (Nat.sub_le _ _).trans hs.bytes_le
    length_le := hsub.length_le.trans hs.length_le
    pending := hs.pending
    active := fun other hmem => hs.active other (hsub.subset hmem)
    delivering := fun key hkey => by
      obtain ⟨other, hmem, rfl, hdone⟩ := hs.delivering key hkey
      refine ⟨other, hstays other hmem ?_, rfl, hdone⟩
      rintro rfl
      exact absurd hkey (Multiset.count_eq_zero.1 ((hs.active other hmem).symm.trans hactive))
    executed := fun other hmem => hs.executed other (hsub.subset hmem)
    executing := fun key hkey => by
      obtain ⟨other, hmem, rfl, hopen⟩ := hs.executing key hkey
      exact ⟨other, hstays other hmem (fun heq => by rw [heq, hcomplete] at hopen; cases hopen),
        rfl, hopen⟩
    waiting := fun key hkey => by
      obtain ⟨other, hmem, rfl⟩ := hs.waiting key hkey
      refine ⟨other, hstays other hmem ?_, rfl⟩
      rintro rfl
      exact absurd (hs.covered _ hkey)
        (Multiset.count_eq_zero.1 ((hs.pending _).symm.trans hpending))
    covered := hs.covered }

/-- What the removal of a record whose time is over preserves, pruning preserves. -/
theorem pruneFrom_induct {I : RequestCache → Prop} {records : List RequestRecord}
    (hremove : ∀ c r, I c → r ∈ c.requestRecords → c.retains o now r = false →
      I (c.remove r (.expired now)))
    (hnodup : records.Nodup) (hsub : records ⊆ c.requestRecords) (hc : I c) :
    I (pruneFrom o now records c) := by
  induction records generalizing c with
  | nil => exact hc
  | cons r rest ih =>
    obtain ⟨hr, hrest⟩ := List.cons_subset.1 hsub
    obtain ⟨hnew, hnodup⟩ := List.nodup_cons.1 hnodup
    unfold pruneFrom
    split
    · exact ih hnodup hrest hc
    · next hretains =>
      refine ih hnodup (fun other hmem => (List.mem_erase_of_ne ?_).2 (hrest hmem))
        (hremove c r hc hr (Bool.eq_false_iff.2 hretains))
      rintro rfl
      exact hnew hmem

/-- What the removal of an acknowledged record preserves, making room preserves. -/
theorem makeRoom_induct {I : RequestCache → Prop} {reserved : Nat}
    (hremove : ∀ c r, I c → r ∈ c.requestRecords → c.isEvictable r →
      I (c.remove r .evicted)) (hc : I c) :
    I (c.makeRoom o reserved).2 ∧
      ((c.makeRoom o reserved).1 → (c.makeRoom o reserved).2.lacksCapacity o reserved = false) := by
  unfold makeRoom
  generalize c.requestRecords.length = n
  induction n generalizing c with
  | zero => exact ⟨hc, fun hroom => by simpa [makeRoomWithin] using hroom⟩
  | succ n ih =>
    rw [makeRoomWithin]
    split
    · next hroom => exact ⟨hc, fun _ => by simpa using hroom⟩
    · split
      · exact ⟨hc, fun h => by cases h⟩
      · next r hcandidate =>
        obtain ⟨hmem, hevictable⟩ := candidate_spec hcandidate
        exact ih (hremove c r hc hmem hevictable)

theorem Ledger.pruneRequestRecords (hs : Ledger o c h) (now : Nat) :
    Ledger o (c.pruneRequestRecords o now) h := by
  refine pruneFrom_induct (I := fun c => Ledger o c h) (fun c r hc hr hretains => ?_)
    hs.ids.of_map (List.Subset.refl _) hs
  simp only [retains, Bool.or_eq_false_iff, Bool.not_eq_false', bne_eq_false_iff_eq] at hretains
  obtain ⟨⟨⟨hcomplete, hactive⟩, hpending⟩, -⟩ := hretains
  exact hc.remove hr hcomplete hactive hpending

theorem Ledger.makeRoom (hs : Ledger o c h) (reserved : Nat) :
    Ledger o (c.makeRoom o reserved).2 h ∧
      ((c.makeRoom o reserved).1 → (c.makeRoom o reserved).2.lacksCapacity o reserved = false) := by
  refine makeRoom_induct (I := fun c => Ledger o c h) (fun c r hc hr hevictable => ?_) hs
  simp only [isEvictable, Bool.and_eq_true, beq_iff_eq] at hevictable
  obtain ⟨⟨⟨hcomplete, -⟩, hactive⟩, hpending⟩ := hevictable
  exact hc.remove hr hcomplete hactive hpending

/-! ## Changes of a record -/

theorem Ledger.ne_of_mem_erase (hs : Ledger o c h) (hr : r ∈ c.requestRecords)
    (hmem : r' ∈ c.requestRecords.erase r) : r'.serial ≠ r.serial := by
  obtain ⟨hne, hmem⟩ := hs.serials.of_map.mem_erase_iff.1 hmem
  exact fun hserial => hne (hs.eq_of_serial hmem hr hserial)

/-- A change of a record leaves the others. -/
theorem Ledger.modify_perm (hs : Ledger o c h) (hr : r ∈ c.requestRecords)
    (f : RequestRecord → RequestRecord) :
    (c.modify r.serial f).requestRecords.Perm (f r :: c.requestRecords.erase r) := by
  have hothers : (c.requestRecords.erase r).map
      (fun other => if other.serial = r.serial then f other else other) =
      c.requestRecords.erase r := by
    conv_rhs => rw [← List.map_id (c.requestRecords.erase r)]
    exact List.map_congr_left fun other hmem => if_neg (hs.ne_of_mem_erase hr hmem)
  have hperm := (List.perm_cons_erase hr).map
    fun other => if other.serial = r.serial then f other else other
  rwa [List.map_cons, if_pos rfl, hothers] at hperm

/-- The holders are others at one key only. -/
structure Holders.Except (key : CorrelationId × Nat) (h h' : Holders) : Prop where
  delivering : ∀ other ≠ key, h'.delivering.count other = h.delivering.count other
  executing : ∀ other ≠ key, h'.executing.count other = h.executing.count other
  waiting : ∀ other ∈ h'.waiting, other ∈ h.waiting ∨ other = key
  pending : h'.pending = h.pending
  covered : h'.Covered

/-- The books stay in order when a record changes together with those who have to do with it. -/
theorem Ledger.replace (hs : Ledger o c h) (hr : r ∈ c.requestRecords) (hkey : t.key = r.key)
    (hperm : c'.requestRecords.Perm (t :: c.requestRecords.erase r))
    (hbytes : c'.requestCacheBytes + r.bytes = c.requestCacheBytes + t.bytes)
    (hle : t.bytes ≤ r.bytes) (hnext : c'.nextSerial = c.nextSerial)
    (hpending : c'.pendingDeliveries = c.pendingDeliveries) (hexcept : h.Except r.key h')
    (hactive : t.activeDeliveries = h'.delivering.count r.key)
    (hdone : r.key ∈ h'.delivering → t.isComplete)
    (hopen : t.isComplete = false →
      h'.executing.count r.key = 1 ∧ t.bytes = reservedBytes t.request)
    (hexecuting : r.key ∈ h'.executing → t.isComplete = false) : Ledger o c' h' := by
  have hids : (c'.requestRecords.map RequestRecord.id).Perm
      (c.requestRecords.map RequestRecord.id) := by
    refine (hperm.map _).trans (List.Perm.trans ?_ ((List.perm_cons_erase hr).map _).symm)
    rw [List.map_cons, List.map_cons, (Prod.mk.inj hkey).1]
  have hserials : (c'.requestRecords.map RequestRecord.serial).Perm
      (c.requestRecords.map RequestRecord.serial) := by
    refine (hperm.map _).trans (List.Perm.trans ?_ ((List.perm_cons_erase hr).map _).symm)
    rw [List.map_cons, List.map_cons, (Prod.mk.inj hkey).2]
  have hcases : ∀ other ∈ c'.requestRecords,
      other = t ∨ other ∈ c.requestRecords ∧ other.key ≠ r.key := by
    intro other hmem
    rcases List.mem_cons.1 (hperm.subset hmem) with rfl | hmem
    · exact .inl rfl
    · exact .inr ⟨List.mem_of_mem_erase hmem, fun heq =>
        hs.ne_of_mem_erase hr hmem (Prod.mk.inj heq).2⟩
  have hnew : t ∈ c'.requestRecords := hperm.symm.subset List.mem_cons_self
  have hstays : ∀ other ∈ c.requestRecords, other.key ≠ r.key → other ∈ c'.requestRecords :=
    fun other hmem hne => hperm.symm.subset (List.mem_cons_of_mem _
      ((List.mem_erase_of_ne fun heq => hne (by rw [heq])).2 hmem))
  have hsum := List.sum_map_erase RequestRecord.bytes hr
  have hbooks := hs.bytes
  exact {
    ids := hids.nodup_iff.2 hs.ids
    serials := hserials.nodup_iff.2 hs.serials
    fresh := fun other hmem => by
      rw [hnext]
      rcases hcases other hmem with rfl | ⟨hmem, -⟩
      · exact (Prod.mk.inj hkey).2 ▸ hs.fresh r hr
      · exact hs.fresh other hmem
    bytes := by
      rw [(hperm.map _).sum_eq, List.map_cons, List.sum_cons]
      omega
    bytes_le := by
      have hlimit := hs.bytes_le
      omega
    length_le := by
      have hlength := hperm.length_eq
      rw [List.length_cons, List.length_erase_of_mem hr] at hlength
      have hpos := List.length_pos_of_mem hr
      have hlimit := hs.length_le
      omega
    pending := by rw [hpending, hexcept.pending]; exact hs.pending
    active := fun other hmem => by
      rcases hcases other hmem with rfl | ⟨hmem, hne⟩
      · rw [hactive, hkey]
      · rw [hexcept.delivering _ hne]
        exact hs.active other hmem
    delivering := fun key hmem => by
      by_cases heq : key = r.key
      · exact ⟨t, hnew, hkey.trans heq.symm, hdone (heq ▸ hmem)⟩
      · have hbefore : key ∈ h.delivering :=
          Multiset.count_pos.1 (hexcept.delivering key heq ▸ Multiset.count_pos.2 hmem)
        obtain ⟨other, hother, rfl, hcomplete⟩ := hs.delivering key hbefore
        exact ⟨other, hstays other hother heq, rfl, hcomplete⟩
    executed := fun other hmem => by
      rcases hcases other hmem with rfl | ⟨hmem, hne⟩
      · rw [hkey]
        exact hopen
      · rw [hexcept.executing _ hne]
        exact hs.executed other hmem
    executing := fun key hmem => by
      by_cases heq : key = r.key
      · exact ⟨t, hnew, hkey.trans heq.symm, hexecuting (heq ▸ hmem)⟩
      · have hbefore : key ∈ h.executing :=
          Multiset.count_pos.1 (hexcept.executing key heq ▸ Multiset.count_pos.2 hmem)
        obtain ⟨other, hother, rfl, hincomplete⟩ := hs.executing key hbefore
        exact ⟨other, hstays other hother heq, rfl, hincomplete⟩
    waiting := fun key hmem => by
      by_cases heq : key = r.key
      · exact ⟨t, hnew, hkey.trans heq.symm⟩
      · obtain ⟨other, hother, rfl⟩ := hs.waiting key ((hexcept.waiting key hmem).resolve_right heq)
        exact ⟨other, hstays other hother heq, rfl⟩
    covered := hexcept.covered }

/-! ## Sections keep the books -/

theorem Ledger.note (hs : Ledger o c h) (occurrence : Occurrence) :
    Ledger o (c.note occurrence) h :=
  ⟨hs.ids, hs.serials, hs.fresh, hs.bytes, hs.bytes_le, hs.length_le, hs.pending, hs.active,
    hs.delivering, hs.executed, hs.executing, hs.waiting, hs.covered⟩

/-- The order in which the map is iterated is of no account. -/
theorem Ledger.perm (hs : Ledger o c h) {records : List RequestRecord}
    (hperm : records.Perm c.requestRecords) :
    Ledger o { c with requestRecords := records } h where
  ids := (hperm.map _).nodup_iff.2 hs.ids
  serials := (hperm.map _).nodup_iff.2 hs.serials
  fresh r hr := hs.fresh r (hperm.subset hr)
  bytes := hs.bytes.trans (hperm.map _).sum_eq.symm
  bytes_le := hs.bytes_le
  length_le := hperm.length_eq ▸ hs.length_le
  pending := hs.pending
  active r hr := hs.active r (hperm.subset hr)
  delivering key hkey := by
    obtain ⟨r, hr, hdone⟩ := hs.delivering key hkey
    exact ⟨r, hperm.symm.subset hr, hdone⟩
  executed r hr := hs.executed r (hperm.subset hr)
  executing key hkey := by
    obtain ⟨r, hr, hopen⟩ := hs.executing key hkey
    exact ⟨r, hperm.symm.subset hr, hopen⟩
  waiting key hkey := by
    obtain ⟨r, hr, heq⟩ := hs.waiting key hkey
    exact ⟨r, hperm.symm.subset hr, heq⟩
  covered := hs.covered

/-- Only those who are pending and those who wait are others. -/
theorem Ledger.repend (hs : Ledger o c h) {pending : CorrelationId → Nat}
    (hdelivering : h'.delivering = h.delivering) (hexecuting : h'.executing = h.executing)
    (hpending : ∀ id, pending id = h'.pending.count id)
    (hwaiting : ∀ key ∈ h'.waiting, ∃ r ∈ c.requestRecords, r.key = key)
    (hcovered : h'.Covered) : Ledger o { c with pendingDeliveries := pending } h' where
  ids := hs.ids
  serials := hs.serials
  fresh := hs.fresh
  bytes := hs.bytes
  bytes_le := hs.bytes_le
  length_le := hs.length_le
  pending := hpending
  active := hdelivering ▸ hs.active
  delivering := hdelivering ▸ hs.delivering
  executed := hexecuting ▸ hs.executed
  executing := hexecuting ▸ hs.executing
  waiting := hwaiting
  covered := hcovered

/-- A delivery waits for a record. -/
theorem Ledger.wait (hs : Ledger o c h) (hr : r ∈ c.requestRecords) (hpending : r.id ∈ h.pending) :
    Ledger o c (.waits r.key + h) := by
  refine hs.repend (by simp) (by simp) (by simpa using hs.pending) (fun key hkey => ?_)
    fun key hkey => ?_
  · rcases Multiset.mem_add.1 hkey with hkey | hkey
    · exact ⟨r, hr, (Multiset.mem_singleton.1 hkey).symm⟩
    · exact hs.waiting key hkey
  · rcases Multiset.mem_add.1 hkey with hkey | hkey
    · rw [Multiset.mem_singleton.1 hkey]
      exact Multiset.mem_add.2 (.inr hpending)
    · exact Multiset.mem_add.2 (.inr (hs.covered key hkey))

/-- A delivery does not wait any more. -/
theorem Ledger.unwait {key : CorrelationId × Nat} (hs : Ledger o c (.waits key + h)) :
    Ledger o c h :=
  hs.repend (by simp) (by simp) (by simpa using hs.pending)
    (fun other hother => hs.waiting other (Multiset.mem_add.2 (.inr hother)))
    fun other hother => by simpa using hs.covered other (Multiset.mem_add.2 (.inr hother))

/-- A delivery takes hold of a record that is complete. -/
theorem Ledger.serve (hs : Ledger o c h) (hr : r ∈ c.requestRecords) (hcomplete : r.isComplete) :
    Ledger o (c.modify r.serial .taken) (.delivers r.key + h) := by
  refine hs.replace (t := r.taken) hr rfl (hs.modify_perm hr _) rfl le_rfl rfl rfl
    ⟨fun other hne => ?_, fun other hne => ?_, fun other hmem => ?_, ?_, ?_⟩ ?_ ?_ ?_ ?_
  · simp [hne]
  · simp
  · exact .inl (by simpa using hmem)
  · simp
  · exact fun other hmem => by simpa using hs.covered other (by simpa using hmem)
  · simp [RequestRecord.taken, hs.active r hr]
  · exact fun _ => hcomplete
  · exact fun hopen => by simp [RequestRecord.taken, hcomplete] at hopen
  · intro hmem
    obtain ⟨other, hother, hkey, hopen⟩ := hs.executing r.key (by simpa using hmem)
    rw [hs.eq_of_serial hother hr (Prod.mk.inj hkey).2, hcomplete] at hopen
    cases hopen

/-- A new record. -/
theorem Ledger.create (hs : Ledger o c h) (hnew : c.find request.correlationId = none)
    (hroom : c.lacksCapacity o (reservedBytes request) = false) (delivery : Nat) :
    Ledger o (c.create delivery request)
      (.executes (request.correlationId, c.nextSerial) + h) := by
  simp only [lacksCapacity, Bool.or_eq_false_iff, decide_eq_false_iff_not] at hroom
  obtain ⟨⟨hfits, hlength⟩, hbytes⟩ := hroom
  have hfresh : (request.correlationId, c.nextSerial) ∉ h.delivering ∧
      (request.correlationId, c.nextSerial) ∉ h.executing := by
    refine ⟨fun hmem => ?_, fun hmem => ?_⟩
    · obtain ⟨r, hr, hkey, -⟩ := hs.delivering _ hmem
      exact Nat.ne_of_lt (hs.fresh r hr) (Prod.mk.inj hkey).2
    · obtain ⟨r, hr, hkey, -⟩ := hs.executing _ hmem
      exact Nat.ne_of_lt (hs.fresh r hr) (Prod.mk.inj hkey).2
  have hother : ∀ r ∈ c.requestRecords, r.key ≠ (request.correlationId, c.nextSerial) :=
    fun r hr heq => Nat.ne_of_lt (hs.fresh r hr) (Prod.mk.inj heq).2
  constructor
  case ids =>
    refine List.nodup_cons.2 ⟨fun hmem => ?_, hs.ids⟩
    obtain ⟨r, hr, hid⟩ := List.mem_map.1 hmem
    exact absurd (List.find?_eq_none.1 hnew r hr) (by simpa using hid)
  case serials =>
    refine List.nodup_cons.2 ⟨fun hmem => ?_, hs.serials⟩
    obtain ⟨r, hr, hserial⟩ := List.mem_map.1 hmem
    exact Nat.ne_of_lt (hs.fresh r hr) hserial
  case fresh =>
    intro r hr
    rcases List.mem_cons.1 hr with rfl | hr
    · exact Nat.lt_succ_self _
    · exact (hs.fresh r hr).trans (Nat.lt_succ_self _)
  case bytes =>
    have hbooks := hs.bytes
    simp only [RequestCache.create, List.map_cons, List.sum_cons]
    omega
  case bytes_le =>
    simp only [RequestCache.create]
    omega
  case length_le =>
    simp only [RequestCache.create, List.length_cons]
    omega
  case pending => simpa [RequestCache.create] using hs.pending
  case active =>
    intro r hr
    rcases List.mem_cons.1 hr with rfl | hr
    · exact (Multiset.count_eq_zero.2 (by simpa using hfresh.1)).symm
    · simpa using hs.active r hr
  case delivering =>
    intro key hkey
    obtain ⟨r, hr, hdone⟩ := hs.delivering key (by simpa using hkey)
    exact ⟨r, List.mem_cons_of_mem _ hr, hdone⟩
  case executed =>
    intro r hr hopen
    rcases List.mem_cons.1 hr with rfl | hr
    · simp [RequestRecord.key, hfresh.2]
    · simpa [hother r hr] using hs.executed r hr hopen
  case executing =>
    intro key hkey
    rcases Multiset.mem_add.1 hkey with hkey | hkey
    · exact ⟨_, List.mem_cons_self, (Multiset.mem_singleton.1 hkey).symm, rfl⟩
    · obtain ⟨r, hr, hopen⟩ := hs.executing key hkey
      exact ⟨r, List.mem_cons_of_mem _ hr, hopen⟩
  case waiting =>
    intro key hkey
    obtain ⟨r, hr, heq⟩ := hs.waiting key (by simpa using hkey)
    exact ⟨r, List.mem_cons_of_mem _ hr, heq⟩
  case covered => exact fun key hkey => by simpa using hs.covered key (by simpa using hkey)

/-- The response that is kept fits a record. -/
theorem sanitize_payload (request : Request) (result : Option Response) :
    (sanitize request result).payload.length * sizeofChar ≤ maxPayloadBytes := by
  unfold sanitize
  simp only
  split
  · exact Nat.zero_le _
  · next hvalid =>
    simp only [Bool.or_eq_true, not_or] at hvalid
    obtain ⟨hcount, -⟩ := hvalid
    unfold payloadByteCount at hcount
    split at hcount
    · simp at hcount
    · next hlength =>
      simp only at hcount
      split at hcount
      · next hbytes =>
        have hle := (isPayloadByteCountValid_iff.1 hbytes).1
        rwa [UInt32.toNat_ofNat_of_lt'] at hle
        simp only [sizeofChar, UInt32.size] at hlength ⊢
        omega
      · simp at hcount

/-- A record with its response, before its time is looked at. -/
def completing (delivery : Nat) (r : RequestRecord) (response : Response) (completedAt : Nat)
    (c : RequestCache) : RequestCache :=
  { c.modify r.serial (.completed response completedAt) with
    requestCacheBytes :=
      if r.bytes > requestBytes r.request + responseBytes response then
        sizeSub c.requestCacheBytes (r.bytes - (requestBytes r.request + responseBytes response))
      else c.requestCacheBytes
    history := .served delivery r.serial r.request response :: .completed r.serial response ::
      c.history }

theorem Ledger.complete_eq (hs : Ledger o c h) (hr : r ∈ c.requestRecords) {response : Response}
    {completedAt : Nat} : c.complete o delivery r.serial response completedAt =
      (c.completing delivery r response completedAt).pruneRequestRecords o completedAt := by
  simp only [complete, hs.findSerial_eq hr]
  rfl

/-- The execution of a record is over. -/
theorem Ledger.completing {response : Response} (hs : Ledger o c (.executes r.key + h))
    (hr : r ∈ c.requestRecords) (hopen : r.isComplete = false)
    (hpayload : response.payload.length * sizeofChar ≤ maxPayloadBytes) (completedAt : Nat) :
    Ledger o (c.completing delivery r response completedAt) (.delivers r.key + h) := by
  obtain ⟨hcount, hreserved⟩ := hs.executed r hr hopen
  have hidle : r.key ∉ h.delivering := by
    intro hmem
    obtain ⟨other, hother, hkey, hcomplete⟩ := hs.delivering r.key (by simpa using hmem)
    rw [hs.eq_of_serial hother hr (Prod.mk.inj hkey).2, hopen] at hcomplete
    cases hcomplete
  have hdone : r.key ∉ h.executing := by
    rw [Holders.add_executing, Holders.executes_executing, Multiset.count_add,
      Multiset.count_singleton_self] at hcount
    exact Multiset.count_eq_zero.1 (by omega)
  have hactual : requestBytes r.request + responseBytes response ≤ r.bytes := by
    rw [hreserved, reservedBytes, responseBytes]
    omega
  have htotal : r.bytes ≤ c.requestCacheBytes := by
    rw [hs.bytes, ← List.sum_map_erase _ hr]
    exact Nat.le_add_right _ _
  have hlimit := hs.bytes_le
  have hfits := o.fits
  refine hs.replace (t := r.completed response completedAt) hr rfl (hs.modify_perm hr _) ?_
    hactual rfl rfl ⟨fun other hne => ?_, fun other hne => ?_, fun other hmem => ?_, ?_, ?_⟩
    ?_ ?_ ?_ ?_
  · simp only [RequestCache.completing, RequestRecord.completed, sizeSub]
    split <;> omega
  · simp [hne]
  · simp [hne]
  · exact .inl (by simpa using hmem)
  · simp
  · exact fun other hmem => by simpa using hs.covered other (by simpa using hmem)
  · have hactive := hs.active r hr
    simp only [Holders.add_delivering, Holders.executes_delivering] at hactive
    simp [RequestRecord.completed, hactive, hidle]
  · exact fun _ => rfl
  · exact fun hincomplete => by cases hincomplete
  · exact fun hmem => absurd (by simpa using hmem) hdone

/-- A record whose response is sent to a delivery that is over. -/
theorem Ledger.completeDelivery_eq {key : CorrelationId × Nat}
    (hs : Ledger o c (.delivers key + h)) (acknowledged : Bool) (now : Nat) :
    c.completeDelivery o key.1 key.2 acknowledged now =
      (c.modify key.2 (.delivered acknowledged now)).pruneRequestRecords o now := by
  obtain ⟨r, hr, rfl, hcomplete⟩ := hs.delivering key (by simp)
  rw [completeDelivery, hs.find_eq hr]
  exact if_neg (by simp [hcomplete])

/-- A delivery of a record is over. -/
theorem Ledger.delivered {key : CorrelationId × Nat} (hs : Ledger o c (.delivers key + h))
    (acknowledged : Bool) (now : Nat) :
    Ledger o (c.modify key.2 (.delivered acknowledged now)) h := by
  obtain ⟨r, hr, rfl, hcomplete⟩ := hs.delivering key (by simp)
  have hactive := hs.active r hr
  rw [Holders.add_delivering, Holders.delivers_delivering, Multiset.count_add,
    Multiset.count_singleton_self] at hactive
  refine hs.replace (t := r.delivered acknowledged now) hr rfl (hs.modify_perm hr _) rfl le_rfl
    rfl rfl ⟨fun other hne => ?_, fun other hne => ?_, fun other hmem => ?_, ?_, ?_⟩ ?_ ?_ ?_ ?_
  · simp [hne]
  · simp
  · exact .inl (by simpa using hmem)
  · simp
  · exact fun other hmem => by simpa using hs.covered other (by simpa using hmem)
  · simp only [RequestRecord.delivered]
    split <;> omega
  · exact fun _ => hcomplete
  · exact fun hincomplete => by simp [RequestRecord.delivered, hcomplete] at hincomplete
  · intro hmem
    obtain ⟨other, hother, hkey, hopen⟩ := hs.executing r.key (by simpa using hmem)
    rw [hs.eq_of_serial hother hr (Prod.mk.inj hkey).2, hcomplete] at hopen
    cases hopen

theorem Ledger.completeDelivery {key : CorrelationId × Nat}
    (hs : Ledger o c (.delivers key + h)) (acknowledged : Bool) (now : Nat) :
    Ledger o (c.completeDelivery o key.1 key.2 acknowledged now) h :=
  hs.completeDelivery_eq acknowledged now ▸ (hs.delivered acknowledged now).pruneRequestRecords now

theorem Ledger.complete {key : CorrelationId × Nat} {response : Response}
    (hs : Ledger o c (.executes key + h))
    (hpayload : response.payload.length * sizeofChar ≤ maxPayloadBytes) (completedAt : Nat) :
    Ledger o (c.complete o delivery key.2 response completedAt) (.delivers key + h) := by
  obtain ⟨r, hr, rfl, hopen⟩ := hs.executing key (by simp)
  rw [hs.complete_eq hr]
  exact (hs.completing hr hopen hpayload completedAt).pruneRequestRecords completedAt

/-! ## Requests -/

/-- What a delivery holds once the cache has answered it. -/
def Found.holders (id : CorrelationId) : Found → Holders
  | .created record => .executes (id, record)
  | .served record _ => .delivers (id, record)
  | .waits record => .waits (id, record)
  | .refused _ | .failed => 0

theorem Ledger.refuse (hs : Ledger o c h) (delivery : Nat) (request : Request)
    (id : CorrelationId) (code : ExitCode) :
    Ledger o (c.refuse delivery request code).2
      ((c.refuse delivery request code).1.holders id + h) :=
  (zero_add h).symm ▸ hs.note _

/-- A delivery asks for the response of a record. -/
theorem Ledger.await (hs : Ledger o c h) (delivery : Nat) (request : Request)
    (hr : r ∈ c.requestRecords) (hid : r.id ∈ h.pending) (stopRequested deadlinePassed : Bool) :
    Ledger o (c.await delivery request r.serial stopRequested deadlinePassed).2
      ((c.await delivery request r.serial stopRequested deadlinePassed).1.holders r.id + h) := by
  simp only [RequestCache.await, hs.findSerial_eq hr]
  split
  · split
    · exact hs.refuse _ _ _ _
    · split
      · exact hs.refuse _ _ _ _
      · exact hs.wait hr hid
  · next hcomplete => exact (hs.serve hr (by simpa using hcomplete)).note _

/-- A delivery asks for its request. -/
theorem Ledger.acquire (hs : Ledger o c h) (delivery : Nat)
    (hid : request.correlationId ∈ h.pending) (now : Nat) (stopRequested deadlinePassed allocated : Bool) :
    Ledger o (c.acquire o delivery request now stopRequested deadlinePassed allocated).2
      ((c.acquire o delivery request now stopRequested deadlinePassed allocated).1.holders
        request.correlationId + h) := by
  have hpruned := hs.pruneRequestRecords now
  simp only [RequestCache.acquire]
  generalize c.pruneRequestRecords o now = c at hpruned
  cases hfind : c.find request.correlationId with
  | some r =>
    obtain ⟨hr, hkey⟩ := mem_of_find hfind
    simp only
    split
    · exact hpruned.refuse _ _ _ _
    · exact hkey ▸ hpruned.await delivery request hr (hkey ▸ hid) stopRequested deadlinePassed
  | none =>
    obtain ⟨hmade, hroom⟩ := hpruned.makeRoom (reservedBytes request)
    have hnone : (c.makeRoom o (reservedBytes request)).2.find request.correlationId = none :=
      (makeRoom_induct (I := fun c => c.find request.correlationId = none) (fun c r hc _ _ =>
        List.find?_eq_none.2 fun other hmem =>
          List.find?_eq_none.1 hc other (List.mem_of_mem_erase hmem)) hfind).1
    simp only
    split
    · exact hmade.refuse _ _ _ _
    · next hmade' =>
      split
      · exact (zero_add h).symm ▸ hmade
      · exact hmade.create hnone (hroom (by simpa using hmade')) delivery

/-- Another delivery is pending. -/
theorem Ledger.addPending (hs : Ledger o c h) (id : CorrelationId) :
    Ledger o (c.addPending id) (.pends id + h) := by
  refine hs.repend (by simp) (by simp) (fun other => ?_) (by simpa using hs.waiting)
    fun key hkey => Multiset.mem_add.2 (.inr (hs.covered key (by simpa using hkey)))
  by_cases heq : other = id
  · simp [heq, hs.pending, add_comm]
  · simp [heq, hs.pending]

/-- A delivery is not pending any more. -/
theorem Ledger.completePendingDelivery (hs : Ledger o c (.pends id + h)) (hcovered : h.Covered) :
    Ledger o (c.completePendingDelivery id) h := by
  refine hs.repend (by simp) (by simp) (fun other => ?_) (by simpa using hs.waiting) hcovered
  have hpending := hs.pending other
  rw [Holders.add_pending, Holders.pends_pending, Multiset.count_add] at hpending
  by_cases heq : other = id
  · subst heq
    rw [Multiset.count_singleton_self] at hpending
    simp only [Function.update_self]
    split <;> omega
  · rw [Multiset.count_singleton, if_neg heq, zero_add] at hpending
    simpa [heq] using hpending

/-- Records that have their response stay when the server stops. -/
theorem clearFrom_eq {records : List RequestRecord} (h : ∀ r ∈ records, r.isComplete) :
    clearFrom records c = c := by
  induction records with
  | nil => rfl
  | cons r rest ih =>
    rw [clearFrom, h r List.mem_cons_self]
    exact ih fun other hmem => h other (List.mem_cons_of_mem _ hmem)

/-- Without executions every record has its response. -/
theorem Ledger.isComplete (hs : Ledger o c h) (hidle : h.executing = 0)
    (hr : r ∈ c.requestRecords) : r.isComplete := by
  cases hcomplete : r.isComplete with
  | true => rfl
  | false =>
    have hcount := (hs.executed r hr hcomplete).1
    rw [hidle, Multiset.count_zero] at hcount
    cases hcount

theorem Ledger.stop_eq (hs : Ledger o c h) (hidle : h.executing = 0) : c.stop = { c with
    pendingDeliveries := fun _ => 0
    requestRecords := c.requestRecords.map .abandoned } := by
  simp only [RequestCache.stop]
  rw [clearFrom_eq fun r hr => hs.isComplete hidle hr]

/-- The server has stopped. -/
theorem Ledger.stop (hs : Ledger o c h) (hidle : h.executing = 0) : Ledger o c.stop 0 := by
  have hmap {β : Type} (f : RequestRecord → β) (hf : ∀ r : RequestRecord, f r.abandoned = f r) :
      (c.requestRecords.map .abandoned).map f = c.requestRecords.map f := by
    rw [List.map_map]
    exact List.map_congr_left fun r _ => hf r
  rw [hs.stop_eq hidle]
  constructor
  case ids => exact (hmap RequestRecord.id fun _ => rfl) ▸ hs.ids
  case serials => exact (hmap RequestRecord.serial fun _ => rfl) ▸ hs.serials
  case fresh =>
    intro r hr
    obtain ⟨before, hbefore, rfl⟩ := List.mem_map.1 hr
    exact hs.fresh before hbefore
  case bytes => exact (hmap RequestRecord.bytes fun _ => rfl) ▸ hs.bytes
  case bytes_le => exact hs.bytes_le
  case length_le => exact (List.length_map _).trans_le hs.length_le
  case pending => exact fun _ => rfl
  case active =>
    intro r hr
    obtain ⟨before, hbefore, rfl⟩ := List.mem_map.1 hr
    rfl
  case delivering => exact fun key hkey => absurd hkey (Multiset.notMem_zero key)
  case executed =>
    intro r hr hopen
    obtain ⟨before, hbefore, rfl⟩ := List.mem_map.1 hr
    exact absurd (hs.isComplete hidle hbefore) (Bool.eq_false_iff.1 hopen)
  case executing => exact fun key hkey => absurd hkey (Multiset.notMem_zero key)
  case waiting => exact fun key hkey => absurd hkey (Multiset.notMem_zero key)
  case covered => exact fun key hkey => absurd hkey (Multiset.notMem_zero key)

end RequestCache

end PlaybackConnector.Control
