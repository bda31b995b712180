import Mathlib

/-!
# Gathering items by a key

Items from several sources are gathered in one list with one item for each key: an item whose key is
there already is combined with what is there, any other one is added at the end. `find_gather` says
what is gathered for a key: the items with this key, combined in their order.
-/

namespace PlaybackConnector

variable {α κ : Type*} [DecidableEq κ] {key : α → κ} {combine : α → α → α} {item : α}
  {items gathered : List α} {wanted : κ}

/-- An item is added, or combined with the one that has its key. -/
def upsert (key : α → κ) (combine : α → α → α) (item : α) : List α → List α
  | [] => [item]
  | current :: rest =>
    if key current = key item then combine current item :: rest
    else current :: upsert key combine item rest

/-- The items, gathered in their order. -/
def gather (key : α → κ) (combine : α → α → α) (items : List α) : List α :=
  items.foldl (fun gathered item => upsert key combine item gathered) []

/-- Items combined in their order. -/
def combined (combine : α → α → α) : List α → Option α
  | [] => none
  | first :: rest => some (rest.foldl combine first)

theorem combined_concat : combined combine (items ++ [item]) =
    some (match combined combine items with
      | none => item
      | some current => combine current item) := by
  cases items with
  | nil => rfl
  | cons first rest => simp [combined]

/-- The item with a key. -/
def findKey (key : α → κ) (wanted : κ) (items : List α) : Option α :=
  items.find? fun item => key item = wanted

theorem findKey_upsert (hkey : ∀ current item, key (combine current item) = key current) :
    ∀ gathered : List α, findKey key wanted (upsert key combine item gathered) =
      if key item = wanted then
        some (match findKey key wanted gathered with
          | none => item
          | some current => combine current item)
      else findKey key wanted gathered
  | [] => by
    by_cases hwanted : key item = wanted <;> simp [upsert, findKey, hwanted]
  | current :: rest => by
    have ih := findKey_upsert hkey rest
    unfold findKey at ih ⊢
    unfold upsert
    by_cases hsame : key current = key item
    · rw [if_pos hsame]
      by_cases hwanted : key item = wanted <;> simp [hkey, hsame, hwanted]
    · rw [if_neg hsame, List.find?_cons, List.find?_cons, ih]
      by_cases hwanted : key current = wanted
      · have hother : ¬ key item = wanted := fun h => hsame (hwanted.trans h.symm)
        simp [hwanted, hother]
      · simp [hwanted]

theorem keys_upsert (hkey : ∀ current item, key (combine current item) = key current) :
    ∀ gathered : List α, (upsert key combine item gathered).map key =
      if key item ∈ gathered.map key then gathered.map key else gathered.map key ++ [key item]
  | [] => rfl
  | current :: rest => by
    have ih := keys_upsert hkey rest
    unfold upsert
    by_cases hsame : key current = key item
    · simp [hsame, hkey]
    · rw [if_neg hsame, List.map_cons, ih]
      have hmem : key item ∈ (current :: rest).map key ↔ key item ∈ rest.map key := by
        simp [Ne.symm hsame]
      by_cases hrest : key item ∈ rest.map key
      · rw [if_pos hrest, if_pos (hmem.2 hrest)]
        rfl
      · rw [if_neg hrest, if_neg (mt hmem.1 hrest)]
        rfl

theorem gather_concat : gather key combine (items ++ [item]) =
    upsert key combine item (gather key combine items) := by
  simp [gather]

/-- There is one item for each key. -/
theorem nodup_gather (hkey : ∀ current item, key (combine current item) = key current)
    (items : List α) : ((gather key combine items).map key).Nodup := by
  induction items using List.reverseRecOn with
  | nil => exact List.nodup_nil
  | append_singleton items item ih =>
    rw [gather_concat, keys_upsert hkey]
    split
    · exact ih
    next hnew => exact List.nodup_append.2 ⟨ih, List.nodup_singleton _, by simpa using hnew⟩

/-- The keys are those of the items. -/
theorem mem_keys_gather (hkey : ∀ current item, key (combine current item) = key current)
    (items : List α) : wanted ∈ (gather key combine items).map key ↔ wanted ∈ items.map key := by
  induction items using List.reverseRecOn with
  | nil => exact Iff.rfl
  | append_singleton items item ih =>
    rw [gather_concat, keys_upsert hkey, List.map_append, List.mem_append, ← ih]
    split
    next hold =>
      refine ⟨.inl, fun h => h.elim id fun hmem => ?_⟩
      rw [List.mem_singleton.1 hmem]
      exact hold
    · exact List.mem_append

/-- What is gathered for a key. -/
theorem findKey_gather (hkey : ∀ current item, key (combine current item) = key current)
    (items : List α) : findKey key wanted (gather key combine items) =
      combined combine (items.filter fun item => key item = wanted) := by
  induction items using List.reverseRecOn with
  | nil => rfl
  | append_singleton items item ih =>
    rw [gather_concat, findKey_upsert hkey, ih, List.filter_append]
    by_cases hwanted : key item = wanted
    · simp [hwanted, combined_concat]
    · simp [hwanted]

theorem findKey_eq_some (hnodup : (items.map key).Nodup) (hmem : item ∈ items) :
    findKey key (key item) items = some item := by
  induction items with
  | nil => exact absurd hmem List.not_mem_nil
  | cons first rest ih =>
    obtain ⟨hfirst, hrest⟩ := List.nodup_cons.1 hnodup
    unfold findKey at ih ⊢
    rw [List.find?_cons]
    rcases List.mem_cons.1 hmem with rfl | hmem
    · simp
    · have hne : ¬ key first = key item := fun h => hfirst (h ▸ List.mem_map_of_mem hmem)
      simpa [hne] using ih hrest hmem

end PlaybackConnector
