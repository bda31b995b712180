import PlaybackConnector.Json.Value

/-!
# The same value in another order

An object in memory has no order of its own: a document that is written and read back has the
members of its objects in the writer's order. `Same` relates two values that no lookup tells apart.
`isStorable` says which numbers a value in memory can have; it and `keysDistinct` are kept by
everything that puts such values into an object.
-/

namespace PlaybackConnector.Json

variable {key : String} {value : Json} {members left right : List (String × Json)}
  {elements : List Json}

/-! ## Values up to the order of members -/

/-- The values are the same but for the order of the members of their objects. -/
inductive Same : Json → Json → Prop
  | null : Same null null
  | bool (value : Bool) : Same (bool value) (bool value)
  | integer (value : Int) : Same (integer value) (integer value)
  | float (bits : UInt64) : Same (float bits) (float bits)
  | string (text : String) : Same (string text) (string text)
  | array {left right : List Json} : List.Forall₂ Same left right → Same (array left) (array right)
  | object {left right : List (String × Json)} :
    (∀ key, Option.Rel Same (left.lookup key) (right.lookup key)) →
      Same (object left) (object right)

mutual

theorem Same.refl : ∀ value : Json, Same value value
  | .null => .null
  | .bool value => .bool value
  | .integer value => .integer value
  | .float bits => .float bits
  | .string text => .string text
  | .array elements => .array (refl_elements elements)
  | .object members => .object (refl_members members)

theorem Same.refl_elements : ∀ elements : List Json, List.Forall₂ Same elements elements
  | [] => .nil
  | element :: rest => .cons (refl element) (refl_elements rest)

theorem Same.refl_members : ∀ (members : List (String × Json)) (key : String),
    Option.Rel Same (members.lookup key) (members.lookup key)
  | [], _ => .none
  | (_, value) :: rest, key => by
    rw [lookup_cons]
    split
    · exact .some (refl value)
    · exact refl_members rest key

end

/-- Two values that are the same have the same at each key. -/
theorem Same.find {left right : Json} (h : Same left right) (key : String) :
    Option.Rel Same (left.find key) (right.find key) := by
  cases h with
  | object h => exact h key
  | _ => exact .none

/-! ## Keys -/

/-- A key that a member has is looked up. -/
theorem lookup_isSome_of_mem {member : String × Json} (h : member ∈ members) :
    (members.lookup member.1).isSome = true := by
  induction members with
  | nil => cases h
  | cons head rest ih =>
    rw [lookup_cons]
    split
    · rfl
    · next hkey =>
      obtain rfl | h := List.mem_cons.1 h
      · exact absurd rfl hkey
      · exact ih h

/-- The keys of an object are among some keys when each that is looked up is. -/
theorem keys_subset_iff {keys : List String} : (∀ member ∈ members, member.1 ∈ keys) ↔
    ∀ key, (members.lookup key).isSome = true → key ∈ keys := by
  constructor
  · intro h key hkey
    obtain ⟨value, hvalue⟩ := Option.isSome_iff_exists.1 hkey
    exact h _ (mem_of_lookup hvalue)
  · exact fun h member hmem => h member.1 (lookup_isSome_of_mem hmem)

theorem lookup_eq_none (h : members.lookup key = none) : key ∉ members.map Prod.fst := by
  intro hmem
  obtain ⟨member, hmember, rfl⟩ := List.mem_map.1 hmem
  have hsome := lookup_isSome_of_mem hmember
  rw [h] at hsome
  cases hsome

/-- Setting a key puts no key twice. -/
theorem nodup_set (h : (members.map Prod.fst).Nodup) :
    ((set key value members).map Prod.fst).Nodup := by
  induction members with
  | nil => exact List.pairwise_singleton _ _
  | cons member rest ih =>
    obtain ⟨hnew, hrest⟩ := List.nodup_cons.1 h
    unfold set
    split
    · next hkey => exact List.nodup_cons.2 ⟨hkey ▸ hnew, hrest⟩
    · next hkey =>
      split
      · next hplace =>
        refine List.nodup_cons.2 ⟨fun hmem => ?_, h⟩
        obtain rfl | hmem := List.mem_cons.1 hmem
        · exact hkey rfl
        · exact lookup_eq_none (Option.isNone_iff_eq_none.1 hplace.2) hmem
      · refine List.nodup_cons.2 ⟨fun hmem => ?_, ih hrest⟩
        obtain ⟨other, hother, heq⟩ := List.mem_map.1 hmem
        obtain rfl | hother := mem_set hother
        · exact hkey heq
        · exact hnew (List.mem_map.2 ⟨other, hother, heq⟩)

theorem keysDistinct_array :
    (array elements).keysDistinct = true ↔ ∀ e ∈ elements, e.keysDistinct = true := by
  simp only [keysDistinct]
  induction elements with
  | nil => simp [keysDistinctElements]
  | cons e rest ih => rw [keysDistinctElements, Bool.and_eq_true, ih, List.forall_mem_cons]

theorem keysDistinct_object : (object members).keysDistinct = true ↔
    (members.map Prod.fst).Nodup ∧ ∀ m ∈ members, m.2.keysDistinct = true := by
  have hmembers (members : List (String × Json)) :
      keysDistinctMembers members = true ↔ ∀ m ∈ members, m.2.keysDistinct = true := by
    induction members with
    | nil => simp [keysDistinctMembers]
    | cons m rest ih => rw [keysDistinctMembers, Bool.and_eq_true, ih, List.forall_mem_cons]
  rw [keysDistinct, Bool.and_eq_true, decide_eq_true_iff, hmembers]

/-! ## Numbers in memory -/

/-- The bits are those of a finite number. -/
def isFinite (bits : UInt64) : Bool := bits >>> 52 &&& 0x7FF != 0x7FF

mutual

/-- The numbers of the value are those that a value in memory has: integers of 64 bits, and finite
numbers. -/
def isStorable : Json → Bool
  | integer value => decide (-2 ^ 63 ≤ value ∧ value < 2 ^ 64)
  | float bits => isFinite bits
  | array elements => isStorableElements elements
  | object members => isStorableMembers members
  | _ => true

/-- `isStorable` over the elements of an array. -/
def isStorableElements : List Json → Bool
  | [] => true
  | element :: rest => isStorable element && isStorableElements rest

/-- `isStorable` over the members of an object. -/
def isStorableMembers : List (String × Json) → Bool
  | [] => true
  | (_, value) :: rest => isStorable value && isStorableMembers rest

end

theorem isStorable_array :
    (array elements).isStorable = true ↔ ∀ e ∈ elements, e.isStorable = true := by
  simp only [isStorable]
  induction elements with
  | nil => simp [isStorableElements]
  | cons e rest ih => rw [isStorableElements, Bool.and_eq_true, ih, List.forall_mem_cons]

theorem isStorable_object :
    (object members).isStorable = true ↔ ∀ m ∈ members, m.2.isStorable = true := by
  simp only [isStorable]
  induction members with
  | nil => simp [isStorableMembers]
  | cons m rest ih => rw [isStorableMembers, Bool.and_eq_true, ih, List.forall_mem_cons]

/-- A value that has no key twice and only the numbers of values in memory. -/
def IsSound (value : Json) : Prop := value.keysDistinct = true ∧ value.isStorable = true

theorem isSound_array : (array elements).IsSound ↔ ∀ e ∈ elements, e.IsSound := by
  unfold IsSound
  rw [keysDistinct_array, isStorable_array]
  exact ⟨fun h e he => ⟨h.1 e he, h.2 e he⟩, fun h => ⟨fun e he => (h e he).1,
    fun e he => (h e he).2⟩⟩

theorem isSound_object : (object members).IsSound ↔
    (members.map Prod.fst).Nodup ∧ ∀ m ∈ members, m.2.IsSound := by
  unfold IsSound
  rw [keysDistinct_object, isStorable_object]
  exact ⟨fun h => ⟨h.1.1, fun m hm => ⟨h.1.2 m hm, h.2 m hm⟩⟩,
    fun h => ⟨⟨h.1, fun m hm => (h.2 m hm).1⟩, fun m hm => (h.2 m hm).2⟩⟩

/-- Setting a key to a sound value keeps an object sound. -/
theorem isSound_set (h : (object members).IsSound) (hvalue : value.IsSound) :
    (object (set key value members)).IsSound := by
  rw [isSound_object] at h ⊢
  refine ⟨nodup_set h.1, fun m hm => ?_⟩
  obtain rfl | hm := mem_set hm
  · exact hvalue
  · exact h.2 m hm

/-- So does leaving members out. -/
theorem isSound_filter (h : (object members).IsSound) (keep : String × Json → Bool) :
    (object (members.filter keep)).IsSound := by
  rw [isSound_object] at h ⊢
  refine ⟨h.1.sublist (List.filter_sublist.map Prod.fst), fun m hm => ?_⟩
  exact h.2 m (List.mem_filter.1 hm).1

/-! ## Canonical values -/

mutual

theorem Canonical.isStorable : ∀ {value : Json}, value.Canonical → value.isStorable = true
  | .null, _ | .bool _, _ | .string _, _ => rfl
  | .integer _, h => decide_eq_true h
  | .array _, h => elementsStorable h
  | .object _, h => membersStorable h.2

theorem Canonical.elementsStorable : ∀ {elements : List Json}, CanonicalElements elements →
    isStorableElements elements = true
  | [], _ => rfl
  | _ :: _, h => by
    rw [isStorableElements, Canonical.isStorable h.1, Canonical.elementsStorable h.2]
    rfl

theorem Canonical.membersStorable : ∀ {members : List (String × Json)}, CanonicalMembers members →
    isStorableMembers members = true
  | [], _ => rfl
  | (_, _) :: _, h => by
    rw [isStorableMembers, Canonical.isStorable h.1, Canonical.membersStorable h.2]
    rfl

end

mutual

instance decidableCanonical : ∀ value : Json, Decidable value.Canonical
  | .null | .bool _ | .string _ => .isTrue trivial
  | .integer value => inferInstanceAs (Decidable (-2 ^ 63 ≤ value ∧ value < 2 ^ 64))
  | .float _ => .isFalse id
  | .array elements => decidableCanonicalElements elements
  | .object members =>
    have := decidableCanonicalMembers members
    have : Decidable (Sorted members) :=
      inferInstanceAs (Decidable (members.Pairwise fun left right => left.1 < right.1))
    inferInstanceAs (Decidable (Sorted members ∧ CanonicalMembers members))

instance decidableCanonicalElements : ∀ elements : List Json, Decidable (CanonicalElements elements)
  | [] => .isTrue trivial
  | element :: rest =>
    have := decidableCanonical element
    have := decidableCanonicalElements rest
    inferInstanceAs (Decidable (Canonical element ∧ CanonicalElements rest))

instance decidableCanonicalMembers :
    ∀ members : List (String × Json), Decidable (CanonicalMembers members)
  | [] => .isTrue trivial
  | (_, value) :: rest =>
    have := decidableCanonical value
    have := decidableCanonicalMembers rest
    inferInstanceAs (Decidable (Canonical value ∧ CanonicalMembers rest))

end

end PlaybackConnector.Json
