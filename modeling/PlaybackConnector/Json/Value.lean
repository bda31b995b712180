import Mathlib

/-!
# JSON values

A JSON document as a value: an object is the list of its members, in the order in which they are
read or written and with every duplicate. `Json.Canonical` is the form in which a document built in
memory stands: members in key order and without duplicates, numbers that are 64-bit integers.

The keys of an object are set one at a time (`set`, `ofMembers`), and all that is needed of an
object so built are the lookup lemmas `lookup_set` and `mem_keys_set`: no proof has to know the
order in which its members end up. `depth` and `keysDistinct` are what a strict reader checks on
top of the grammar, `textBound` bounds the length of the compact text.
-/

namespace PlaybackConnector

/-- A JSON value. A number that is not an integer is its bit pattern. -/
inductive Json
  | null
  | bool (value : Bool)
  | integer (value : Int)
  | float (bits : UInt64)
  | string (text : String)
  | array (elements : List Json)
  | object (members : List (String × Json))

namespace Json

variable {key key' : String} {value : Json} {members : List (String × Json)}

/-! ## Members of an object -/

/-- Give `key` the value `value`: in its place if the object has the key, else in key order. -/
def set (key : String) (value : Json) : List (String × Json) → List (String × Json)
  | [] => [(key, value)]
  | (key', value') :: rest =>
    if key = key' then (key, value) :: rest
    else if key < key' ∧ (rest.lookup key).isNone = true then
      (key, value) :: (key', value') :: rest
    else (key', value') :: set key value rest

/-- Give `key` the value, if there is one. -/
def setOption (key : String) : Option Json → List (String × Json) → List (String × Json)
  | some value, members => set key value members
  | none, members => members

/-- The object with these members, a later one replacing an earlier one of its key. -/
def ofMembers (members : List (String × Json)) : List (String × Json) :=
  members.foldl (fun object member => set member.1 member.2 object) []

/-- The value of the first member with the key. -/
def find (key : String) : Json → Option Json
  | object members => members.lookup key
  | _ => none

/-- The members in key order, no key twice. -/
def Sorted (members : List (String × Json)) : Prop :=
  members.Pairwise fun left right => left.1 < right.1

@[simp] theorem find_object : (object members).find key = members.lookup key := rfl

theorem lookup_cons (key : String) (member : String × Json) (rest : List (String × Json)) :
    (member :: rest).lookup key = if key = member.1 then some member.2 else rest.lookup key := by
  obtain ⟨key', value⟩ := member
  by_cases h : key = key'
  · simp [h]
  · simp [List.lookup_cons, h, beq_false_of_ne h]

theorem mem_of_lookup (h : members.lookup key = some value) : (key, value) ∈ members := by
  induction members with
  | nil => cases h
  | cons member rest ih =>
    rw [lookup_cons] at h
    split at h
    · next hkey =>
      cases h
      rw [hkey]
      exact List.mem_cons_self
    · exact List.mem_cons_of_mem _ (ih h)

theorem lookup_set (key key' : String) (value : Json) (members : List (String × Json)) :
    (set key' value members).lookup key =
      if key = key' then some value else members.lookup key := by
  induction members with
  | nil => simp [set, lookup_cons]
  | cons member rest ih =>
    obtain ⟨k, v⟩ := member
    unfold set
    split
    · rename_i h
      subst h
      simp only [lookup_cons]
      split <;> rfl
    · rename_i hne
      split
      · rw [lookup_cons]
      · rw [lookup_cons, lookup_cons, ih]
        by_cases hk : key = k
        · simp [hk, Ne.symm hne]
        · simp [hk]

theorem lookup_setOption (key key' : String) (value : Option Json)
    (members : List (String × Json)) (h : members.lookup key' = none) :
    (setOption key' value members).lookup key = if key = key' then value else members.lookup key := by
  cases value with
  | none =>
    by_cases hkey : key = key'
    · simp [setOption, hkey, h]
    · simp [setOption, hkey]
  | some value => exact lookup_set key key' value members

theorem mem_set {member : String × Json} (h : member ∈ set key value members) :
    member = (key, value) ∨ member ∈ members := by
  induction members with
  | nil => simpa [set] using h
  | cons head rest ih =>
    unfold set at h
    split at h
    · rcases List.mem_cons.1 h with h | h
      · exact .inl h
      · exact .inr (List.mem_cons_of_mem _ h)
    · split at h
      · rcases List.mem_cons.1 h with h | h
        · exact .inl h
        · exact .inr h
      · rcases List.mem_cons.1 h with h | h
        · exact .inr (h ▸ List.mem_cons_self)
        · exact (ih h).imp_right (List.mem_cons_of_mem _)

theorem mem_setOption {member : String × Json} {value : Option Json}
    (h : member ∈ setOption key value members) :
    (∃ v ∈ value, member = (key, v)) ∨ member ∈ members := by
  cases value with
  | none => exact .inr h
  | some value => exact (mem_set h).imp_left fun h => ⟨value, rfl, h⟩

theorem sorted_set (h : Sorted members) : Sorted (set key value members) := by
  induction members with
  | nil => exact List.pairwise_singleton _ _
  | cons member rest ih =>
    have hrest := List.pairwise_cons.1 h
    unfold set
    split
    · rename_i hkey
      exact List.pairwise_cons.2 ⟨fun other hother => hkey ▸ hrest.1 other hother, hrest.2⟩
    · rename_i hkey
      split
      · rename_i hlt
        refine List.pairwise_cons.2 ⟨fun other hother => ?_, h⟩
        rcases List.mem_cons.1 hother with rfl | hother
        · exact hlt.1
        · exact String.lt_trans hlt.1 (hrest.1 other hother)
      · rename_i hge
        refine List.pairwise_cons.2 ⟨fun other hother => ?_, ih hrest.2⟩
        rcases mem_set hother with rfl | hother
        · refine Decidable.byContradiction fun hle => hkey ?_
          refine String.le_antisymm (String.not_lt.1 hle) (String.not_lt.1 fun hlt => ?_)
          -- The key is in its place, and what comes after the head is greater than the head.
          obtain ⟨found, hfound⟩ : ∃ found, rest.lookup key = some found := by
            rw [← Option.isSome_iff_exists]
            simpa [hlt] using hge
          exact String.lt_irrefl _ (String.lt_trans hlt (hrest.1 _ (mem_of_lookup hfound)))
        · exact hrest.1 other hother

theorem sorted_setOption {value : Option Json} (h : Sorted members) :
    Sorted (setOption key value members) := by
  cases value with
  | none => exact h
  | some value => exact sorted_set h

theorem foldl_set_spec (added : List (String × Json)) (h : Sorted members) :
    Sorted (added.foldl (fun object member => set member.1 member.2 object) members) ∧
      ∀ member ∈ added.foldl (fun object member => set member.1 member.2 object) members,
        member ∈ members ∨ member ∈ added := by
  induction added generalizing members with
  | nil => exact ⟨h, fun _ hmem => .inl hmem⟩
  | cons head added ih =>
    obtain ⟨hsorted, hmem⟩ := ih (sorted_set h)
    refine ⟨hsorted, fun member hmember => ?_⟩
    rcases hmem member hmember with h | h
    · rcases mem_set h with h | h
      · exact .inr (h ▸ List.mem_cons_self)
      · exact .inl h
    · exact .inr (List.mem_cons_of_mem _ h)

theorem sorted_ofMembers (members : List (String × Json)) : Sorted (ofMembers members) :=
  (foldl_set_spec members List.Pairwise.nil).1

theorem mem_ofMembers {member : String × Json} (h : member ∈ ofMembers members) :
    member ∈ members :=
  ((foldl_set_spec members List.Pairwise.nil).2 member h).resolve_left (by simp)

/-! ## What a strict reader checks -/

mutual

/-- How deep the value is nested: `0` for a value that has no others in it. -/
def depth : Json → Nat
  | array elements => depthElements elements
  | object members => depthMembers members
  | _ => 0

/-- `depth` over the elements of an array. -/
def depthElements : List Json → Nat
  | [] => 0
  | element :: rest => max (depth element + 1) (depthElements rest)

/-- `depth` over the members of an object. -/
def depthMembers : List (String × Json) → Nat
  | [] => 0
  | (_, value) :: rest => max (depth value + 1) (depthMembers rest)

end

mutual

/-- No object in the value has a key twice. -/
def keysDistinct : Json → Bool
  | array elements => keysDistinctElements elements
  | object members => decide (members.map Prod.fst).Nodup && keysDistinctMembers members
  | _ => true

/-- `keysDistinct` over the elements of an array. -/
def keysDistinctElements : List Json → Bool
  | [] => true
  | element :: rest => keysDistinct element && keysDistinctElements rest

/-- `keysDistinct` over the members of an object. -/
def keysDistinctMembers : List (String × Json) → Bool
  | [] => true
  | (_, value) :: rest => keysDistinct value && keysDistinctMembers rest

end

/-! ## Canonical values -/

mutual

/-- The values that are built in memory and can be written and read back: members sorted, integers
of 64 bits, no other numbers. -/
def Canonical : Json → Prop
  | integer value => -2 ^ 63 ≤ value ∧ value < 2 ^ 64
  | float _ => False
  | array elements => CanonicalElements elements
  | object members => Sorted members ∧ CanonicalMembers members
  | _ => True

/-- `Canonical` over the elements of an array. -/
def CanonicalElements : List Json → Prop
  | [] => True
  | element :: rest => Canonical element ∧ CanonicalElements rest

/-- `Canonical` over the members of an object. -/
def CanonicalMembers : List (String × Json) → Prop
  | [] => True
  | (_, value) :: rest => Canonical value ∧ CanonicalMembers rest

end

/-! ## The length of the text -/

mutual

/-- A bound on the bytes of the compact text of a canonical value: a character takes at most six. -/
def textBound : Json → Nat
  | null => 4
  | bool _ => 5
  | integer _ => 20
  | float _ => 32
  | string text => 6 * text.length + 2
  | array elements => textBoundElements elements + 2
  | object members => textBoundMembers members + 2

/-- `textBound` over the elements of an array, each with its comma. -/
def textBoundElements : List Json → Nat
  | [] => 0
  | element :: rest => textBound element + 1 + textBoundElements rest

/-- `textBound` over the members of an object, each with its colon and comma. -/
def textBoundMembers : List (String × Json) → Nat
  | [] => 0
  | (key, value) :: rest => 6 * key.length + 2 + textBound value + 2 + textBoundMembers rest

end

theorem textBoundMembers_set (key : String) (value : Json) (members : List (String × Json)) :
    textBoundMembers (set key value members) ≤
      6 * key.length + 2 + textBound value + 2 + textBoundMembers members := by
  induction members with
  | nil => simp [set, textBoundMembers]
  | cons member rest ih =>
    obtain ⟨k, v⟩ := member
    unfold set
    split
    · simp only [textBoundMembers]
      omega
    · split
      · simp only [textBoundMembers]
        omega
      · simp only [textBoundMembers]
        omega

theorem textBoundMembers_setOption (key : String) (value : Option Json) (n : Nat)
    (h : ∀ v ∈ value, textBound v ≤ n) (members : List (String × Json)) :
    textBoundMembers (setOption key value members) ≤
      6 * key.length + 2 + n + 2 + textBoundMembers members := by
  cases value with
  | none => exact Nat.le_add_left _ _
  | some value =>
    have hset := textBoundMembers_set key value members
    have hvalue := h value rfl
    simp only [setOption]
    omega

theorem textBoundMembers_ofMembers (members : List (String × Json)) :
    textBoundMembers (ofMembers members) ≤ textBoundMembers members := by
  have hfold (added object : List (String × Json)) :
      textBoundMembers (added.foldl (fun object member => set member.1 member.2 object) object) ≤
        textBoundMembers added + textBoundMembers object := by
    induction added generalizing object with
    | nil => simp [textBoundMembers]
    | cons member added ih =>
      obtain ⟨key, value⟩ := member
      have hset := textBoundMembers_set key value object
      have hrest := ih (set key value object)
      simp only [List.foldl_cons, textBoundMembers]
      omega
  exact hfold members []

theorem textBoundElements_le {elements : List Json} {n : Nat}
    (h : ∀ e ∈ elements, textBound e ≤ n) :
    textBoundElements elements ≤ (n + 1) * elements.length := by
  induction elements with
  | nil => simp [textBoundElements]
  | cons e elements ih =>
    have he := h e List.mem_cons_self
    have hrest := ih fun e he => h e (List.mem_cons_of_mem _ he)
    simp only [textBoundElements, List.length_cons, Nat.mul_succ]
    omega

variable {elements : List Json} {n : Nat}

theorem depth_array : (array elements).depth ≤ n + 1 ↔ ∀ e ∈ elements, e.depth ≤ n := by
  simp only [depth]
  induction elements with
  | nil => simp [depthElements]
  | cons e rest ih =>
    rw [depthElements, Nat.max_le, ih, List.forall_mem_cons, Nat.add_le_add_iff_right]

theorem depth_object : (object members).depth ≤ n + 1 ↔ ∀ m ∈ members, m.2.depth ≤ n := by
  simp only [depth]
  induction members with
  | nil => simp [depthMembers]
  | cons m rest ih =>
    rw [depthMembers, Nat.max_le, ih, List.forall_mem_cons, Nat.add_le_add_iff_right]

theorem canonical_array : (array elements).Canonical ↔ ∀ e ∈ elements, e.Canonical := by
  simp only [Canonical]
  induction elements with
  | nil => simp [CanonicalElements]
  | cons e rest ih => simp [CanonicalElements, ih]

theorem canonicalMembers_iff : CanonicalMembers members ↔ ∀ m ∈ members, m.2.Canonical := by
  induction members with
  | nil => simp [CanonicalMembers]
  | cons m rest ih => obtain ⟨k, v⟩ := m; simp [CanonicalMembers, ih]

theorem canonical_object :
    (object members).Canonical ↔ Sorted members ∧ ∀ m ∈ members, m.2.Canonical := by
  simp only [Canonical, canonicalMembers_iff]

theorem Sorted.nodup (h : Sorted members) : (members.map Prod.fst).Nodup := by
  refine List.pairwise_map.2 (h.imp ?_)
  intro left right hlt heq
  rw [heq] at hlt
  exact String.lt_irrefl _ hlt

/-- A canonical value has no key twice. -/
theorem Canonical.keysDistinct : ∀ {value : Json}, value.Canonical → value.keysDistinct = true
  | null, _ | bool _, _ | integer _, _ | string _, _ => rfl
  | array elements, h => by
    rw [Json.keysDistinct]
    exact elementsDistinct h
  | object members, h => by
    rw [Json.keysDistinct, Bool.and_eq_true, decide_eq_true_iff]
    exact ⟨h.1.nodup, membersDistinct h.2⟩
where
  elementsDistinct : ∀ {elements : List Json}, CanonicalElements elements →
      keysDistinctElements elements = true
    | [], _ => rfl
    | _ :: _, h => by
      rw [keysDistinctElements, h.1.keysDistinct, elementsDistinct h.2]
      rfl
  membersDistinct : ∀ {members : List (String × Json)}, CanonicalMembers members →
      keysDistinctMembers members = true
    | [], _ => rfl
    | (_, _) :: _, h => by
      rw [keysDistinctMembers, h.1.keysDistinct, membersDistinct h.2]
      rfl

end Json

end PlaybackConnector
