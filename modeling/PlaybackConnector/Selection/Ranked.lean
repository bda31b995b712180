import Mathlib

/-!
# Choosing by rank

Items are matched at ranks, of which the first is the best one. `bestMatches` are the items at the
best rank at which there is one, and a choice is made among them by a key: it is ambiguous if two of
them have different keys (`Chooses`). What is chosen does not depend on the order of the items, nor
on how often one of them is listed (`Chooses.congr`).

A way to find it is to sort the matches by their keys and to drop repetitions (`chooses_sorted`).
-/

namespace PlaybackConnector

/-- What is chosen. -/
inductive Choice (κ : Type*)
  | notFound
  | ambiguous
  | resolved (key : κ)
deriving DecidableEq

variable {α κ : Type*} {key : α → κ} {ranks : List (α → Bool)} {rank : α → Bool}
  {items items' distinct : List α} {choice choice' : Choice κ}

/-- The items at the best rank at which there is one. -/
def bestMatches : List (α → Bool) → List α → List α
  | [], _ => []
  | rank :: ranks, items =>
    let found := items.filter rank
    if found.isEmpty then bestMatches ranks items else found

/-- This rank is the best one at which there is an item. -/
def IsBest (ranks : List (α → Bool)) (items : List α) (rank : α → Bool) : Prop :=
  ∃ better worse, ranks = better ++ rank :: worse ∧ (∃ item ∈ items, rank item = true) ∧
    ∀ other ∈ better, ∀ item ∈ items, ¬ other item = true

/-- What is to be chosen: nothing if no item matches at any rank, and the key of all items at the
best rank if they have the same one. -/
inductive Chooses (key : α → κ) (ranks : List (α → Bool)) (items : List α) : Choice κ → Prop
  | notFound : (∀ rank ∈ ranks, ∀ item ∈ items, ¬ rank item = true) →
      Chooses key ranks items .notFound
  | ambiguous {rank : α → Bool} {item item' : α} : IsBest ranks items rank →
      item ∈ items → rank item = true → item' ∈ items → rank item' = true → key item ≠ key item' →
      Chooses key ranks items .ambiguous
  | resolved {rank : α → Bool} {chosen : κ} : IsBest ranks items rank →
      (∀ item ∈ items, rank item = true → key item = chosen) →
      Chooses key ranks items (.resolved chosen)

/-! ## The best rank -/

@[simp] theorem bestMatches_singleton : bestMatches [rank] items = items.filter rank := by
  cases hfound : items.filter rank <;> simp [bestMatches, hfound]

theorem bestMatches_cons : bestMatches (rank :: ranks) items =
    if items.filter rank = [] then bestMatches ranks items else items.filter rank := by
  cases hfound : items.filter rank <;> simp [bestMatches, hfound]

theorem IsBest.congr (hsame : ∀ item, item ∈ items ↔ item ∈ items') (h : IsBest ranks items rank) :
    IsBest ranks items' rank := by
  obtain ⟨better, worse, hranks, ⟨item, hitem, hrank⟩, hbetter⟩ := h
  exact ⟨better, worse, hranks, ⟨item, (hsame item).1 hitem, hrank⟩,
    fun other hother item hitem => hbetter other hother item ((hsame item).2 hitem)⟩

/-- The items at the best rank are those that are found. -/
theorem IsBest.bestMatches_eq : ∀ {ranks : List (α → Bool)}, IsBest ranks items rank →
    bestMatches ranks items = items.filter rank
  | ranks, ⟨better, worse, hranks, ⟨item, hitem, hrank⟩, hbetter⟩ => by
    subst hranks
    have hfound : items.filter rank ≠ [] :=
      List.ne_nil_of_mem (List.mem_filter.2 ⟨hitem, hrank⟩)
    induction better with
    | nil => simp [bestMatches, hfound]
    | cons first better ih =>
      have hnone : items.filter first = [] := by
        rw [List.filter_eq_nil_iff]
        exact hbetter first List.mem_cons_self
      simp only [List.cons_append, bestMatches, hnone, List.isEmpty_nil, if_true]
      exact ih fun other hother => hbetter other (List.mem_cons_of_mem _ hother)

/-- Either no item matches, or there is a best rank. -/
theorem none_or_isBest (items : List α) : ∀ ranks : List (α → Bool),
    (∀ rank ∈ ranks, ∀ item ∈ items, ¬ rank item = true) ∨ ∃ rank, IsBest ranks items rank
  | [] => .inl fun _ h => absurd h List.not_mem_nil
  | first :: ranks => by
    by_cases hfirst : ∃ item ∈ items, first item = true
    · exact .inr ⟨first, [], ranks, rfl, hfirst, fun _ h => absurd h List.not_mem_nil⟩
    · have hnone : ∀ item ∈ items, ¬ first item = true :=
        fun item hitem hmatch => hfirst ⟨item, hitem, hmatch⟩
      rcases none_or_isBest items ranks with hrest | ⟨rank, better, worse, rfl, hsome, hbetter⟩
      · exact .inl (List.forall_mem_cons.2 ⟨hnone, hrest⟩)
      · exact .inr ⟨rank, first :: better, worse, rfl, hsome,
          List.forall_mem_cons.2 ⟨hnone, hbetter⟩⟩

theorem bestMatches_eq_nil : ∀ {ranks : List (α → Bool)},
    (∀ rank ∈ ranks, ∀ item ∈ items, ¬ rank item = true) → bestMatches ranks items = []
  | [], _ => rfl
  | first :: ranks, h => by
    have hnone : items.filter first = [] := by
      rw [List.filter_eq_nil_iff]
      exact h first List.mem_cons_self
    simp only [bestMatches, hnone, List.isEmpty_nil, if_true]
    exact bestMatches_eq_nil fun rank hrank => h rank (List.mem_cons_of_mem _ hrank)

theorem mem_of_mem_bestMatches : ∀ {ranks : List (α → Bool)} {item : α},
    item ∈ bestMatches ranks items → item ∈ items
  | [], _, h => absurd h List.not_mem_nil
  | _ :: _, _, h => by
    rw [bestMatches_cons] at h
    split at h
    · exact mem_of_mem_bestMatches h
    · exact (List.mem_filter.1 h).1

/-! ## The choice -/

/-- The choice depends on nothing but which items there are. -/
theorem Chooses.congr (hsame : ∀ item, item ∈ items ↔ item ∈ items')
    (h : Chooses key ranks items choice) : Chooses key ranks items' choice := by
  cases h with
  | notFound hnone =>
    exact .notFound fun rank hrank item hitem => hnone rank hrank item ((hsame item).2 hitem)
  | ambiguous hbest hitem hmatch hitem' hmatch' hne =>
    exact .ambiguous (hbest.congr hsame) ((hsame _).1 hitem) hmatch ((hsame _).1 hitem') hmatch' hne
  | resolved hbest hall =>
    exact .resolved (hbest.congr hsame) fun item hitem => hall item ((hsame item).2 hitem)

/-- What one choice makes of the best matches. -/
theorem Chooses.bestMatches (h : Chooses key ranks items choice) :
    match choice with
    | .notFound => bestMatches ranks items = []
    | .ambiguous => ∃ item ∈ bestMatches ranks items, ∃ item' ∈ bestMatches ranks items,
        key item ≠ key item'
    | .resolved chosen => bestMatches ranks items ≠ [] ∧
        ∀ item ∈ bestMatches ranks items, key item = chosen := by
  cases h with
  | notFound hnone => exact bestMatches_eq_nil hnone
  | ambiguous hbest hitem hmatch hitem' hmatch' hne =>
    dsimp only
    rw [hbest.bestMatches_eq]
    exact ⟨_, List.mem_filter.2 ⟨hitem, hmatch⟩, _, List.mem_filter.2 ⟨hitem', hmatch'⟩, hne⟩
  | resolved hbest hall =>
    dsimp only
    rw [hbest.bestMatches_eq]
    obtain ⟨-, -, -, ⟨item, hitem, hmatch⟩, -⟩ := hbest
    refine ⟨List.ne_nil_of_mem (List.mem_filter.2 ⟨hitem, hmatch⟩), fun item hfound => ?_⟩
    exact hall item (List.mem_filter.1 hfound).1 (List.mem_filter.1 hfound).2

/-- There is one choice only. -/
theorem Chooses.unique (h : Chooses key ranks items choice)
    (h' : Chooses key ranks items choice') : choice = choice' := by
  have hfound := h.bestMatches
  have hfound' := h'.bestMatches
  cases choice with
  | notFound =>
    cases choice' with
    | notFound => rfl
    | ambiguous =>
      obtain ⟨item, hitem, -⟩ := hfound'
      exact absurd hfound (List.ne_nil_of_mem hitem)
    | resolved => exact absurd hfound hfound'.1
  | ambiguous =>
    obtain ⟨item, hitem, item', hitem', hne⟩ := hfound
    cases choice' with
    | notFound => exact absurd hfound' (List.ne_nil_of_mem hitem)
    | ambiguous => rfl
    | resolved chosen =>
      exact absurd ((hfound'.2 item hitem).trans (hfound'.2 item' hitem').symm) hne
  | resolved chosen =>
    obtain ⟨hsome, hall⟩ := hfound
    cases choice' with
    | notFound => exact absurd hfound' hsome
    | ambiguous =>
      obtain ⟨item, hitem, item', hitem', hne⟩ := hfound'
      exact absurd ((hall item hitem).trans (hall item' hitem').symm) hne
    | resolved chosen' =>
      obtain ⟨item, hitem⟩ := List.exists_mem_of_ne_nil _ hsome
      rw [← hall item hitem, hfound'.2 item hitem]

theorem Chooses.notFound_iff (h : Chooses key ranks items choice) :
    choice = .notFound ↔ ∀ rank ∈ ranks, ∀ item ∈ items, ¬ rank item = true := by
  refine ⟨fun hchoice => ?_, fun hnone => h.unique (.notFound hnone)⟩
  subst hchoice
  cases h with
  | notFound hnone => exact hnone

theorem Chooses.ambiguous_iff (h : Chooses key ranks items choice) :
    choice = .ambiguous ↔ ∃ rank, IsBest ranks items rank ∧ ∃ item ∈ items, ∃ item' ∈ items,
      rank item = true ∧ rank item' = true ∧ key item ≠ key item' := by
  constructor
  · intro hchoice
    subst hchoice
    cases h with
    | ambiguous hbest hitem hmatch hitem' hmatch' hne =>
      exact ⟨_, hbest, _, hitem, _, hitem', hmatch, hmatch', hne⟩
  · rintro ⟨rank, hbest, item, hitem, item', hitem', hmatch, hmatch', hne⟩
    exact h.unique (.ambiguous hbest hitem hmatch hitem' hmatch' hne)

theorem Chooses.resolved_iff (h : Chooses key ranks items choice) (chosen : κ) :
    choice = .resolved chosen ↔ ∃ rank, IsBest ranks items rank ∧
      ∀ item ∈ items, rank item = true → key item = chosen := by
  constructor
  · intro hchoice
    subst hchoice
    cases h with
    | resolved hbest hall => exact ⟨_, hbest, hall⟩
  · rintro ⟨rank, hbest, hall⟩
    exact h.unique (.resolved hbest hall)

/-- The choice among items with distinct keys. -/
def choiceOf (key : α → κ) : List α → Choice κ
  | [] => .notFound
  | [item] => .resolved (key item)
  | _ => .ambiguous

/-- If the items at the best rank have these keys, each once, the choice among them is made. -/
theorem chooses_choiceOf (hnodup : (distinct.map key).Nodup)
    (hkeys : ∀ chosen, chosen ∈ distinct.map key ↔ chosen ∈ (bestMatches ranks items).map key) :
    Chooses key ranks items (choiceOf key distinct) := by
  rcases none_or_isBest items ranks with hnone | ⟨rank, hbest⟩
  · have hnil : distinct = [] := by
      rw [bestMatches_eq_nil hnone] at hkeys
      exact List.map_eq_nil_iff.1 (List.eq_nil_iff_forall_not_mem.2 fun chosen hmem =>
        List.not_mem_nil ((hkeys chosen).1 hmem))
    rw [hnil]
    exact .notFound hnone
  · rw [hbest.bestMatches_eq] at hkeys
    have hmem (item : α) (hitem : item ∈ items) (hmatch : rank item = true) :
        key item ∈ distinct.map key :=
      (hkeys _).2 (List.mem_map_of_mem (List.mem_filter.2 ⟨hitem, hmatch⟩))
    match distinct with
    | [] =>
      obtain ⟨-, -, -, ⟨item, hitem, hmatch⟩, -⟩ := hbest
      exact absurd (hmem item hitem hmatch) List.not_mem_nil
    | [only] =>
      refine .resolved hbest fun item hitem hmatch => ?_
      exact List.mem_singleton.1 (hmem item hitem hmatch)
    | first :: second :: rest =>
      obtain ⟨item, hitem, hkey⟩ := List.mem_map.1 ((hkeys (key first)).1 (by simp))
      obtain ⟨item', hitem', hkey'⟩ := List.mem_map.1 ((hkeys (key second)).1 (by simp))
      refine .ambiguous hbest (List.mem_filter.1 hitem).1 (List.mem_filter.1 hitem).2
        (List.mem_filter.1 hitem').1 (List.mem_filter.1 hitem').2 ?_
      rw [hkey, hkey']
      exact fun heq => (List.nodup_cons.1 hnodup).1 (by simp [heq])

/-! ## Sorting and dropping repetitions -/

section
variable (r : κ → κ → Prop) [DecidableRel r]

/-- The items in the order of their keys. -/
def sortByKey (key : α → κ) (items : List α) : List α :=
  items.insertionSort fun item item' => r (key item) (key item')

theorem perm_sortByKey (items : List α) : (sortByKey r key items).Perm items :=
  List.perm_insertionSort _ _

theorem pairwise_sortByKey [Std.Total r] [IsTrans κ r] (items : List α) :
    ((sortByKey r key items).map key).Pairwise r := by
  rw [List.pairwise_map]
  have htotal : Std.Total fun item item' => r (key item) (key item') :=
    ⟨fun item item' => Std.Total.total (key item) (key item')⟩
  have htrans : IsTrans α fun item item' => r (key item) (key item') :=
    ⟨fun _ _ _ h h' => IsTrans.trans _ _ _ h h'⟩
  exact List.pairwise_insertionSort _ _

end

section
variable [DecidableEq κ] {r : κ → κ → Prop}

/-- The items whose keys are not repetitions, after one with a key. -/
def dropRepeatedAfter (key : α → κ) : κ → List α → List α
  | _, [] => []
  | last, item :: rest =>
    if last = key item then dropRepeatedAfter key last rest
    else item :: dropRepeatedAfter key (key item) rest

/-- The first of every run of items with one key. -/
def dropRepeated (key : α → κ) : List α → List α
  | [] => []
  | first :: rest => first :: dropRepeatedAfter key (key first) rest

theorem mem_keys_dropRepeatedAfter : ∀ {last : κ} {items : List α} {chosen : κ},
    chosen = last ∨ chosen ∈ (dropRepeatedAfter key last items).map key ↔
      chosen = last ∨ chosen ∈ items.map key
  | _, [], _ => Iff.rfl
  | last, item :: rest, chosen => by
    unfold dropRepeatedAfter
    by_cases hsame : last = key item
    · rw [if_pos hsame, mem_keys_dropRepeatedAfter]
      simp [hsame]
    · rw [if_neg hsame, List.map_cons, List.mem_cons, mem_keys_dropRepeatedAfter]
      simp

/-- No key is lost. -/
theorem mem_keys_dropRepeated : ∀ {items : List α} {chosen : κ},
    chosen ∈ (dropRepeated key items).map key ↔ chosen ∈ items.map key
  | [], _ => Iff.rfl
  | first :: rest, chosen => by
    simp only [dropRepeated, List.map_cons, List.mem_cons]
    exact mem_keys_dropRepeatedAfter

theorem dropRepeatedAfter_sublist : ∀ {last : κ} {items : List α},
    (dropRepeatedAfter key last items).Sublist items
  | _, [] => List.Sublist.refl []
  | last, item :: rest => by
    unfold dropRepeatedAfter
    split
    · exact dropRepeatedAfter_sublist.cons item
    · exact dropRepeatedAfter_sublist.cons_cons item

theorem dropRepeated_sublist : ∀ {items : List α}, (dropRepeated key items).Sublist items
  | [] => List.Sublist.refl []
  | _ :: _ => dropRepeatedAfter_sublist.cons_cons _

theorem nodup_dropRepeatedAfter [Std.Antisymm r] : ∀ {last : κ} {items : List α},
    (last :: items.map key).Pairwise r →
      (last :: (dropRepeatedAfter key last items).map key).Nodup
  | _, [], _ => List.nodup_singleton _
  | last, item :: rest, h => by
    obtain ⟨hlast, hrest⟩ := List.pairwise_cons.1 h
    obtain ⟨hitem, htail⟩ := List.pairwise_cons.1 hrest
    unfold dropRepeatedAfter
    by_cases hsame : last = key item
    · rw [if_pos hsame]
      refine nodup_dropRepeatedAfter (List.pairwise_cons.2 ⟨fun other hother => ?_, htail⟩)
      exact hlast other (List.mem_cons_of_mem _ hother)
    · rw [if_neg hsame]
      refine List.nodup_cons.2 ⟨fun hmem => ?_, nodup_dropRepeatedAfter hrest⟩
      rcases List.mem_cons.1 hmem with heq | hmem
      · exact hsame heq
      · -- what comes after the item is not before it
        have hlater : last ∈ rest.map key :=
          (dropRepeatedAfter_sublist.map key).subset hmem
        exact hsame (antisymm (hlast _ List.mem_cons_self) (hitem last hlater))

/-- The keys of sorted items are distinct without the repetitions. -/
theorem nodup_dropRepeated [Std.Antisymm r] : ∀ {items : List α}, (items.map key).Pairwise r →
    ((dropRepeated key items).map key).Nodup
  | [], _ => List.nodup_nil
  | _ :: _, h => nodup_dropRepeatedAfter h

/-- The choice among the best matches, sorted and without repetitions. -/
theorem chooses_sorted (r : κ → κ → Prop) [DecidableRel r] [Std.Total r] [IsTrans κ r]
    [Std.Antisymm r] :
    Chooses key ranks items
      (choiceOf key (dropRepeated key (sortByKey r key (bestMatches ranks items)))) := by
  refine chooses_choiceOf (nodup_dropRepeated (pairwise_sortByKey r _)) fun chosen => ?_
  rw [mem_keys_dropRepeated]
  exact ((perm_sortByKey r _).map key).mem_iff

end

end PlaybackConnector
