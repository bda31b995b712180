import Mathlib

/-!
# Replacing parts of a text

A text is a list, and parts of it are compared by a key. `replaceAll` replaces every occurrence of a
pattern, from the left, within a bound on the length of the text; `replaceMatches` replaces given
parts. Some elements of a text are kept, what is inserted is not: a replacement brings about no new
part of kept elements (`Runs`), and after `replaceAll` no such part has the pattern for its keys
(`Free`).
-/

namespace PlaybackConnector

variable {α κ : Type}

/-! ## Parts of kept elements -/

/-- Every part of kept elements of the first text is a part of the second one. -/
def Runs (kept : α → Prop) (after before : List α) : Prop :=
  ∀ part, part <:+: after → (∀ element ∈ part, kept element) → part <:+: before

/-- No part of kept elements has these keys. -/
def Free (key : α → κ) (kept : α → Prop) (pattern : List κ) (text : List α) : Prop :=
  ∀ part, part <:+: text → (∀ element ∈ part, kept element) → part.map key ≠ pattern

section
variable {key : α → κ} {kept : α → Prop} {pattern : List κ} {text after before : List α}

theorem Runs.refl : Runs kept text text := fun _ hpart _ => hpart

theorem Runs.trans {between : List α} (h : Runs kept after between)
    (h' : Runs kept between before) : Runs kept after before := fun part hpart hkept =>
  h' part (h part hpart hkept) hkept

theorem Free.of_runs (h : Free key kept pattern before) (hruns : Runs kept after before) :
    Free key kept pattern after := fun part hpart hkept =>
  h part (hruns part hpart hkept) hkept

/-- What contains a pattern is not there either. -/
theorem Free.of_infix {larger : List κ} (h : Free key kept pattern text)
    (hlarger : pattern <:+: larger) : Free key kept larger text := by
  rintro part hpart hkept rfl
  obtain ⟨front, back, hsplit⟩ := hlarger
  obtain ⟨most, last, hmost, hmap, hback⟩ := List.map_eq_append_iff.1 hsplit.symm
  obtain ⟨first, inner, hfirst, hfront, hinner⟩ := List.map_eq_append_iff.1 hmap
  subst hmost hfirst
  refine h inner ?_ (fun element helement => hkept element (by simp [helement])) hinner
  exact List.IsInfix.trans ⟨first, last, rfl⟩ hpart

/-- A part that does not contain an element is on one side of it. -/
theorem infix_beside {part front back : List α} {element : α}
    (h : part <:+: front ++ element :: back) (hnot : element ∉ part) :
    part <:+: front ∨ part <:+: back := by
  obtain ⟨first, last, hsplit⟩ := h
  rw [List.append_assoc] at hsplit
  obtain ⟨between, rfl, hrest⟩ | ⟨between, rfl, hrest⟩ := List.append_eq_append_iff.1 hsplit
  · -- the part begins before the element
    obtain ⟨inner, rfl, -⟩ | ⟨inner, hpart, hback⟩ := List.append_eq_append_iff.1 hrest
    · exact .inl ⟨first, inner, by simp⟩
    · cases inner with
      | nil =>
        rw [List.append_nil] at hpart
        exact .inl ⟨first, [], by simp [hpart]⟩
      | cons other inner =>
        obtain ⟨rfl, -⟩ := List.cons.inj hback
        exact absurd (by simp [hpart]) hnot
  · cases between with
    | nil =>
      cases part with
      | nil => exact .inl (List.nil_infix)
      | cons other part =>
        obtain ⟨rfl, -⟩ := List.cons.inj hrest
        exact absurd (List.mem_cons_self ..) hnot
    | cons other between =>
      obtain ⟨-, rfl⟩ := List.cons.inj hrest
      exact .inr ⟨between, last, by simp⟩

/-- A part of kept elements is on one side of what is inserted. -/
theorem infix_beside_inserted {part front back : List α} (htext : text ≠ [])
    (hinserted : ∀ element ∈ text, ¬kept element) (h : part <:+: front ++ text ++ back)
    (hkept : ∀ element ∈ part, kept element) : part <:+: front ∨ part <:+: back := by
  induction text generalizing front with
  | nil => exact absurd rfl htext
  | cons element text ih =>
    have hnot : element ∉ part := fun hmem =>
      hinserted element (List.mem_cons_self ..) (hkept element hmem)
    rw [List.append_assoc, List.cons_append] at h
    obtain hfront | hback := infix_beside h hnot
    · exact .inl hfront
    · by_cases hmore : text = []
      · subst hmore
        exact .inr hback
      · refine (ih hmore (fun other hother => hinserted other (List.mem_cons_of_mem _ hother))
          (show part <:+: [] ++ text ++ back from hback)).imp ?_ id
        exact fun hnil => hnil.trans List.nil_infix

end

/-! ## Finding a pattern -/

/-- The offset of the first part whose keys are the pattern. -/
def search [DecidableEq κ] (key : α → κ) (pattern : List κ) : List α → Option Nat
  | [] => if pattern = [] then some 0 else none
  | element :: rest =>
    if pattern <+: (element :: rest).map key then some 0
    else (search key pattern rest).map (· + 1)

section
variable [DecidableEq κ] {key : α → κ} {pattern : List κ} {text : List α}

/-- There is no such part if none is found. -/
theorem search_none : ∀ {text : List α}, search key pattern text = none →
    ∀ part, part <:+: text → part.map key ≠ pattern
  | [], h, part, hpart, hmap => by
    rw [List.infix_nil.1 hpart, List.map_nil] at hmap
    rw [search, if_pos hmap.symm] at h
    cases h
  | element :: rest, h, part, hpart, hmap => by
    rw [search] at h
    split_ifs at h with hprefix
    rcases List.infix_cons_iff.1 hpart with hpart | hpart
    · exact hprefix (hmap ▸ hpart.map key)
    · exact search_none (Option.map_eq_none_iff.1 h) part hpart hmap

/-- What is found is there, and no such part begins before it. -/
theorem search_some : ∀ {text : List α} {offset : Nat}, pattern ≠ [] →
    search key pattern text = some offset →
    offset + pattern.length ≤ text.length ∧
      ∀ part, part <:+: text.take offset → part.map key ≠ pattern
  | [], offset, hne, h => by
    rw [search, if_neg hne] at h
    cases h
  | element :: rest, offset, hne, h => by
    rw [search] at h
    split_ifs at h with hprefix
    · obtain rfl := Option.some.inj h
      refine ⟨by simpa using hprefix.length_le, fun part hpart hmap => hne ?_⟩
      rw [List.take_zero, List.infix_nil] at hpart
      rw [← hmap, hpart, List.map_nil]
    · obtain ⟨later, hlater, rfl⟩ := Option.map_eq_some_iff.1 h
      obtain ⟨hlength, hnone⟩ := search_some hne hlater
      refine ⟨by simp only [List.length_cons]; omega, fun part hpart hmap => ?_⟩
      rw [List.take_succ_cons] at hpart
      rcases List.infix_cons_iff.1 hpart with hpart | hpart
      · refine hprefix (hmap ▸ (hpart.trans ?_).map key)
        exact List.cons_prefix_cons.2 ⟨rfl, List.take_prefix ..⟩
      · exact hnone part hpart hmap

/-- What is found has the pattern for its keys. -/
theorem search_part : ∀ {text : List α} {offset : Nat}, search key pattern text = some offset →
    ((text.drop offset).take pattern.length).map key = pattern
  | [], offset, h => by
    rw [search] at h
    split_ifs at h with hempty
    rw [hempty]
    simp
  | element :: rest, offset, h => by
    rw [search] at h
    split_ifs at h with hprefix
    · obtain rfl := Option.some.inj h
      rw [List.drop_zero, List.map_take]
      exact (List.prefix_iff_eq_take.1 hprefix).symm
    · obtain ⟨later, hlater, rfl⟩ := Option.map_eq_some_iff.1 h
      show ((rest.drop later).take pattern.length).map key = pattern
      exact search_part hlater

end

/-! ## Replacing all occurrences -/

/-- The loop of `replaceAll`, behind what is done already. The text must not get longer than the
bound. -/
def replaceLoop [DecidableEq κ] (key : α → κ) (pattern : List κ) (hne : pattern ≠ [])
    (inserted : List α) (bound : Nat) (before rest : List α) : Option (List α) :=
  match _hfound : search key pattern rest with
  | none => some (before ++ rest)
  | some offset =>
    if bound < inserted.length ∨
        bound - inserted.length < (before ++ rest).length - pattern.length then none
    else
      let before := before ++ rest.take offset ++ inserted
      let remaining := rest.drop (offset + pattern.length)
      if bound < (before ++ remaining).length then none
      else replaceLoop key pattern hne inserted bound before remaining
termination_by rest.length
decreasing_by
  have hlength := (search_some hne _hfound).1
  have hpos := List.length_pos_iff.2 hne
  rw [List.length_drop]
  omega

/-- Every occurrence of the pattern, from the left, is replaced by what is inserted. -/
def replaceAll [DecidableEq κ] (key : α → κ) (pattern : List κ) (inserted : List α) (bound : Nat)
    (text : List α) : Option (List α) :=
  if hne : pattern = [] then some text
  else replaceLoop key pattern hne inserted bound [] text

/-- What the loop has done at its end, whatever the bound. -/
inductive Replaced [DecidableEq κ] (key : α → κ) (pattern : List κ) (inserted : List α) :
    List α → List α → List α → Prop
  | done {before rest : List α} (hnone : search key pattern rest = none) :
    Replaced key pattern inserted before rest (before ++ rest)
  | next {before rest result : List α} {offset : Nat}
    (hfound : search key pattern rest = some offset)
    (hnext : Replaced key pattern inserted (before ++ rest.take offset ++ inserted)
      (rest.drop (offset + pattern.length)) result) :
    Replaced key pattern inserted before rest result

section
variable [DecidableEq κ] {key : α → κ} {kept : α → Prop} {pattern : List κ}
  {inserted before rest result text : List α} {bound : Nat}

theorem replaceLoop_replaced (hne : pattern ≠ [])
    (h : replaceLoop key pattern hne inserted bound before rest = some result) :
    Replaced key pattern inserted before rest result := by
  induction hlength : rest.length using Nat.strong_induction_on generalizing before rest with
  | _ length ih =>
    rw [replaceLoop] at h
    split at h
    next hnone =>
      obtain rfl := Option.some.inj h
      exact .done hnone
    next offset hfound =>
      dsimp only at h
      split_ifs at h
      have hpos := List.length_pos_iff.2 hne
      have hmost := (search_some hne hfound).1
      refine .next hfound (ih _ ?_ h rfl)
      rw [List.length_drop]
      omega

theorem replaceLoop_none (hne : pattern ≠ []) (h : search key pattern rest = none) :
    replaceLoop key pattern hne inserted bound before rest = some (before ++ rest) := by
  rw [replaceLoop]
  split
  next => rfl
  next hfound =>
    rw [h] at hfound
    cases hfound

/-- What is done does not depend on the bound. -/
theorem Replaced.unique (h : Replaced key pattern inserted before rest result) {other : List α}
    (h' : Replaced key pattern inserted before rest other) : result = other := by
  induction h with
  | done hnone =>
    cases h' with
    | done => rfl
    | next hfound =>
      rw [hnone] at hfound
      cases hfound
  | next hfound _ ih =>
    cases h' with
    | done hnone =>
      rw [hnone] at hfound
      cases hfound
    | next hfound' hnext =>
      obtain rfl := Option.some.inj (hfound.symm.trans hfound')
      exact ih hnext

/-- The loop brings about no part of kept elements. -/
theorem Replaced.runs (h : Replaced key pattern inserted before rest result)
    (hinserted : inserted ≠ []) (hnotKept : ∀ element ∈ inserted, ¬kept element) :
    Runs kept result (before ++ rest) := by
  induction h with
  | done => exact .refl
  | @next before rest result offset hfound _ ih =>
    refine ih.trans fun part hpart hkept => ?_
    obtain hfront | hback := infix_beside_inserted hinserted hnotKept hpart hkept
    · refine hfront.trans (List.IsPrefix.isInfix ?_)
      exact List.prefix_append_right_inj before |>.2 (List.take_prefix ..)
    · exact hback.trans ((List.drop_suffix ..).trans (List.suffix_append ..)).isInfix

/-- After the loop no part of kept elements has the pattern for its keys, if there is none in what
was done before, which does not end with a kept element. -/
theorem Replaced.free (h : Replaced key pattern inserted before rest result) (hne : pattern ≠ [])
    (hinserted : inserted ≠ []) (hnotKept : ∀ element ∈ inserted, ¬kept element)
    (hbefore : Free key kept pattern before)
    (hlast : before = [] ∨ ∃ front last, before = front ++ [last] ∧ ¬kept last) :
    Free key kept pattern result := by
  have hbeside : ∀ {before more part : List α},
      (before = [] ∨ ∃ front last, before = front ++ [last] ∧ ¬kept last) →
      part <:+: before ++ more → (∀ element ∈ part, kept element) →
      part <:+: before ∨ part <:+: more := by
    rintro before more part (rfl | ⟨front, last, rfl, hlast⟩) hpart hkept
    · exact .inr hpart
    · have hnot : last ∉ part := fun hmem => hlast (hkept last hmem)
      rw [List.append_assoc, List.singleton_append] at hpart
      exact (infix_beside hpart hnot).imp_left fun hfront =>
        hfront.trans (List.prefix_append ..).isInfix
  induction h with
  | done hnone =>
    intro part hpart hkept
    obtain hfront | hback := hbeside hlast hpart hkept
    · exact hbefore part hfront hkept
    · exact search_none hnone part hback
  | @next before rest result offset hfound _ ih =>
    refine ih ?_ ?_
    · intro part hpart hkept
      have hparts : part <:+: before ++ rest.take offset ∨ part <:+: [] :=
        infix_beside_inserted hinserted hnotKept (by simpa using hpart) hkept
      obtain hfront | hnil := hparts
      · obtain hbeforePart | hskipped := hbeside hlast hfront hkept
        · exact hbefore part hbeforePart hkept
        · exact (search_some hne hfound).2 part hskipped
      · rw [List.infix_nil.1 hnil]
        exact fun hmap => hne hmap.symm
    · refine .inr ⟨before ++ rest.take offset ++ inserted.dropLast, inserted.getLast hinserted, ?_,
        hnotKept _ (List.getLast_mem hinserted)⟩
      rw [List.append_assoc _ inserted.dropLast, List.dropLast_append_getLast]

theorem replaceAll_runs (h : replaceAll key pattern inserted bound text = some result)
    (hinserted : inserted ≠ []) (hnotKept : ∀ element ∈ inserted, ¬kept element) :
    Runs kept result text := by
  rw [replaceAll] at h
  split_ifs at h with hne
  · obtain rfl := Option.some.inj h
    exact .refl
  · exact (replaceLoop_replaced hne h).runs hinserted hnotKept

theorem replaceAll_free (h : replaceAll key pattern inserted bound text = some result)
    (hne : pattern ≠ []) (hinserted : inserted ≠ [])
    (hnotKept : ∀ element ∈ inserted, ¬kept element) : Free key kept pattern result := by
  rw [replaceAll, dif_neg hne] at h
  refine (replaceLoop_replaced hne h).free hne hinserted hnotKept ?_ (.inl rfl)
  intro part hpart _ hmap
  rw [List.infix_nil.1 hpart] at hmap
  exact hne hmap.symm

theorem replaceAll_unique {other : List α} {wider : Nat}
    (h : replaceAll key pattern inserted bound text = some result)
    (h' : replaceAll key pattern inserted wider text = some other) : result = other := by
  rw [replaceAll] at h h'
  split_ifs at h h' with hne
  · exact Option.some.inj (h.symm.trans h')
  · exact (replaceLoop_replaced hne h).unique (replaceLoop_replaced hne h')

theorem replaceAll_none (h : ∀ part, part <:+: text → part.map key ≠ pattern) :
    replaceAll key pattern inserted bound text = some text := by
  rw [replaceAll]
  split_ifs with hne
  · rfl
  · refine replaceLoop_none hne ?_
    cases hsearch : search key pattern text with
    | none => rfl
    | some offset =>
      refine absurd (search_part hsearch) (h _ ?_)
      exact ((List.take_prefix ..).isInfix).trans (List.drop_suffix ..).isInfix

end

/-! ## Replacing given parts -/

/-- A part to be replaced: how far it is behind the one before it, how much of it is kept, and how
long the rest of it is. -/
structure Match where
  gap : Nat
  group : Nat
  rest : Nat
deriving Repr, DecidableEq

/-- The parts, in the order of the text, are replaced but for what is kept of them. -/
def replaceMatches (inserted : List α) : List Match → List α → List α
  | [], text => text
  | part :: parts, text =>
    text.take (part.gap + part.group) ++ inserted ++
      replaceMatches inserted parts (text.drop (part.gap + part.group + part.rest))

theorem replaceMatches_runs {kept : α → Prop} {inserted : List α} (hinserted : inserted ≠ [])
    (hnotKept : ∀ element ∈ inserted, ¬kept element) : ∀ (parts : List Match) (text : List α),
    Runs kept (replaceMatches inserted parts text) text
  | [], _ => .refl
  | part :: parts, text => fun run hrun hkept => by
    rw [replaceMatches] at hrun
    obtain hfront | hback := infix_beside_inserted hinserted hnotKept hrun hkept
    · exact hfront.trans (List.take_prefix ..).isInfix
    · exact (replaceMatches_runs hinserted hnotKept parts _ run hback hkept).trans
        (List.drop_suffix ..).isInfix

end PlaybackConnector
