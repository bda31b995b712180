import Mathlib

/-!
# Event systems and their runs

A component that is driven by events and handles one of them at a time is an `EventSystem`: which
events can occur in a state (`enabled`) and the state after one (`step`). A run is a list of
events; `exec` is the state it ends in, `Always ok` says that `ok` held at every one of its steps,
and `Run` is `Always enabled`. The rules are the usual ones: an invariant of the steps is an
invariant of the runs (`Always.invariant`), a step property that follows from an invariant holds
at every step (`Always.of_invariant`), and a measure that every step decreases bounds the length
of a run (`Always.length_le`).

A step that is a sequence of smaller moves keeps whatever every move keeps (`moves_preserve`).
-/

namespace PlaybackConnector

/-- A deterministic component driven by events. -/
structure EventSystem (σ ε : Type*) where
  /-- The events that can occur in a state. -/
  enabled : σ → ε → Prop
  /-- The state after an event. -/
  step : σ → ε → σ

namespace EventSystem

variable {σ ε : Type*} (S : EventSystem σ ε) {ok ok' : σ → ε → Prop} {I : σ → Prop} {s t : σ}
  {es es' : List ε}

/-- The state that a run ends in. -/
def exec : σ → List ε → σ
  | s, [] => s
  | s, e :: es => exec (S.step s e) es

/-- `ok` holds of every event of the run, in the state in which the event occurs. -/
def Always (ok : σ → ε → Prop) : σ → List ε → Prop
  | _, [] => True
  | s, e :: es => ok s e ∧ Always ok (S.step s e) es

/-- Every event of the run can occur when it does. -/
def Run (s : σ) (es : List ε) : Prop := S.Always S.enabled s es

/-- `t` is the state of some run from `s`. -/
def Reachable (s t : σ) : Prop := ∃ es, S.Run s es ∧ S.exec s es = t

/-- `t` is the state of some run from `s` all of whose steps meet `ok`. -/
def ReachableBy (ok : σ → ε → Prop) (s t : σ) : Prop :=
  ∃ es, S.Run s es ∧ S.Always ok s es ∧ S.exec s es = t

instance decidableAlways [∀ s e, Decidable (ok s e)] :
    ∀ s es, Decidable (S.Always ok s es)
  | _, [] => isTrue trivial
  | s, e :: es => @instDecidableAnd _ _ _ (decidableAlways (S.step s e) es)

instance decidableRun [∀ s e, Decidable (S.enabled s e)] (s : σ) (es : List ε) :
    Decidable (S.Run s es) :=
  S.decidableAlways s es

@[simp] theorem exec_nil : S.exec s [] = s := rfl
@[simp] theorem exec_cons (e : ε) : S.exec s (e :: es) = S.exec (S.step s e) es := rfl
@[simp] theorem always_nil : S.Always ok s [] := trivial
@[simp] theorem always_cons (e : ε) :
    S.Always ok s (e :: es) ↔ ok s e ∧ S.Always ok (S.step s e) es := Iff.rfl

theorem exec_append : ∀ (s : σ) (es es' : List ε),
    S.exec s (es ++ es') = S.exec (S.exec s es) es'
  | _, [], _ => rfl
  | s, e :: es, es' => exec_append (S.step s e) es es'

theorem always_append : ∀ (s : σ) (es es' : List ε),
    S.Always ok s (es ++ es') ↔ S.Always ok s es ∧ S.Always ok (S.exec s es) es'
  | _, [], _ => by simp
  | s, e :: es, es' => by
    simp only [List.cons_append, always_cons, exec_cons, always_append (S.step s e) es es', and_assoc]

theorem run_append : S.Run s (es ++ es') ↔ S.Run s es ∧ S.Run (S.exec s es) es' :=
  S.always_append s es es'

/-- What holds in every state of a run holds at its beginning and after every step. -/
theorem forall_prefix_iff {P : σ → Prop} : ∀ {s : σ} {es : List ε},
    (∀ before after, es = before ++ after → P (S.exec s before)) ↔
      P s ∧ S.Always (fun s e => P (S.step s e)) s es
  | s, [] => by
    refine ⟨fun h => ⟨h [] [] rfl, trivial⟩, fun h before after hes => ?_⟩
    rw [(List.append_eq_nil_iff.1 hes.symm).1]
    exact h.1
  | s, e :: es => by
    have ih : (∀ before after, es = before ++ after → P (S.exec (S.step s e) before)) ↔ _ :=
      forall_prefix_iff
    constructor
    · intro h
      have hrest := ih.1 fun before after hes => h (e :: before) after (by rw [hes]; rfl)
      exact ⟨h [] (e :: es) rfl, hrest⟩
    · rintro ⟨hhere, hrest⟩ before after hes
      cases before with
      | nil => exact hhere
      | cons first before =>
        obtain ⟨rfl, hsplit⟩ := List.cons.inj hes
        exact ih.2 hrest before after hsplit

variable {S}

theorem Always.imp (h : ∀ s e, ok s e → ok' s e) : ∀ {s es}, S.Always ok s es → S.Always ok' s es
  | _, [], _ => trivial
  | _, _ :: _, ⟨h₁, h₂⟩ => ⟨h _ _ h₁, h₂.imp h⟩

/-- A property of the events alone. -/
theorem always_of_forall {P : ε → Prop} : ∀ {s es}, (∀ e ∈ es, P e) → S.Always (fun _ e => P e) s es
  | _, [], _ => trivial
  | _, _ :: _, h =>
    ⟨h _ List.mem_cons_self, always_of_forall fun e he => h e (List.mem_cons_of_mem _ he)⟩

theorem Always.and : ∀ {s es}, S.Always ok s es → S.Always ok' s es →
    S.Always (fun s e => ok s e ∧ ok' s e) s es
  | _, [], _, _ => trivial
  | _, _ :: _, ⟨h₁, h₂⟩, ⟨h₁', h₂'⟩ => ⟨⟨h₁, h₁'⟩, h₂.and h₂'⟩

/-- `Always ok` read at one event of the run. -/
theorem Always.at {pre post : List ε} {e : ε} (h : S.Always ok s (pre ++ e :: post)) :
    ok (S.exec s pre) e :=
  ((S.always_append s pre (e :: post)).1 h).2.1

/-- An invariant of the steps that meet `ok` is an invariant of the runs all of whose steps do. -/
theorem Always.invariant (hI : ∀ s e, ok s e → I s → I (S.step s e)) :
    ∀ {s es}, S.Always ok s es → I s → I (S.exec s es)
  | _, [], _, h => h
  | _, _ :: _, ⟨h₁, h₂⟩, h => h₂.invariant hI (hI _ _ h₁ h)

/-- What follows from an invariant at one step holds at every step. -/
theorem Always.of_invariant (hI : ∀ s e, ok s e → I s → I (S.step s e))
    (hP : ∀ s e, ok s e → I s → ok' s e) :
    ∀ {s es}, S.Always ok s es → I s → S.Always ok' s es
  | _, [], _, _ => trivial
  | _, _ :: _, ⟨h₁, h₂⟩, h => ⟨hP _ _ h₁ h, h₂.of_invariant hI hP (hI _ _ h₁ h)⟩

/-- Along a run, a step property that agrees with another wherever an invariant holds agrees with it
at every step. The invariant has to be kept only by the steps that meet the second property. -/
theorem Always.congr_of_invariant {P Q : σ → ε → Prop}
    (hI : ∀ s e, ok s e → Q s e → I s → I (S.step s e))
    (hPQ : ∀ s e, ok s e → I s → (P s e ↔ Q s e)) :
    ∀ {s es}, S.Always ok s es → I s → (S.Always P s es ↔ S.Always Q s es)
  | _, [], _, _ => Iff.rfl
  | s, e :: _, ⟨h₁, h₂⟩, h => by
    have hhere := hPQ s e h₁ h
    refine ⟨fun ⟨hp, hrest⟩ => ?_, fun ⟨hq, hrest⟩ => ?_⟩
    · have hq := hhere.1 hp
      exact ⟨hq, (h₂.congr_of_invariant hI hPQ (hI s e h₁ hq h)).1 hrest⟩
    · exact ⟨hhere.2 hq, (h₂.congr_of_invariant hI hPQ (hI s e h₁ hq h)).2 hrest⟩

/-- A measure that every step of a run decreases bounds the length of the run. -/
theorem Always.length_le (μ : σ → Nat) (hI : ∀ s e, ok s e → I s → I (S.step s e))
    (hμ : ∀ s e, ok s e → I s → μ (S.step s e) < μ s) :
    ∀ {s es}, S.Always ok s es → I s → es.length ≤ μ s
  | _, [], _, _ => Nat.zero_le _
  | s, e :: _, ⟨h₁, h₂⟩, h => by
    have hrest := h₂.length_le μ hI hμ (hI _ _ h₁ h)
    have hdecr := hμ s e h₁ h
    simp only [List.length_cons]
    omega

/-- A measure that no step of a run decreases, and that is at its end what it was at its beginning,
is changed by none of its steps. -/
theorem always_of_measure_eq (μ : σ → Nat) (hμ : ∀ s e, μ s ≤ μ (S.step s e)) :
    ∀ {s es}, μ (S.exec s es) = μ s → S.Always (fun s e => μ (S.step s e) = μ s) s es
  | _, [], _ => trivial
  | s, e :: es, h => by
    have hle : ∀ (s : σ) (es : List ε), μ s ≤ μ (S.exec s es) := by
      intro s es
      induction es generalizing s with
      | nil => exact Nat.le_refl _
      | cons e es ih => exact Nat.le_trans (hμ s e) (ih _)
    have hhere : μ (S.step s e) = μ s :=
      Nat.le_antisymm (h ▸ hle (S.step s e) es) (hμ s e)
    exact ⟨hhere, always_of_measure_eq μ hμ (h.trans hhere.symm)⟩

theorem Reachable.run (h : S.Reachable s t) (hrun : S.Run t es) : S.Reachable s (S.exec t es) := by
  obtain ⟨es₀, h₀, rfl⟩ := h
  exact ⟨es₀ ++ es, S.run_append.2 ⟨h₀, hrun⟩, S.exec_append s es₀ es⟩

/-- An invariant of the enabled steps holds in every reachable state. -/
theorem Reachable.invariant (hI : ∀ s e, S.enabled s e → I s → I (S.step s e))
    (h : S.Reachable s t) (hs : I s) : I t := by
  obtain ⟨es, hrun, rfl⟩ := h
  exact Always.invariant hI hrun hs

/-- An invariant of the enabled steps that meet `ok` holds in every state reached by them. -/
theorem ReachableBy.invariant (hI : ∀ s e, S.enabled s e → ok s e → I s → I (S.step s e))
    (h : S.ReachableBy ok s t) (hs : I s) : I t := by
  obtain ⟨es, hrun, hok, rfl⟩ := h
  exact (hrun.and hok).invariant (fun s e h => hI s e h.1 h.2) hs

theorem ReachableBy.reachable (h : S.ReachableBy ok s t) : S.Reachable s t := by
  obtain ⟨es, hrun, -, rfl⟩ := h
  exact ⟨es, hrun, rfl⟩

end EventSystem

/-- What every move keeps, every sequence of moves keeps. -/
theorem moves_preserve {σ : Type*} {M : σ → σ → Prop} {I : σ → Prop}
    (hM : ∀ s t, M s t → I s → I t) {s t : σ} (h : Relation.ReflTransGen M s t) (hs : I s) : I t := by
  induction h with
  | refl => exact hs
  | tail _ hm ih => exact hM _ _ hm ih

end PlaybackConnector
