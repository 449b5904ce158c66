/-
  Subject:   Runs of a partial step function under a condition on the steps taken.

  A system is a function `step : S → E → Option S` (`none`: the event is not possible in that
  state); `ok` restricts which events a run may take in which state. `exec` runs a list of
  events, `Run` is the relation the invariants are about.
-/
import Mathlib.Logic.Function.Basic

namespace TcpPath.Util

variable {S E : Type}

/-- The states a run from `s` reaches. -/
inductive Run (step : S → E → Option S) (ok : S → E → Prop) (s : S) : S → Prop where
  | refl : Run step ok s s
  | tail {t u : S} {e : E} (h : Run step ok s t) (hok : ok t e) (hs : step t e = some u) :
      Run step ok s u

namespace Run

variable {step : S → E → Option S} {ok : S → E → Prop} {s t u : S}

theorem trans (h1 : Run step ok s t) (h2 : Run step ok t u) : Run step ok s u := by
  induction h2 with
  | refl => exact h1
  | tail _ hok hs ih => exact .tail ih hok hs

/-- **The invariant rule.** -/
theorem invariant {I : S → Prop} (h : Run step ok s t) (h0 : I s)
    (hstep : ∀ t e u, I t → ok t e → step t e = some u → I u) : I t := by
  induction h with
  | refl => exact h0
  | tail _ hok hs ih => exact hstep _ _ _ ih hok hs

end Run

/-- The state after the events of a list, if each is possible and permitted when its turn
    comes. -/
def exec (step : S → E → Option S) (ok : S → E → Prop) [∀ s e, Decidable (ok s e)] :
    List E → S → Option S
  | [], s => some s
  | e :: es, s => if ok s e then (step s e).bind (exec step ok es) else none

variable {step : S → E → Option S} {ok : S → E → Prop} {es : List E} {s t : S} {I : S → Prop}

theorem Run.of_exec [∀ s e, Decidable (ok s e)] (h : exec step ok es s = some t) :
    Run step ok s t := by
  induction es generalizing s with
  | nil =>
    cases h
    exact .refl
  | cons e es ih =>
    rw [exec] at h
    split at h
    · rename_i hok
      obtain ⟨u, hu, h⟩ := Option.bind_eq_some_iff.mp h
      exact .trans (.tail .refl hok hu) (ih h)
    · cases h

section Exists

/-! Where a result that is to be `some` or `ok` has some property is decided by computing it, and
so is where a run ends. -/

variable {α β ε : Type}

instance (priority := low) decidableExistsSome (o : Option α) (P : α → Prop) [DecidablePred P] :
    Decidable (∃ a, o = some a ∧ P a) :=
  match o with
  | none => isFalse fun ⟨_, h, _⟩ => nomatch h
  | some a => decidable_of_iff (P a)
      ⟨fun h => ⟨a, rfl, h⟩, fun ⟨_, h, hp⟩ => Option.some.inj h ▸ hp⟩

instance (priority := low) decidableExistsOk (r : Except ε α) (P : α → Prop) [DecidablePred P] :
    Decidable (∃ a, r = .ok a ∧ P a) :=
  decidable_of_iff (∃ a, r.toOption = some a ∧ P a) <| exists_congr fun a => by
    cases r <;> simp [Except.toOption]

instance (priority := low) decidableExistsSomePair (o : Option (α × β)) (P : α → β → Prop)
    [∀ a b, Decidable (P a b)] : Decidable (∃ a b, o = some (a, b) ∧ P a b) :=
  decidable_of_iff (∃ x, o = some x ∧ P x.1 x.2) Prod.exists

instance (priority := low) decidableExistsAnd (p : Prop) (P : α → Prop) [Decidable p]
    [Decidable (∃ a, P a)] : Decidable (∃ a, p ∧ P a) :=
  decidable_of_iff (p ∧ ∃ a, P a) exists_and_left.symm

instance (priority := low) decidableExistsSomeAnd (o : Option α) (P : α → β → Prop)
    [∀ a, Decidable (∃ b, P a b)] : Decidable (∃ a b, o = some a ∧ P a b) :=
  decidable_of_iff (∃ a, o = some a ∧ ∃ b, P a b) <| exists_congr fun _ => exists_and_left.symm

theorem Run.exists_exec (step : S → E → Option S) (ok : S → E → Prop)
    [∀ s e, Decidable (ok s e)] (es : List E) (s : S) (P : S → Prop)
    (h : ∃ t, exec step ok es s = some t ∧ P t) : ∃ t, Run step ok s t ∧ P t :=
  h.imp fun _ => And.imp_left .of_exec

theorem Run.exists_exec_and (step : S → E → Option S) (ok : S → E → Prop)
    [∀ s e, Decidable (ok s e)] (es : List E) (s : S) (P : S → α → Prop)
    (h : ∃ t a, exec step ok es s = some t ∧ P t a) : ∃ t a, Run step ok s t ∧ P t a :=
  h.imp fun _ => Exists.imp fun _ => And.imp_left .of_exec

variable {A B C Q : S → Prop} [∀ s e, Decidable (ok s e)]

theorem Run.exists_exec₁ (es : List E) (h : ∃ t, exec step ok es s = some t ∧ A t)
    (hQ : ∀ t, Run step ok s t → A t → Q t) : ∃ t, Run step ok s t ∧ A t ∧ Q t := by
  obtain ⟨t, ht, ha⟩ := h
  exact ⟨t, .of_exec ht, ha, hQ t (.of_exec ht) ha⟩

theorem Run.exists_exec₂ (es : List E) (h : ∃ t, exec step ok es s = some t ∧ A t ∧ B t)
    (hQ : ∀ t, Run step ok s t → A t → B t → Q t) : ∃ t, Run step ok s t ∧ A t ∧ B t ∧ Q t := by
  obtain ⟨t, ht, ha, hb⟩ := h
  exact ⟨t, .of_exec ht, ha, hb, hQ t (.of_exec ht) ha hb⟩

theorem Run.exists_exec₃ (es : List E) (h : ∃ t, exec step ok es s = some t ∧ A t ∧ B t ∧ C t)
    (hQ : ∀ t, Run step ok s t → Q t) : ∃ t, Run step ok s t ∧ A t ∧ B t ∧ C t ∧ Q t := by
  obtain ⟨t, ht, ha, hb, hc⟩ := h
  exact ⟨t, .of_exec ht, ha, hb, hc, hQ t (.of_exec ht)⟩

end Exists

/-- **Termination by a measure**: where every step lowers `μ`, a run has at most `μ s` events. -/
theorem exec_length_le [∀ s e, Decidable (ok s e)] {μ : S → Nat}
    (hstep : ∀ t e u, I t → ok t e → step t e = some u → I u ∧ μ u < μ t) (hs : I s)
    (h : exec step ok es s = some t) : I t ∧ es.length + μ t ≤ μ s := by
  induction es generalizing s with
  | nil =>
    cases h
    exact ⟨hs, Nat.le_of_eq (Nat.zero_add _)⟩
  | cons e es ih =>
    rw [exec] at h
    split at h
    · rename_i hok
      obtain ⟨u, hu, h⟩ := Option.bind_eq_some_iff.mp h
      obtain ⟨hI, hlt⟩ := hstep s e u hs hok hu
      obtain ⟨hIt, hle⟩ := ih hI h
      refine ⟨hIt, ?_⟩
      rw [List.length_cons]
      omega
    · cases h

/-- **The history rule**: an invariant that relates the state to the events that led to it. -/
theorem exec_history [∀ s e, Decidable (ok s e)] {I : List E → S → Prop}
    (h : exec step ok es s = some t) (h0 : I [] s)
    (hstep : ∀ hs t e u, Run step ok s t → I hs t → ok t e → step t e = some u →
      I (hs ++ [e]) u) : I es t := by
  have hgen : ∀ es hs u, Run step ok s u → I hs u → exec step ok es u = some t →
      I (hs ++ es) t := by
    intro es
    induction es with
    | nil =>
      intro hs u _ hI hu
      cases hu
      rwa [List.append_nil]
    | cons e es ih =>
      intro hs u hr hI hu
      rw [exec] at hu
      split at hu
      · rename_i hok
        obtain ⟨v, hv, hu⟩ := Option.bind_eq_some_iff.mp hu
        have hI' := ih (hs ++ [e]) v (.tail hr hok hv) (hstep hs u e v hr hI hok hv) hu
        rwa [List.append_assoc] at hI'
      · cases hu
  exact hgen es [] s .refl h0 h

/-- **The rule for a loop** that ends at the first error. -/
theorem foldlM_invariant {ε α : Type} {f : S → α → Except ε S} {l : List α}
    (hstep : ∀ s a s', a ∈ l → I s → f s a = .ok s' → I s') (hs : I s) (h : l.foldlM f s = .ok t) :
    I t := by
  induction l generalizing s with
  | nil =>
    cases h
    exact hs
  | cons a l ih =>
    rw [List.foldlM_cons] at h
    cases hr : f s a with
    | error e =>
      rw [hr] at h
      cases h
    | ok s' =>
      rw [hr] at h
      exact ih (fun s b s' hb => hstep s b s' (List.mem_cons_of_mem a hb))
        (hstep s a s' List.mem_cons_self hs hr) h

end TcpPath.Util
