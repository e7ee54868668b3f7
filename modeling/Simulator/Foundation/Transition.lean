import Mathlib.Data.List.Basic

/-!
# Interleavings

Several programs that run at the same time are one transition system: a state that holds
all of them and what they share, and one event for each atomic step that one of them, or
the world around them, can make.  An interleaving is a list of events.

What holds in every interleaving is proved of single events: `Inductive.reachable`.  An
invariant that needs another one to go through is `KeptUnder` it.  The interleavings whose
events all meet a condition are those of the `guarded` system.

What an interleaving has done on its way to a state cannot be seen in the state.  A statement
about it is one about the `recording` system, whose states carry a record of what the events
so far have put out.  Recording restricts nothing: every reachable state is reachable with
some record, and a record of an interleaving is a record of that very interleaving, so that
a statement about all records of a state is one about all ways to it.
-/

namespace Simulator
namespace Foundation

universe u v

/-- A state is initial or not, and an event leads from a state to the next, if it can
happen there. -/
structure TransitionSystem (σ : Type u) (ε : Type v) where
  IsInitial : σ → Prop
  step : σ → ε → Option σ

namespace TransitionSystem

variable {σ : Type u} {ε : Type v} {T : TransitionSystem σ ε} {s s' s'' : σ}

/-- Some interleaving leads from one state to the other. -/
inductive Reaches (T : TransitionSystem σ ε) (s : σ) : σ → Prop
  | refl : Reaches T s s
  | tail {s' s'' : σ} {e : ε} (h : Reaches T s s') (he : T.step s' e = some s'') : Reaches T s s''

/-- Some interleaving leads to the state from an initial one. -/
def Reachable (T : TransitionSystem σ ε) (s : σ) : Prop := ∃ s₀, T.IsInitial s₀ ∧ T.Reaches s₀ s

theorem Reaches.trans (h : T.Reaches s s') (h' : T.Reaches s' s'') : T.Reaches s s'' := by
  induction h' with
  | refl => exact h
  | tail _ he ih => exact ih.tail he

theorem Reaches.head {e : ε} (he : T.step s e = some s') (h : T.Reaches s' s'') :
    T.Reaches s s'' :=
  (Reaches.refl.tail he).trans h

theorem Reachable.reaches (h : T.Reachable s) (h' : T.Reaches s s') : T.Reachable s' := by
  obtain ⟨s₀, hinit, h₀⟩ := h
  exact ⟨s₀, hinit, h₀.trans h'⟩

/-- A list of events that can happen one after the other. -/
theorem reaches_of_foldlM {events : List ε} (h : events.foldlM T.step s = some s') :
    T.Reaches s s' := by
  induction events generalizing s with
  | nil =>
    obtain rfl : s = s' := Option.some.inj h
    exact .refl
  | cons e events ih =>
    rw [List.foldlM_cons] at h
    obtain ⟨s₁, he, h⟩ := Option.bind_eq_some_iff.mp h
    exact .head he (ih h)

/-! ## Invariants -/

/-- `I` is kept by every event, where `J` holds. -/
def KeptUnder (T : TransitionSystem σ ε) (J I : σ → Prop) : Prop :=
  ∀ s e s', J s → I s → T.step s e = some s' → I s'

/-- `I` holds initially and is kept by every event. -/
structure Inductive (T : TransitionSystem σ ε) (I : σ → Prop) : Prop where
  initial : ∀ s, T.IsInitial s → I s
  step : ∀ s e s', I s → T.step s e = some s' → I s'

/-- What is kept by every event holds in every state an interleaving leads to. -/
theorem Reaches.invariant {I : σ → Prop} (hstep : ∀ s e s', I s → T.step s e = some s' → I s')
    (h : T.Reaches s s') (hs : I s) : I s' := by
  induction h with
  | refl => exact hs
  | tail _ he ih => exact hstep _ _ _ ih he

/-- **An inductive invariant holds in every interleaving.** -/
theorem Inductive.reachable {I : σ → Prop} (h : T.Inductive I) (hs : T.Reachable s) : I s := by
  obtain ⟨s₀, hinit, hrun⟩ := hs
  exact hrun.invariant h.step (h.initial s₀ hinit)

theorem Inductive.under {I J : σ → Prop} (hJ : T.Inductive J)
    (hinit : ∀ s, T.IsInitial s → I s) (hkept : T.KeptUnder J I) (hs : T.Reachable s) : I s :=
  (Inductive.reachable (I := fun s => J s ∧ I s)
    ⟨fun s h => ⟨hJ.initial s h, hinit s h⟩,
      fun s e s' h he => ⟨hJ.step s e s' h.1 he, hkept s e s' h.1 h.2 he⟩⟩ hs).2

/-! ## Guards -/

section Guarded

variable {e : ε} {C : σ → ε → Prop} [∀ s e, Decidable (C s e)]

/-- The same programs, in the interleavings whose events all meet a condition. -/
def guarded (T : TransitionSystem σ ε) (C : σ → ε → Prop) [∀ s e, Decidable (C s e)] :
    TransitionSystem σ ε where
  IsInitial := T.IsInitial
  step s e := if C s e then T.step s e else none

theorem of_step_guarded (h : (T.guarded C).step s e = some s') : C s e ∧ T.step s e = some s' := by
  simp only [guarded] at h
  split at h
  · exact ⟨‹_›, h⟩
  · simp at h

theorem step_guarded (hC : C s e) (h : T.step s e = some s') :
    (T.guarded C).step s e = some s' := by
  simp only [guarded, if_pos hC, h]

theorem reaches_guarded_of_foldlM {events : List ε} (hC : ∀ e ∈ events, ∀ s, C s e)
    (h : events.foldlM T.step s = some s') : (T.guarded C).Reaches s s' := by
  induction events generalizing s with
  | nil =>
    obtain rfl : s = s' := Option.some.inj h
    exact .refl
  | cons e events ih =>
    obtain ⟨he, hevents⟩ := List.forall_mem_cons.mp hC
    rw [List.foldlM_cons] at h
    obtain ⟨s₁, hstep, h⟩ := Option.bind_eq_some_iff.mp h
    exact .head (step_guarded (he s) hstep) (ih hevents h)

/-- From where the condition is always met. -/
theorem Reaches.guarded {I : σ → Prop} (hstep : ∀ s e s', I s → T.step s e = some s' → C s e ∧ I s')
    (h : T.Reaches s s') (hs : I s) : (T.guarded C).Reaches s s' ∧ I s' := by
  induction h with
  | refl => exact ⟨.refl, hs⟩
  | tail _ he ih =>
    obtain ⟨hC, hI⟩ := hstep _ _ _ ih.2 he
    exact ⟨ih.1.tail (step_guarded hC he), hI⟩

/-- Up to where the condition has always been met. -/
theorem Reaches.guarded_of_last {I : σ → Prop}
    (hstep : ∀ s e s', T.step s e = some s' → I s' → C s e ∧ I s) (h : T.Reaches s s')
    (hs' : I s') : (T.guarded C).Reaches s s' := by
  induction h with
  | refl => exact .refl
  | tail _ he ih =>
    obtain ⟨hC, hI⟩ := hstep _ _ _ he hs'
    exact (ih hI).tail (step_guarded hC he)

end Guarded

/-! ## Records -/

section Recording

variable {ω : Type*} {out : σ → ε → List ω} {record : List ω}

/-- The same programs, with a record of what the events put out. -/
def recording (T : TransitionSystem σ ε) (out : σ → ε → List ω) :
    TransitionSystem (σ × List ω) ε where
  IsInitial s := T.IsInitial s.1 ∧ s.2 = []
  step s e := (T.step s.1 e).map fun s' => (s', s.2 ++ out s.1 e)

theorem step_recording {e : ε} (h : T.step s e = some s') :
    (T.recording out).step (s, record) e = some (s', record ++ out s e) := by
  simp only [recording, h, Option.map_some]

theorem of_step_recording {e : ε} {s s' : σ × List ω}
    (h : (T.recording out).step s e = some s') :
    T.step s.1 e = some s'.1 ∧ s'.2 = s.2 ++ out s.1 e := by
  obtain ⟨s₁, hstep, rfl⟩ := Option.map_eq_some_iff.mp h
  exact ⟨hstep, rfl⟩

/-- Every interleaving has a record. -/
theorem Reachable.exists_record (out : σ → ε → List ω) (h : T.Reachable s) :
    ∃ record, (T.recording out).Reachable (s, record) := by
  obtain ⟨s₀, hinit, hrun⟩ := h
  induction hrun with
  | refl => exact ⟨[], (s₀, []), ⟨hinit, rfl⟩, .refl⟩
  | tail _ he ih =>
    obtain ⟨record, hrecord⟩ := ih
    exact ⟨_, hrecord.reaches (.tail .refl (step_recording he))⟩

end Recording

end TransitionSystem

end Foundation
end Simulator
