import Simulator.Foundation.Transition

/-!
# Fair interleavings

That something is reached in every interleaving is never true without a promise: a scheduler
that lets one program run for ever keeps all others from their goal.  The promise is fairness.
An infinite interleaving, in which at times nothing happens, is fair to a program if time and
again an event of the program happens, or none of them can (`FairTo`).

This is weak fairness, and less than what a real scheduler gives.  It allows any finite delay,
and it does not ask that an event happens which is possible now and then only.

## The rule

`Run.eventually` is the rule that fairness is used with.  In every state short of the goal some
program is helpful.  Its events bring the rank down, and the events of the others bring it down
too, or leave the rank and the helpful program as they are.  So the helpful program stays
helpful, and able to go on, until one of its events happens, which fairness says it will; and
the rank cannot go down for ever.

The rank is a natural number and the induction is on it.  An interleaving that comes to rest, in
a state where no program can go on, is a fair one for the trivial reason
(`exists_run_of_reaches`); a statement that fair interleavings do *not* get somewhere is proved
by such a one.
-/

namespace Simulator
namespace Foundation
namespace TransitionSystem

universe u v w

variable {σ : Type u} {ε : Type v} {T : TransitionSystem σ ε} {s : ℕ → σ} {e : ℕ → ε}

/-- An infinite interleaving: at every moment the event happens, or nothing does. -/
structure Run (T : TransitionSystem σ ε) (s : ℕ → σ) (e : ℕ → ε) : Prop where
  initial : T.IsInitial (s 0)
  next : ∀ n, T.step (s n) (e n) = some (s (n + 1)) ∨ s (n + 1) = s n

/-- The interleaving is fair to the program with the events of `P`. -/
def FairTo (T : TransitionSystem σ ε) (s : ℕ → σ) (e : ℕ → ε) (P : ε → Prop) : Prop :=
  ∀ n, ∃ m ≥ n, (P (e m) ∧ T.step (s m) (e m) = some (s (m + 1))) ∨
    ∀ e', P e' → T.step (s m) e' = none

theorem Run.reachable (h : T.Run s e) (n : ℕ) : T.Reachable (s n) := by
  induction n with
  | zero => exact ⟨s 0, h.initial, .refl⟩
  | succ n ih =>
    rcases h.next n with hstep | hsame
    · exact ih.reaches (Reaches.refl.tail hstep)
    · rwa [hsame]

/-- **A fair interleaving gets to the goal.** -/
theorem Run.eventually {κ : Type w} (h : T.Run s e) {P : κ → ε → Prop} {Q : σ → Prop}
    (helpful : σ → κ) (rank : σ → ℕ)
    (henabled : ∀ s, T.Reachable s → ¬ Q s → ∃ e s', P (helpful s) e ∧ T.step s e = some s')
    (hstep : ∀ s e s', T.Reachable s → ¬ Q s → T.step s e = some s' → Q s' ∨ rank s' < rank s ∨
      rank s' = rank s ∧ helpful s' = helpful s ∧ ¬ P (helpful s) e)
    (hfair : ∀ k, T.FairTo s e (P k)) : ∃ n, Q (s n) := by
  by_contra hnever
  have hnot : ∀ n, ¬ Q (s n) := fun n hn => hnever ⟨n, hn⟩
  -- there is no least rank
  have hdown : ∀ r n, rank (s n) = r → False := by
    intro r
    induction r using Nat.strongRecOn with
    | ind r ih =>
      intro n hn
      obtain ⟨m, hm, hhappens⟩ := hfair (helpful (s n)) n
      -- up to then nothing helpful happens, or the rank has come down
      have hwait : ∀ d, (∃ j, rank (s j) < r) ∨
          rank (s (n + d)) = r ∧ helpful (s (n + d)) = helpful (s n) := by
        intro d
        induction d with
        | zero => exact .inr ⟨hn, rfl⟩
        | succ d ihd =>
          rcases ihd with hless | ⟨hrank, hsame⟩
          · exact .inl hless
          · rcases h.next (n + d) with hnext | hnext
            · rcases hstep _ _ _ (h.reachable _) (hnot _) hnext with hgoal | hless | ⟨heq, heq', -⟩
              · exact absurd hgoal (hnot _)
              · exact .inl ⟨_, hrank ▸ hless⟩
              · exact .inr ⟨heq.trans hrank, heq'.trans hsame⟩
            · refine .inr ?_
              rw [show s (n + (d + 1)) = s (n + d) from hnext]
              exact ⟨hrank, hsame⟩
      obtain ⟨d, rfl⟩ := Nat.exists_eq_add_of_le hm
      rcases hwait d with ⟨j, hless⟩ | ⟨hrank, hsame⟩
      · exact ih _ hless j rfl
      · rcases hhappens with ⟨hP, hnext⟩ | hnone
        · rcases hstep _ _ _ (h.reachable _) (hnot _) hnext with hgoal | hless | ⟨-, -, hother⟩
          · exact hnot _ hgoal
          · exact ih _ (hrank ▸ hless) _ rfl
          · exact hother (hsame ▸ hP)
        · obtain ⟨e', s', hP, hnext⟩ := henabled _ (h.reachable (n + d)) (hnot _)
          rw [hnone e' (hsame ▸ hP)] at hnext
          exact absurd hnext (by simp)
  exact hdown _ 0 rfl

/-- **A finite interleaving after which no program can go on** is a fair one. -/
theorem exists_run_of_reaches {κ : Type w} {s₀ s₁ : σ} (hinit : T.IsInitial s₀)
    (hrun : T.Reaches s₀ s₁) (e₀ : ε) {P : κ → ε → Prop}
    (hend : ∀ k e, P k e → T.step s₁ e = none) :
    ∃ s e, T.Run s e ∧ (∀ k, T.FairTo s e (P k)) ∧ ∃ N, ∀ n ≥ N, s n = s₁ := by
  obtain ⟨s, e, N, hzero, hnext, hlast⟩ : ∃ (s : ℕ → σ) (e : ℕ → ε) (N : ℕ), s 0 = s₀ ∧
      (∀ n, T.step (s n) (e n) = some (s (n + 1)) ∨ s (n + 1) = s n) ∧ ∀ n ≥ N, s n = s₁ := by
    clear hend
    induction hrun with
    | refl => exact ⟨fun _ => s₀, fun _ => e₀, 0, rfl, fun _ => .inr rfl, fun _ _ => rfl⟩
    | @tail s' s'' e' _ he ih =>
      obtain ⟨s, e, N, hzero, hnext, hlast⟩ := ih
      refine ⟨fun n => if n ≤ N then s n else s'', fun n => if n < N then e n else e', N + 1,
        by simpa using hzero, ?_, fun n hn => if_neg (by omega)⟩
      intro n
      rcases Nat.lt_trichotomy n N with hlt | rfl | hgt
      · simp only [if_pos (Nat.le_of_lt hlt), if_pos hlt, if_pos (Nat.succ_le_of_lt hlt)]
        exact hnext n
      · simp only [if_pos (Nat.le_refl n), if_neg (Nat.lt_irrefl n),
          if_neg (Nat.not_succ_le_self n), hlast n (Nat.le_refl n)]
        exact .inl he
      · have hgt' : ¬ n + 1 ≤ N := by omega
        simp only [if_neg (Nat.not_le_of_lt hgt), if_neg hgt', or_true]
  refine ⟨s, e, ⟨hzero ▸ hinit, hnext⟩, ?_, N, hlast⟩
  intro k n
  refine ⟨max n N, Nat.le_max_left .., .inr ?_⟩
  intro e' he'
  rw [hlast _ (Nat.le_max_right ..)]
  exact hend k e' he'

end TransitionSystem

end Foundation
end Simulator
