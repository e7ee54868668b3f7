import Mathlib.Data.List.Basic

/-!
# Loops that may throw

A loop of a program that may throw is a `List.foldlM` in `Except ε`.  This file
has the rules such loops are reasoned with, and nothing about any particular
loop.

* `bind_eq_ok`: a sequence succeeds exactly when both of its halves do.
* `exists_of_toOption_bind`: the state an evaluated run has ended in.
* `foldlM_total`: a loop whose body succeeds and keeps an invariant succeeds and
  keeps the invariant.
* `foldlM_queue`: the same with an invariant about what is left of the list.
* `foldlM_invariant`: the same for a loop that is known to have succeeded.
* `foldlM_eq_foldl`: a loop whose body is a pure function on the states it meets
  is the pure loop.
* `foldl_establishes`: what each round establishes about its own index, and no
  round destroys, holds of every index at the end.
* `foldlM_transport`: a loop that has succeeded can be made behind a map of the
  states.
* `foldl_comm_foldl`: two loops whose rounds commute can be run in either order.
* `foldl_perm`: a loop whose rounds commute with one another can be run over its list
  in any order.
* `rounds`: the rounds a loop makes, the one that throws included.
-/

namespace Simulator
namespace Foundation

universe u

variable {ε σ α β : Type u}

theorem bind_eq_ok {x : Except ε α} {f : α → Except ε β} {b : β} :
    (x >>= f) = .ok b ↔ ∃ a, x = .ok a ∧ f a = .ok b := by
  cases x with
  | error e => simp [bind, Except.bind]
  | ok a => simp [bind, Except.bind]

/-- What follows need only agree on what has been returned. -/
theorem bind_congr_of_ok {x : Except ε α} {f g : α → Except ε β} (h : ∀ a, x = .ok a → f a = g a) :
    (x >>= f) = (x >>= g) := by
  cases x with
  | error e => rfl
  | ok a => exact h a rfl

/-- What an evaluation has found out about a result. -/
theorem exists_of_toOption_bind {x : Except ε α} {f : α → Option β} {b : β}
    (h : x.toOption.bind f = some b) : ∃ a, x = .ok a ∧ f a = some b := by
  cases x with
  | error e => simp [Except.toOption] at h
  | ok a => exact ⟨a, rfl, h⟩

@[simp] theorem ok_bind (a : α) (f : α → Except ε β) : ((.ok a : Except ε α) >>= f) = f a :=
  rfl

@[simp] theorem pure_eq_ok (a : α) : (pure a : Except ε α) = .ok a :=
  rfl

/-! ## One loop -/

/-- **The loop rule.**  If the body succeeds from every state with the invariant
and restores it, so does the loop. -/
theorem foldlM_total {f : σ → α → Except ε σ} {I : σ → Prop} {l : List α}
    (hstep : ∀ s, I s → ∀ a ∈ l, ∃ s', f s a = .ok s' ∧ I s') {s : σ} (hs : I s) :
    ∃ s', l.foldlM f s = .ok s' ∧ I s' := by
  induction l generalizing s with
  | nil => exact ⟨s, rfl, hs⟩
  | cons a l ih =>
    obtain ⟨s₁, h₁, hI₁⟩ := hstep s hs a (List.mem_cons_self ..)
    obtain ⟨s₂, h₂, hI₂⟩ := ih (fun s hs b hb => hstep s hs b (List.mem_cons_of_mem _ hb)) hI₁
    exact ⟨s₂, by rw [List.foldlM_cons, h₁, ok_bind, h₂], hI₂⟩

/-- The loop rule for a loop that consumes a queue: the invariant may speak about
what is left of it. -/
theorem foldlM_queue {f : σ → α → Except ε σ} {I : List α → σ → Prop}
    (hstep : ∀ a l s, I (a :: l) s → ∃ s', f s a = .ok s' ∧ I l s') {l : List α} {s : σ}
    (hs : I l s) : ∃ s', l.foldlM f s = .ok s' ∧ I [] s' := by
  induction l generalizing s with
  | nil => exact ⟨s, rfl, hs⟩
  | cons a l ih =>
    obtain ⟨s₁, h₁, hI₁⟩ := hstep a l s hs
    obtain ⟨s₂, h₂, hI₂⟩ := ih hI₁
    exact ⟨s₂, by rw [List.foldlM_cons, h₁, ok_bind, h₂], hI₂⟩

/-- The queue rule for a loop that is known to have succeeded. -/
theorem foldlM_queue_invariant {f : σ → α → Except ε σ} {I : List α → σ → Prop}
    (hstep : ∀ a l s s', I (a :: l) s → f s a = .ok s' → I l s') {l : List α} {s s' : σ}
    (hs : I l s) (h : l.foldlM f s = .ok s') : I [] s' := by
  induction l generalizing s with
  | nil => exact Except.ok.inj h ▸ hs
  | cons a l ih =>
    rw [List.foldlM_cons, bind_eq_ok] at h
    obtain ⟨s₁, h₁, h₂⟩ := h
    exact ih (hstep a l s s₁ hs h₁) h₂

theorem foldlM_invariant {f : σ → α → Except ε σ} {I : σ → Prop} {l : List α}
    (hstep : ∀ s s' a, I s → a ∈ l → f s a = .ok s' → I s') {s s' : σ} (hs : I s)
    (h : l.foldlM f s = .ok s') : I s' :=
  (foldlM_queue_invariant (I := fun rest s => (∀ a ∈ rest, a ∈ l) ∧ I s)
    (fun a _ s s' hs h => ⟨fun b hb => hs.1 b (List.mem_cons_of_mem _ hb),
      hstep s s' a hs.2 (hs.1 a (List.mem_cons_self ..)) h⟩) ⟨fun _ h => h, hs⟩ h).2

/-- A loop that computes one value for each element. -/
theorem exists_mapM_eq_ok {f : α → Except ε β} {l : List α} (h : ∀ a ∈ l, ∃ b, f a = .ok b) :
    ∃ bs, l.mapM f = .ok bs := by
  induction l with
  | nil => exact ⟨[], rfl⟩
  | cons a l ih =>
    obtain ⟨b, hb⟩ := h a (List.mem_cons_self ..)
    obtain ⟨bs, hbs⟩ := ih fun a ha => h a (List.mem_cons_of_mem _ ha)
    exact ⟨b :: bs, by rw [List.mapM_cons, hb, ok_bind, hbs, ok_bind, pure_eq_ok]⟩

/-- The values of a loop that has computed one for each element. -/
theorem forall₂_of_mapM {f : α → Except ε β} {l : List α} {bs : List β} (h : l.mapM f = .ok bs) :
    List.Forall₂ (fun a b => f a = .ok b) l bs := by
  induction l generalizing bs with
  | nil =>
    obtain rfl := Except.ok.inj h
    exact .nil
  | cons a l ih =>
    rw [List.mapM_cons] at h
    obtain ⟨b, hb, h⟩ := bind_eq_ok.mp h
    obtain ⟨bs', hbs, h⟩ := bind_eq_ok.mp h
    obtain rfl := Except.ok.inj h
    exact .cons hb (ih hbs)

theorem exists_of_forall₂ {R : α → β → Prop} {l : List α} {bs : List β} (h : List.Forall₂ R l bs)
    {b : β} (hb : b ∈ bs) : ∃ a ∈ l, R a b := by
  induction h with
  | nil => simp at hb
  | @cons a b' l bs hab _ ih =>
    rcases List.mem_cons.mp hb with rfl | hb
    · exact ⟨a, List.mem_cons_self .., hab⟩
    · obtain ⟨a', ha', hab'⟩ := ih hb
      exact ⟨a', List.mem_cons_of_mem _ ha', hab'⟩

/-- A loop whose body is a pure function on the states it meets is the pure
loop. -/
theorem foldlM_eq_foldl {f : σ → α → Except ε σ} {g : σ → α → σ} {I : σ → Prop} {l : List α}
    (hf : ∀ s, I s → ∀ a ∈ l, f s a = .ok (g s a)) (hg : ∀ s, I s → ∀ a ∈ l, I (g s a)) {s : σ}
    (hs : I s) : l.foldlM f s = .ok (l.foldl g s) := by
  induction l generalizing s with
  | nil => rfl
  | cons a l ih =>
    rw [List.foldlM_cons, hf s hs a (List.mem_cons_self ..), ok_bind, List.foldl_cons]
    exact ih (fun s hs b hb => hf s hs b (List.mem_cons_of_mem _ hb))
      (fun s hs b hb => hg s hs b (List.mem_cons_of_mem _ hb)) (hg s hs a (List.mem_cons_self ..))

/-- The loop rule for a pure loop. -/
theorem foldl_invariant {g : σ → α → σ} {I : σ → Prop} {l : List α}
    (hg : ∀ s, I s → ∀ a ∈ l, I (g s a)) {s : σ} (hs : I s) : I (l.foldl g s) := by
  induction l generalizing s with
  | nil => exact hs
  | cons a l ih =>
    exact ih (fun s hs b hb => hg s hs b (List.mem_cons_of_mem _ hb))
      (hg s hs a (List.mem_cons_self ..))

/-- **What every round establishes.**  If the round of `a` establishes `Q a`, and
no round destroys `Q b` for any `b`, then the loop ends with `Q a` for every `a`
it ran over. -/
theorem foldl_establishes {g : σ → α → σ} {I : σ → Prop} {Q : α → σ → Prop} {l : List α}
    (hg : ∀ s, I s → ∀ a ∈ l, I (g s a)) (hest : ∀ s, I s → ∀ a ∈ l, Q a (g s a))
    (hkeep : ∀ s, I s → ∀ a ∈ l, ∀ b, Q b s → Q b (g s a)) {s : σ} (hs : I s) :
    ∀ a ∈ l, Q a (l.foldl g s) := by
  have hall : ∀ (l' : List α), (∀ a ∈ l', a ∈ l) → ∀ s, I s →
      (∀ b, Q b s → Q b (l'.foldl g s)) ∧ ∀ a ∈ l', Q a (l'.foldl g s) := by
    intro l'
    induction l' with
    | nil => exact fun _ s _ => ⟨fun b hb => hb, by simp⟩
    | cons a l' ih =>
      intro hsub s hs
      have ha := hsub a (List.mem_cons_self ..)
      obtain ⟨hkeep', hest'⟩ :=
        ih (fun b hb => hsub b (List.mem_cons_of_mem _ hb)) (g s a) (hg s hs a ha)
      refine ⟨fun b hb => hkeep' b (hkeep s hs a ha b hb), ?_⟩
      intro b hb
      rcases List.mem_cons.mp hb with rfl | hb
      · exact hkeep' b (hest s hs b ha)
      · exact hest' b hb
  exact (hall l (fun _ h => h) s hs).2

/-- The same for a loop that is known to have succeeded. -/
theorem foldlM_establishes {f : σ → α → Except ε σ} {I : σ → Prop} {Q : α → σ → Prop} {l : List α}
    (hstep : ∀ s s' a, I s → a ∈ l → f s a = .ok s' → I s' ∧ Q a s' ∧ ∀ b, Q b s → Q b s')
    {s s' : σ} (hs : I s) (h : l.foldlM f s = .ok s') :
    I s' ∧ (∀ a ∈ l, Q a s') ∧ ∀ b, Q b s → Q b s' := by
  induction l generalizing s with
  | nil =>
    obtain rfl : s = s' := Except.ok.inj h
    exact ⟨hs, by simp, fun _ hb => hb⟩
  | cons a l ih =>
    rw [List.foldlM_cons, bind_eq_ok] at h
    obtain ⟨s₁, h₁, h₂⟩ := h
    obtain ⟨hs₁, hest, hkeep⟩ := hstep s s₁ a hs (List.mem_cons_self ..) h₁
    obtain ⟨hs', hest', hkeep'⟩ :=
      ih (fun s s' b hs hb => hstep s s' b hs (List.mem_cons_of_mem _ hb)) hs₁ h₂
    refine ⟨hs', ?_, fun b hb => hkeep' b (hkeep b hb)⟩
    intro b hb
    rcases List.mem_cons.mp hb with rfl | hb
    · exact hkeep' b hest
    · exact hest' b hb

/-! ## Two loops -/

/-- A loop that is known to have succeeded, seen through a map of the states: if every
round can be made behind the map, so can the loop. -/
theorem foldlM_transport {ε' τ : Type u} (g : σ → τ) {f : σ → α → Except ε σ}
    {f' : τ → α → Except ε' τ} {I : σ → Prop} {l : List α}
    (hstep : ∀ s s' a, I s → a ∈ l → f s a = .ok s' → f' (g s) a = .ok (g s') ∧ I s') {s s' : σ}
    (hs : I s) (h : l.foldlM f s = .ok s') : l.foldlM f' (g s) = .ok (g s') ∧ I s' := by
  induction l generalizing s with
  | nil =>
    obtain rfl : s = s' := Except.ok.inj h
    exact ⟨rfl, hs⟩
  | cons a l ih =>
    rw [List.foldlM_cons, bind_eq_ok] at h
    obtain ⟨s₁, h₁, h₂⟩ := h
    obtain ⟨h₁', hs₁⟩ := hstep s s₁ a hs (List.mem_cons_self ..) h₁
    rw [List.foldlM_cons, h₁', ok_bind]
    exact ih (fun s s' b hs hb => hstep s s' b hs (List.mem_cons_of_mem _ hb)) hs₁ h₂

/-- A round that commutes with every round of a loop commutes with the loop.  The
invariant may speak about what is left of the loop. -/
theorem foldl_comm_step {g : σ → α → σ} {k : σ → σ} {I : List α → σ → Prop}
    (hg : ∀ a l s, I (a :: l) s → I l (g s a))
    (hcomm : ∀ a l s, I (a :: l) s → k (g s a) = g (k s) a) {l : List α} {s : σ} (hs : I l s) :
    k (l.foldl g s) = l.foldl g (k s) := by
  induction l generalizing s with
  | nil => rfl
  | cons a l ih =>
    rw [List.foldl_cons, List.foldl_cons, ih (hg a l s hs), hcomm a l s hs]

/-- **Two loops whose rounds commute can be run in either order.**  The invariant may
speak about what is left of both. -/
theorem foldl_comm_foldl {g : σ → α → σ} {k : σ → β → σ} {I : List α → List β → σ → Prop}
    (hg : ∀ a l m s, I (a :: l) m s → I l m (g s a))
    (hk : ∀ b l m s, I l (b :: m) s → I l m (k s b))
    (hcomm : ∀ a l b m s, I (a :: l) (b :: m) s → k (g s a) b = g (k s b) a) {l : List α}
    {m : List β} {s : σ} (hs : I l m s) : m.foldl k (l.foldl g s) = l.foldl g (m.foldl k s) := by
  induction m generalizing s with
  | nil => rfl
  | cons b m ih =>
    have hstep : k (l.foldl g s) b = l.foldl g (k s b) :=
      foldl_comm_step (k := fun s => k s b) (I := fun l s => I l (b :: m) s)
        (fun a l s => hg a l (b :: m) s) (fun a l s => hcomm a l b m s) hs
    rw [List.foldl_cons, List.foldl_cons, hstep, ih (hk b l m s hs)]

/-- **A loop whose rounds commute can be run in any order.** -/
theorem foldl_perm {g : σ → α → σ} {I : σ → Prop} {l l' : List α} (h : l.Perm l')
    (hg : ∀ s, I s → ∀ a ∈ l, I (g s a))
    (hcomm : ∀ s, I s → ∀ a ∈ l, ∀ b ∈ l, g (g s a) b = g (g s b) a) {s : σ} (hs : I s) :
    l.foldl g s = l'.foldl g s := by
  induction h generalizing s with
  | nil => rfl
  | cons a _ ih =>
    exact ih (fun s hs b hb => hg s hs b (List.mem_cons_of_mem _ hb))
      (fun s hs b hb b' hb' =>
        hcomm s hs b (List.mem_cons_of_mem _ hb) b' (List.mem_cons_of_mem _ hb'))
      (hg s hs a (List.mem_cons_self ..))
  | swap a b l =>
    rw [List.foldl_cons, List.foldl_cons, List.foldl_cons, List.foldl_cons,
      hcomm s hs b (by simp) a (by simp)]
  | trans h₁ _ ih₁ ih₂ =>
    rw [ih₁ hg hcomm hs]
    exact ih₂ (fun s hs a ha => hg s hs a (h₁.mem_iff.mpr ha))
      (fun s hs a ha b hb => hcomm s hs a (h₁.mem_iff.mpr ha) b (h₁.mem_iff.mpr hb)) hs

/-! ## The rounds of a loop -/

/-- A run without end, when there is always a next step. -/
theorem exists_sequence {P : α → Prop} {R : ℕ → α → α → Prop}
    (hstep : ∀ k a, P a → ∃ a', R k a a' ∧ P a') {a : α} (ha : P a) :
    ∃ run : ℕ → α, run 0 = a ∧ ∀ k, R k (run k) (run (k + 1)) := by
  choose! next hnext hP using hstep
  let run : ℕ → α := fun k => Nat.rec a next k
  have hrun : ∀ k, P (run k) := fun k => Nat.rec ha (fun k ih => hP k (run k) ih) k
  exact ⟨run, rfl, fun k => hnext k (run k) (hrun k)⟩

/-- The rounds that a loop makes: the element, the state before it, and what the body
returns.  There is none after one that throws. -/
def rounds (f : σ → α → Except ε σ) : σ → List α → List (α × σ × Except ε σ)
  | _, [] => []
  | s, a :: l => (a, s, f s a) :: match f s a with
    | .ok s' => rounds f s' l
    | .error _ => []

/-- The loop rule, seen at the beginning of every round. -/
theorem rounds_invariant {f : σ → α → Except ε σ} {I : σ → Prop} {l : List α}
    (hstep : ∀ s s' a, I s → a ∈ l → f s a = .ok s' → I s') {s : σ} (hs : I s) :
    ∀ r ∈ rounds f s l, r.1 ∈ l ∧ I r.2.1 ∧ r.2.2 = f r.2.1 r.1 := by
  induction l generalizing s with
  | nil => simp [rounds]
  | cons a l ih =>
    intro r hr
    rcases List.mem_cons.mp hr with rfl | hr
    · exact ⟨List.mem_cons_self .., hs, rfl⟩
    · cases hf : f s a with
      | error e => simp [hf] at hr
      | ok s' =>
        rw [hf] at hr
        obtain ⟨hmem, hI, heq⟩ := ih
          (fun s s' b hs hb => hstep s s' b hs (List.mem_cons_of_mem _ hb))
          (hstep s s' a hs (List.mem_cons_self ..) hf) r hr
        exact ⟨List.mem_cons_of_mem _ hmem, hI, heq⟩

end Foundation
end Simulator
