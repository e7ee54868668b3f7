import Mathlib.Data.List.Nodup
import Mathlib.Logic.Function.Basic
import Mathlib.Tactic.Ring
import Simulator.Foundation.Loops

/-!
# Breadth-first search

A search from a root with a queue, a table of the visited nodes and a table that leads
back: `next v` is the node from which `v` was found.  The graph is given by the list of
the neighbours of each node; it need not be symmetric.

The invariant is `Layered`.  It speaks of a level for every visited node, which the
program does not compute: the levels go up along the queue, by one at most, and a node
whose neighbours have been looked at is not above any node of the queue.  That is what
makes the levels distances (`Layered.level_le`), and `next` one step of a shortest way
back.

Each node enters the queue once, so that as many rounds as there are nodes empty it
(`queue_search`).
-/

namespace Simulator
namespace Foundation

universe u

variable {α : Type u}

/-- There is a way of `n` steps. -/
inductive Steps (neighbours : α → List α) : ℕ → α → α → Prop
  | refl (a : α) : Steps neighbours 0 a a
  | tail {n : ℕ} {a b c : α} (h : Steps neighbours n a b) (hc : c ∈ neighbours b) :
      Steps neighbours (n + 1) a c

theorem Steps.head {neighbours : α → List α} {n : ℕ} {a b c : α} (h : Steps neighbours n b c)
    (hb : b ∈ neighbours a) : Steps neighbours (n + 1) a c := by
  induction h with
  | refl => exact .tail (.refl a) hb
  | tail _ hc ih => exact .tail (ih hb) hc

/-- The state of a search. -/
structure Search (α : Type u) where
  queue : List α
  visited : α → Bool
  next : α → α

namespace Search

variable [DecidableEq α]

/-- Look at a neighbour of the current node. -/
def visit (current : α) (s : Search α) (neighbour : α) : Search α :=
  if s.visited neighbour then s
  else {
    queue := s.queue ++ [neighbour]
    visited := Function.update s.visited neighbour true
    next := Function.update s.next neighbour current }

/-- A round: take the next node from the queue and look at its neighbours. -/
def expand (neighbours : α → List α) (s : Search α) : Search α :=
  match s.queue with
  | [] => s
  | current :: queue => (neighbours current).foldl (visit current) { s with queue }

/-- The loop over the queue; the first argument bounds the number of rounds. -/
def search (neighbours : α → List α) : ℕ → Search α → Search α
  | 0, s => s
  | n + 1, s => search neighbours n (expand neighbours s)

/-- Where a search from `root` begins. -/
def start (root : α) (next : α → α) : Search α where
  queue := [root]
  visited := Function.update (fun _ => false) root true
  next := Function.update next root root

variable {neighbours : α → List α}

/-! ## What a round does -/

/-- What looking at some neighbours does. -/
theorem foldl_visit (current : α) (l : List α) (s : Search α) :
    ∃ fresh : List α, fresh.Sublist l ∧ (∀ v, v ∈ fresh ↔ v ∈ l ∧ s.visited v = false) ∧
      l.foldl (visit current) s = {
        queue := s.queue ++ fresh
        visited := fun v => s.visited v || decide (v ∈ l)
        next := fun v => if v ∈ l ∧ s.visited v = false then current else s.next v } := by
  induction l generalizing s with
  | nil => exact ⟨[], .slnil, by simp, by simp⟩
  | cons neighbour l ih =>
    rw [List.foldl_cons]
    by_cases hseen : s.visited neighbour = true
    · obtain ⟨fresh, hsub, hfresh, hfold⟩ := ih s
      refine ⟨fresh, hsub.cons _, ?_, ?_⟩
      · intro v
        rw [hfresh, List.mem_cons]
        constructor
        · rintro ⟨hv, hnew⟩
          exact ⟨.inr hv, hnew⟩
        · rintro ⟨rfl | hv, hnew⟩
          · simp [hseen] at hnew
          · exact ⟨hv, hnew⟩
      · rw [visit, if_pos hseen, hfold]
        congr 1
        · ext v
          by_cases hv : v = neighbour
          · simp [hv, hseen]
          · simp [hv]
        · ext v
          by_cases hv : v = neighbour
          · simp [hv, hseen]
          · simp [hv]
    · obtain ⟨fresh, hsub, hfresh, hfold⟩ := ih (visit current s neighbour)
      have hvisit : visit current s neighbour = {
          queue := s.queue ++ [neighbour]
          visited := Function.update s.visited neighbour true
          next := Function.update s.next neighbour current } := if_neg hseen
      rw [hvisit] at hfresh hfold
      refine ⟨neighbour :: fresh, hsub.cons_cons _, ?_, ?_⟩
      · intro v
        rw [List.mem_cons, hfresh, List.mem_cons]
        by_cases hv : v = neighbour
        · simp [hv, hseen]
        · simp [hv]
      · rw [hvisit, hfold]
        congr 1
        · simp
        · ext v
          by_cases hv : v = neighbour
          · simp [hv]
          · simp [hv]
        · ext v
          by_cases hv : v = neighbour
          · simp [hv, hseen]
          · simp [hv]

/-- What a round does: the neighbours that are new enter the queue, in their order. -/
theorem expand_cons {s : Search α} {current : α} {queue : List α}
    (hqueue : s.queue = current :: queue) :
    ∃ fresh : List α, fresh.Sublist (neighbours current) ∧
      (∀ v, v ∈ fresh ↔ v ∈ neighbours current ∧ s.visited v = false) ∧
      expand neighbours s = {
        queue := queue ++ fresh
        visited := fun v => s.visited v || decide (v ∈ neighbours current)
        next := fun v =>
          if v ∈ neighbours current ∧ s.visited v = false then current else s.next v } := by
  obtain ⟨fresh, hsub, hfresh, hfold⟩ :=
    foldl_visit current (neighbours current) { s with queue }
  refine ⟨fresh, hsub, hfresh, ?_⟩
  rw [expand, hqueue]
  exact hfold

/-- A node that has left the queue after a round had left it before, or is the current one. -/
theorem done_of_expand {s : Search α} {current : α} {queue fresh : List α}
    (hqueue : s.queue = current :: queue)
    (hfresh : ∀ v, v ∈ fresh ↔ v ∈ neighbours current ∧ s.visited v = false) {v : α}
    (hv : (s.visited v || decide (v ∈ neighbours current)) = true) (hnotin : v ∉ queue ++ fresh) :
    s.visited v = true ∧ (v = current ∨ v ∉ s.queue) := by
  rw [List.mem_append, not_or] at hnotin
  have hvisited : s.visited v = true := by
    by_contra hunseen
    have hunseen' : s.visited v = false := by simpa using hunseen
    rw [hunseen', Bool.false_or, decide_eq_true_iff] at hv
    exact hnotin.2 ((hfresh v).mpr ⟨hv, hunseen'⟩)
  refine ⟨hvisited, ?_⟩
  rw [hqueue, List.mem_cons, not_or]
  by_cases hv' : v = current
  · exact .inl hv'
  · exact .inr ⟨hv', hnotin.1⟩

theorem search_keeps {I : Search α → Prop} (hround : ∀ s, I s → I (expand neighbours s)) (n : ℕ)
    {s : Search α} (hs : I s) : I (search neighbours n s) := by
  induction n generalizing s with
  | zero => exact hs
  | succ n ih => exact ih (hround s hs)

/-! ## The layers -/

/-- The invariant of a search from `root`, with the level of every visited node. -/
structure Layered (neighbours : α → List α) (root : α) (next₀ : α → α) (s : Search α)
    (level : α → ℕ) : Prop where
  root_visited : s.visited root = true
  root_level : level root = 0
  root_next : s.next root = root
  way : ∀ v, s.visited v = true → Steps neighbours (level v) root v
  back : ∀ v, s.visited v = true → v ≠ root →
    s.visited (s.next v) = true ∧ v ∈ neighbours (s.next v) ∧ level v = level (s.next v) + 1
  untouched : ∀ v, s.visited v = false → s.next v = next₀ v
  queue_visited : ∀ v ∈ s.queue, s.visited v = true
  queue_sorted : s.queue.Pairwise fun a b => level a ≤ level b
  queue_near : ∀ a ∈ s.queue, ∀ b ∈ s.queue, level b ≤ level a + 1
  done_below : ∀ u, s.visited u = true → u ∉ s.queue → ∀ a ∈ s.queue, level u ≤ level a
  done_closed : ∀ u, s.visited u = true → u ∉ s.queue →
    ∀ w ∈ neighbours u, s.visited w = true ∧ level w ≤ level u + 1

section Layered

variable {root : α} {next₀ : α → α} {s : Search α} {level : α → ℕ}

theorem layered_start (neighbours : α → List α) (root : α) (next₀ : α → α) :
    Layered neighbours root next₀ (start root next₀) fun _ => 0 := by
  have hvisited : ∀ v, (start root next₀).visited v = true ↔ v = root := fun v => by
    simp [start, Function.update_apply]
  constructor
  case root_visited => exact (hvisited root).mpr rfl
  case root_level => rfl
  case root_next => exact Function.update_self ..
  case way =>
    intro v hv
    rw [(hvisited v).mp hv]
    exact .refl root
  case back => exact fun v hv hne => absurd ((hvisited v).mp hv) hne
  case untouched =>
    intro v hv
    have hne : v ≠ root := fun h => by rw [(hvisited v).mpr h] at hv; simp at hv
    exact Function.update_of_ne hne ..
  case queue_visited => exact fun v hv => (hvisited v).mpr (List.mem_singleton.mp hv)
  case queue_sorted => exact List.pairwise_singleton ..
  case queue_near => exact fun _ _ _ _ => Nat.zero_le _
  case done_below => exact fun _ _ _ _ _ => le_rfl
  case done_closed =>
    intro u hu hqueue
    exact absurd (List.mem_singleton.mpr ((hvisited u).mp hu)) hqueue

/-- The levels after a round from `current`. -/
def deeper (neighbours : α → List α) (s : Search α) (level : α → ℕ) (current : α) (v : α) : ℕ :=
  if v ∈ neighbours current ∧ s.visited v = false then level current + 1 else level v

theorem deeper_of_visited {current v : α} (hv : s.visited v = true) :
    deeper neighbours s level current v = level v := if_neg (by simp [hv])

/-- **A round keeps the layers.** -/
theorem Layered.expand (h : Layered neighbours root next₀ s level) :
    ∃ level', Layered neighbours root next₀ (expand neighbours s) level' := by
  cases hqueue : s.queue with
  | nil => exact ⟨level, by rwa [Search.expand, hqueue]⟩
  | cons current queue =>
    obtain ⟨fresh, -, hfresh, hexpand⟩ := expand_cons hqueue
    have hmem : ∀ v ∈ queue, v ∈ s.queue := fun v hv => hqueue ▸ List.mem_cons_of_mem _ hv
    have hcurrent : current ∈ s.queue := hqueue ▸ List.mem_cons_self ..
    have hseen := h.queue_visited current hcurrent
    -- the levels of the old nodes, and of the new ones
    have hold : ∀ v, s.visited v = true → deeper neighbours s level current v = level v :=
      fun v hv => deeper_of_visited hv
    have hnew : ∀ v ∈ fresh, deeper neighbours s level current v = level current + 1 :=
      fun v hv => if_pos ((hfresh v).mp hv)
    have hsorted := List.pairwise_cons.mp (hqueue ▸ h.queue_sorted)
    refine ⟨deeper neighbours s level current, ?_⟩
    rw [hexpand]
    constructor
    case root_visited => simp [h.root_visited]
    case root_level => rw [hold root h.root_visited, h.root_level]
    case root_next => simp [h.root_visited, h.root_next]
    case way =>
      intro v hv
      by_cases hvisited : s.visited v = true
      · rw [hold v hvisited]
        exact h.way v hvisited
      · have hv' : v ∈ neighbours current ∧ s.visited v = false := by simpa [hvisited] using hv
        rw [deeper, if_pos hv']
        exact .tail (h.way current hseen) hv'.1
    case back =>
      intro v hv hne
      by_cases hvisited : s.visited v = true
      · obtain ⟨hback, hedge, hlevel⟩ := h.back v hvisited hne
        simp only [hvisited, reduceCtorEq, and_false, if_false, hback, Bool.true_or, true_and]
        exact ⟨hedge, by rw [hold v hvisited, hold _ hback, hlevel]⟩
      · have hv' : v ∈ neighbours current ∧ s.visited v = false := by simpa [hvisited] using hv
        simp only [if_pos hv', hseen, Bool.true_or, true_and]
        exact ⟨hv'.1, by rw [hold current hseen, deeper, if_pos hv']⟩
    case untouched =>
      intro v hv
      obtain ⟨hunseen, hnot⟩ : s.visited v = false ∧ v ∉ neighbours current := by simpa using hv
      simp only [hnot, false_and, if_false]
      exact h.untouched v hunseen
    case queue_visited =>
      intro v hv
      rcases List.mem_append.mp hv with hv | hv
      · simp [h.queue_visited v (hmem v hv)]
      · simp [((hfresh v).mp hv).1]
    case queue_sorted =>
      refine List.pairwise_append.mpr ⟨?_, ?_, ?_⟩
      · refine hsorted.2.imp_of_mem ?_
        intro a b ha hb hab
        rw [hold a (h.queue_visited a (hmem a ha)), hold b (h.queue_visited b (hmem b hb))]
        exact hab
      · refine List.pairwise_of_forall_mem_list ?_
        intro a ha b hb
        rw [hnew a ha, hnew b hb]
      · intro a ha b hb
        rw [hold a (h.queue_visited a (hmem a ha)), hnew b hb]
        exact h.queue_near current hcurrent a (hmem a ha)
    case queue_near =>
      have hrange : ∀ a ∈ queue ++ fresh, level current ≤ deeper neighbours s level current a ∧
          deeper neighbours s level current a ≤ level current + 1 := by
        intro a ha
        rcases List.mem_append.mp ha with ha | ha
        · rw [hold a (h.queue_visited a (hmem a ha))]
          exact ⟨hsorted.1 a ha, h.queue_near current hcurrent a (hmem a ha)⟩
        · rw [hnew a ha]
          omega
      intro a ha b hb
      have := hrange a ha
      have := hrange b hb
      omega
    case done_below =>
      intro u hu hnotin a ha
      obtain ⟨hvisited, hcase⟩ := done_of_expand hqueue hfresh hu hnotin
      have hle : level u ≤ level current := by
        rcases hcase with rfl | hnotin
        · exact le_rfl
        · exact h.done_below u hvisited hnotin current hcurrent
      rw [hold u hvisited]
      rcases List.mem_append.mp ha with ha | ha
      · rw [hold a (h.queue_visited a (hmem a ha))]
        exact hle.trans (hsorted.1 a ha)
      · rw [hnew a ha]
        omega
    case done_closed =>
      intro u hu hnotin w hw
      obtain ⟨hvisited, rfl | hdone'⟩ := done_of_expand hqueue hfresh hu hnotin
      · refine ⟨by simp [hw], ?_⟩
        rw [hold u hvisited]
        by_cases hseenw : s.visited w = true
        · -- an old node: it is in the queue, or done and not above it
          rw [hold w hseenw]
          by_cases hin : w ∈ s.queue
          · exact h.queue_near u hcurrent w hin
          · exact (h.done_below w hseenw hin u hcurrent).trans (Nat.le_succ _)
        · rw [deeper, if_pos ⟨hw, by simpa using hseenw⟩]
      · obtain ⟨hseenw, hle⟩ := h.done_closed u hvisited hdone' w hw
        refine ⟨by simp [hseenw], ?_⟩
        rw [hold u hvisited, hold w hseenw]
        exact hle

theorem Layered.search (h : Layered neighbours root next₀ s level) (n : ℕ) :
    ∃ level', Layered neighbours root next₀ (search neighbours n s) level' :=
  search_keeps (I := fun s => ∃ level, Layered neighbours root next₀ s level)
    (fun _ ⟨_, h⟩ => h.expand) n ⟨level, h⟩

omit [DecidableEq α] in
/-- When the queue is empty, every node that can be reached is visited, and its level is
the least number of steps to it. -/
theorem Layered.level_le (h : Layered neighbours root next₀ s level) (hqueue : s.queue = []) {n : ℕ}
    {v : α} (hsteps : Steps neighbours n root v) : s.visited v = true ∧ level v ≤ n := by
  induction hsteps with
  | refl => exact ⟨h.root_visited, h.root_level.le⟩
  | tail _ hc ih =>
    obtain ⟨hvisited, hle⟩ := ih h
    obtain ⟨hvisited', hle'⟩ := h.done_closed _ hvisited (by simp [hqueue]) _ hc
    exact ⟨hvisited', hle'.trans (Nat.succ_le_succ hle)⟩

end Layered

/-! ## The end of a search -/

section Exhausted

variable {nodes : List α} {s : Search α}

/-- What a search still has to do: the queue, and the nodes that may yet enter it. -/
def pending (nodes : List α) (s : Search α) : ℕ :=
  s.queue.length + nodes.countP fun v => !s.visited v

theorem countP_update_lt {visited : α → Bool} {v : α} (hv : v ∈ nodes)
    (hunseen : visited v = false) :
    (nodes.countP fun u => !Function.update visited v true u) <
      nodes.countP fun u => !visited u := by
  have hle : ∀ l : List α, (l.countP fun u => !Function.update visited v true u) ≤
      l.countP fun u => !visited u := fun l =>
    List.countP_mono_left fun u _ hu => by
      by_cases huv : u = v
      · simp [huv] at hu
      · simpa [huv] using hu
  obtain ⟨before, after, rfl⟩ := List.append_of_mem hv
  have hbefore := hle before
  have hafter := hle after
  simp only [List.countP_append, List.countP_cons, Function.update_self, hunseen, Bool.not_true,
    Bool.not_false, if_true]
  simp only [Bool.false_eq_true, if_false]
  omega

theorem pending_visit {v : α} (hv : v ∈ nodes) (current : α) (s : Search α) :
    (visit current s v).pending nodes ≤ s.pending nodes := by
  unfold visit
  split
  · exact le_rfl
  · rename_i hunseen
    have hlt := countP_update_lt hv (by simpa using hunseen)
    simp only [pending, List.length_append, List.length_singleton]
    omega

theorem pending_expand (hnodes : ∀ u, ∀ v ∈ neighbours u, v ∈ nodes) (hqueue : s.queue ≠ []) :
    (expand neighbours s).pending nodes < s.pending nodes := by
  cases hs : s.queue with
  | nil => exact absurd hs hqueue
  | cons current queue =>
    have hfold := foldl_invariant (g := visit current) (l := neighbours current)
      (I := fun s' => s'.pending nodes ≤ pending nodes { s with queue })
      (fun s' hs' v hv => (pending_visit (hnodes current v hv) current s').trans hs') le_rfl
    have hpopped : pending nodes { s with queue } < s.pending nodes := by
      simp only [pending, hs, List.length_cons]
      omega
    rw [expand, hs]
    exact hfold.trans_lt hpopped

theorem search_of_empty (hqueue : s.queue = []) (n : ℕ) : search neighbours n s = s := by
  have hsame : expand neighbours s = s := by rw [expand, hqueue]
  induction n with
  | zero => rfl
  | succ n ih => rw [search, hsame, ih]

/-- **Enough rounds empty the queue.** -/
theorem queue_search (hnodes : ∀ u, ∀ v ∈ neighbours u, v ∈ nodes) {n : ℕ}
    (hn : s.pending nodes ≤ n) : (search neighbours n s).queue = [] := by
  induction n generalizing s with
  | zero =>
    have hnone : s.queue.length = 0 := by
      rw [pending] at hn
      omega
    exact List.length_eq_zero_iff.mp hnone
  | succ n ih =>
    rcases eq_or_ne s.queue [] with hempty | hne
    · rw [search_of_empty hempty]
      exact hempty
    · exact ih (by have := pending_expand hnodes hne; omega)

theorem pending_start {root : α} (hroot : root ∈ nodes) (next₀ : α → α) :
    (start root next₀).pending nodes ≤ nodes.length := by
  have hlt : (nodes.countP fun u => !Function.update (fun _ => false) root true u) <
      nodes.countP fun _ => !false := countP_update_lt hroot rfl
  have hle := List.countP_le_length (p := fun _ : α => !false) (l := nodes)
  simp only [pending, start, List.length_singleton]
  omega

/-- **What a search finds.**  A node is visited if there is a way to it.  Its level is then
the length of a shortest way, and `next` is a node of the level below that it is a
neighbour of; other nodes keep the entry they had. -/
theorem search_spec (hnodes : ∀ u, ∀ v ∈ neighbours u, v ∈ nodes) {root : α} (hroot : root ∈ nodes)
    (next₀ : α → α) : ∃ level : α → ℕ,
      let s := search neighbours nodes.length (start root next₀)
      s.queue = [] ∧ Layered neighbours root next₀ s level ∧
        ∀ n v, Steps neighbours n root v → s.visited v = true ∧ level v ≤ n := by
  obtain ⟨level, h⟩ := (layered_start neighbours root next₀).search nodes.length
  have hqueue := queue_search hnodes (pending_start hroot next₀)
  exact ⟨level, hqueue, h, fun n v => h.level_le hqueue⟩

end Exhausted

end Search

end Foundation
end Simulator
