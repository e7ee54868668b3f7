import Mathlib.Order.WellFounded
import Simulator.Foundation.BreadthFirst

/-!
# The order of a breadth-first search

Which of several shortest ways a search finds depends on the order in which the nodes leave
the queue.  Where that order is known, as an order of keys, so are the entries of `next`:
`FirstFound` says what has to be checked of the keys and of the node that a node should be
found from, and `search_next` that it is the one.

The keys are checked on edges only.  The node a node is found from has the least key of all
that lead to it; the nodes that one node leads to stand in the order of their keys; and
nodes come in the order of those they are found from.  None of this mentions the search, so that
it can be checked on a formula for the keys and for the parents.

The invariant is `InOrder`.  It says that the queue is in the order of the keys, after all nodes
that have left it, and that every node found so far has been found from the right one.  A round
keeps it (`InOrder.expand`): a node that is new in the round of `current` would have been found
before if its parent had an earlier key (`InOrder.parent_of_new`), and the nodes that enter the
queue have later keys than those in it, since they come in the order of their parents.
-/

namespace Simulator
namespace Foundation

universe u v

variable {α : Type u} {β : Type v}

/-- The keys are those of the order in which a search from `root` takes the nodes, and
`parent` is what each node is found from. -/
structure FirstFound [LinearOrder β] (neighbours : α → List α) (nodes : Set α) (root : α)
    (key : α → β) (parent : α → α) : Prop where
  root_mem : root ∈ nodes
  neighbours_mem : ∀ u ∈ nodes, ∀ v ∈ neighbours u, v ∈ nodes
  root_first : ∀ v ∈ nodes, v ≠ root → key root < key v
  parent_mem : ∀ v ∈ nodes, v ≠ root → parent v ∈ nodes ∧ v ∈ neighbours (parent v)
  parent_lt : ∀ v ∈ nodes, v ≠ root → key (parent v) < key v
  parent_first : ∀ u ∈ nodes, ∀ v ∈ neighbours u, v ≠ root → u ≠ parent v →
    key (parent v) < key u
  mono : ∀ v ∈ nodes, ∀ w ∈ nodes, v ≠ root → w ≠ root → key (parent v) < key (parent w) →
    key v < key w
  siblings : ∀ u ∈ nodes, (neighbours u).Pairwise fun v w =>
    v ≠ root → w ≠ root → parent v = u → parent w = u → key v < key w

namespace Search

variable [DecidableEq α] [LinearOrder β]

/-- The invariant: the queue is in the order of the keys, after all nodes that have left it. -/
structure InOrder (neighbours : α → List α) (nodes : Set α) (root : α) (key : α → β)
    (parent : α → α) (s : Search α) : Prop where
  root_visited : s.visited root = true
  visited_mem : ∀ v, s.visited v = true → v ∈ nodes
  next_eq : ∀ v, s.visited v = true → v ≠ root → s.next v = parent v
  queue_visited : ∀ v ∈ s.queue, s.visited v = true
  queue_sorted : s.queue.Pairwise fun a b => key a < key b
  done_first : ∀ u, s.visited u = true → u ∉ s.queue → ∀ a ∈ s.queue, key u < key a
  done_closed : ∀ u, s.visited u = true → u ∉ s.queue → ∀ w ∈ neighbours u, s.visited w = true
  parent_done : ∀ v, s.visited v = true → v ≠ root →
    s.visited (parent v) = true ∧ parent v ∉ s.queue

variable {neighbours : α → List α} {nodes : Set α} {root : α} {key : α → β} {parent : α → α}
  {s : Search α}

theorem inOrder_start (ho : FirstFound neighbours nodes root key parent) (next₀ : α → α) :
    InOrder neighbours nodes root key parent (start root next₀) := by
  have hvisited : ∀ v, (start root next₀).visited v = true ↔ v = root := fun v => by
    simp [start, Function.update_apply]
  constructor
  case root_visited => exact (hvisited root).mpr rfl
  case visited_mem =>
    intro v hv
    rw [(hvisited v).mp hv]
    exact ho.root_mem
  case next_eq => exact fun v hv hne => absurd ((hvisited v).mp hv) hne
  case queue_visited => exact fun v hv => (hvisited v).mpr (List.mem_singleton.mp hv)
  case queue_sorted => exact List.pairwise_singleton ..
  case done_first =>
    intro u hu hqueue
    exact absurd (List.mem_singleton.mpr ((hvisited u).mp hu)) hqueue
  case done_closed =>
    intro u hu hqueue
    exact absurd (List.mem_singleton.mpr ((hvisited u).mp hu)) hqueue
  case parent_done => exact fun v hv hne => absurd ((hvisited v).mp hv) hne

theorem InOrder.done_of_lt [WellFoundedLT β] (ho : FirstFound neighbours nodes root key parent)
    (h : InOrder neighbours nodes root key parent s) {current : α} {queue : List α}
    (hqueue : s.queue = current :: queue) {v : α} (hv : v ∈ nodes) (hlt : key v < key current) :
    s.visited v = true ∧ v ∉ s.queue := by
  have hafter : ∀ a ∈ s.queue, ¬ key a < key current := by
    intro a ha
    rw [hqueue] at ha
    rcases List.mem_cons.mp ha with rfl | ha
    · exact lt_irrefl _
    · exact ((List.pairwise_cons.mp (hqueue ▸ h.queue_sorted)).1 a ha).asymm
  refine ⟨?_, fun hin => hafter v hin hlt⟩
  -- by induction on the key: the node that it is found from has left the queue
  induction hkey : key v using WellFoundedLT.induction generalizing v with
  | ind k ih =>
    subst hkey
    by_cases hroot : v = root
    · rw [hroot]
      exact h.root_visited
    · obtain ⟨hparent, hedge⟩ := ho.parent_mem v hv hroot
      have hless := ho.parent_lt v hv hroot
      have hseen := ih (key (parent v)) hless hparent (hless.trans hlt) rfl
      exact h.done_closed _ hseen (fun hin => hafter _ hin (hless.trans hlt)) v hedge

/-- A new node is found from the right one: had that been earlier, it would not be new. -/
theorem InOrder.parent_of_new [WellFoundedLT β] (ho : FirstFound neighbours nodes root key parent)
    (h : InOrder neighbours nodes root key parent s) {current : α} {queue : List α}
    (hqueue : s.queue = current :: queue) {v : α} (hv : v ∈ neighbours current)
    (hunseen : s.visited v = false) : v ∈ nodes ∧ v ≠ root ∧ parent v = current := by
  have hnode := h.visited_mem current (h.queue_visited current (hqueue ▸ List.mem_cons_self ..))
  have hroot : v ≠ root := fun hv => by
    rw [hv, h.root_visited] at hunseen
    exact absurd hunseen (by simp)
  have hvnode := ho.neighbours_mem current hnode v hv
  refine ⟨hvnode, hroot, ?_⟩
  by_contra hne
  obtain ⟨hparent, hedge⟩ := ho.parent_mem v hvnode hroot
  obtain ⟨hdone, hout⟩ := h.done_of_lt ho hqueue hparent
    (ho.parent_first current hnode v hv hroot (Ne.symm hne))
  rw [h.done_closed _ hdone hout v hedge] at hunseen
  exact absurd hunseen (by simp)

/-- **A round keeps the order.** -/
theorem InOrder.expand [WellFoundedLT β] (ho : FirstFound neighbours nodes root key parent)
    (h : InOrder neighbours nodes root key parent s) :
    InOrder neighbours nodes root key parent (expand neighbours s) := by
  cases hqueue : s.queue with
  | nil => rwa [Search.expand, hqueue]
  | cons current queue =>
    obtain ⟨fresh, hsub, hfresh, hexpand⟩ := expand_cons hqueue
    have hcurrent : current ∈ s.queue := hqueue ▸ List.mem_cons_self ..
    have hmem : ∀ v ∈ queue, v ∈ s.queue := fun v hv => hqueue ▸ List.mem_cons_of_mem _ hv
    have hseen := h.queue_visited current hcurrent
    have hnode := h.visited_mem current hseen
    have hsorted := List.pairwise_cons.mp (hqueue ▸ h.queue_sorted)
    have hnew : ∀ v, v ∈ neighbours current → s.visited v = false →
        v ∈ nodes ∧ v ≠ root ∧ parent v = current := fun v hv hunseen =>
      h.parent_of_new ho hqueue hv hunseen
    have hfresh' : ∀ v ∈ fresh, v ∈ nodes ∧ v ≠ root ∧ parent v = current := fun v hv =>
      hnew v ((hfresh v).mp hv).1 ((hfresh v).mp hv).2
    have hunseen : ∀ v ∈ fresh, s.visited v ≠ true := fun v hv => by
      simp [((hfresh v).mp hv).2]
    have hlater : ∀ v ∈ fresh, key current < key v := by
      intro v hv
      obtain ⟨hvnode, hroot, hparent⟩ := hfresh' v hv
      exact hparent ▸ ho.parent_lt v hvnode hroot
    have hcurrent_out : current ∉ queue ++ fresh := by
      intro hin
      rcases List.mem_append.mp hin with hin | hin
      · exact lt_irrefl _ (hsorted.1 current hin)
      · exact hunseen current hin hseen
    rw [hexpand]
    constructor
    case root_visited => simp [h.root_visited]
    case visited_mem =>
      intro v hv
      by_cases hvisited : s.visited v = true
      · exact h.visited_mem v hvisited
      · have hv' : v ∈ neighbours current := by simpa [hvisited] using hv
        exact ho.neighbours_mem current hnode v hv'
    case next_eq =>
      intro v hv hroot
      by_cases hvisited : s.visited v = true
      · simp only [hvisited, reduceCtorEq, and_false, if_false]
        exact h.next_eq v hvisited hroot
      · have hv' : v ∈ neighbours current ∧ s.visited v = false := by simpa [hvisited] using hv
        simp only [if_pos hv']
        exact (hnew v hv'.1 hv'.2).2.2.symm
    case queue_visited =>
      intro v hv
      rcases List.mem_append.mp hv with hv | hv
      · simp [h.queue_visited v (hmem v hv)]
      · simp [((hfresh v).mp hv).1]
    case queue_sorted =>
      refine List.pairwise_append.mpr ⟨hsorted.2, ?_, ?_⟩
      · refine ((ho.siblings current hnode).sublist hsub).imp_of_mem ?_
        intro a b ha hb hab
        obtain ⟨-, hroot, hparent⟩ := hfresh' a ha
        obtain ⟨-, hroot', hparent'⟩ := hfresh' b hb
        exact hab hroot hroot' hparent hparent'
      · intro a ha b hb
        obtain ⟨hbnode, hroot, hparent⟩ := hfresh' b hb
        have haseen := h.queue_visited a (hmem a ha)
        have hanode := h.visited_mem a haseen
        have haroot : a ≠ root := by
          rintro rfl
          by_cases hsame : current = a
          · exact lt_irrefl _ (hsame ▸ hsorted.1 a ha)
          · exact (hsorted.1 a ha).asymm (ho.root_first current hnode hsame)
        obtain ⟨hdone', hout⟩ := h.parent_done a haseen haroot
        refine ho.mono a hanode b hbnode haroot hroot ?_
        rw [hparent]
        exact h.done_first _ hdone' hout current hcurrent
    case done_first =>
      intro u hu hnotin a ha
      obtain ⟨hvisited, hcase⟩ := done_of_expand hqueue hfresh hu hnotin
      rcases List.mem_append.mp ha with hold | hadded
      · rcases hcase with rfl | hout
        · exact hsorted.1 a hold
        · exact h.done_first u hvisited hout a (hmem a hold)
      · rcases hcase with rfl | hout
        · exact hlater a hadded
        · exact (h.done_first u hvisited hout current hcurrent).trans (hlater a hadded)
    case done_closed =>
      intro u hu hnotin w hw
      obtain ⟨hvisited, rfl | hout⟩ := done_of_expand hqueue hfresh hu hnotin
      · simp [hw]
      · simp [h.done_closed u hvisited hout w hw]
    case parent_done =>
      intro v hv hroot
      by_cases hvisited : s.visited v = true
      · obtain ⟨hdone', hout⟩ := h.parent_done v hvisited hroot
        refine ⟨by simp [hdone'], ?_⟩
        intro hin
        rcases List.mem_append.mp hin with hin | hin
        · exact hout (hmem _ hin)
        · exact hunseen _ hin hdone'
      · have hv' : v ∈ neighbours current ∧ s.visited v = false := by simpa [hvisited] using hv
        rw [(hnew v hv'.1 hv'.2).2.2]
        exact ⟨by simp [hseen], hcurrent_out⟩

/-- **The entries of a search in a known order.** -/
theorem search_next [WellFoundedLT β] (ho : FirstFound neighbours nodes root key parent)
    (next₀ : α → α) (n : ℕ) {v : α} (hroot : v ≠ root) :
    let s := search neighbours n (start root next₀)
    s.visited v = true → s.next v = parent v := by
  have hrun : InOrder neighbours nodes root key parent (search neighbours n (start root next₀)) :=
    search_keeps (fun _ h => h.expand ho) n (inOrder_start ho next₀)
  exact fun hvisited => hrun.next_eq v hvisited hroot

end Search

end Foundation
end Simulator
