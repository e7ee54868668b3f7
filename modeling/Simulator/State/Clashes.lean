import Mathlib.Data.List.TakeWhile
import Simulator.State.SoldierOrder

/-!
# The first phase in any order

The soldiers of a list are updated, one after the other.  What that leaves is given in
closed form: an actor has taken the damage of all those that are to hit it, whatever
their order, since damage adds up and saturates; a soldier whose update is over has
found its target with the damage of those before it in the list; and a reward has been
paid for every actor that had hp left and has none now.

`Clash` is this closed form, as a statement about the state before and the state after the
updates of a list, and `Sound.clash` proves it by induction along the list.

## The step of the induction

One more soldier is updated, in a state of which the closed form holds.  What it is to do is what
it was to do at the beginning (`Clash.blowAt_eq`): its own orders and its own place are untouched,
since it has not been updated, and what it goes by of its target, where that stands and whether it
can be attacked, is not changed by damage.  A soldier that is about to respawn would be an
exception, since it moves; but such a soldier is nobody's target, so that what is hit stays where
it is (`Clash.exists_alike`).

Then the three parts of the closed form are brought up to date, each by a lemma of its own, for
the soldiers, for the towers and for the money.  What the soldier finds behind its pointer depends
on those before it in the list (`found`), and this is the only place where the list is more than a
set.
-/

namespace Simulator

open Foundation

variable {K : Type}

namespace State

variable [Field K] [LinearOrder K] [FloorRing K] [SquareRoot K]

/-! ## All updates of a list -/

omit [FloorRing K] in
/-- What soldier `u` finds behind its target pointer when the soldiers of `l` have been
updated. -/
def found (st : State K) (l : List (PlayerId × ℕ)) (u : Soldier K) : Option (Actor K) :=
  u.attackTarget.bind fun ptr => (st.deref ptr).map fun a => a.damage (st.barrage l ptr)

omit [FloorRing K] in
/-- Soldier `u` in slot `x` after the updates of the soldiers of `l`, but for the damage
that it takes. -/
def acted (c : Constants K) (st : State K) (l : List (PlayerId × ℕ)) (x : PlayerId × ℕ)
    (u : Soldier K) : Soldier K :=
  if x ∈ l then u.next c (st.found (l.takeWhile fun y => y ≠ x) u) else u

omit [FloorRing K] in
/-- The soldiers of `l` finish off the actor behind a pointer. -/
def Falls (st : State K) (l : List (PlayerId × ℕ)) (ptr : ActorPtr) : Prop :=
  ∃ a, st.deref ptr = some a ∧ a.latestHp ≠ 0 ∧ a.latestHp ≤ st.barrage l ptr

omit [Field K] [LinearOrder K] [FloorRing K] [SquareRoot K] in
/-- Pay for the actor behind a pointer. -/
def payFor (st : State K) (m : MoneyManager) (ptr : ActorPtr) : MoneyManager :=
  match st.deref ptr with
  | some a => m.rewarded a
  | none => m

/-- The state `st'` is what the updates of the soldiers of `l`, in this order, leave of
`st`. -/
structure Clash (c : Constants K) (st : State K) (l : List (PlayerId × ℕ)) (st' : State K) :
    Prop where
  soldier : ∀ x u, (st.soldiers x.1)[x.2]? = some u → (st'.soldiers x.1)[x.2]? =
    some ((st.acted c l x u).damage (st.barrage l (.soldier x.1 x.2)))
  tower : ∀ q, st'.towerManagers q =
    (st.towerManagers q).mapTowers fun t => t.damage (st.barrage l (.tower q t.id))
  money : ∃ fallen : List ActorPtr, fallen.Nodup ∧ (∀ ptr, ptr ∈ fallen ↔ st.Falls l ptr) ∧
    st'.moneyManager = fallen.foldl st.payFor st.moneyManager

section Clash

variable {r : Ruleset K} {st st' : State K} {l : List (PlayerId × ℕ)} {x : PlayerId × ℕ}
  {u : Soldier K}

omit [FloorRing K] in
theorem sameBody_acted (c : Constants K) (st : State K) (l : List (PlayerId × ℕ))
    (x : PlayerId × ℕ) (h : u.state ≠ .dead 0) : u.SameBody (st.acted c l x u) := by
  unfold acted
  split
  · exact Soldier.sameBody_next c h _
  · exact .refl u

theorem Sound.clash_nil (h : st.Sound r.toConstants) : Clash r.toConstants st [] st where
  soldier := fun x u hu => by
    have hsound := h.soldier x.1 x.2 u hu
    have hzero : u.damage 0 = u := Soldier.damage_zero hsound.damage_le
    rw [hu, acted, if_neg List.not_mem_nil]
    exact congrArg some hzero.symm
  tower := fun q => by
    refine ((st.towerManagers q).mapTowers_id.symm.trans
      (TowerManager.mapTowers_congr ?_))
    intro t ht
    have hhp := ((h.manager q).tower t ht).hp_nonneg
    exact (Actor.tower.inj (Actor.damage_zero (a := .tower t) hhp)).symm
  money := ⟨[], List.nodup_nil, fun ptr => by
    refine ⟨nofun, ?_⟩
    rintro ⟨a, ha, hhp, hle⟩
    have hnonneg := h.latestHp_nonneg ha
    exact absurd (le_antisymm hle hnonneg) hhp, rfl⟩

/-- **What is hit stays where it is**, with the damage it has taken. -/
theorem Clash.exists_alike (h : Clash r.toConstants st l st') (hst : st.Sound r.toConstants)
    (hst' : st'.Sound r.toConstants) (hattackable : ∀ z, st.Attackable z)
    (hu : (st.soldiers x.1)[x.2]? = some u) {ptr : ActorPtr} (hptr : u.attackTarget = some ptr)
    {a : Actor K} (ha : st.deref ptr = some a) :
    ∃ a', st'.deref ptr = some a' ∧ (a.damage (st.barrage l ptr)).Alike a' := by
  cases ptr with
  | soldier q j =>
    obtain ⟨v, hv, rfl⟩ := Option.map_eq_some_iff.mp ha
    have hstate := hattackable (q, j) x.1 x.2 u v hu hptr hv
    have halike : (Actor.soldier v).Alike
        (.soldier (st.acted r.toConstants l (q, j) v)) := by
      refine ⟨sameBody_acted _ _ _ _ hstate, ?_⟩
      unfold acted
      split
      · exact Soldier.name_next _ _ _
      · exact ⟨rfl, rfl⟩
    exact ⟨_, by rw [deref_soldier, h.soldier (q, j) v hv]; rfl, halike.damage _⟩
  | tower q id =>
    obtain ⟨t, ht, rfl, rfl⟩ := hst.deref_tower.mp ha
    set t' := t.damage (st.barrage l (.tower q t.id)) with ht'
    refine ⟨.tower t', hst'.deref_tower.mpr ⟨t', ?_, rfl, rfl⟩, .refl _⟩
    rw [h.tower, TowerManager.allocatedTowers_mapTowers]
    exact List.mem_map_of_mem ht

omit [FloorRing K] in
/-- A soldier that is still to be updated has its orders. -/
theorem Clash.waiting (h : Clash r.toConstants st l st') (hu : (st.soldiers x.1)[x.2]? = some u)
    (hx : x ∉ l) : (st'.soldiers x.1)[x.2]? =
      some (u.damage (st.barrage l (.soldier x.1 x.2))) := by
  rw [h.soldier x u hu, acted, if_neg hx]

/-- **A soldier that is still to be updated is to do the damage it was to do.** -/
theorem Clash.blowAt_eq (h : Clash r.toConstants st l st') (hst : st.Sound r.toConstants)
    (hst' : st'.Sound r.toConstants) (hattackable : ∀ z, st.Attackable z)
    (hu : (st.soldiers x.1)[x.2]? = some u) (hx : x ∉ l) (ptr : ActorPtr) :
    st'.blowAt x ptr = st.blowAt x ptr := by
  have hu' := h.waiting hu hx
  by_cases hptr : u.attackTarget = some ptr
  · obtain ⟨a, ha⟩ := hst.deref_of_designates (hst.target x.1 x.2 u ptr hu hptr)
    obtain ⟨a', ha', halike⟩ := h.exists_alike hst hst' hattackable hu hptr ha
    rw [State.blowAt_eq hu ha, State.blowAt_eq hu' ha']
    refine if_congr (and_congr Iff.rfl (and_congr Iff.rfl (and_congr Iff.rfl ?_))) rfl rfl
    unfold Soldier.Reaches
    rw [halike.position, Actor.position_damage]
    rfl
  · rw [blowAt_of_ne hu hptr, blowAt_of_ne hu' hptr]

/-- **What a soldier finds that is next to be updated.** -/
theorem Clash.next_targetOf (h : Clash r.toConstants st l st') (hst : st.Sound r.toConstants)
    (hst' : st'.Sound r.toConstants) (hattackable : ∀ z, st.Attackable z)
    (hu : (st.soldiers x.1)[x.2]? = some u) (hx : x ∉ l) (v : Soldier K) :
    v.next r.toConstants (st'.targetOf x.1 x.2) = v.next r.toConstants (st.found l u) := by
  have hu' := h.waiting hu hx
  have htarget : st'.targetOf x.1 x.2 = u.attackTarget.bind st'.deref := by
    rw [targetOf, hu', Option.bind_some]
    rfl
  rw [htarget, found]
  cases hptr : u.attackTarget with
  | none => rfl
  | some ptr =>
    obtain ⟨a, ha⟩ := hst.deref_of_designates (hst.target x.1 x.2 u ptr hu hptr)
    obtain ⟨a', ha', halike⟩ := h.exists_alike hst hst' hattackable hu hptr ha
    rw [Option.bind_some, Option.bind_some, ha, ha', Option.map_some, halike.next]

omit [FloorRing K] in
/-- Nobody does damage to a soldier that is about to respawn. -/
theorem barrage_of_respawning (hattackable : ∀ z, st.Attackable z)
    (hu : (st.soldiers x.1)[x.2]? = some u) (hdead : u.state = .dead 0)
    (l : List (PlayerId × ℕ)) : st.barrage l (.soldier x.1 x.2) = 0 := by
  refine List.sum_eq_zero ?_
  intro d hd
  obtain ⟨y, -, rfl⟩ := List.mem_map.mp hd
  cases hs : (st.soldiers y.1)[y.2]? with
  | none => simp only [blowAt, hs]
  | some s => exact blowAt_of_ne hs fun hptr => hattackable x y.1 y.2 s u hs hptr hu hdead

omit [FloorRing K] in
/-- The soldiers that come later do not matter to those that have been updated. -/
theorem acted_concat (c : Constants K) (st : State K) (u : Soldier K) {y : PlayerId × ℕ}
    (hyx : y ≠ x) : st.acted c (l ++ [x]) y u = st.acted c l y u := by
  by_cases hy : y ∈ l
  · have hwhile : (l ++ [x]).takeWhile (fun z => z ≠ y) = l.takeWhile fun z => z ≠ y := by
      rw [List.takeWhile_append, if_neg fun hlength => ?_]
      have hwhole := (List.takeWhile_prefix _).eq_of_length hlength
      simpa using List.takeWhile_eq_self_iff.mp hwhole y hy
    rw [acted, acted, if_pos hy, if_pos (List.mem_append_left _ hy), hwhile]
  · have hy' : y ∉ l ++ [x] := by simp [hy, hyx]
    rw [acted, acted, if_neg hy, if_neg hy']

omit [Field K] [LinearOrder K] [FloorRing K] [SquareRoot K] in
theorem takeWhile_concat (hx : x ∉ l) : (l ++ [x]).takeWhile (fun y => y ≠ x) = l := by
  rw [List.takeWhile_append_of_pos fun y hy => ?_]
  · simp
  · simpa using fun heq : y = x => hx (heq ▸ hy)

omit [FloorRing K] in
theorem acted_concat_self (c : Constants K) (st : State K) (u : Soldier K) (hx : x ∉ l) :
    st.acted c (l ++ [x]) x u = u.next c (st.found l u) := by
  rw [acted, if_pos (by simp), takeWhile_concat hx]

theorem Clash.soldier_step (h : Clash r.toConstants st l st') (hst : st.Sound r.toConstants)
    (hst' : st'.Sound r.toConstants) (hattackable : ∀ z, st.Attackable z) {s : Soldier K}
    (hs : (st.soldiers x.1)[x.2]? = some s) (hx : x ∉ l) {y : PlayerId × ℕ}
    (hu : (st.soldiers y.1)[y.2]? = some u) :
    ((st'.apply (st'.actEffect r.toConstants x.1 x.2)).soldiers y.1)[y.2]? =
      some ((st.acted r.toConstants (l ++ [x]) y u).damage
        (st.barrage (l ++ [x]) (.soldier y.1 y.2))) := by
  have hs' := h.waiting hs hx
  rw [hst'.getElem?_actEffect hs' (h.soldier y u hu), barrage_append, barrage_singleton,
    h.blowAt_eq hst hst' hattackable hs hx]
  by_cases hyx : y = x
  · subst hyx
    obtain rfl := Option.some.inj (hu.symm.trans hs)
    have hround := hst'.getElem?_actEffect hs' hs'
    rw [if_pos rfl] at hround ⊢
    rw [h.next_targetOf hst hst' hattackable hu hx] at hround ⊢
    rw [acted, if_neg hx, acted_concat_self _ _ _ hx, hst.blowAt_self hu, add_zero]
    by_cases hdead : u.state = .dead 0
    · -- nobody hits it, neither before nor after it respawns
      have hzero : u.damage 0 = u :=
        Soldier.damage_zero (hst.soldier y.1 y.2 u hu).damage_le
      rw [barrage_of_respawning hattackable hu hdead, hzero] at hround ⊢
      have hsound := (hst'.actEffect y.1 y.2).soldier y.1 y.2 _ hround
      exact congrArg some (Soldier.damage_zero hsound.damage_le).symm
    · exact congrArg some (Soldier.next_damage _ hdead _ _)
  · rw [if_neg hyx, acted_concat _ _ _ hyx,
      Soldier.damage_damage _ _ (hst.blowAt_nonneg x _)]

theorem Clash.tower_step (h : Clash r.toConstants st l st') (hst : st.Sound r.toConstants)
    (hst' : st'.Sound r.toConstants) (hattackable : ∀ z, st.Attackable z) {s : Soldier K}
    (hs : (st.soldiers x.1)[x.2]? = some s) (hx : x ∉ l) (q : PlayerId) :
    (st'.apply (st'.actEffect r.toConstants x.1 x.2)).towerManagers q =
      (st.towerManagers q).mapTowers fun t =>
        t.damage (st.barrage (l ++ [x]) (.tower q t.id)) := by
  rw [hst'.towerManagers_actEffect (h.waiting hs hx), h.tower, TowerManager.mapTowers_mapTowers]
  refine TowerManager.mapTowers_congr ?_
  intro t _
  rw [barrage_append, barrage_singleton]
  show (t.damage _).damage (st'.blowAt x (.tower q t.id)) = _
  rw [h.blowAt_eq hst hst' hattackable hs hx]
  exact Actor.tower.inj (Actor.damage_damage (.tower t) _ (hst.blowAt_nonneg x _))

theorem Clash.latestHp (h : Clash r.toConstants st l st') (hst : st.Sound r.toConstants)
    (hst' : st'.Sound r.toConstants) (hattackable : ∀ z, st.Attackable z)
    (hu : (st.soldiers x.1)[x.2]? = some u) {ptr : ActorPtr} (hptr : u.attackTarget = some ptr)
    {a a' : Actor K} (ha : st.deref ptr = some a) (ha' : st'.deref ptr = some a') :
    a'.latestHp = max 0 (a.latestHp - st.barrage l ptr) := by
  obtain ⟨a'', ha'', halike⟩ := h.exists_alike hst hst' hattackable hu hptr ha
  obtain rfl := Option.some.inj (ha'.symm.trans ha'')
  rw [halike.latestHp, Actor.latestHp_damage]

/-- A soldier that finishes nothing off leaves the same actors fallen. -/
theorem Clash.falls_concat_of_kills_eq_none (h : Clash r.toConstants st l st')
    (hst : st.Sound r.toConstants) (hst' : st'.Sound r.toConstants)
    (hattackable : ∀ z, st.Attackable z) (hu : (st.soldiers x.1)[x.2]? = some u) (hx : x ∉ l)
    (hkills : st'.kills x.1 x.2 = none) (ptr : ActorPtr) :
    st.Falls (l ++ [x]) ptr ↔ st.Falls l ptr := by
  unfold Falls
  rw [barrage_append, barrage_singleton]
  have hnonneg := hst.blowAt_nonneg x ptr
  refine exists_congr fun a => and_congr_right fun ha => and_congr_right fun _ =>
    ⟨?_, fun hle => by omega⟩
  intro hle
  by_cases hptr : u.attackTarget = some ptr
  · obtain ⟨a', ha', -⟩ := h.exists_alike hst hst' hattackable hu hptr ha
    have hlatest := h.latestHp hst hst' hattackable hu hptr ha ha'
    by_contra hlt
    have hspared := lt_latestHp_of_kills_eq_none (h.waiting hu hx) ha' (by omega) hkills
    rw [h.blowAt_eq hst hst' hattackable hu hx] at hspared
    omega
  · rw [blowAt_of_ne hu hptr] at hle
    omega

theorem Clash.money_step (h : Clash r.toConstants st l st') (hst : st.Sound r.toConstants)
    (hst' : st'.Sound r.toConstants) (hattackable : ∀ z, st.Attackable z)
    (hu : (st.soldiers x.1)[x.2]? = some u) (hx : x ∉ l) :
    ∃ fallen : List ActorPtr, fallen.Nodup ∧ (∀ ptr, ptr ∈ fallen ↔ st.Falls (l ++ [x]) ptr) ∧
      (st'.apply (st'.actEffect r.toConstants x.1 x.2)).moneyManager =
        fallen.foldl st.payFor st.moneyManager := by
  obtain ⟨fallen, hnodup, hmem, hmoney⟩ := h.money
  have hround : (st'.apply (st'.actEffect r.toConstants x.1 x.2)).moneyManager =
      match st'.kills x.1 x.2 with
      | some b => st'.moneyManager.rewarded b
      | none => st'.moneyManager := rfl
  cases hkills : st'.kills x.1 x.2 with
  | none =>
    rw [hkills] at hround
    refine ⟨fallen, hnodup, ?_, hround.trans hmoney⟩
    intro ptr
    rw [hmem, h.falls_concat_of_kills_eq_none hst hst' hattackable hu hx hkills]
  | some b =>
    rw [hkills] at hround
    obtain ⟨ptr, a', hptr, ha', halive, hspent, rfl⟩ :=
      exists_of_kills_eq_some (h.waiting hu hx) hkills
    replace hptr : u.attackTarget = some ptr := hptr
    obtain ⟨a, ha⟩ := hst.deref_of_designates (hst.target x.1 x.2 u ptr hu hptr)
    obtain ⟨a'', ha'', halike⟩ := h.exists_alike hst hst' hattackable hu hptr ha
    obtain rfl := Option.some.inj (ha'.symm.trans ha'')
    have hlatest := h.latestHp hst hst' hattackable hu hptr ha ha'
    have hnonneg := hst.barrage_nonneg l ptr
    rw [h.blowAt_eq hst hst' hattackable hu hx] at hspent
    have hstands : ¬ st.Falls l ptr := by
      rintro ⟨b, hb, -, hle⟩
      obtain rfl := Option.some.inj (ha.symm.trans hb)
      omega
    refine ⟨fallen ++ [ptr], ?_, ?_, ?_⟩
    · rw [List.nodup_append_comm]
      exact List.nodup_cons.mpr ⟨fun hin => hstands ((hmem ptr).mp hin), hnodup⟩
    · intro ptr'
      rw [List.mem_append, List.mem_singleton, hmem]
      unfold Falls
      rw [barrage_append, barrage_singleton]
      by_cases heq : ptr' = ptr
      · subst heq
        exact ⟨fun _ => ⟨a, ha, by omega, by omega⟩, fun _ => .inr rfl⟩
      · have hne : u.attackTarget ≠ some ptr' := fun h' =>
          heq (Option.some.inj (h'.symm.trans hptr))
        rw [blowAt_of_ne hu hne, add_zero]
        exact or_iff_left heq
    · have hpay : ∀ m, st.payFor m ptr = m.rewarded (a'.damage (st'.blowAt x ptr)) := fun m => by
        rw [payFor, ha, Actor.rewarded_damage, halike.rewarded, Actor.rewarded_damage]
      rw [List.foldl_append, List.foldl_cons, List.foldl_nil, hpay, ← hmoney]
      exact hround

/-- **The updates of the soldiers of a list.** -/
theorem Sound.clash (h : st.Sound r.toConstants) (hattackable : ∀ z, st.Attackable z)
    (hl : l.Nodup) (hslots : ∀ x ∈ l, x.2 < r.numSoldiers) :
    Clash r.toConstants st l (st.actAll r.toConstants l) := by
  induction l using List.reverseRecOn with
  | nil => exact h.clash_nil
  | append_singleton l x ih =>
    obtain ⟨hx, hl⟩ : x ∉ l ∧ l.Nodup := by
      rw [List.nodup_append_comm] at hl
      exact List.nodup_cons.mp hl
    have hclash := ih hl fun y hy => hslots y (List.mem_append_left _ hy)
    have hsound : (st.actAll r.toConstants l).Sound r.toConstants := h.actAll l
    obtain ⟨s, hs⟩ := h.exists_soldier x.1 (hslots x (by simp))
    have hstep : st.actAll r.toConstants (l ++ [x]) = (st.actAll r.toConstants l).apply
        ((st.actAll r.toConstants l).actEffect r.toConstants x.1 x.2) := by
      rw [State.actAll, List.foldl_append]
      rfl
    rw [hstep]
    exact ⟨fun y u hu => hclash.soldier_step h hsound hattackable hs hx hu,
      hclash.tower_step h hsound hattackable hs hx,
      hclash.money_step h hsound hattackable hs hx⟩

end Clash

end State

end Simulator
