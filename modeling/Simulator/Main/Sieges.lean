import Simulator.Main.Combat
import Simulator.Main.Marches
import Simulator.Main.TowerDeaths

/-!
# An attack on a tower is carried out

A soldier that has been told to attack a tower goes straight for it, stops as soon as it is
in range, and strikes in every turn from then on.  So if it stays alive and gets no other
orders, and the tower is not upgraded, the tower is gone after as many turns as it takes to
come into range and to use up its hp, whatever the other soldiers and the owner of the tower
do meanwhile.

Others can only speed this up: `State.siege` is at least what the one soldier does to the
tower, and a tower that is finished off or demolished before is gone even earlier.
-/

namespace Simulator

open Foundation

variable {K : Type} [Field K] [LinearOrder K] [SquareRoot K]

namespace Soldier

/-- **A turn of a soldier that is after a target**: it keeps the target, and goes nearer if
it has found it out of range. -/
theorem Plays.pursues {c : Constants K} {s s' u : Soldier K} {e : TurnEvents K} {d : ℤ}
    {ptr : ActorPtr} {a : Actor K} (h : Plays c e s s') (hs : s.Resting c)
    (hT : 1 ≤ c.soldierTotalTurnsToRespawn) (hmet : e.met s = u.damage d)
    (hptr : u.attackTarget = some ptr) (hhp : s.hp ≠ 0) (hhp' : s'.hp ≠ 0)
    (htarget : e.target = some a) (ha : a.latestHp ≠ 0) :
    s'.attackTarget = some ptr ∧ s'.position = if u.Reaches a then u.position
      else SimplePathPlanner.getNextPosition u.position a.position u.speed := by
  obtain ⟨heq, -⟩ := h.eq_finish hs hT
  obtain ⟨horderly, t, v, b, hbody⟩ := exists_foldl_happen h.allowed hs.orderly
  have horderly' : (e.met s).Orderly c := horderly
  have hbody' : e.met s = _ := hbody
  have halive : (e.met s).state.isDead = false := by
    rw [show (e.met s).state = s.state from (congrArg Soldier.state hbody' :)]
    exact hs.orderly.state_ne_dead hhp
  have hnew : (e.met s).isNewPositionSet = false :=
    Eq.trans (congrArg Soldier.isNewPositionSet hbody' :) hs.atRest.isNewPositionSet_eq
  have hdest : (e.met s).isDestinationSet = false := by
    by_contra hset
    have hnone := horderly'.one_order (by simpa using hset)
    rw [hmet] at hnone
    exact Option.some_ne_none _ (hptr.symm.trans hnone)
  -- what is dealt after the update changes the pending damage only
  obtain ⟨d', hhurt⟩ := exists_foldl_damage ((e.met s).next c e.target) e.after
  have hhurt' : e.hurt c s = _ := hhurt
  have hlives : s' = (e.hurt c s).settled := by
    rw [heq, finish, if_neg]
    rintro ⟨hzero, hstate⟩
    refine hhp' ?_
    rw [heq, finish, if_pos ⟨hzero, hstate⟩]
    exact hzero
  have hkeeps : ((e.met s).next c e.target).attackTarget = some ptr := by
    rw [next_of_alive halive, hdest, htarget]
    simp only [Bool.false_eq_true, if_false, if_neg ha]
    split
    · rw [hmet]
      exact hptr
    · rw [hmet]
      exact hptr
  have hposition : s'.position = ((e.met s).next c e.target).settlesAt := by
    rw [hlives, hhurt']
    rfl
  constructor
  · rw [hlives, hhurt']
    exact hkeeps
  · rw [hposition, htarget, settlesAt_next ⟨halive, hdest⟩ hnew, hmet]
    by_cases hreach : u.Reaches a
    · rw [if_pos hreach, if_neg fun h' => h'.2 hreach]
      rfl
    · rw [if_neg hreach, if_pos ⟨ha, hreach⟩]
      rfl

end Soldier

/-! ## The way into range -/

namespace SimplePathPlanner

section Approach

variable [IsStrictOrderedRing K]

/-- The position is on the way from `(x, y)` to `(x', y')`, which are `D` apart, and from
there the end is at most `left` away. -/
def Near (x y x' y' D left : K) (position : Vector K) : Prop :=
  ∃ ρ, 0 ≤ ρ ∧ ρ ≤ D ∧ ρ ≤ left ∧ position = ahead x y x' y' D ρ

variable [ExactSquareRoot K] {x y x' y' D left range : K} {speed : ℤ} {position : Vector K}
  (hD : D * D = (x' - x) * (x' - x) + (y' - y) * (y' - y))

include hD

omit [SquareRoot K] [ExactSquareRoot K] in
theorem near_start (hnonneg : 0 ≤ D) : Near x y x' y' D D ⟨.num x, .num y⟩ := by
  refine ⟨D, hnonneg, le_rfl, le_rfl, ?_⟩
  rcases eq_or_ne D 0 with hzero | hne
  · -- the two ends are the same position
    rw [hzero, mul_zero] at hD
    obtain ⟨hx, hy⟩ := (add_eq_zero_iff_of_nonneg (mul_self_nonneg _) (mul_self_nonneg _)).mp
      hD.symm
    rw [hzero, ahead_zero, sub_eq_zero.mp (mul_self_eq_zero.mp hx),
      sub_eq_zero.mp (mul_self_eq_zero.mp hy)]
  · exact (ahead_self hne).symm

theorem Near.distance_le (h : Near x y x' y' D left position) (hleft : left ≤ range) :
    position.distance ⟨.num x', .num y'⟩ ≤ .num range := by
  obtain ⟨ρ, hρ, hle, hρleft, rfl⟩ := h
  rw [distance_ahead hD hρ hle]
  exact hρleft.trans hleft

/-- **A step towards the end, unless it is in range.** -/
theorem Near.step (h : Near x y x' y' D (max range left) position) (hrange : 0 ≤ range)
    (hspeed : 0 ≤ speed) : Near x y x' y' D (max range (left - speed))
      (if position.distance ⟨.num x', .num y'⟩ ≤ .num range then position
        else getNextPosition position ⟨.num x', .num y'⟩ speed) := by
  have hcast : (0 : K) ≤ (speed : K) := by exact_mod_cast hspeed
  obtain ⟨ρ, hρ, hle, hρleft, rfl⟩ := h
  rw [distance_ahead hD hρ hle]
  by_cases hreach : ρ ≤ range
  · rw [if_pos (by exact hreach)]
    exact ⟨ρ, hρ, hle, hreach.trans (le_max_left _ _), rfl⟩
  · have hfar : ρ ≤ left := (le_max_iff.mp hρleft).resolve_left hreach
    rw [if_neg (by exact hreach), getNextPosition_ahead hD hρ hle hspeed]
    refine ⟨_, le_max_right _ _, max_le ((sub_le_self ρ hcast).trans hle) (hρ.trans hle), ?_, rfl⟩
    exact max_le ((sub_le_sub_right hfar _).trans (le_max_right _ _))
      (hrange.trans (le_max_left _ _))

end Approach

end SimplePathPlanner

/-! ## The towers -/

section Towers

omit [Field K] [LinearOrder K] [SquareRoot K]

/-- A tower that is not upgraded is left as it is, or has no hp left. -/
theorem TowerManager.processed_of_alive {c : Constants K} {m : TowerManager K} {v : Tower K}
    (hid : v.id ∉ m.towersToUpgrade) (hhp : (m.processed c v).hp ≠ 0) : m.processed c v = v := by
  unfold TowerManager.processed at hhp ⊢
  simp only [hid, if_false] at hhp ⊢
  split
  · rename_i hsuicide
    rw [if_pos hsuicide] at hhp
    exact absurd rfl hhp
  · rfl

end Towers

variable [FloorRing K]

namespace State

omit [LinearOrder K] [SquareRoot K] [FloorRing K] in
/-- **Where the towers that are standing come from**: they were listed before, or are new. -/
theorem mem_standing {c : Constants K} {st : State K} {q : PlayerId} {t : Tower K}
    (ht : t ∈ st.standing c q) : t.hp ≠ 0 ∧
      ((∃ v ∈ st.towers q, (st.towerManagers q).processed c v = t) ∨
        st.actorIdIncrement ≤ t.id) := by
  obtain ⟨hworked, hhp⟩ := List.mem_filter.mp ht
  refine ⟨by simpa using hhp, ?_⟩
  obtain ⟨v, hv, rfl⟩ := List.mem_map.mp hworked
  rcases List.mem_append.mp hv with hv | hv
  · exact .inl ⟨v, hv, rfl⟩
  · obtain ⟨_, -, id, hle, rfl⟩ := TowerEnv.mem_freshTowers hv
    rw [TowerManager.id_processed]
    refine .inr (le_trans ?_ hle)
    cases q with
    | player1 => exact le_rfl
    | player2 => exact le_add_of_nonneg_right (Int.natCast_nonneg _)

theorem Sound.nonneg_of_mem_shots {r : Ruleset K} {st : State K} (h : st.Sound r.toConstants)
    {q : PlayerId} (t : Tower K) : ∀ d ∈ (st.soldiers q.opponent).map (shot q t), 0 ≤ d := by
  intro d hd
  obtain ⟨s, hs, rfl⟩ := List.mem_map.mp hd
  obtain ⟨j, hj⟩ := List.getElem?_of_mem hs
  exact h.shot_nonneg hj q t

theorem Sound.siege_nonneg {r : Ruleset K} {st : State K} (h : st.Sound r.toConstants)
    (q : PlayerId) (t : Tower K) : 0 ≤ st.siege q t :=
  List.sum_nonneg (h.nonneg_of_mem_shots t)

theorem Sound.shot_le_siege {r : Ruleset K} {st : State K} (h : st.Sound r.toConstants)
    {q : PlayerId} {i : ℕ} {s : Soldier K} (hs : (st.soldiers q.opponent)[i]? = some s)
    (t : Tower K) : shot q t s ≤ st.siege q t :=
  List.single_le_sum (h.nonneg_of_mem_shots t) _ (List.mem_map_of_mem (List.mem_of_getElem? hs))

/-- A living soldier that has been told to attack a tower is to hit it when it is in
range. -/
theorem Sound.shot_of_reaches {r : Ruleset K} {st : State K} (h : st.Sound r.toConstants)
    {p q : PlayerId} {i : ℕ} {u : Soldier K} (hu : (st.soldiers p)[i]? = some u) (hhp : u.hp ≠ 0)
    {t : Tower K} (hptr : u.attackTarget = some (.tower q t.id)) (hreach : u.Reaches (.tower t)) :
    shot q t u = r.soldierAttackDamage := by
  have hsound := h.soldier p i u hu
  have hdest : u.isDestinationSet = false := by
    by_contra hset
    exact Option.some_ne_none _ (hptr.symm.trans (hsound.one_order (by simpa using hset)))
  rw [shot, if_pos ⟨hptr, hsound.orderly.state_ne_dead hhp, hdest, hreach⟩]
  exact hsound.attackDamage_eq

/-- The soldier in slot `i` of player `p` is alive and has been told to attack tower `id`. -/
def Attacks (st : State K) (p : PlayerId) (i : ℕ) (id : ℤ) (u : Soldier K) : Prop :=
  (st.soldiers p)[i]? = some u ∧ u.hp ≠ 0 ∧ u.attackTarget = some (.tower p.opponent id)

theorem Attacks.reaches_iff {r : Ruleset K} {st : State K} {p : PlayerId} {i : ℕ} {id : ℤ}
    {u : Soldier K} {x' y' : K} (hu : st.Attacks p i id u) (hst : st.Sound r.toConstants)
    {w : Tower K} (hw : w.position = ⟨.num x', .num y'⟩) : u.Reaches (.tower w) ↔
      u.position.distance ⟨.num x', .num y'⟩ ≤ .num (r.soldierAttackRange : K) := by
  show u.position.distance w.position ≤ Double.ofInt u.attackRange ↔ _
  rw [hw, (hst.soldier p i u hu.1).attackRange_eq]
  rfl

end State

/-! ## A turn of a siege -/

section Runs

variable [IsStrictOrderedRing K] {r : Ruleset K} {past : List (Turn K)} {st : State K}
  {t t' : Turn K} {p q : PlayerId} {i : ℕ} {id : ℤ}

omit [IsStrictOrderedRing K] in
/-- Every turn of a game was played from a reachable state. -/
theorem Game.reachable_before (h : Game r past st) (ht : t ∈ past) :
    Reachable r t.before ∧ t.IsPlayed r := by
  induction h with
  | start => cases ht
  | turn hgame hplayed ih =>
    rcases List.mem_append.mp ht with ht | ht
    · exact ih ht
    · obtain rfl := List.mem_singleton.mp ht
      exact ⟨⟨_, hgame⟩, hplayed⟩

theorem Game.before_eq_after (h : Game r past st) {k : ℕ} (ht : past[k]? = some t)
    (ht' : past[k + 1]? = some t') : t'.before = t.after := by
  induction h with
  | start => cases ht
  | @turn past last hgame hplayed ih =>
    rcases Nat.lt_or_ge (k + 1) past.length with hk | hk
    · rw [List.getElem?_append_left (by omega)] at ht ht'
      exact ih ht ht'
    · have hlt := (List.getElem?_eq_some_iff.mp ht').1
      rw [List.length_append, List.length_singleton] at hlt
      obtain hk : k + 1 = past.length := by omega
      rw [hk, List.getElem?_concat_length] at ht'
      obtain rfl := Option.some.inj ht'
      rw [List.getElem?_append_left (by omega)] at ht
      rcases hgame.last with ⟨rfl, -⟩ | ⟨past', u, rfl, hafter⟩
      · cases ht
      · rw [List.length_append, List.length_singleton] at hk
        obtain rfl : k = past'.length := by omega
        rw [List.getElem?_concat_length] at ht
        obtain rfl := Option.some.inj ht
        exact hafter.symm

/-- **A tower after a turn**, if it was there before and has not been upgraded: it is left
as it was, but for what the soldiers have done to it. -/
theorem Turn.IsPlayed.exists_struck (ht : t.IsPlayed r) (h : t.before.Rested r) {w : Tower K}
    (hw : w ∈ t.after.towers q) (hold : w.id < t.before.actorIdIncrement)
    (hid : w.id ∉ (t.commanded.towerManagers q).towersToUpgrade) :
    ∃ v ∈ t.before.towers q, v.hp ≠ 0 ∧ w = v.damage (t.commanded.siege q v) := by
  obtain ⟨hsame, hready, -, hupdate⟩ := ht.commands h
  rw [hready.towers_update hupdate] at hw
  obtain ⟨v, hv, rfl⟩ := List.mem_map.mp hw
  obtain ⟨hhp, ⟨v₀, hv₀, rfl⟩ | hnew⟩ := State.mem_standing hv
  · rw [hsame.towers] at hv₀
    have hid₀ : v₀.id ∉ (t.commanded.towerManagers q).towersToUpgrade := by
      rw [← TowerManager.id_processed r.toConstants (t.commanded.towerManagers q) v₀]
      exact hid
    have heq := TowerManager.processed_of_alive hid₀ hhp
    rw [heq] at hhp ⊢
    exact ⟨v₀, hv₀, hhp, rfl⟩
  · rw [hsame.actorIdIncrement] at hnew
    exact absurd hold (not_lt.mpr hnew)

/-- **The tower in a turn of a siege**: it loses at least what the soldier does to it, if it
is in range. -/
theorem Turn.IsPlayed.hp_of_attacks (ht : t.IsPlayed r) (h : t.before.Rested r) {u : Soldier K}
    (hu : t.commanded.Attacks p i id u) {v : Tower K} (hid : v.id = id)
    (hreach : u.Reaches (.tower v)) :
    (v.damage (t.commanded.siege p.opponent v)).hp ≤ max 0 (v.hp - r.soldierAttackDamage) := by
  obtain ⟨hslot, hhp, hptr⟩ := hu
  obtain ⟨-, hready, -, -⟩ := ht.commands h
  have hslot' : (t.commanded.soldiers p.opponent.opponent)[i]? = some u := by
    rw [PlayerId.opponent_opponent]
    exact hslot
  have hshot : State.shot p.opponent v u = r.soldierAttackDamage :=
    hready.sound.shot_of_reaches hslot hhp (hid ▸ hptr) hreach
  have hle := hready.sound.shot_le_siege hslot' v
  rw [hshot] at hle
  exact max_le_max le_rfl (sub_le_sub_left hle _)

/-- **The soldier in a turn of a siege**, if it stays alive and the tower stands: it is still
after the tower, and goes nearer if it is not in range. -/
theorem Turn.IsPlayed.exists_pursuing (ht : t.IsPlayed r) (h : Reachable r t.before)
    {u : Soldier K} (hu : t.commanded.Attacks p i id u)
    (halive : ∀ s, (t.after.soldiers p)[i]? = some s → s.hp ≠ 0) {w : Tower K}
    (hw : w ∈ t.after.towers p.opponent) (hid : w.id = id) (hhp : w.hp ≠ 0) :
    ∃ s, t.after.Attacks p i id s ∧ s.position = if u.Reaches (.tower w) then u.position
      else SimplePathPlanner.getNextPosition u.position w.position r.soldierSpeed := by
  obtain ⟨past, hgame⟩ := h
  obtain ⟨hslot, huhp, hptr⟩ := hu
  obtain ⟨hsame, hready, -, -⟩ := ht.commands hgame.rested
  obtain ⟨s₀, hs₀, hbody⟩ := hsame.exists_getElem? hslot
  have hrest := hgame.resting hs₀
  obtain ⟨e, s, hlife⟩ := ht.exists_lives hgame.rested hs₀ hrest
  obtain ⟨orders, d, -, hbefore, horders⟩ := hlife.orders
  have hmet : e.met s₀ = u.damage d := by
    rw [Soldier.TurnEvents.met, hbefore, List.foldl_append,
      Option.some.inj (horders.symm.trans hslot)]
    rfl
  have hmetPtr : (e.met s₀).attackTarget = some (.tower p.opponent w.id) := by
    rw [hmet, hid]
    exact hptr
  obtain ⟨v, htarget, hworn⟩ := hlife.target w hw hmetPtr
  have hvhp : (Actor.tower v).latestHp ≠ 0 := fun hzero => hhp (hworn.hp_eq_zero hzero)
  have hs₀hp : s₀.hp ≠ 0 := by
    rw [← show u.hp = s₀.hp from (congrArg Soldier.hp hbody :)]
    exact huhp
  obtain ⟨hkeeps, hposition⟩ := hlife.plays.pursues hrest r.soldierTotalTurnsToRespawn_pos hmet
    hptr hs₀hp (halive s hlife.after) htarget hvhp
  refine ⟨s, ⟨hlife.after, halive s hlife.after, hkeeps⟩, ?_⟩
  have hreaches : u.Reaches (.tower v) ↔ u.Reaches (.tower w) := by
    show u.position.distance v.position ≤ _ ↔ u.position.distance w.position ≤ _
    rw [hworn.position]
  rw [hposition, if_congr hreaches rfl rfl, (hready.sound.soldier p i u hslot).speed_eq]
  rw [show (Actor.tower v).position = w.position from hworn.position.symm]

/-- A tower that is not listed, or has no hp and is not upgraded, is not listed after a
turn. -/
theorem Turn.IsPlayed.unlisted (ht : t.IsPlayed r) (h : t.before.Rested r)
    (hold : id < t.before.actorIdIncrement)
    (hdead : ∀ w ∈ t.before.towers q, w.id = id → w.hp = 0)
    (hid : id ∉ (t.commanded.towerManagers q).towersToUpgrade) :
    ∀ w ∈ t.after.towers q, w.id ≠ id := by
  rintro w hw rfl
  obtain ⟨v, hv, hhp, rfl⟩ := ht.exists_struck h hw hold hid
  exact hhp (hdead v hv rfl)

/-! ## A siege -/

/-- How it stands with a siege before the updates of a turn: the tower has at most `hp` left,
and the soldier is in range or at most `left` away from the tower, unless that has fallen. -/
structure Turn.UnderSiege (r : Ruleset K) (t : Turn K) (p : PlayerId) (i : ℕ) (id : ℤ)
    (x y x' y' D left : K) (hp : ℤ) : Prop where
  old : id < t.before.actorIdIncrement
  tower : ∀ w ∈ t.before.towers p.opponent, w.id = id →
    w.position = ⟨.num x', .num y'⟩ ∧ w.hp ≤ max 0 hp
  soldier : (∀ w ∈ t.before.towers p.opponent, w.id = id → w.hp = 0) ∨
    ∃ u, t.commanded.Attacks p i id u ∧
      SimplePathPlanner.Near x y x' y' D (max (r.soldierAttackRange : K) left) u.position

variable [ExactSquareRoot K] {x y x' y' D left : K} {hp : ℤ}

section Turns

variable (hD : D * D = (x' - x) * (x' - x) + (y' - y) * (y' - y))

include hD

/-- **One turn of a siege, on the tower.** -/
theorem Turn.UnderSiege.tower_after (h : t.UnderSiege r p i id x y x' y' D left hp)
    (hrested : t.before.Rested r) (ht : t.IsPlayed r)
    (hid : id ∉ (t.commanded.towerManagers p.opponent).towersToUpgrade) :
    ∀ w ∈ t.after.towers p.opponent, w.id = id → w.position = ⟨.num x', .num y'⟩ ∧
      w.hp ≤ max 0 (if left ≤ r.soldierAttackRange then hp - r.soldierAttackDamage else hp) := by
  intro w hw hwid
  obtain ⟨-, hready, -, -⟩ := ht.commands hrested
  have hdamage := r.soldierAttackDamage_nonneg
  rcases h.soldier with hfallen | ⟨u, hu, hnear⟩
  · exact absurd hwid (ht.unlisted hrested h.old hfallen hid w hw)
  · obtain ⟨v, hv, -, rfl⟩ := ht.exists_struck hrested hw (hwid ▸ h.old) (hwid ▸ hid)
    obtain ⟨hposition, hbound⟩ := h.tower v hv hwid
    refine ⟨hposition, ?_⟩
    split
    · rename_i hleft
      have hin := (hu.reaches_iff hready.sound hposition).mpr
        (hnear.distance_le hD (max_le le_rfl hleft))
      have hstruck := ht.hp_of_attacks hrested hu (v := v) hwid hin
      omega
    · have hnonneg := hready.sound.siege_nonneg p.opponent v
      show max 0 (v.hp - t.commanded.siege p.opponent v) ≤ _
      omega

/-- **One turn of a siege.** -/
theorem Turn.UnderSiege.step (h : t.UnderSiege r p i id x y x' y' D left hp)
    (hrange : 0 ≤ r.soldierAttackRange) (hspeed : 0 ≤ r.soldierSpeed)
    (hreachable : Reachable r t.before) (ht : t.IsPlayed r)
    (hid : id ∉ (t.commanded.towerManagers p.opponent).towersToUpgrade)
    (halive : ∀ s, (t.after.soldiers p)[i]? = some s → s.hp ≠ 0) (hnext : t'.before = t.after)
    (hundisturbed : (t'.commanded.soldiers p)[i]? = (t'.before.soldiers p)[i]?) :
    t'.UnderSiege r p i id x y x' y' D (left - r.soldierSpeed)
      (if left ≤ r.soldierAttackRange then hp - r.soldierAttackDamage else hp) := by
  have hrested := hreachable.rested
  obtain ⟨hsame, hready, -, hupdate⟩ := ht.commands hrested
  have hrangeK : (0 : K) ≤ (r.soldierAttackRange : K) := by exact_mod_cast hrange
  have hle := hready.actorIdIncrement_le hupdate
  rw [hsame.actorIdIncrement] at hle
  refine ⟨hnext ▸ h.old.trans_le hle, hnext ▸ h.tower_after hD hrested ht hid, ?_⟩
  rcases h.soldier with hfallen | ⟨u, hu, hnear⟩
  · -- the tower is taken off the list
    have hgone := ht.unlisted hrested h.old hfallen hid
    exact .inl fun w hw hwid => absurd hwid (hgone w (hnext ▸ hw))
  · by_cases hfallen : ∀ w ∈ t'.before.towers p.opponent, w.id = id → w.hp = 0
    · exact .inl hfallen
    · push Not at hfallen
      obtain ⟨w, hw, hwid, hwhp⟩ := hfallen
      rw [hnext] at hw
      obtain ⟨s, hs, hposition⟩ := ht.exists_pursuing hreachable hu halive hw hwid hwhp
      obtain ⟨hwposition, -⟩ := h.tower_after hD hrested ht hid w hw hwid
      refine .inr ⟨s, ⟨?_, hs.2⟩, ?_⟩
      · rw [hundisturbed, hnext]
        exact hs.1
      · rw [hposition, if_congr (hu.reaches_iff hready.sound hwposition) rfl rfl, hwposition]
        exact hnear.step hD hrangeK hspeed

end Turns

/-- In the turns from turn `k` on, `n` of them, the soldier in slot `i` of player `p` gets no
orders after the first and stays alive, and up to the turn after them tower `id` of the
opponent is not upgraded. -/
structure Besieging (past : List (Turn K)) (p : PlayerId) (i : ℕ) (id : ℤ) (k n : ℕ) :
    Prop where
  undisturbed : ∀ (j : ℕ) t, k < j → j < k + n → past[j]? = some t →
    (t.commanded.soldiers p)[i]? = (t.before.soldiers p)[i]?
  alive : ∀ (j : ℕ) t s, k ≤ j → j < k + n → past[j]? = some t →
    (t.after.soldiers p)[i]? = some s → s.hp ≠ 0
  notUpgraded : ∀ (j : ℕ) t, k ≤ j → j ≤ k + n → past[j]? = some t →
    id ∉ (t.commanded.towerManagers p.opponent).towersToUpgrade

omit [SquareRoot K] [FloorRing K] [IsStrictOrderedRing K] [ExactSquareRoot K] in
theorem Turn.UnderSiege.mono {hp' : ℤ} (h : t.UnderSiege r p i id x y x' y' D left hp)
    (hle : hp ≤ hp') : t.UnderSiege r p i id x y x' y' D left hp' :=
  ⟨h.old, fun w hw hwid =>
    ⟨(h.tower w hw hwid).1, (h.tower w hw hwid).2.trans (max_le_max le_rfl hle)⟩, h.soldier⟩

omit [SquareRoot K] [FloorRing K] [ExactSquareRoot K] in
theorem hp_step {range : K} {speed damage : ℤ} {n : ℕ} (hn : D ≤ range + n * speed)
    (hspeed : 0 ≤ speed) (hdamage : 0 ≤ damage) (j : ℕ) :
    (if D - j * (speed : K) ≤ range then hp - (j - n : ℕ) * damage - damage
      else hp - (j - n : ℕ) * damage) ≤ hp - (j + 1 - n : ℕ) * damage := by
  rcases Nat.lt_or_ge j n with hway | hthere
  · -- it may still be on its way
    rw [show j + 1 - n = 0 by omega, show j - n = 0 by omega, Nat.cast_zero, zero_mul, sub_zero]
    split <;> omega
  · have hspeedK : (0 : K) ≤ (speed : K) := by exact_mod_cast hspeed
    have hcast : (n : K) ≤ j := by exact_mod_cast hthere
    have hin : D - j * (speed : K) ≤ range := by
      linarith [mul_le_mul_of_nonneg_right hcast hspeedK]
    rw [if_pos hin, show j + 1 - n = j - n + 1 by omega]
    push_cast
    linarith

section Siege

variable (hD : D * D = (x' - x) * (x' - x) + (y' - y) * (y' - y)) (h : Game r past st)
  (hrange : 0 ≤ r.soldierAttackRange) (hspeed : 0 ≤ r.soldierSpeed) {k n m : ℕ}
  (ht : past[k]? = some t) (hstart : t.UnderSiege r p i id x y x' y' D D hp)
  (hn : D ≤ r.soldierAttackRange + n * r.soldierSpeed)
  (hsiege : Besieging past p i id k (n + m))

include hD h hrange hspeed ht hstart hn hsiege

/-- **The run of a siege.** -/
theorem Game.underSiege (j : ℕ) (hj : j < n + m) {u : Turn K} (hu : past[k + j]? = some u) :
    u.UnderSiege r p i id x y x' y' D (D - j * r.soldierSpeed)
      (hp - (j - n : ℕ) * r.soldierAttackDamage) := by
  induction j generalizing u with
  | zero =>
    obtain rfl := Option.some.inj (ht.symm.trans hu)
    rw [Nat.cast_zero, zero_mul, sub_zero]
    exact hstart.mono (by simp)
  | succ j ih =>
    have hlt := (List.getElem?_eq_some_iff.mp hu).1
    obtain ⟨v, hv⟩ : ∃ v, past[k + j]? = some v :=
      ⟨_, List.getElem?_eq_getElem (by omega)⟩
    obtain ⟨hreachable, hplayed⟩ := h.reachable_before (List.mem_of_getElem? hv)
    have hstep := (ih (by omega) hv).step hD hrange hspeed hreachable hplayed
      (hsiege.notUpgraded _ v (by omega) (by omega) hv)
      (fun s hs => hsiege.alive _ v s (by omega) (by omega) hv hs)
      (h.before_eq_after hv hu) (hsiege.undisturbed _ u (by omega) (by omega) hu)
    have hleft : D - (j + 1 : ℕ) * (r.soldierSpeed : K) =
        D - j * r.soldierSpeed - r.soldierSpeed := by
      push_cast
      ring
    rw [hleft]
    exact hstep.mono (hp_step hn hspeed r.soldierAttackDamage_nonneg j)

theorem Game.hp_underSiege (j : ℕ) (hj : j ≤ n + m) {u : Turn K} (hu : past[k + j]? = some u) :
    ∀ w ∈ u.before.towers p.opponent, w.id = id →
      w.hp ≤ max 0 (hp - (j - n : ℕ) * r.soldierAttackDamage) := by
  cases j with
  | zero =>
    obtain rfl := Option.some.inj (ht.symm.trans hu)
    intro w hw hwid
    simpa using (hstart.tower w hw hwid).2
  | succ j =>
    have hlt := (List.getElem?_eq_some_iff.mp hu).1
    obtain ⟨v, hv⟩ : ∃ v, past[k + j]? = some v :=
      ⟨_, List.getElem?_eq_getElem (by omega)⟩
    obtain ⟨hreachable, hplayed⟩ := h.reachable_before (List.mem_of_getElem? hv)
    rw [h.before_eq_after hv hu]
    intro w hw hwid
    have hunder := h.underSiege hD hrange hspeed ht hstart hn hsiege j (by omega) hv
    obtain ⟨-, hafter⟩ := hunder.tower_after hD hreachable.rested hplayed
      (hsiege.notUpgraded _ v (by omega) (by omega) hv) w hw hwid
    exact hafter.trans
      (max_le_max le_rfl (hp_step hn hspeed r.soldierAttackDamage_nonneg j))

end Siege

omit [ExactSquareRoot K] in
theorem Game.actorIdIncrement_mono (h : Game r past st) {k : ℕ} (ht : past[k]? = some t) (j : ℕ)
    (hj : k ≤ j) {u : Turn K} (hu : past[j]? = some u) :
    t.before.actorIdIncrement ≤ u.before.actorIdIncrement := by
  induction j, hj using Nat.le_induction generalizing u with
  | base =>
    obtain rfl := Option.some.inj (ht.symm.trans hu)
    exact le_rfl
  | succ j hj ih =>
    have hlt := (List.getElem?_eq_some_iff.mp hu).1
    obtain ⟨v, hv⟩ : ∃ v, past[j]? = some v := ⟨_, List.getElem?_eq_getElem (by omega)⟩
    obtain ⟨hreachable, hplayed⟩ := h.reachable_before (List.mem_of_getElem? hv)
    obtain ⟨hsame, hready, -, hupdate⟩ := hplayed.commands hreachable.rested
    have hle := hready.actorIdIncrement_le hupdate
    rw [hsame.actorIdIncrement, ← h.before_eq_after hv hu] at hle
    exact (ih hv).trans hle

omit [ExactSquareRoot K] in
/-- A tower that is not listed any more stays so. -/
theorem Game.stays_unlisted (h : Game r past st) {k : ℕ} (ht : past[k]? = some t)
    (hold : id < t.before.actorIdIncrement) (hgone : ∀ w ∈ t.after.towers q, w.id ≠ id) (j : ℕ)
    (hj : k ≤ j) {u : Turn K} (hu : past[j]? = some u) : ∀ w ∈ u.after.towers q, w.id ≠ id := by
  induction j, hj using Nat.le_induction generalizing u with
  | base =>
    obtain rfl := Option.some.inj (ht.symm.trans hu)
    exact hgone
  | succ j hj ih =>
    have hlt := (List.getElem?_eq_some_iff.mp hu).1
    obtain ⟨v, hv⟩ : ∃ v, past[j]? = some v := ⟨_, List.getElem?_eq_getElem (by omega)⟩
    obtain ⟨hreachable, hplayed⟩ := h.reachable_before (List.mem_of_getElem? hu)
    obtain ⟨hsame, hready, -, -⟩ := hplayed.commands hreachable.rested
    have hnone : ∀ w ∈ u.before.towers q, w.id ≠ id := h.before_eq_after hv hu ▸ ih hv
    refine hplayed.unlisted hreachable.rested
      (hold.trans_le (h.actorIdIncrement_mono ht _ (by omega) hu))
      (fun w hw hwid => absurd hwid (hnone w hw)) ?_
    intro hup
    -- only towers that are listed are upgraded
    obtain ⟨w, hw, hwid, -⟩ := (hready.queued q).upgrades id hup
    have hw' : w ∈ u.commanded.towers q := hw
    rw [hsame.towers] at hw'
    exact hnone w hw' hwid

/-- **An attack on a tower is carried out.**  A soldier that has been told to attack a tower,
gets no other orders and stays alive has finished it off after as many turns as it takes to
come into range and to use up the hp of the tower, unless that is upgraded meanwhile, and the
tower never comes back. -/
theorem Game.attack_succeeds (h : Game r past st) (hrange : 0 ≤ r.soldierAttackRange)
    (hspeed : 0 ≤ r.soldierSpeed) {k n m : ℕ} {u : Soldier K} {w : Tower K}
    (ht : past[k]? = some t) (hu : t.commanded.Attacks p i id u)
    (hw : w ∈ t.commanded.towers p.opponent) (hid : w.id = id)
    (hsource : u.position = ⟨.num x, .num y⟩) (hdest : w.position = ⟨.num x', .num y'⟩)
    (hnonneg : 0 ≤ D) (hD : D * D = (x' - x) * (x' - x) + (y' - y) * (y' - y))
    (hn : D ≤ r.soldierAttackRange + n * r.soldierSpeed)
    (hm : w.hp ≤ m * r.soldierAttackDamage) (hsiege : Besieging past p i id k (n + m)) :
    ∀ (j : ℕ) t', k + n + m ≤ j → past[j]? = some t' →
      ∀ w' ∈ t'.after.towers p.opponent, w'.id ≠ id := by
  obtain ⟨hreachable, hplayed⟩ := h.reachable_before (List.mem_of_getElem? ht)
  have hrested := hreachable.rested
  obtain ⟨hsame, hready, -, -⟩ := hplayed.commands hrested
  rw [hsame.towers] at hw
  have hmanager := hrested.sound.manager p.opponent
  have hstart : t.UnderSiege r p i id x y x' y' D D w.hp := by
    refine ⟨?_, ?_, .inr ⟨u, hu, ?_⟩⟩
    · rw [← hid]
      exact hmanager.id_lt w (TowerManager.mem_allocatedTowers_of_mem hw)
    · intro v hv hvid
      obtain rfl := hmanager.eq_of_id (TowerManager.mem_allocatedTowers_of_mem hv)
        (TowerManager.mem_allocatedTowers_of_mem hw) (hvid.trans hid.symm)
      exact ⟨hdest, le_max_right _ _⟩
    · have hnear : SimplePathPlanner.Near x y x' y' D D ⟨.num x, .num y⟩ :=
        SimplePathPlanner.near_start hD hnonneg
      obtain ⟨ρ, hρ, hle, -, hposition⟩ := hnear
      exact ⟨ρ, hρ, hle, hle.trans (le_max_right _ _), hsource.trans hposition⟩
  intro j t' hj ht'
  have hlt := (List.getElem?_eq_some_iff.mp ht').1
  obtain ⟨v, hv⟩ : ∃ v, past[k + (n + m)]? = some v := ⟨_, List.getElem?_eq_getElem (by omega)⟩
  obtain ⟨hreachable', hplayed'⟩ := h.reachable_before (List.mem_of_getElem? hv)
  have hold : id < v.before.actorIdIncrement :=
    hstart.old.trans_le (h.actorIdIncrement_mono ht _ (by omega) hv)
  have hgone : ∀ w' ∈ v.after.towers p.opponent, w'.id ≠ id := by
    refine hplayed'.unlisted hreachable'.rested hold ?_
      (hsiege.notUpgraded _ v (by omega) (by omega) hv)
    intro w' hw' hwid
    have hbound := h.hp_underSiege hD hrange hspeed ht hstart hn hsiege _ le_rfl hv w' hw' hwid
    have hnonneg' := ((hreachable'.rested.sound.manager p.opponent).tower w'
      (TowerManager.mem_allocatedTowers_of_mem hw')).hp_nonneg
    rw [Nat.add_sub_cancel_left, max_eq_left (by linarith)] at hbound
    omega
  exact h.stays_unlisted hv hold hgone j (by omega) ht'

omit [Field K] [LinearOrder K] [SquareRoot K] [FloorRing K] [IsStrictOrderedRing K]
  [ExactSquareRoot K] in
/-- The skirmish with a shorter range. -/
def siegeRules : Ruleset ℚ := { skirmishRules with soldierAttackRange := 2 }

omit [Field K] [LinearOrder K] [SquareRoot K] [FloorRing K] [IsStrictOrderedRing K]
  [ExactSquareRoot K] in
/-- A siege of two turns, the first turn of a game left out. -/
theorem besieging_of_quiet {t₀ t₁ t₂ t₃ : Turn ℚ}
    (hquiet : (t₂.commanded.soldiers p)[i]? = (t₂.before.soldiers p)[i]?)
    (halive : ∀ t ∈ [t₁, t₂], ∀ s, (t.after.soldiers p)[i]? = some s → s.hp ≠ 0)
    (hupgrades : ∀ t ∈ [t₁, t₂, t₃],
      id ∉ (t.commanded.towerManagers p.opponent).towersToUpgrade) :
    Besieging [t₀, t₁, t₂, t₃] p i id 1 (1 + 1) := by
  refine ⟨?_, ?_, ?_⟩
  · intro j t hj hj' ht
    obtain rfl : j = 2 := by omega
    obtain rfl := Option.some.inj ht
    exact hquiet
  · intro j t s hj hj' ht
    obtain rfl | rfl : j = 1 ∨ j = 2 := by omega
    · obtain rfl := Option.some.inj ht
      exact halive _ (by simp) s
    · obtain rfl := Option.some.inj ht
      exact halive _ (by simp) s
  · intro j t hj hj' ht
    obtain rfl | rfl | rfl : j = 1 ∨ j = 2 ∨ j = 3 := by omega
    · obtain rfl := Option.some.inj ht
      exact hupgrades _ (by simp)
    · obtain rfl := Option.some.inj ht
      exact hupgrades _ (by simp)
    · obtain rfl := Option.some.inj ht
      exact hupgrades _ (by simp)

omit [Field K] [LinearOrder K] [SquareRoot K] [FloorRing K] [IsStrictOrderedRing K]
  [ExactSquareRoot K] in
/-- Player 2 builds a tower, four away from the soldiers of player 1, and one of them is told to
attack it; nothing else is asked for. -/
theorem siege_of_tower : ∃ (t₀ t₁ t₂ t₃ : Turn ℚ) (st : State ℚ),
    Game siegeRules [t₀, t₁, t₂, t₃] st ∧
      ((t₁.commanded.soldiers .player1)[0]?.map fun u => (u.hp, u.attackTarget, u.position)) =
        some (1, some (.tower .player2 6), ⟨.num 1, .num 1⟩) ∧
      ((t₁.commanded.towers .player2).map fun w => (w.id, w.hp, w.position)) =
        [(5, 1, ⟨.num 1, .num 7⟩), (6, 1, ⟨.num 1, .num 5⟩)] ∧
      (∀ t ∈ [t₁, t₂, t₃], (t.commanded.towerManagers .player2).towersToUpgrade = []) ∧
      (∀ t ∈ [t₁, t₂], (t.after.soldiers .player1)[0]?.map Soldier.hp = some 1) ∧
      (t₂.commanded.soldiers .player1)[0]? = (t₂.before.soldiers .player1)[0]? := by
  have hrun : ((play siegeRules [bothPlay _ (.quiet _) (.build _ (3, 1))]).toOption.bind fun st₀ =>
      (execute (bothPlay siegeRules (.attackTower _ 0 6) (.quiet _)) st₀).toOption.bind fun ph₁ =>
      (State.update siegeRules.toConstants ph₁.state).toOption.bind fun st₁ =>
      (execute (bothPlay siegeRules (.quiet _) (.quiet _)) st₁).toOption.bind fun ph₂ =>
      (State.update siegeRules.toConstants ph₂.state).toOption.bind fun st₂ =>
      (execute (bothPlay siegeRules (.quiet _) (.quiet _)) st₂).toOption.bind fun ph₃ =>
      (State.update siegeRules.toConstants ph₃.state).toOption.bind fun _ =>
      some (decide
        (((ph₁.state.soldiers .player1)[0]?.map fun u => (u.hp, u.attackTarget, u.position)) =
            some (1, some (.tower .player2 6), ⟨.num 1, .num 1⟩) ∧
          ((ph₁.state.towers .player2).map fun w => (w.id, w.hp, w.position)) =
            [(5, 1, ⟨.num 1, .num 7⟩), (6, 1, ⟨.num 1, .num 5⟩)] ∧
          (∀ st ∈ [ph₁.state, ph₂.state, ph₃.state],
            (st.towerManagers .player2).towersToUpgrade = []) ∧
          (∀ st ∈ [st₁, st₂], (st.soldiers .player1)[0]?.map Soldier.hp = some 1) ∧
          (ph₂.state.soldiers .player1)[0]? = (st₁.soldiers .player1)[0]?))) = some true := by
    decide +kernel
  obtain ⟨st₀, h₀, hrun⟩ := exists_of_toOption_bind hrun
  obtain ⟨ph₁, hph₁, hrun⟩ := exists_of_toOption_bind hrun
  obtain ⟨st₁, h₁, hrun⟩ := exists_of_toOption_bind hrun
  obtain ⟨ph₂, hph₂, hrun⟩ := exists_of_toOption_bind hrun
  obtain ⟨st₂, h₂, hrun⟩ := exists_of_toOption_bind hrun
  obtain ⟨ph₃, hph₃, hrun⟩ := exists_of_toOption_bind hrun
  obtain ⟨st₃, h₃, hrun⟩ := exists_of_toOption_bind hrun
  obtain ⟨hsoldier, htowers, hupgrades, hhp, hquiet⟩ := of_decide_eq_true (Option.some.inj hrun)
  obtain ⟨past, hlength, hgame₀⟩ := game_of_play h₀
  obtain ⟨first, rfl⟩ := List.length_eq_one_iff.mp hlength
  have hgame : Game siegeRules ([first] ++ [⟨st₀, ph₁.state, st₁⟩] ++ [⟨st₁, ph₂.state, st₂⟩] ++
      [⟨st₂, ph₃.state, st₃⟩]) st₃ :=
    .turn (t := ⟨st₂, ph₃.state, st₃⟩) (.turn (t := ⟨st₁, ph₂.state, st₂⟩)
      (.turn (t := ⟨st₀, ph₁.state, st₁⟩) hgame₀ ⟨_, ph₁, hph₁, rfl, h₁⟩)
      ⟨_, ph₂, hph₂, rfl, h₂⟩) ⟨_, ph₃, hph₃, rfl, h₃⟩
  refine ⟨first, _, _, _, st₃, hgame, hsoldier, htowers, ?_, ?_, hquiet⟩
  · intro t ht
    obtain rfl | rfl | rfl := by simpa only [List.mem_cons, List.not_mem_nil, or_false] using ht
    all_goals exact hupgrades _ (by simp)
  · intro t ht
    obtain rfl | rfl := by simpa only [List.mem_cons, List.not_mem_nil, or_false] using ht
    all_goals exact hhp _ (by simp)

omit [Field K] [LinearOrder K] [SquareRoot K] [FloorRing K] [IsStrictOrderedRing K]
  [ExactSquareRoot K] in
/-- The soldier takes one turn to come into range, destroys the tower in the next one, and the
turn after that takes the tower off the list. -/
theorem attack_succeeds_sample : ∃ (past : List (Turn ℚ)) (st : State ℚ) (t t' : Turn ℚ),
    Game siegeRules past st ∧ past[1]? = some t ∧ past[3]? = some t' ∧
      (t.commanded.towers .player2).map (fun w => (w.id, w.hp)) = [(5, 1), (6, 1)] ∧
      ∀ w ∈ t'.after.towers .player2, w.id ≠ 6 := by
  obtain ⟨t₀, t₁, t₂, t₃, st, hgame, hsoldier, htowers, hupgrades, hhp, hquiet⟩ := siege_of_tower
  obtain ⟨u, hu, hbody⟩ := Option.map_eq_some_iff.mp hsoldier
  obtain ⟨huhp, huptr, huposition⟩ : u.hp = 1 ∧ u.attackTarget = some (.tower .player2 6) ∧
      u.position = ⟨.num 1, .num 1⟩ := by simpa using hbody
  have hmem : ((6, 1, ⟨.num 1, .num 5⟩) : ℤ × ℤ × Vector ℚ) ∈
      (t₁.commanded.towers .player2).map fun w => (w.id, w.hp, w.position) := by
    rw [htowers]
    simp
  obtain ⟨w, hw, hwbody⟩ := List.mem_map.mp hmem
  obtain ⟨hwid, hwhp, hwposition⟩ : w.id = 6 ∧ w.hp = 1 ∧ w.position = ⟨.num 1, .num 5⟩ := by
    simpa using hwbody
  have hsiege : Besieging [t₀, t₁, t₂, t₃] .player1 0 6 1 (1 + 1) := by
    refine besieging_of_quiet hquiet ?_ ?_
    · intro t ht s hs
      have hone := hhp t ht
      rw [hs] at hone
      rw [Option.some.inj hone]
      decide
    · intro t ht
      have hnone : (t.commanded.towerManagers PlayerId.player1.opponent).towersToUpgrade = [] :=
        hupgrades t ht
      rw [hnone]
      exact List.not_mem_nil
  refine ⟨_, st, t₁, t₃, hgame, rfl, rfl, ?_, ?_⟩
  · have hpairs := congrArg (List.map fun x : ℤ × ℤ × Vector ℚ => (x.1, x.2.1)) htowers
    rw [List.map_map] at hpairs
    exact hpairs
  · exact hgame.attack_succeeds (x := 1) (y := 1) (n := 1) (m := 1) (by decide) (by decide) rfl
      ⟨hu, by rw [huhp]; decide, huptr⟩ hw hwid huposition hwposition (by norm_num)
      (show (4 : ℚ) * 4 = _ by norm_num) (by decide +kernel) (by rw [hwhp]; decide) hsiege 3 _
      le_rfl rfl

end Runs

end Simulator
