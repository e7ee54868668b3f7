import Simulator.State.SoldierPhases

/-!
# Rounds of any soldiers

What the state machine guarantees does not depend on the rest of the game.  Soldiers may
be built with any numbers, stand among any towers, and be hit by anybody for any amount:
as long as a target pointer that is set points to an actor of the opponent
(`State.Steady`), an update returns, unless the reward for a kill is refused, and leaves
the soldier's orders in agreement with its state; and a late update puts the soldier to
rest (`Soldier.AtRest`).

## Less than a sound state

A test builds a soldier with a mock state around it, and a soldier of such a test is none of a game:
its id says nothing about its slot, there may be two towers of one id, and tables need not fit.  So
the invariant asks for much less than soundness, and gives less: not what a round does to the state,
but that it returns and what the soldier is like afterwards.

The rounds are the same programs as before.  They are reasoned about in memory, not as effects:
after a round each address holds the same actor as before, changed in what is not its name and its
level (`SameActor`), and this is enough for the pointers of all other soldiers to stay what they
were.

## Loops

A phase is a loop over all soldiers of both players in which each round establishes something of its
own soldier, that later rounds do not destroy: that it agrees with its state, after the updates, and
that it is at rest, after the late updates.  In the first phase a soldier may still be hit after its
round, but that does not touch its orders; in the second it is left alone.
-/

namespace Simulator

open Foundation

variable {K : Type}

/-! ## A soldier at the end of a turn -/

namespace Soldier

/-- What holds of a soldier at the end of every turn. -/
structure AtRest (s : Soldier K) : Prop where
  hp_nonneg : 0 ≤ s.hp
  hp_le : s.hp ≤ s.maxHp
  dead_iff : s.hp = 0 ↔ s.state.isDead = true
  damageIncurred_eq : s.damageIncurred = 0
  isNewPositionSet_eq : s.isNewPositionSet = false
  engaged : s.state = .attack ∨ s.state = .pursuit →
    s.attackTarget ≠ none ∧ s.isDestinationSet = false
  moving : s.state = .move → s.isDestinationSet = true ∧ s.attackTarget = none
  quiet : s.state = .idle ∨ s.state.isDead = true →
    s.isDestinationSet = false ∧ s.attackTarget = none

/-- A soldier as its constructor makes it. -/
structure Fresh (s : Soldier K) : Prop where
  hp_pos : 0 < s.hp
  hp_le : s.hp ≤ s.maxHp
  attackDamage_nonneg : 0 ≤ s.attackDamage
  attackTarget_eq : s.attackTarget = none
  isDestinationSet_eq : s.isDestinationSet = false
  isNewPositionSet_eq : s.isNewPositionSet = false
  damageIncurred_eq : s.damageIncurred = 0
  state_eq : s.state = .idle

variable {c : Constants K} {s : Soldier K}

theorem Fresh.orderly (h : s.Fresh) : s.Orderly c where
  damage_nonneg := h.damageIncurred_eq.ge
  damage_le := by rw [h.damageIncurred_eq]; exact h.hp_pos.le
  hp_le := h.hp_le
  dead_iff := by simp [h.state_eq, SoldierState.isDead, h.hp_pos.ne']
  remaining := fun n hn => by simp [h.state_eq] at hn
  dead_quiet := fun h0 => absurd h0 h.hp_pos.ne'
  one_order := fun _ => h.attackTarget_eq
  busy := fun _ hne => absurd h.state_eq hne

theorem Fresh.atRest (h : s.Fresh) : s.AtRest where
  hp_nonneg := h.hp_pos.le
  hp_le := h.hp_le
  dead_iff := by simp [h.state_eq, SoldierState.isDead, h.hp_pos.ne']
  damageIncurred_eq := h.damageIncurred_eq
  isNewPositionSet_eq := h.isNewPositionSet_eq
  engaged := by simp [h.state_eq]
  moving := by simp [h.state_eq]
  quiet := fun _ => ⟨h.isDestinationSet_eq, h.attackTarget_eq⟩

theorem Orderly.atRest (h : s.Orderly c) (hs : s.Settled) (hdamage : s.damageIncurred = 0)
    (hunmoved : s.isNewPositionSet = false) : s.AtRest := by
  refine ⟨h.hp_nonneg, h.hp_le, h.dead_iff.symm, hdamage, hunmoved, ?_, ?_, ?_⟩
  · intro hstate
    have hdest := hs.engaged hstate
    have halive : s.hp ≠ 0 := fun h0 => by
      have hdead := h.dead_iff.mpr h0
      rcases hstate with hstate | hstate <;> simp [hstate, SoldierState.isDead] at hdead
    have hbusy := h.busy halive (by rcases hstate with hstate | hstate <;> simp [hstate])
    exact ⟨hbusy.resolve_left (by simp [hdest]), hdest⟩
  · intro hstate
    have hdest := hs.move hstate
    exact ⟨hdest, h.one_order hdest⟩
  · intro hstate
    rcases hstate with hidle | hdead
    · exact (hs.idle hidle).symm
    · exact (h.dead_quiet (h.dead_iff.mp hdead)).symm

/-- **The late update puts a soldier to rest.** -/
theorem Orderly.atRest_finish (h : s.Orderly c) (hs : s.Settled)
    (hT : 1 ≤ c.soldierTotalTurnsToRespawn) : (s.finish c).AtRest := by
  obtain ⟨horderly, hsettled⟩ := h.finish hs hT
  have hbuffers : (s.finish c).damageIncurred = 0 ∧ (s.finish c).isNewPositionSet = false := by
    unfold Soldier.finish
    split <;> exact ⟨rfl, rfl⟩
  exact horderly.atRest hsettled hbuffers.1 hbuffers.2

end Soldier

/-! ## Writing back -/

/-- The player an address belongs to. -/
def ActorPtr.playerId : ActorPtr → PlayerId
  | soldier p _ => p
  | tower p _ => p

namespace Actor

/-- The second actor is the first, changed in what is not its name and its level. -/
def SameActor : Actor K → Actor K → Prop
  | soldier _, soldier _ => True
  | tower t, tower t' => t'.id = t.id ∧ t'.towerLevel = t.towerLevel
  | _, _ => False

theorem SameActor.refl (a : Actor K) : a.SameActor a := by
  cases a with
  | soldier s => trivial
  | tower t => exact ⟨rfl, rfl⟩

theorem sameActor_damage (a : Actor K) (damageAmount : ℤ) :
    a.SameActor (a.damage damageAmount) := by
  cases a with
  | soldier s => trivial
  | tower t => exact ⟨rfl, rfl⟩

theorem SameActor.rewards {a a' : Actor K} (h : a.SameActor a') {m : MoneyManager}
    (hm : m.Rewards a) : m.Rewards a' := by
  cases a with
  | soldier s =>
    cases a' with
    | soldier s' => exact hm
    | tower t' => exact h.elim
  | tower t =>
    cases a' with
    | soldier s' => exact h.elim
    | tower t' =>
      obtain ⟨amount, hamount, hpos⟩ := hm
      refine ⟨amount, ?_, hpos⟩
      rw [MoneyManager.killRewardAmount, h.2]
      exact hamount

end Actor

namespace State

theorem deref_setSoldier {st : State K} {p : PlayerId} {i : ℕ} (hi : i < (st.soldiers p).length)
    (s : Soldier K) (ptr : ActorPtr) : (st.setSoldier p i s).deref ptr =
      if ptr = .soldier p i then some (.soldier s) else st.deref ptr := by
  cases ptr with
  | tower q id => rfl
  | soldier q k =>
    by_cases hq : q = p
    · subst hq
      by_cases hk : i = k
      · subst hk
        simp [setSoldier, hi]
      · simp [setSoldier, hk, Ne.symm hk]
    · simp [setSoldier, hq]

theorem deref_setActor {st : State K} {ptr : ActorPtr} {a a' : Actor K}
    (ha : st.deref ptr = some a) (hsame : a.SameActor a') (ptr' : ActorPtr) :
    (st.setActor ptr a').deref ptr' = if ptr' = ptr then some a' else st.deref ptr' := by
  cases ptr with
  | soldier q j =>
    obtain ⟨u, hu, rfl⟩ := Option.map_eq_some_iff.mp ha
    cases a' with
    | tower t' => exact hsame.elim
    | soldier u' => exact deref_setSoldier (List.getElem?_eq_some_iff.mp hu).1 u' ptr'
  | tower q id =>
    obtain ⟨t, ht, rfl⟩ := Option.map_eq_some_iff.mp ha
    cases a' with
    | soldier u' => exact hsame.elim
    | tower t' =>
      obtain ⟨hid, -⟩ := hsame
      have htid : t.id = id := by simpa using List.find?_some ht
      cases ptr' with
      | soldier q' j => rfl
      | tower q' id' =>
        -- replacing keeps the ids, so the same place in the list is found
        have hfind : ∀ l : List (Tower K),
            (l.map fun u => if u.id = t'.id then t' else u).find? (fun u => u.id = id') =
              (l.find? fun u => u.id = id').map fun u => if u.id = t'.id then t' else u := by
          intro l
          rw [List.find?_map]
          congr 2
          ext u
          by_cases hu : u.id = t'.id <;> simp [hu]
        by_cases hq : q' = q
        · subst hq
          have hallocated : ((st.towerManagers q').replaceTower t').allocatedTowers =
              (st.towerManagers q').allocatedTowers.map
                fun u => if u.id = t'.id then t' else u := by
            simp [TowerManager.replaceTower, TowerManager.allocatedTowers]
          simp only [setActor, setTowerManager, deref, Function.update_self, hallocated, hfind]
          by_cases hid' : id' = id
          · subst hid'
            simp [ht, htid, hid]
          · have hother : ∀ u,
                (st.towerManagers q').allocatedTowers.find? (fun u => u.id = id') = some u →
                u.id ≠ t'.id := by
              intro u hu heq
              have huid : u.id = id' := by simpa using List.find?_some hu
              exact hid' (by rw [← huid, heq, hid, htid])
            cases hfound : (st.towerManagers q').allocatedTowers.find? (fun u => u.id = id') with
            | none => simp [hid']
            | some u => simp [hother u hfound, hid']
        · simp [setActor, setTowerManager, deref, hq]

/-- Write back the objects a method of soldier `i` has left in its frame. -/
def writeBack (st : State K) (p : PlayerId) (i : ℕ) (s : Soldier K) (f : Frame K) : State K :=
  let st := { st with moneyManager := f.moneyManager }
  let st := match s.attackTarget, f.target with
    | some ptr, some actor => st.setActor ptr actor
    | _, _ => st
  st.setSoldier p i f.soldier

theorem runSoldier_eq_map {st : State K} {p : PlayerId} {i : ℕ} {s : Soldier K}
    (hs : (st.soldiers p)[i]? = some s) (method : Frame K → Except Fault (Frame K)) :
    runSoldier method p st i = (method (st.frameOf s)).map (st.writeBack p i s) := by
  have hat : vectorAt (st.soldiers p) (i : ℤ) = .ok s := vectorAt_of_getElem? hs
  simp only [runSoldier, hat, ok_bind]
  show method (st.frameOf s) >>= _ = _
  cases method (st.frameOf s) with
  | error fault => rfl
  | ok f => rfl

/-- The pointer of a soldier, if it is set, is an address of the opponent at which there
is an actor. -/
def TargetThere (st : State K) (p : PlayerId) (s : Soldier K) : Prop :=
  ∀ ptr, s.attackTarget = some ptr → ptr.playerId = p.opponent ∧ ∃ a, st.deref ptr = some a

theorem TargetThere.target_iff {st : State K} {p : PlayerId} {s : Soldier K}
    (h : st.TargetThere p s) : (st.frameOf s).target = none ↔ s.attackTarget = none := by
  cases hptr : s.attackTarget with
  | none => simp [frameOf, hptr]
  | some ptr =>
    obtain ⟨-, a, ha⟩ := h ptr hptr
    simp [frameOf, hptr, ha]

theorem TargetThere.mono {st st' : State K} {p : PlayerId} {s s' : Soldier K}
    (h : st.TargetThere p s)
    (htarget : ∀ ptr, s'.attackTarget = some ptr → s.attackTarget = some ptr)
    (hderef : ∀ ptr a, st.deref ptr = some a → ∃ a', st'.deref ptr = some a') :
    st'.TargetThere p s' := by
  intro ptr hptr
  obtain ⟨hplayer, a, ha⟩ := h ptr (htarget ptr hptr)
  exact ⟨hplayer, hderef ptr a ha⟩

theorem slot_iff_deref {st : State K} {p : PlayerId} {i : ℕ} {s : Soldier K} :
    (st.soldiers p)[i]? = some s ↔ st.deref (.soldier p i) = some (.soldier s) := by
  simp [deref]

theorem length_setActor (st : State K) (ptr : ActorPtr) (a : Actor K) (q : PlayerId) :
    ((st.setActor ptr a).soldiers q).length = (st.soldiers q).length := by
  cases ptr with
  | tower p id => cases a <;> rfl
  | soldier p i =>
    cases a with
    | tower t => rfl
    | soldier s => by_cases hq : q = p <;> simp [setActor, setSoldier, hq]

theorem length_writeBack (st : State K) (p : PlayerId) (i : ℕ) (s : Soldier K) (f : Frame K)
    (q : PlayerId) : ((st.writeBack p i s f).soldiers q).length = (st.soldiers q).length := by
  have hself : ∀ (st' : State K) (s' : Soldier K),
      ((st'.setSoldier p i s').soldiers q).length = (st'.soldiers q).length := fun st' s' =>
    length_setActor st' (.soldier p i) (.soldier s') q
  unfold writeBack
  rw [hself]
  split
  · exact length_setActor _ _ _ q
  · rfl

/-- An actor that is hit, or not. -/
def hitBy : Option ℤ → Actor K → Actor K
  | none, a => a
  | some damageAmount, a => a.damage damageAmount

theorem sameActor_hitBy (hit : Option ℤ) (a : Actor K) : a.SameActor (hitBy hit a) := by
  cases hit with
  | none => exact .refl a
  | some damageAmount => exact a.sameActor_damage damageAmount

section WriteBack

variable {st : State K} {p : PlayerId} {i : ℕ} {s : Soldier K} {f : Frame K} {hit : Option ℤ}

/-- **What a method of a soldier leaves in memory**, when it has at most hit its target. -/
theorem deref_writeBack (hs : (st.soldiers p)[i]? = some s) (hthere : st.TargetThere p s)
    (htarget : f.target = (st.frameOf s).target.map (hitBy hit)) (ptr : ActorPtr) :
    (st.writeBack p i s f).deref ptr =
      if ptr = .soldier p i then some (.soldier f.soldier)
      else if s.attackTarget = some ptr then (st.deref ptr).map (hitBy hit)
      else st.deref ptr := by
  have hi : i < (st.soldiers p).length := (List.getElem?_eq_some_iff.mp hs).1
  unfold writeBack
  cases hptr : s.attackTarget with
  | none =>
    have hi' : i < (({ st with moneyManager := f.moneyManager } : State K).soldiers p).length := hi
    exact deref_setSoldier hi' _ ptr
  | some ptr₀ =>
    obtain ⟨hplayer, a, ha⟩ := hthere ptr₀ hptr
    have hf : f.target = some (hitBy hit a) := by simp [htarget, frameOf, hptr, ha]
    simp only [hf]
    rw [deref_setSoldier (by rw [length_setActor]; exact hi)]
    refine if_congr Iff.rfl rfl ?_
    have ha' : ({ st with moneyManager := f.moneyManager } : State K).deref ptr₀ = some a := ha
    rw [deref_setActor ha' (sameActor_hitBy hit a) ptr]
    by_cases heq : ptr = ptr₀
    · subst heq
      simp [ha]
    · rw [if_neg heq, if_neg fun h => heq (Option.some.inj h).symm]
      rfl

theorem exists_deref_writeBack (hs : (st.soldiers p)[i]? = some s) (hthere : st.TargetThere p s)
    (htarget : f.target = (st.frameOf s).target.map (hitBy hit)) {ptr : ActorPtr} {a : Actor K}
    (ha : st.deref ptr = some a) :
    ∃ a', (st.writeBack p i s f).deref ptr = some a' ∧ a.SameActor a' := by
  rw [deref_writeBack hs hthere htarget]
  split
  · rename_i hself
    subst hself
    obtain ⟨u, -, rfl⟩ := Option.map_eq_some_iff.mp ha
    exact ⟨_, rfl, trivial⟩
  · split
    · exact ⟨hitBy hit a, by simp [ha], sameActor_hitBy hit a⟩
    · exact ⟨a, ha, .refl a⟩

theorem slot_writeBack (hs : (st.soldiers p)[i]? = some s) (hthere : st.TargetThere p s)
    (htarget : f.target = (st.frameOf s).target.map (hitBy hit)) {q : PlayerId} {k : ℕ}
    {u' : Soldier K} (hu' : ((st.writeBack p i s f).soldiers q)[k]? = some u') :
    (q = p ∧ k = i ∧ u' = f.soldier) ∨ ∃ u, (st.soldiers q)[k]? = some u ∧
      (u' = u ∨ ∃ damageAmount, hit = some damageAmount ∧ u' = u.damage damageAmount) := by
  rw [slot_iff_deref, deref_writeBack hs hthere htarget] at hu'
  split at hu'
  · rename_i hself
    obtain ⟨rfl, rfl⟩ := ActorPtr.soldier.inj hself
    exact .inl ⟨rfl, rfl, (Actor.soldier.inj (Option.some.inj hu')).symm⟩
  · refine .inr ?_
    split at hu'
    · obtain ⟨a, ha, hhit⟩ := Option.map_eq_some_iff.mp hu'
      obtain ⟨u, hu, rfl⟩ := Option.map_eq_some_iff.mp ha
      refine ⟨u, hu, ?_⟩
      cases hit with
      | none => exact .inl (Actor.soldier.inj hhit).symm
      | some damageAmount => exact .inr ⟨damageAmount, rfl, (Actor.soldier.inj hhit).symm⟩
    · exact ⟨u', slot_iff_deref.mpr hu', .inl rfl⟩

theorem eq_of_slot_writeBack (hs : (st.soldiers p)[i]? = some s) (hthere : st.TargetThere p s)
    (htarget : f.target = (st.frameOf s).target.map (hitBy hit)) {u' : Soldier K}
    (hu' : ((st.writeBack p i s f).soldiers p)[i]? = some u') : u' = f.soldier := by
  rw [slot_iff_deref, deref_writeBack hs hthere htarget, if_pos rfl] at hu'
  exact (Actor.soldier.inj (Option.some.inj hu')).symm

end WriteBack

/-! ## The two updates of one soldier -/

/-- What holds of all soldiers at all times of a run. -/
structure Steady (c : Constants K) (st : State K) : Prop where
  orderly : ∀ p (i : ℕ) s, (st.soldiers p)[i]? = some s → s.Orderly c
  build : ∀ p (i : ℕ) s, (st.soldiers p)[i]? = some s → 0 < s.maxHp ∧ 0 ≤ s.attackDamage
  targetThere : ∀ p (i : ℕ) s, (st.soldiers p)[i]? = some s → st.TargetThere p s

theorem Steady.soldier {c : Constants K} {st : State K} (h : st.Steady c) {p : PlayerId} {i : ℕ}
    {s : Soldier K} (hs : (st.soldiers p)[i]? = some s) :
    s.Orderly c ∧ (0 < s.maxHp ∧ 0 ≤ s.attackDamage) ∧ st.TargetThere p s :=
  ⟨h.orderly p i s hs, h.build p i s hs, h.targetThere p i s hs⟩

theorem Steady.soldier_damage {c : Constants K} {st : State K} (h : st.Steady c) {p : PlayerId}
    {i : ℕ} {s : Soldier K} (hs : (st.soldiers p)[i]? = some s) {d : ℤ} (hd : 0 ≤ d) :
    (s.damage d).Orderly c ∧ (0 < (s.damage d).maxHp ∧ 0 ≤ (s.damage d).attackDamage) ∧
      st.TargetThere p (s.damage d) :=
  ⟨(h.orderly p i s hs).damage hd, h.build p i s hs, h.targetThere p i s hs⟩

/-- What is left to show of a step that does not free any actor. -/
theorem steady_of_soldiers {c : Constants K} {st st' : State K}
    (hderef : ∀ ptr a, st.deref ptr = some a → ∃ a', st'.deref ptr = some a')
    (h : ∀ p (i : ℕ) s, (st'.soldiers p)[i]? = some s →
      s.Orderly c ∧ (0 < s.maxHp ∧ 0 ≤ s.attackDamage) ∧ st.TargetThere p s) : st'.Steady c where
  orderly := fun p i s hs => (h p i s hs).1
  build := fun p i s hs => (h p i s hs).2.1
  targetThere := fun p i s hs => (h p i s hs).2.2.mono (fun _ h => h) hderef

/-- A soldier that is orderly when its method is through leaves the state steady. -/
theorem Steady.writeBack {c : Constants K} {st : State K} (h : st.Steady c) {p : PlayerId} {i : ℕ}
    {s : Soldier K} (hs : (st.soldiers p)[i]? = some s) {f : Frame K} {hit : Option ℤ}
    (htarget : f.target = (st.frameOf s).target.map (hitBy hit)) (hhit : ∀ d, hit = some d → 0 ≤ d)
    (horderly : f.soldier.Orderly c)
    (hbuild : f.soldier.maxHp = s.maxHp ∧ f.soldier.attackDamage = s.attackDamage)
    (hkept : ∀ ptr, f.soldier.attackTarget = some ptr → s.attackTarget = some ptr) :
    (st.writeBack p i s f).Steady c := by
  have hthere := h.targetThere p i s hs
  refine steady_of_soldiers (fun ptr a ha =>
    (exists_deref_writeBack hs hthere htarget ha).imp fun _ h => h.1) ?_
  intro q k u' hu'
  rcases slot_writeBack hs hthere htarget hu' with ⟨rfl, rfl, rfl⟩ | ⟨u, hu, rfl | ⟨d, hd, rfl⟩⟩
  · rw [hbuild.1, hbuild.2]
    exact ⟨horderly, h.build q k s hs, hthere.mono hkept fun ptr a ha => ⟨a, ha⟩⟩
  · exact h.soldier hu
  · exact h.soldier_damage hu (hhit d hd)

/-- A slot whose soldier, if there is one, satisfies `P`. -/
def At (P : Soldier K → Prop) (x : PlayerId × ℕ) (st : State K) : Prop :=
  ∀ s, (st.soldiers x.1)[x.2]? = some s → P s

/-- There is a reward for every actor. -/
def Pays (st : State K) : Prop := ∀ ptr a, st.deref ptr = some a → st.moneyManager.Rewards a

theorem Pays.writeBack {st : State K} (h : st.Pays) {p : PlayerId} {i : ℕ} {s : Soldier K}
    {f : Frame K} {hit : Option ℤ} (hs : (st.soldiers p)[i]? = some s)
    (hthere : st.TargetThere p s) (htarget : f.target = (st.frameOf s).target.map (hitBy hit))
    (hmoney : ∀ a : Actor K, st.moneyManager.Rewards a → f.moneyManager.Rewards a) :
    (st.writeBack p i s f).Pays := by
  have hmoney' : (st.writeBack p i s f).moneyManager = f.moneyManager := by
    unfold State.writeBack
    cases s.attackTarget with
    | none => rfl
    | some ptr =>
      cases f.target with
      | none => rfl
      | some a => cases ptr <;> cases a <;> rfl
  intro ptr a' ha'
  rw [hmoney']
  rw [deref_writeBack hs hthere htarget] at ha'
  split at ha'
  · obtain rfl := Option.some.inj ha'
    have hsame : (Actor.soldier s).SameActor (.soldier f.soldier) := trivial
    exact hmoney _ (hsame.rewards (h _ _ (slot_iff_deref.mp hs)))
  · split at ha'
    · obtain ⟨a, ha, rfl⟩ := Option.map_eq_some_iff.mp ha'
      exact (sameActor_hitBy hit a).rewards (hmoney a (h ptr a ha))
    · exact hmoney a' (h ptr a' ha')

section Rounds

variable [Field K] [LinearOrder K] [SquareRoot K] {c : Constants K} {st st' : State K}
  {p : PlayerId} {i : ℕ} {s : Soldier K}

theorem exists_hit_act (c : Constants K) (f : Frame K) :
    ∃ hit, (f.act c).target = f.target.map (hitBy hit) ∧
      ∀ d, hit = some d → d = f.soldier.attackDamage := by
  cases ha : f.target with
  | none => exact ⟨none, by simp only [Frame.act, ha, Option.map_none], nofun⟩
  | some a =>
    by_cases hstrike : f.soldier.Strikes a
    · exact ⟨some f.soldier.attackDamage, by simp [Frame.act, ha, hstrike, hitBy],
        fun d hd => (Option.some.inj hd).symm⟩
    · exact ⟨none, by simp [Frame.act, ha, hstrike, hitBy], nofun⟩

theorem soldier_act (c : Constants K) (f : Frame K) :
    (f.act c).soldier = f.soldier.next c f.target := by
  unfold Frame.act
  cases f.target with
  | none => rfl
  | some a =>
    dsimp only
    split <;> rfl

theorem moneyManager_act (c : Constants K) (f : Frame K) {a : Actor K}
    (h : f.moneyManager.Rewards a) : (f.act c).moneyManager.Rewards a := by
  have hrewarded : ∀ b : Actor K, (f.moneyManager.rewarded b).Rewards a := fun b => by
    cases a <;> exact h
  unfold Frame.act
  cases f.target with
  | none => exact h
  | some b =>
    dsimp only
    split
    · show (if _ then _ else _ : MoneyManager).Rewards a
      split
      · exact hrewarded _
      · exact h
    · exact h

/-- What the update of one soldier does to the state, for some outcome of the rewards. -/
theorem Steady.runSoldier_update (h : st.Steady c) (hs : (st.soldiers p)[i]? = some s) :
    runSoldier (Soldier.update c) p st i = (st.frameOf s).payForKill.map fun money =>
      st.writeBack p i s { (st.frameOf s).act c with moneyManager := money } := by
  have hgrounded : (st.frameOf s).Grounded c :=
    ⟨h.orderly p i s hs, (h.targetThere p i s hs).target_iff⟩
  rw [runSoldier_eq_map hs, Soldier.update_eq_map hgrounded (h.build p i s hs).1]
  cases (st.frameOf s).payForKill with
  | error fault => rfl
  | ok money => rfl

/-- The frame that an update which returned has written back. -/
theorem Steady.exists_frame (h : st.Steady c) (hs : (st.soldiers p)[i]? = some s)
    (hrun : runSoldier (Soldier.update c) p st i = .ok st') :
    ∃ f hit, st' = st.writeBack p i s f ∧ f.soldier = s.next c (st.frameOf s).target ∧
      f.target = (st.frameOf s).target.map (hitBy hit) ∧ ∀ d, hit = some d → 0 ≤ d := by
  obtain ⟨hit, htarget, hhit⟩ := exists_hit_act c (st.frameOf s)
  rw [h.runSoldier_update hs] at hrun
  cases hpay : (st.frameOf s).payForKill with
  | error fault => simp [hpay, Except.map] at hrun
  | ok money =>
    rw [hpay] at hrun
    refine ⟨_, hit, (Except.ok.inj hrun).symm, soldier_act c (st.frameOf s), htarget, ?_⟩
    intro d hd
    rw [hhit d hd]
    exact (h.build p i s hs).2

/-- **A round of the updates** keeps the state steady, and leaves its soldier's orders in
agreement with its state. -/
theorem Steady.update_round (h : st.Steady c) (hs : (st.soldiers p)[i]? = some s)
    (hrun : runSoldier (Soldier.update c) p st i = .ok st') :
    st'.Steady c ∧ (∀ q, (st'.soldiers q).length = (st.soldiers q).length) ∧
      At Soldier.Settled (p, i) st' ∧
      ∀ x, At Soldier.Settled x st → At Soldier.Settled x st' := by
  have hthere := h.targetThere p i s hs
  obtain ⟨horderly, hsettled⟩ :=
    (h.orderly p i s hs).next (h.build p i s hs).1 hthere.target_iff
  have hsame := Soldier.build_next c s (st.frameOf s).target
  simp only [Prod.mk.injEq] at hsame
  obtain ⟨f, hit, rfl, hsoldier, htarget, hhit⟩ := h.exists_frame hs hrun
  rw [← hsoldier] at horderly hsettled hsame
  refine ⟨h.writeBack hs htarget hhit horderly ⟨hsame.2.2.1, hsame.2.2.2.2.2⟩ ?_,
    length_writeBack st p i s f, ?_, ?_⟩
  · intro ptr hptr
    rw [hsoldier] at hptr
    exact (attackTarget_next (h.orderly p i s hs) hthere.target_iff hptr).1
  · intro u' hu'
    rw [eq_of_slot_writeBack hs hthere htarget hu']
    exact hsettled
  · rintro ⟨q, k⟩ hx u' hu'
    rcases slot_writeBack hs hthere htarget hu' with ⟨rfl, rfl, rfl⟩ | ⟨u, hu, rfl | ⟨d, -, rfl⟩⟩
    · exact hsettled
    · exact hx u' hu
    · exact (hx u hu).damage d

/-- **The update of a soldier returns**, if there is a reward for every actor. -/
theorem Steady.exists_update (h : st.Steady c) (hpays : st.Pays)
    (hs : (st.soldiers p)[i]? = some s) :
    ∃ st', runSoldier (Soldier.update c) p st i = .ok st' ∧ st'.Pays := by
  obtain ⟨hit, htarget, -⟩ := exists_hit_act c (st.frameOf s)
  have hrewards : ∀ a, (st.frameOf s).target = some a → (st.frameOf s).moneyManager.Rewards a := by
    intro a ha
    obtain ⟨ptr, -, hptr⟩ := Option.bind_eq_some_iff.mp ha
    exact hpays ptr a hptr
  refine ⟨st.writeBack p i s ((st.frameOf s).act c), ?_,
    hpays.writeBack hs (h.targetThere p i s hs) htarget fun a ha => moneyManager_act c _ ha⟩
  rw [h.runSoldier_update hs, Frame.payForKill_eq c hrewards]
  rfl

/-- **A round of the late updates** returns, keeps the state steady, and puts its soldier
to rest. -/
theorem Steady.lateUpdate_round (h : st.Steady c) (hT : 1 ≤ c.soldierTotalTurnsToRespawn)
    (hs : (st.soldiers p)[i]? = some s) (hsettled : s.Settled) :
    ∃ st', runSoldier (Soldier.lateUpdate c) p st i = .ok st' ∧ st'.Steady c ∧
      (∀ q, (st'.soldiers q).length = (st.soldiers q).length) ∧
      At Soldier.AtRest (p, i) st' ∧ (st.Pays → st'.Pays) ∧
      (∀ x, At Soldier.AtRest x st → At Soldier.AtRest x st') ∧
      ∀ x, At Soldier.Settled x st → At Soldier.Settled x st' := by
  have horderly := h.orderly p i s hs
  have hthere := h.targetThere p i s hs
  obtain ⟨horderly', hsettled'⟩ := horderly.finish hsettled hT
  have hrest := horderly.atRest_finish hsettled hT
  have hsame := Soldier.build_finish c s
  simp only [Prod.mk.injEq] at hsame
  set f : Frame K := { st.frameOf s with soldier := s.finish c }
  -- the late update hits nobody
  have htarget : f.target = (st.frameOf s).target.map (hitBy none) := by
    show (st.frameOf s).target = _
    cases (st.frameOf s).target <;> rfl
  have hrun : runSoldier (Soldier.lateUpdate c) p st i = .ok (st.writeBack p i s f) := by
    rw [runSoldier_eq_map hs, Soldier.lateUpdate_eq (f := st.frameOf s) horderly hsettled hT]
    rfl
  have hslots : ∀ {q : PlayerId} {k : ℕ} {u' : Soldier K},
      ((st.writeBack p i s f).soldiers q)[k]? = some u' →
      u' = s.finish c ∨ (st.soldiers q)[k]? = some u' := by
    intro q k u' hu'
    rcases slot_writeBack hs hthere htarget hu' with ⟨rfl, rfl, rfl⟩ | ⟨u, hu, rfl | ⟨d, hd, rfl⟩⟩
    · exact .inl rfl
    · exact .inr hu
    · simp at hd
  refine ⟨_, hrun, h.writeBack hs htarget nofun horderly' ⟨hsame.2.2.1, hsame.2.2.2.2.2⟩
      fun ptr hptr => Soldier.attackTarget_of_finish hptr,
    length_writeBack st p i s f, ?_,
    fun hpays => hpays.writeBack hs hthere htarget fun _ ha => ha, ?_, ?_⟩
  · intro u' hu'
    rw [eq_of_slot_writeBack hs hthere htarget hu']
    exact hrest
  · rintro x hx u' hu'
    rcases hslots hu' with rfl | hu
    · exact hrest
    · exact hx u' hu
  · rintro x hx u' hu'
    rcases hslots hu' with rfl | hu
    · exact hsettled'
    · exact hx u' hu

end Rounds

/-! ## The two phases of a turn -/

/-- A loop over all soldiers whose rounds each establish `D` of their soldier. -/
theorem foldlM_forSoldiers_establishes {method : Frame K → Except Fault (Frame K)}
    {I : State K → Prop} {D : PlayerId × ℕ → State K → Prop}
    (hstep : ∀ st st' p i s, I st → (st.soldiers p)[i]? = some s →
      runSoldier method p st i = .ok st' →
      I st' ∧ (∀ q, (st'.soldiers q).length = (st.soldiers q).length) ∧ D (p, i) st' ∧
        ∀ x, D x st → D x st')
    {st st' : State K} (hst : I st) (h : PlayerId.all.foldlM (forSoldiers method) st = .ok st') :
    I st' ∧ ∀ p i s, (st'.soldiers p)[i]? = some s → D (p, i) st' := by
  -- one player's soldiers
  have hinner : ∀ st st' p, I st → forSoldiers method st p = .ok st' →
      I st' ∧ (∀ q, (st'.soldiers q).length = (st.soldiers q).length) ∧
        (∀ i < (st.soldiers p).length, D (p, i) st') ∧ ∀ x, D x st → D x st' := by
    intro st st' p hst h
    obtain ⟨⟨hI, hlength, hkeep⟩, hall, -⟩ := foldlM_establishes
      (I := fun st₁ : State K => I st₁ ∧ (∀ q, (st₁.soldiers q).length = (st.soldiers q).length) ∧
        ∀ x, D x st → D x st₁)
      (Q := fun i st₁ => D (p, i) st₁)
      (fun st₁ st₂ i h₁ hi hrun => by
        obtain ⟨hI, hlength, hkeep⟩ := h₁
        have hlt : i < (st₁.soldiers p).length := by
          rw [hlength]
          exact List.mem_range.mp hi
        obtain ⟨hI', hlength', hD, hkeep'⟩ :=
          hstep st₁ st₂ p i _ hI (List.getElem?_eq_getElem hlt) hrun
        exact ⟨⟨hI', fun q => (hlength' q).trans (hlength q), fun x hx => hkeep' x (hkeep x hx)⟩,
          hD, fun k => hkeep' (p, k)⟩)
      ⟨hst, fun _ => rfl, fun _ hx => hx⟩ h
    exact ⟨hI, hlength, fun i hi => hall i (List.mem_range.mpr hi), hkeep⟩
  obtain ⟨hI, hall, -⟩ := foldlM_establishes
    (Q := fun p (st : State K) => ∀ i < (st.soldiers p).length, D (p, i) st)
    (fun st₁ st₂ p h₁ _ hrun => by
      obtain ⟨hI, hlength, hD, hkeep⟩ := hinner st₁ st₂ p h₁ hrun
      exact ⟨hI, fun i hi => hD i (by rw [← hlength]; exact hi),
        fun q hq i hi => hkeep (q, i) (hq i (by rw [← hlength]; exact hi))⟩)
    hst h
  exact ⟨hI, fun p i s hs => hall p (PlayerId.mem_all p) i (List.getElem?_eq_some_iff.mp hs).1⟩

theorem exists_foldlM_forSoldiers {method : Frame K → Except Fault (Frame K)} {I : State K → Prop}
    (hstep : ∀ st p i s, I st → (st.soldiers p)[i]? = some s →
      ∃ st', runSoldier method p st i = .ok st' ∧ I st' ∧
        ∀ q, (st'.soldiers q).length = (st.soldiers q).length)
    {st : State K} (hst : I st) :
    ∃ st', PlayerId.all.foldlM (forSoldiers method) st = .ok st' ∧ I st' := by
  refine foldlM_total (I := I) ?_ hst
  intro st hst p _
  obtain ⟨st', hrun, hI, -⟩ := foldlM_total
    (I := fun st₁ : State K => I st₁ ∧ (st₁.soldiers p).length = (st.soldiers p).length)
    (l := List.range (st.soldiers p).length) (f := runSoldier method p)
    (fun st₁ h₁ i hi => by
      have hlt : i < (st₁.soldiers p).length := by
        rw [h₁.2]
        exact List.mem_range.mp hi
      obtain ⟨st₂, hrun, hI, hlength⟩ := hstep st₁ p i _ h₁.1 (List.getElem?_eq_getElem hlt)
      exact ⟨st₂, hrun, hI, (hlength p).trans h₁.2⟩)
    ⟨hst, rfl⟩
  exact ⟨st', hrun, hI⟩

section Phases

variable [Field K] [LinearOrder K] [SquareRoot K] {c : Constants K} {st st' : State K}

/-- `Update` on all soldiers. -/
def updateSoldiers (c : Constants K) (st : State K) : Except Fault (State K) :=
  PlayerId.all.foldlM (forSoldiers (Soldier.update c)) st

/-- `LateUpdate` on all soldiers. -/
def lateUpdateSoldiers (c : Constants K) (st : State K) : Except Fault (State K) :=
  PlayerId.all.foldlM (forSoldiers (Soldier.lateUpdate c)) st

/-- Every soldier satisfies `P`. -/
def AllAt (P : Soldier K → Prop) (st : State K) : Prop :=
  ∀ p (i : ℕ) s, (st.soldiers p)[i]? = some s → P s

theorem Steady.updateSoldiers (h : st.Steady c) (hrun : updateSoldiers c st = .ok st') :
    st'.Steady c ∧ st'.AllAt Soldier.Settled := by
  obtain ⟨hsteady, hsettled⟩ := foldlM_forSoldiers_establishes
    (I := fun st : State K => st.Steady c) (D := At Soldier.Settled)
    (fun _ _ _ _ _ hst hs hrun => hst.update_round hs hrun) h hrun
  exact ⟨hsteady, fun p i s hs => hsettled p i s hs s hs⟩

theorem Steady.exists_updateSoldiers (h : st.Steady c) (hpays : st.Pays) :
    ∃ st', State.updateSoldiers c st = .ok st' ∧ st'.Pays := by
  obtain ⟨st', hrun, -, hpays'⟩ := exists_foldlM_forSoldiers
    (I := fun st : State K => st.Steady c ∧ st.Pays)
    (fun st p i s hst hs => by
      obtain ⟨st', hrun, hpays⟩ := hst.1.exists_update hst.2 hs
      obtain ⟨hsteady, hlength, -⟩ := hst.1.update_round hs hrun
      exact ⟨st', hrun, ⟨hsteady, hpays⟩, hlength⟩) ⟨h, hpays⟩
  exact ⟨st', hrun, hpays'⟩

theorem Steady.lateUpdateSoldiers (h : st.Steady c) (hT : 1 ≤ c.soldierTotalTurnsToRespawn)
    (hsettled : st.AllAt Soldier.Settled) : ∃ st', State.lateUpdateSoldiers c st = .ok st' ∧
      st'.Steady c ∧ st'.AllAt Soldier.AtRest ∧ (st.Pays → st'.Pays) := by
  let I : State K → Prop := fun st₁ =>
    st₁.Steady c ∧ (∀ x, At Soldier.Settled x st₁) ∧ (st.Pays → st₁.Pays)
  have hst : I st := ⟨h, fun x s hs => hsettled x.1 x.2 s hs, fun hpays => hpays⟩
  have hround := fun (st₁ : State K) p i s (h₁ : I st₁) (hs : (st₁.soldiers p)[i]? = some s) =>
    h₁.1.lateUpdate_round hT hs (h₁.2.1 (p, i) s hs)
  obtain ⟨st', hrun, -⟩ : ∃ st', PlayerId.all.foldlM (forSoldiers (Soldier.lateUpdate c)) st =
      .ok st' ∧ I st' := exists_foldlM_forSoldiers
    (fun st₁ p i s h₁ hs => by
      obtain ⟨st₂, hrun, hsteady, hlength, -, hpays, -, hkeep⟩ := hround st₁ p i s h₁ hs
      exact ⟨st₂, hrun, ⟨hsteady, fun x => hkeep x (h₁.2.1 x), fun hp => hpays (h₁.2.2 hp)⟩,
        hlength⟩)
    hst
  obtain ⟨⟨hsteady, -, hpays⟩, hrest⟩ := foldlM_forSoldiers_establishes (I := I)
    (D := At Soldier.AtRest)
    (fun st₁ st₂ p i s h₁ hs hrun => by
      obtain ⟨st₂', hrun', hsteady, hlength, hrest, hpays, hkeep, hkeep'⟩ := hround st₁ p i s h₁ hs
      obtain rfl := Except.ok.inj (hrun'.symm.trans hrun)
      exact ⟨⟨hsteady, fun x => hkeep' x (h₁.2.1 x), fun hp => hpays (h₁.2.2 hp)⟩, hlength, hrest,
        hkeep⟩)
    hst hrun
  exact ⟨st', hrun, hsteady, fun p i s hs => hrest p i s hs s hs, hpays⟩

end Phases

end State

end Simulator
