import Simulator.Syncer.Buildable

/-!
# Which destinations reach the state

`MoveSoldier` turns the destination of player 2 and then rejects it if a coordinate is
below zero, or not below the side of the map.

Two kinds of destinations come out wrong.  `nan` is on neither side of a bound, so the
test does not reject it (`moveSoldier_inMap_iff`).  And positions are turned like
pixels, to `side - 1 - x`, so that player 2 may go to `(-1, side - 1]` where player 1
may go to `[0, side)` (`acceptsAlike_iff`).

## A test that rejects

The test is a disjunction of four comparisons, each of which says that the destination is off the
map on one side.  It is the negation of being in the map for numbers only.  A coordinate that is
no number passes all four, and the message of the error is not the only thing that is missing
then: the soldier is sent there.

## A turn that is off by one

Destinations are real numbers, and a half-turn of the map takes `x` to `side - x`.  The formula of
`FlipPosition` is the one for the pixels of an image, which number the cells of a grid.  On
positions it moves everything by one, so that a strip of width one at the lower edges is open to
player 2 only and a strip at the upper edges to player 1 only.  `TreatedAlike` says which
destinations are in neither strip, or are refused to both players for another coordinate.
-/

namespace Simulator

open Foundation

variable {K : Type}

/-! ## What becomes of a command -/

namespace CommandPhase

/-- The soldier in a slot of a player, which the state finds by its id. -/
structure OwnSlot (ph : CommandPhase K) (p : PlayerId) (i : ℕ) (s : Soldier K) : Prop where
  slot : (ph.state.soldiers p)[i]? = some s
  byId : ph.state.getSoldierById s.id p = .ok i

/-- A move to `q` was passed on to the state, and nothing was logged. -/
def PassesOn (p : PlayerId) (soldierId : ℤ) (q : Vector K) (ph ph' : CommandPhase K) : Prop :=
  ∃ st', ph.state.moveSoldier p soldierId q = .ok st' ∧ ph' = { ph with state := st' }

/-- An error was logged, and nothing else. -/
def Refuses (p : PlayerId) (ph ph' : CommandPhase K) : Prop :=
  ∃ errorType message, ph' = ph.logErrors p errorType message

theorem Refuses.not_passesOn {p : PlayerId} {ph ph' : CommandPhase K} (h : Refuses p ph ph')
    (soldierId : ℤ) (q : Vector K) : ¬ PassesOn p soldierId q ph ph' := by
  rintro ⟨st', -, rfl⟩
  obtain ⟨errorType, message, heq⟩ := h
  have herrors : ph.errors = ph.errors ++ [⟨p, errorType, message⟩] :=
    congrArg CommandPhase.errors heq
  simpa using congrArg List.length herrors

variable {ph : CommandPhase K} {p : PlayerId} {i : ℕ} {s : Soldier K}

theorem OwnSlot.moveSoldier_eq (h : ph.OwnSlot p i s) (q : Vector K) :
    ph.state.moveSoldier p s.id q = .ok (ph.state.setSoldier p i (s.move q)) := by
  have hat : vectorAt (ph.state.soldiers p) (i : ℤ) = .ok s := vectorAt_of_getElem? h.slot
  simp only [State.moveSoldier, h.byId, hat, ok_bind, pure_eq_ok]

theorem OwnSlot.passesOn_iff (h : ph.OwnSlot p i s) (q : Vector K) {ph' : CommandPhase K} :
    PassesOn p s.id q ph ph' ↔
      ph' = { ph with state := ph.state.setSoldier p i (s.move q) } := by
  rw [PassesOn, h.moveSoldier_eq q]
  constructor
  · rintro ⟨st', hst', rfl⟩
    rw [Except.ok.inj hst']
  · rintro rfl
    exact ⟨_, rfl, rfl⟩

theorem OwnSlot.eq_of_passesOn (h : ph.OwnSlot p i s) {q q' : Vector K} {ph' : CommandPhase K}
    (hq : PassesOn p s.id q ph ph') (hq' : PassesOn p s.id q' ph ph') : q' = q := by
  rw [h.passesOn_iff] at hq hq'
  have hstate : ph.state.setSoldier p i (s.move q') = ph.state.setSoldier p i (s.move q) :=
    congrArg CommandPhase.state (hq'.symm.trans hq)
  have hlist := congrFun (congrArg State.soldiers hstate) p
  simp only [State.setSoldier, Function.update_self] at hlist
  have hi : i < (ph.state.soldiers p).length := (List.getElem?_eq_some_iff.mp h.slot).1
  have hslot := congrArg (·[i]?) hlist
  simp only [List.getElem?_set_self hi, Option.some.injEq] at hslot
  exact congrArg Soldier.destination hslot

end CommandPhase

namespace StateSyncer

open CommandPhase

variable [Field K]

/-- The destination of a player as player 1 sees it. -/
def turnedFor (m : GameMap) (p : PlayerId) (position : Vector K) : Vector K :=
  if p = .player2 then flipPosition m position else position

variable [LinearOrder K] [FloorRing K] {ph : CommandPhase K} {p : PlayerId} {i : ℕ}
  {s : Soldier K}

/-- Slots are in the order of the ids, in every state the game reaches. -/
theorem CommandPhase.ownSlot_of_sound {c : Constants K} {st : State K} (h : st.Sound c)
    {ph : CommandPhase K}
    (hf : st.SameButOrders ph.state) {p : PlayerId} {i : ℕ} {s : Soldier K}
    (hs : (ph.state.soldiers p)[i]? = some s) : ph.OwnSlot p i s where
  slot := hs
  byId := by
    obtain ⟨u, hu, hsame⟩ := hf.exists_getElem? hs
    have hid : s.id = u.id := (congrArg Soldier.id hsame :)
    rw [hid]
    exact getSoldierById_of_getElem? h hf hu

/-- The test that rejects a destination. -/
def NotInMap (m : GameMap) (q : Vector K) : Prop :=
  q.x < .ofInt 0 ∨ .ofInt (m.size * m.elementSize) ≤ q.x ∨
    q.y < .ofInt 0 ∨ .ofInt (m.size * m.elementSize) ≤ q.y

/-- A position in the map. -/
def InMap (m : GameMap) (q : Vector K) : Prop :=
  (.ofInt 0 ≤ q.x ∧ q.x < .ofInt (m.size * m.elementSize)) ∧
    .ofInt 0 ≤ q.y ∧ q.y < .ofInt (m.size * m.elementSize)

/-- What `MoveSoldier` asks of a command before it passes it on. -/
structure Passable (m : GameMap) (p : PlayerId) (s : Soldier K) (soldierId : ℤ)
    (position : Vector K) : Prop where
  id_eq : soldierId = s.id
  alive : s.hp ≠ 0
  notRejected : ¬ NotInMap m (turnedFor m p position)

theorem moveSoldier_of_passable (h : ph.OwnSlot p i s) {soldierId : ℤ} {position : Vector K}
    (hp : Passable ph.state.map p s soldierId position) :
    ∃ ph', moveSoldier p soldierId position i ph = .ok ph' ∧
      PassesOn p soldierId (turnedFor ph.state.map p position) ph ph' := by
  obtain ⟨rfl, halive, htest⟩ := hp
  have hat : vectorAt (ph.state.soldiers p) (i : ℤ) = .ok s := vectorAt_of_getElem? h.slot
  have hmoved := h.moveSoldier_eq (turnedFor ph.state.map p position)
  refine ⟨_, ?_, _, hmoved, rfl⟩
  rw [NotInMap, turnedFor] at htest
  rw [turnedFor] at hmoved
  simp only [moveSoldier, hat, ok_bind, checkSoldier, ne_eq, not_true_eq_false, if_false, halive,
    htest, hmoved, pure_eq_ok]
  rfl

theorem moveSoldier_of_not_passable (h : ph.OwnSlot p i s) {soldierId : ℤ} {position : Vector K}
    (hp : ¬ Passable ph.state.map p s soldierId position) :
    ∃ ph', moveSoldier p soldierId position i ph = .ok ph' ∧ Refuses p ph ph' := by
  have hat : vectorAt (ph.state.soldiers p) (i : ℤ) = .ok s := vectorAt_of_getElem? h.slot
  simp only [moveSoldier, hat, ok_bind, checkSoldier]
  by_cases hid : soldierId = s.id
  · by_cases hdead : s.hp = 0
    · simp only [hid, ne_eq, not_true_eq_false, if_false, hdead, if_true, pure_eq_ok]
      exact ⟨_, rfl, _, _, rfl⟩
    · have htest : NotInMap ph.state.map (turnedFor ph.state.map p position) := by
        by_contra htest
        exact hp ⟨hid, hdead, htest⟩
      rw [NotInMap, turnedFor] at htest
      simp only [hid, ne_eq, not_true_eq_false, if_false, hdead, htest, if_true, pure_eq_ok]
      exact ⟨_, rfl, _, _, rfl⟩
  · simp only [ne_eq, hid, not_false_eq_true, if_true, pure_eq_ok]
    exact ⟨_, rfl, _, _, rfl⟩

/-! ## `nan` -/

/-- A destination with a coordinate that is no number, and none that is rejected. -/
def NanSlipsIn (m : GameMap) (q : Vector K) : Prop :=
  (q.x = .nan ∨ q.y = .nan) ∧
    (q.x = .nan ∨ .ofInt 0 ≤ q.x ∧ q.x < .ofInt (m.size * m.elementSize)) ∧
    (q.y = .nan ∨ .ofInt 0 ≤ q.y ∧ q.y < .ofInt (m.size * m.elementSize))

omit [FloorRing K] in
theorem not_notInMap_iff {m : GameMap} {q : Vector K} :
    ¬ NotInMap m q ↔ (q.x = .nan ∨ .ofInt 0 ≤ q.x ∧ q.x < .ofInt (m.size * m.elementSize)) ∧
      (q.y = .nan ∨ .ofInt 0 ≤ q.y ∧ q.y < .ofInt (m.size * m.elementSize)) := by
  have hx := Double.not_outside_iff (v := q.x) (a := ((0 : ℤ) : K))
    (b := ((m.size * m.elementSize : ℤ) : K))
  have hy := Double.not_outside_iff (v := q.y) (a := ((0 : ℤ) : K))
    (b := ((m.size * m.elementSize : ℤ) : K))
  rw [NotInMap, ← or_assoc, not_or]
  exact and_congr hx hy

omit [FloorRing K] in
theorem inMap_iff {m : GameMap} {q : Vector K} :
    InMap m q ↔ ¬ NotInMap m q ∧ q.x ≠ .nan ∧ q.y ≠ .nan := by
  have hnan : ∀ a : Double K, ¬ a ≤ .nan := fun a h => by cases a <;> exact h
  rw [not_notInMap_iff, InMap]
  constructor
  · rintro ⟨hx, hy⟩
    exact ⟨⟨.inr hx, .inr hy⟩, fun h => hnan _ (h ▸ hx.1), fun h => hnan _ (h ▸ hy.1)⟩
  · rintro ⟨⟨hx, hy⟩, hx', hy'⟩
    exact ⟨hx.resolve_left hx', hy.resolve_left hy'⟩

/-- **Where a move command goes wrong.**  The command is passed on to a position of the
map, or is refused, unless a coordinate of its destination is `nan` and the rest of the
command is in order. -/
theorem moveSoldier_inMap_iff (h : ph.OwnSlot p i s) (soldierId : ℤ) (position : Vector K) :
    (∃ ph', moveSoldier p soldierId position i ph = .ok ph' ∧
      (Refuses p ph ph' ∨ ∃ q, PassesOn p soldierId q ph ph') ∧
      ∀ q, PassesOn p soldierId q ph ph' → InMap ph.state.map q) ↔
    ¬ (soldierId = s.id ∧ s.hp ≠ 0 ∧
      NanSlipsIn ph.state.map (turnedFor ph.state.map p position)) := by
  by_cases hp : Passable ph.state.map p s soldierId position
  · obtain ⟨ph', hrun, hpassed⟩ := moveSoldier_of_passable h hp
    obtain ⟨rfl, halive, htest⟩ := hp
    -- the screen has let the destination through: it is in the map, or has a `nan`
    have hinside : InMap ph.state.map (turnedFor ph.state.map p position) ↔
        ¬ NanSlipsIn ph.state.map (turnedFor ph.state.map p position) := by
      have hcoordinates := not_notInMap_iff.mp htest
      rw [inMap_iff, NanSlipsIn]
      tauto
    constructor
    · rintro ⟨ph'', hrun', -, hall⟩ ⟨-, -, hnan⟩
      obtain rfl := Except.ok.inj (hrun'.symm.trans hrun)
      exact hinside.mp (hall _ hpassed) hnan
    · intro hnan
      refine ⟨ph', hrun, .inr ⟨_, hpassed⟩, ?_⟩
      intro q hq
      rw [h.eq_of_passesOn hpassed hq]
      exact hinside.mpr fun hslips => hnan ⟨rfl, halive, hslips⟩
  · obtain ⟨ph', hrun, hrefused⟩ := moveSoldier_of_not_passable h hp
    constructor
    · rintro - ⟨hid, halive, hslips⟩
      exact hp ⟨hid, halive, not_notInMap_iff.mpr hslips.2⟩
    · rintro -
      exact ⟨ph', hrun, .inl hrefused, fun q hq => (hrefused.not_passesOn soldierId q hq).elim⟩

section Sample

omit [Field K] [LinearOrder K] [FloorRing K]

/-- The soldier of a player of the small game, whose map has side 8. -/
theorem exists_ownSlot_sample (p : PlayerId) : ∃ (st : State ℚ) (s : Soldier ℚ),
    buildState sampleRules.toConstants = .ok st ∧ (samplePhase st).OwnSlot p 0 s ∧
    s.id = p.index ∧ s.hp ≠ 0 ∧ st.map.size * st.map.elementSize = 8 := by
  have hrun : ((buildState sampleRules.toConstants).toOption.bind fun st : State ℚ =>
      (st.soldiers p)[0]?.bind fun s =>
      some (s.id, s.hp, st.map.size * st.map.elementSize)) = some ((p.index : ℤ), 1, 8) := by
    cases p <;> decide +kernel
  obtain ⟨st, hst, hrun⟩ := exists_of_toOption_bind hrun
  obtain ⟨s, hs, hrun⟩ := Option.bind_eq_some_iff.mp hrun
  obtain ⟨hid, hfields⟩ := Prod.mk.inj (Option.some.inj hrun)
  obtain ⟨hhp, hside⟩ := Prod.mk.inj hfields
  obtain ⟨st', hst', hrested, -⟩ := exists_buildState sampleRules
  obtain rfl := Except.ok.inj (hst'.symm.trans hst)
  have hown : (samplePhase st').OwnSlot p 0 s :=
    CommandPhase.ownSlot_of_sound hrested.sound (.refl st') hs
  exact ⟨st', s, hst, hown, hid, by rw [hhp]; decide, hside⟩

/-- Player 2 of the small game moves to `(3, 5)`. -/
theorem moveSoldier_inMap_iff_sample : ∃ (st : State ℚ) (ph' : CommandPhase ℚ),
    buildState sampleRules.toConstants = .ok st ∧
    moveSoldier .player2 1 ⟨.num 3, .num 5⟩ 0 (samplePhase st) = .ok ph' ∧
    (Refuses .player2 (samplePhase st) ph' ∨ ∃ q, PassesOn .player2 1 q (samplePhase st) ph') ∧
    ∀ q, PassesOn .player2 1 q (samplePhase st) ph' → InMap st.map q := by
  obtain ⟨st, s, hst, hslot, -, -, -⟩ := exists_ownSlot_sample .player2
  obtain ⟨ph', hph'⟩ := (moveSoldier_inMap_iff hslot 1 ⟨.num 3, .num 5⟩).mpr fun ⟨_, _, hnan⟩ =>
    hnan.1.elim nofun nofun
  exact ⟨st, ph', hst, hph'⟩

/-- **A destination outside the map is passed on.**  Player 1 of the small game moves to
`(nan, nan)`, and no error is logged. -/
theorem moveSoldier_nan_sample : ∃ (st : State ℚ) (ph' : CommandPhase ℚ) (q : Vector ℚ),
    buildState sampleRules.toConstants = .ok st ∧
    moveSoldier .player1 0 ⟨.nan, .nan⟩ 0 (samplePhase st) = .ok ph' ∧
    PassesOn .player1 0 q (samplePhase st) ph' ∧ ph'.errors = [] ∧ ¬ InMap st.map q := by
  obtain ⟨st, s, hst, hslot, hid, halive, -⟩ := exists_ownSlot_sample .player1
  have hpassable : Passable (samplePhase st).state.map .player1 s 0 ⟨.nan, .nan⟩ :=
    ⟨hid.symm, halive, not_notInMap_iff.mpr ⟨.inl rfl, .inl rfl⟩⟩
  obtain ⟨ph', hrun, hpassed⟩ := moveSoldier_of_passable hslot hpassable
  refine ⟨st, ph', _, hst, hrun, hpassed, ?_, fun hinside => (inMap_iff.mp hinside).2.1 rfl⟩
  obtain ⟨st', -, rfl⟩ := hpassed
  rfl

end Sample

/-! ## Numbers -/

/-- The command is passed on to the state. -/
def Accepts (ph : CommandPhase K) (p : PlayerId) (i : ℕ) (soldierId : ℤ) (position : Vector K) :
    Prop :=
  ∃ ph' q, moveSoldier p soldierId position i ph = .ok ph' ∧ PassesOn p soldierId q ph ph'

theorem accepts_iff (h : ph.OwnSlot p i s) (halive : s.hp ≠ 0) (position : Vector K) :
    Accepts ph p i s.id position ↔ ¬ NotInMap ph.state.map (turnedFor ph.state.map p position) := by
  constructor
  · rintro ⟨ph', q, hrun, hpassed⟩ htest
    have hrejected : ¬ Passable ph.state.map p s s.id position := fun hp => hp.notRejected htest
    obtain ⟨ph'', hrun', hrefused⟩ := moveSoldier_of_not_passable h hrejected
    obtain rfl := Except.ok.inj (hrun'.symm.trans hrun)
    exact hrefused.not_passesOn s.id q hpassed
  · intro htest
    obtain ⟨ph', hrun, hpassed⟩ := moveSoldier_of_passable h ⟨rfl, halive, htest⟩
    exact ⟨ph', _, hrun, hpassed⟩

/-- A coordinate from `0` to the side of the map. -/
def FromZero (m : GameMap) (x : K) : Prop := 0 ≤ x ∧ x < (m.size * m.elementSize : ℤ)

/-- A coordinate that is a pixel further down. -/
def FromMinusOne (m : GameMap) (x : K) : Prop := -1 < x ∧ x ≤ (m.size * m.elementSize : ℤ) - 1

omit [FloorRing K] in
theorem not_notInMap_num {m : GameMap} {x y : K} :
    ¬ NotInMap m (⟨.num x, .num y⟩ : Vector K) ↔ FromZero m x ∧ FromZero m y := by
  simp [not_notInMap_iff, FromZero, Double.ofInt]

theorem accepts_player1_iff (h : ph.OwnSlot .player1 i s) (halive : s.hp ≠ 0) (x y : K) :
    Accepts ph .player1 i s.id ⟨.num x, .num y⟩ ↔
      FromZero ph.state.map x ∧ FromZero ph.state.map y := by
  rw [accepts_iff h halive]
  exact not_notInMap_num

variable [IsStrictOrderedRing K]

omit [FloorRing K] in
theorem fromZero_turned {m : GameMap} {x : K} :
    FromZero m (((m.size * m.elementSize - 1 : ℤ) : K) - x) ↔ FromMinusOne m x := by
  simp only [FromZero, FromMinusOne, Int.cast_sub, Int.cast_one]
  constructor
  · rintro ⟨hlow, hhigh⟩
    constructor <;> linarith
  · rintro ⟨hlow, hhigh⟩
    constructor <;> linarith

theorem accepts_player2_iff (h : ph.OwnSlot .player2 i s) (halive : s.hp ≠ 0) (x y : K) :
    Accepts ph .player2 i s.id ⟨.num x, .num y⟩ ↔
      FromMinusOne ph.state.map x ∧ FromMinusOne ph.state.map y := by
  rw [accepts_iff h halive, ← fromZero_turned, ← fromZero_turned, ← not_notInMap_num]
  rfl

/-- The coordinates of a destination that both players may go to, or neither: both keep
a pixel's distance from the upper ends, one is outside for both players, or each is out
of bounds for one of them. -/
def TreatedAlike (m : GameMap) (x y : K) : Prop :=
  let side : K := (m.size * m.elementSize : ℤ)
  ((0 ≤ x ∧ x ≤ side - 1) ∧ 0 ≤ y ∧ y ≤ side - 1) ∨
    (x ≤ -1 ∨ side ≤ x ∨ y ≤ -1 ∨ side ≤ y) ∨
    ((-1 < x ∧ x < 0) ∧ side - 1 < y ∧ y < side) ∨
    ((-1 < y ∧ y < 0) ∧ side - 1 < x ∧ x < side)

omit [FloorRing K] in
theorem treatedAlike_iff {m : GameMap} {x y : K} : TreatedAlike m x y ↔
    (FromMinusOne m x ∧ FromMinusOne m y ↔ FromZero m x ∧ FromZero m y) := by
  simp only [TreatedAlike, FromMinusOne, FromZero]
  generalize ((m.size * m.elementSize : ℤ) : K) = side
  grind

/-- **Where the players are treated alike.**  A move of a live soldier to a destination
in the player's own frame is accepted for player 2 iff it is for player 1, and iff the
destination is in `[0, side)` on both axes, exactly off the two strips at the ends of the
axes where turning moves the bounds. -/
theorem acceptsAlike_iff {i₁ i₂ : ℕ} {s₁ s₂ : Soldier K} (h₁ : ph.OwnSlot .player1 i₁ s₁)
    (h₂ : ph.OwnSlot .player2 i₂ s₂) (halive₁ : s₁.hp ≠ 0) (halive₂ : s₂.hp ≠ 0) (x y : K) :
    ((Accepts ph .player2 i₂ s₂.id ⟨.num x, .num y⟩ ↔
        Accepts ph .player1 i₁ s₁.id ⟨.num x, .num y⟩) ∧
      (Accepts ph .player1 i₁ s₁.id ⟨.num x, .num y⟩ ↔
        FromZero ph.state.map x ∧ FromZero ph.state.map y)) ↔
      TreatedAlike ph.state.map x y := by
  rw [accepts_player1_iff h₁ halive₁, accepts_player2_iff h₂ halive₂, treatedAlike_iff]
  exact and_iff_left Iff.rfl

section Sample

omit [Field K] [LinearOrder K] [FloorRing K] [IsStrictOrderedRing K]

/-- Both players of the small game may go to `(3, 5)`. -/
theorem acceptsAlike_iff_sample : ∃ (st : State ℚ) (s₁ s₂ : Soldier ℚ),
    buildState sampleRules.toConstants = .ok st ∧
    (Accepts (samplePhase st) .player2 0 s₂.id ⟨.num 3, .num 5⟩ ↔
      Accepts (samplePhase st) .player1 0 s₁.id ⟨.num 3, .num 5⟩) ∧
    (Accepts (samplePhase st) .player1 0 s₁.id ⟨.num 3, .num 5⟩ ↔
      FromZero st.map (3 : ℚ) ∧ FromZero st.map (5 : ℚ)) := by
  obtain ⟨st, s₁, hst, h₁, -, halive₁, hside⟩ := exists_ownSlot_sample .player1
  obtain ⟨st', s₂, hst', h₂, -, halive₂, -⟩ := exists_ownSlot_sample .player2
  obtain rfl := Except.ok.inj (hst.symm.trans hst')
  have halike : TreatedAlike st.map (3 : ℚ) 5 := by
    rw [TreatedAlike, hside]
    exact .inl (by norm_num)
  exact ⟨st, s₁, s₂, hst, (acceptsAlike_iff h₁ h₂ halive₁ halive₂ 3 5).mpr halike⟩

/-- **The players are not treated alike.**  In the small game `(-1/2, 0)` is refused to
player 1, and player 2 is sent there. -/
theorem not_acceptsAlike_sample : ∃ (st : State ℚ) (s₁ s₂ : Soldier ℚ),
    buildState sampleRules.toConstants = .ok st ∧
    (samplePhase st).OwnSlot .player1 0 s₁ ∧ s₁.hp ≠ 0 ∧
    (samplePhase st).OwnSlot .player2 0 s₂ ∧ s₂.hp ≠ 0 ∧
    Accepts (samplePhase st) .player2 0 s₂.id ⟨.num (-1 / 2), .num 0⟩ ∧
    ¬ Accepts (samplePhase st) .player1 0 s₁.id ⟨.num (-1 / 2), .num 0⟩ ∧
    ¬ FromZero st.map (-1 / 2 : ℚ) := by
  obtain ⟨st, s₁, hst, h₁, -, halive₁, hside⟩ := exists_ownSlot_sample .player1
  obtain ⟨st', s₂, hst', h₂, -, halive₂, -⟩ := exists_ownSlot_sample .player2
  obtain rfl := Except.ok.inj (hst.symm.trans hst')
  have houtside : ¬ FromZero st.map (-1 / 2 : ℚ) := fun h => absurd h.1 (by norm_num)
  refine ⟨st, s₁, s₂, hst, h₁, halive₁, h₂, halive₂, ?_, ?_, houtside⟩
  · rw [accepts_player2_iff h₂ halive₂]
    show FromMinusOne st.map _ ∧ FromMinusOne st.map _
    rw [FromMinusOne, FromMinusOne, hside]
    norm_num
  · rw [accepts_player1_iff h₁ halive₁]
    exact fun h => houtside h.1

end Sample

end StateSyncer

end Simulator
