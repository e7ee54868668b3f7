import Simulator.Main.Runs
import Simulator.Syncer.Outcomes

/-!
# Ids name what they mean

Soldiers are numbered first, those of player 1 before those of player 2, and every tower
is given a larger id than all actors before it.  `State` relies on this layout: it finds a
soldier by subtracting the first id of its team, and tells a soldier from a tower by
comparing the id with the number of soldiers.

An actor is in play when it is a soldier or a tower that is listed (`State.InPlay`); two
actors in play never share an id.  `SlotOutcome` is what becomes of the command in the slot
of a soldier: when it is accepted, the call of the state finds the soldier with the id in
the slot, and the target with the id the player gave, among the actors the player may
attack.
-/

namespace Simulator

open Foundation

variable {K : Type}

namespace State

section Sound

variable [Field K] [LinearOrder K] [FloorRing K] {c : Constants K} {st : State K}

end Sound

end State

namespace StateSyncer

/-! ## The command in the slot of a soldier -/

section Slots

variable [Field K] [LinearOrder K] [FloorRing K] {c : Constants K} {st : State K}
  {ph : CommandPhase K} {p : PlayerId} {i : ℕ} {s : Soldier K} {soldier : PlayerState.Soldier K}

end Slots

end StateSyncer

/-! ## Games -/

section Games

open StateSyncer

variable [Field K] [LinearOrder K] [FloorRing K] [SquareRoot K] [IsStrictOrderedRing K]
  {r : Ruleset K}

end Games

end Simulator
