import Simulator.Foundation.Double
import Simulator.Foundation.SearchOrder
import Simulator.Foundation.SquareRoots
import Simulator.Foundation.Loops
import Simulator.Foundation.TwoRuns
import Simulator.Foundation.Outcomes
import Simulator.Foundation.Fairness
import Simulator.Foundation.While
import Simulator.Foundation.Budget
import Simulator.Foundation.Counting
import Simulator.Foundation.RefCover
import Simulator.Foundation.Renaming
import Simulator.Foundation.Mirror
import Simulator.Foundation.Rotation
import Simulator.Foundation.Transition
import Simulator.Foundation.Interning
import Simulator.Foundation.DelayLine
import Simulator.Foundation.BreadthFirst
import Simulator.Foundation.ControlFlow
import Simulator.Foundation.Probes
import Simulator.State.Utilities
import Simulator.State.Constants
import Simulator.State.Actor
import Simulator.State.MoneyManager
import Simulator.State.GameMap
import Simulator.State.TowerManager
import Simulator.State.Territory
import Simulator.State.TowerRounds
import Simulator.State.TowerRun
import Simulator.State.SoldierStates
import Simulator.State.SoldierUpdates
import Simulator.State.Transitions
import Simulator.State.State
import Simulator.State.Effects
import Simulator.State.Soundness
import Simulator.State.TowerPhase
import Simulator.State.Update
import Simulator.State.SoldierPhases
import Simulator.State.SoldierRounds
import Simulator.State.Blows
import Simulator.State.Spoils
import Simulator.State.Onslaught
import Simulator.State.SoldierOrder
import Simulator.State.TowerOrder
import Simulator.State.UpdateOrder
import Simulator.State.Clashes
import Simulator.State.Balances
import Simulator.State.MoneyCalls
import Simulator.State.TowerRequests
import Simulator.State.TowerUpdates
import Simulator.State.AnyOrder
import Simulator.State.Paths
import Simulator.State.Arrivals
import Simulator.State.OpenLand
import Simulator.State.NextPositions
import Simulator.State.PathPlanner
import Simulator.State.Routes
import Simulator.Syncer.PlayerState
import Simulator.Syncer.StateSyncer
import Simulator.Syncer.Verdicts
import Simulator.Syncer.Execution
import Simulator.Syncer.Outcomes
import Simulator.Syncer.Acceptance
import Simulator.Syncer.CommandLists
import Simulator.Syncer.Requests
import Simulator.Syncer.Readiness
import Simulator.Logger.Messages
import Simulator.Logger.Logger
import Simulator.Logger.TowerLog
import Simulator.Logger.ErrorLog
import Simulator.Syncer.PlayerViews
import Simulator.Syncer.FlippedMap
import Simulator.Syncer.Buildable
import Simulator.Syncer.MirroredBuilds
import Simulator.Syncer.FreshCopies
import Simulator.Syncer.Moves
import Simulator.Main.Game
import Simulator.Main.Initial
import Simulator.Main.Runs
import Simulator.Main.Fairness
import Simulator.Main.Occupancy
import Simulator.Main.TowerDeaths
import Simulator.Main.TowerLists
import Simulator.Main.Scores
import Simulator.Main.KillRewards
import Simulator.Main.SoldierRuns
import Simulator.Main.Respawning
import Simulator.Main.Marches
import Simulator.Main.ActorIds
import Simulator.Main.Lookups
import Simulator.Main.UpdateOrders
import Simulator.Main.Containment
import Simulator.Main.Accounts
import Simulator.Main.SoldierLives
import Simulator.Main.Combat
import Simulator.Main.Sieges
import Simulator.Main.Snapshots
import Simulator.Drivers.PlayerDriver
import Simulator.Drivers.MainDriver
import Simulator.Drivers.System
import Simulator.Drivers.Handshake
import Simulator.Drivers.Cancellation
import Simulator.Drivers.Game
import Simulator.Drivers.Authority
import Simulator.Drivers.CountedRuns
import Simulator.Drivers.GameRules
import Simulator.Drivers.Returning
import Simulator.Drivers.AbortLog
import Simulator.Drivers.Transcript
import Simulator.Drivers.Chronicle
import Simulator.Drivers.Timer
import Simulator.LlvmPass.InstCountPass
import Simulator.Drivers.InstructionCounts
import Simulator.Drivers.Match
import Simulator.Drivers.Serial
import Simulator.Drivers.FairMatches
