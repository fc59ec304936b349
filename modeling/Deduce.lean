import Deduce.Engine
import Deduce.LogLevel
import Deduce.Proofs.Facts
import Deduce.Proofs.Typing.Reading
import Deduce.Proofs.Outcome
import Deduce.Proofs.Pass
import Deduce.Proofs.Run
import Deduce.Proofs.Comparison
import Deduce.Proofs.Convergence
import Deduce.Proofs.Safety
import Deduce.Proofs.Presence
import Deduce.Proofs.NormalPhase
import Deduce.Proofs.LeastModel
import Deduce.Proofs.Monotonicity
import Deduce.Proofs.Actions
import Deduce.Proofs.Coercion
import Deduce.Proofs.SupplyOrder
import Deduce.Proofs.Lockstep
import Deduce.Proofs.RuleOrder
import Deduce.Proofs.Provenance
import Deduce.Proofs.View
import Deduce.Proofs.FixedPoint
import Deduce.Proofs.Rerun
import Deduce.Proofs.Reading.Drafts
import Deduce.Proofs.Reading.WellFormed
import Deduce.Proofs.Reading.Overlong
import Deduce.Proofs.Turns
import Deduce.Proofs.Unfired
import Deduce.Proofs.ThreeValued
import Deduce.Proofs.Stability
import Deduce.Proofs.Reading.Composition
import Deduce.Proofs.Reading.Rendering
import Deduce.Proofs.Partition
import Deduce.Proofs.Blank
import Deduce.Proofs.Description
