import Mathlib.Data.Rat.Floor

/-! # Coefficients, continuity and structural transitions

The numbers of the kernel are Python floats. Only their operations are used, so the
model takes any type that has them. -/

namespace MaestroKernel.Workflow

class Number (F : Type) extends
    Add F, Sub F, Mul F, Div F, Neg F, LT F, LE F, BEq F, OfScientific F, IntCast F where
  decLT : DecidableLT F
  decLE : DecidableLE F
  exp : F → F
  isFinite : F → Bool
  /-- `int(x)` -/
  truncate : F → ℤ
  /-- `round(x, 4)` -/
  round4 : F → F

variable {F : Type} [Number F]

instance decidableLT : DecidableLT F := Number.decLT

instance decidableLE : DecidableLE F := Number.decLE

/-- `max` and `min` of Python return the first of two values unless the second wins. -/
def pyMax (a b : F) : F := if a < b then b else a

def pyMin (a b : F) : F := if b < a then b else a

def clamp (value : F) (lo : F := 0.0) (hi : F := 1.0) : F :=
  if Number.isFinite value then pyMax lo (pyMin hi value) else lo

structure AgentTelemetry (F : Type) [Number F] where
  successRate : F := 1.0
  cooperationSuccess : F := 0.5
  usefulHandoffRate : F := 0.5
  demandRate : F := 0.0
  businessPriority : F := 0.5
  resourceCost : F := 0.0
  overlapScore : F := 0.0
  policyRisk : F := 0.0
  failureCount : ℤ := 0
  ageSeconds : F := 0.0
  latencyP95Ms : F := 0.0
  queueDepth : F := 0.0
  /-- `custom.get("need_boost", 0.0)` -/
  needBoost : F := 0.0

structure HandoffTelemetry (F : Type) [Number F] where
  artifactQuality : F := 0.5
  contextPreservation : F := 0.5
  acceptanceRate : F := 0.5
  reworkRate : F := 0.0
  latencyMs : F := 0.0
  ambiguity : F := 0.0
  policyRisk : F := 0.0
  demandRate : F := 0.5
  /-- `custom.get("handoff_priority", 0.5)` -/
  handoffPriority : F := 0.5

structure WorkflowTelemetry (F : Type) [Number F] where
  goalAlignment : F := 0.5
  progressRate : F := 0.0
  completionConfidence : F := 0.0
  coordinationQuality : F := 0.5
  blockingRate : F := 0.0
  reworkRate : F := 0.0
  costPressure : F := 0.0
  latencyPressure : F := 0.0
  riskPressure : F := 0.0
  demandRate : F := 0.5
  /-- `custom.get("business_priority", 0.5)` -/
  businessPriority : F := 0.5

/-- `T` is synergy, `N` need, `C` cost and `M` mortality. -/
structure Coefficients (F : Type) where
  T : F
  N : F
  C : F
  M : F

def fromAgentTelemetry (m : AgentTelemetry F) : Coefficients F where
  T := clamp (0.45 * m.cooperationSuccess + 0.35 * m.usefulHandoffRate + 0.20 * m.successRate)
  N := clamp (0.45 * m.demandRate + 0.25 * m.businessPriority + 0.20 * m.queueDepth +
    0.10 * m.needBoost)
  C := clamp (0.35 * m.resourceCost + 0.25 * m.overlapScore +
    0.20 * clamp (m.latencyP95Ms / 10000.0) + 0.20 * m.policyRisk)
  M := clamp (0.40 * clamp ((m.failureCount : F) / 10.0) + 0.25 * clamp (m.ageSeconds / 86400.0) +
    0.25 * m.policyRisk + 0.10 * clamp (m.latencyP95Ms / 20000.0))

def fromHandoffTelemetry (h : HandoffTelemetry F) : Coefficients F where
  T := clamp (0.35 * h.artifactQuality + 0.30 * h.contextPreservation + 0.25 * h.acceptanceRate +
    0.10 * (1.0 - h.ambiguity))
  N := clamp (0.70 * h.demandRate + 0.30 * h.handoffPriority)
  C := clamp (0.35 * h.reworkRate + 0.25 * h.ambiguity + 0.20 * clamp (h.latencyMs / 10000.0) +
    0.20 * h.policyRisk)
  M := clamp (0.45 * h.reworkRate + 0.25 * h.ambiguity + 0.20 * h.policyRisk +
    0.10 * clamp (h.latencyMs / 20000.0))

def fromWorkflowTelemetry (w : WorkflowTelemetry F) : Coefficients F where
  T := clamp (0.35 * w.coordinationQuality + 0.35 * w.goalAlignment +
    0.30 * w.completionConfidence)
  N := clamp (0.55 * w.demandRate + 0.25 * w.businessPriority + 0.20 * w.progressRate)
  C := clamp (0.30 * w.costPressure + 0.25 * w.latencyPressure + 0.25 * w.reworkRate +
    0.20 * w.blockingRate)
  M := clamp (0.35 * w.riskPressure + 0.25 * w.blockingRate + 0.25 * w.reworkRate +
    0.15 * (1.0 - w.goalAlignment))

def delta (dt : F) (coeff : Coefficients F) : F :=
  let t := clamp coeff.T
  let n := clamp coeff.N
  let c := clamp coeff.C
  let m := clamp coeff.M
  ((t * n) - c) * Number.exp (-m) * dt

/-- `step` -/
def stepPsi (dt previousPsi : F) (coeff : Coefficients F) : F × F :=
  let dpsi := delta dt coeff
  (previousPsi + dpsi, dpsi)

def normalizePsi (psi : F) (scale : F := 2.0) : F :=
  if Number.isFinite psi then
    clamp (1.0 / (1.0 + Number.exp (-psi / pyMax scale 0.000000001)))
  else 0.0

/-! ## `CGTBridge`

The engine that evaluates a transition is not part of the repository. It is asked with
the record below and answers with a report. -/

structure PhaseState (F : Type) where
  phaseId : String
  mass : F
  meanRetention : F
  harmony : F
  fatigue : F
  selfPotential : F

structure Features (F : Type) where
  synergy : F
  need : F
  costInverse : F
  mortalityInverse : F
  psi : F
  dpsiPositive : F
  transitionGate : F

structure Transition (F : Type) where
  sourcePhase : PhaseState F
  targetPhase : PhaseState F
  gateOpenness : F
  carryingCapacity : F
  nodeFatigue : F
  localSafety : F
  continuationChannel : F
  tau : F
  tauStar : F
  trigger : F
  sourceFeatures : Features F
  targetFeatures : Features F

inductive ExistenceRank where
  | extinct | distorted | other (value : String)
deriving DecidableEq

structure FateVector (F : Type) where
  stability : F
  flourishing : F
  distortion : F
  extinction : F

/-- The fields of `StructuralTransitionReport` that the kernel reads. -/
structure Report (F : Type) where
  retention : F
  compatibility : F
  transitionChannel : F
  /-- `aftermath.balance` -/
  aftermathBalance : F
  fateVector : Option (FateVector F)
  existenceRank : Option ExistenceRank

def coefficientsToPhase (phaseId : String) (coeff : Coefficients F) (psi : F) : PhaseState F where
  phaseId
  mass := clamp coeff.N
  meanRetention := clamp ((coeff.T * coeff.N) * (1.0 - 0.5 * coeff.M))
  harmony := clamp (coeff.T * (1.0 - coeff.C))
  fatigue := clamp (0.5 * coeff.C + 0.5 * coeff.M)
  selfPotential := normalizePsi psi

def featureVector (coeff : Coefficients F) (psi dpsi : F) : Features F where
  synergy := clamp coeff.T
  need := clamp coeff.N
  costInverse := clamp (1.0 - coeff.C)
  mortalityInverse := clamp (1.0 - coeff.M)
  psi := normalizePsi psi
  dpsiPositive := clamp (pyMax 0.0 dpsi)
  transitionGate := clamp (pyMax 0.0 (-dpsi) + 0.35 * coeff.M + 0.25 * coeff.C)

/-- `evaluate_transition` up to the call of the engine -/
def transition (entityId : String) (previousCoeff currentCoeff : Coefficients F)
    (previousPsi currentPsi dpsi : F) (fatigueCounter : ℤ) : Transition F where
  sourcePhase := coefficientsToPhase (entityId ++ "@previous") previousCoeff previousPsi
  targetPhase := coefficientsToPhase (entityId ++ "@current") currentCoeff currentPsi
  gateOpenness := clamp currentCoeff.T
  carryingCapacity := clamp currentCoeff.N
  nodeFatigue := clamp (currentCoeff.C + currentCoeff.M) 0.0 2.0
  localSafety := clamp (1.0 - pyMax currentCoeff.C currentCoeff.M)
  continuationChannel := clamp (previousCoeff.T * previousCoeff.N)
  tau := ((max 0 fatigueCounter : ℤ) : F)
  tauStar := 3.0
  trigger := clamp (pyMax 0.0 (-dpsi) + currentCoeff.M + currentCoeff.C)
  sourceFeatures := featureVector previousCoeff previousPsi 0.0
  targetFeatures := featureVector currentCoeff currentPsi dpsi

/-- Exact arithmetic, with a polynomial in place of the exponential function. -/
instance : Number ℚ where
  decLT := inferInstance
  decLE := inferInstance
  exp x := 1 + x + x ^ 2 / 2 + x ^ 3 / 6 + x ^ 4 / 24
  isFinite _ := true
  truncate x := if 0 ≤ x then ⌊x⌋ else ⌈x⌉
  round4 x := ((x * 10000 + 1 / 2).floor : ℤ) / 10000

end MaestroKernel.Workflow
