import MaestroKernel.Gateway.Evidence

/-! # Dynamic qualification

`qualification.py`: an envelope over the rank, the evidence and the evaluation before. Its
recommended action is recorded; of its feedback the policy engine sees the signals. -/

namespace MaestroKernel.Gateway

inductive QualificationState where
  | qualified
  | conditional
  | disqualified
deriving DecidableEq

inductive TrajectoryState where
  | insufficientData
  | improving
  | stable
  | worsening
deriving DecidableEq

inductive QualificationAction where
  | allow
  | repair
  | verify
  | block
deriving DecidableEq

structure QualificationEnvelope where
  state : QualificationState
  distanceToViability : ℚ
  trajectory : TrajectoryState
  recommendedAction : QualificationAction
  requiredEvidence : List String
  reasons : List String
  components : List (String × String)
  componentRisks : Signals
  feedbackSignals : Signals
deriving DecidableEq

/-- `round(value, 6)`, half to even. -/
def round6 (value : ℚ) : ℚ :=
  let scaled := value * 1000000
  let below := scaled.floor
  let rest := scaled - below
  let rounded := if rest < 1 / 2 ∨ rest = 1 / 2 ∧ below % 2 = 0 then below else below + 1
  rounded / 1000000

def clamp01 (value : ℚ) : ℚ := max 0 (min 1 value)

def structuralRisk (rank : String) : ℚ :=
  Signals.get [("flourishing", 0), ("stable", 1 / 10), ("hybrid", 9 / 20), ("transient", 11 / 20),
    ("distorted", 17 / 20), ("extinct", 1)] rank (3 / 4)

def verificationRisk : VerificationStatus → ℚ
  | .notRequired => 0
  | .verified => 0
  | .unverified => 13 / 20
  | .contradicted => 1

def sufficiencyRisk : SufficiencyStatus → ℚ
  | .notRequired => 0
  | .sufficient => 0
  | .unverified => 13 / 20
  | .insufficient => 1

def verdict (rank : String) (evidence : VerificationEvidence) (suff : TaskSufficiencyEvidence) :
    QualificationState × QualificationAction :=
  if evidence.factual = .contradicted ∨ evidence.execution = .contradicted ∨
      suff.status = .insufficient ∨ rank = "extinct" ∨ rank = "distorted" then
    (.disqualified, .block)
  else if evidence.factual = .unverified ∨ evidence.execution = .unverified ∨
      suff.status = .unverified then (.conditional, .verify)
  else if rank = "hybrid" ∨ rank = "transient" then (.conditional, .repair)
  else (.qualified, .allow)

def requiredEvidence (evidence : VerificationEvidence) (suff : TaskSufficiencyEvidence) :
    List String :=
  (if evidence.factual = .unverified then ["factual_verification"] else []) ++
    (if evidence.execution = .unverified then ["execution_attestation"] else []) ++
    (if suff.status = .unverified then ["task_sufficiency_verification"] else [])

def disqualifyingReasons (evidence : VerificationEvidence) (suff : TaskSufficiencyEvidence) :
    List String :=
  (if evidence.factual = .contradicted then ["factual evidence contradicts the answer"] else []) ++
    (if evidence.execution = .contradicted then
      ["execution evidence contradicts the claimed action"] else []) ++
    (if suff.status = .insufficient then
      ["response does not sufficiently cover the requested task"] else [])

def trajectoryOf (distance : ℚ) : Option ℚ → TrajectoryState
  | none => .insufficientData
  | some previous =>
    let delta := distance - clamp01 previous
    if delta < -3 / 100 then .improving
    else if delta > 3 / 100 then .worsening
    else .stable

def componentSignal (previousRisks : Signals) (component : String × ℚ) : Signals :=
  match previousRisks.lookup component.1 with
  | none => []
  | some previous =>
    let delta := component.2 - clamp01 previous
    if delta > 3 / 100 then [(component.1 ++ "_worsening", 1)]
    else if delta < -3 / 100 then [(component.1 ++ "_improving", 1)]
    else []

def qualify (rank : String) (riskSignals : Signals) (evidence : VerificationEvidence)
    (suff : TaskSufficiencyEvidence) (previousDistance : Option ℚ) (previousRisks : Signals) :
    QualificationEnvelope :=
  let structural := structuralRisk rank
  let factual := verificationRisk evidence.factual
  let execution := verificationRisk evidence.execution
  let sufficiency := sufficiencyRisk suff.status
  let constraint := clamp01 (riskSignals.get "constraint_failure" 0)
  let componentRisks := [("structural", round6 structural), ("factual", round6 factual),
    ("execution", round6 execution), ("sufficiency", round6 sufficiency),
    ("constraint", round6 constraint)]
  let distance := clamp01 (2 / 5 * structural + 1 / 4 * factual + 1 / 4 * execution +
    1 / 10 * constraint + 3 / 20 * sufficiency)
  let trajectory := trajectoryOf distance previousDistance
  { state := (verdict rank evidence suff).1
    distanceToViability := round6 distance
    trajectory := trajectory
    recommendedAction := (verdict rank evidence suff).2
    requiredEvidence := requiredEvidence evidence suff
    reasons := disqualifyingReasons evidence suff
    components := [("structural", rank), ("factual", evidence.factual.value),
      ("execution", evidence.execution.value), ("sufficiency", suff.status.value),
      ("constraint", if 0 < constraint then "violated" else "clear")]
    componentRisks := componentRisks
    feedbackSignals := evidence.asRiskSignals ++ suff.asRiskSignals ++
      ("qualification_distance", round6 distance) ::
      ((if trajectory = .worsening then [("qualification_worsening", 1)] else []) ++
        componentRisks.flatMap (componentSignal previousRisks)) }

/-- The names that feedback may carry. -/
def feedbackNames : List String :=
  ["factual_contradiction", "factual_unverified", "execution_contradiction",
    "execution_unverified", "task_insufficient", "task_sufficiency_unverified",
    "qualification_distance", "qualification_worsening", "structural_worsening",
    "structural_improving", "factual_worsening", "factual_improving", "execution_worsening",
    "execution_improving", "sufficiency_worsening", "sufficiency_improving",
    "constraint_worsening", "constraint_improving"]

theorem lookup_eq_none {signals : Signals} {key : String}
    (h : ∀ signal ∈ signals, signal.1 ≠ key) : signals.lookup key = none := by
  rw [List.lookup_eq_none_iff]
  intro signal hmem
  exact bne_iff_ne.mpr (h signal hmem).symm

theorem componentSignal_names {previousRisks : Signals} {component : String × ℚ}
    {signal : String × ℚ} (h : signal ∈ componentSignal previousRisks component) :
    signal.1 = component.1 ++ "_worsening" ∨ signal.1 = component.1 ++ "_improving" := by
  unfold componentSignal at h
  split at h
  · cases h
  · dsimp only at h
    split at h
    · obtain rfl := List.mem_singleton.mp h
      exact .inl rfl
    · split at h
      · obtain rfl := List.mem_singleton.mp h
        exact .inr rfl
      · cases h

theorem asRiskSignals_names {evidence : VerificationEvidence} {signal : String × ℚ}
    (h : signal ∈ evidence.asRiskSignals) : signal.1 ∈ feedbackNames := by
  obtain ⟨factual, execution⟩ := evidence
  rcases List.mem_append.mp h with hfactual | hexecution
  · cases factual <;> simp_all [VerificationStatus.asRiskSignals] <;> decide
  · cases execution <;> simp_all [VerificationStatus.asRiskSignals] <;> decide

/-- Feedback carries no other name, so it does not hide a score. -/
theorem feedback_names {rank : String} {riskSignals : Signals} {evidence : VerificationEvidence}
    {suff : TaskSufficiencyEvidence} {previousDistance : Option ℚ} {previousRisks : Signals}
    {signal : String × ℚ}
    (h : signal ∈ (qualify rank riskSignals evidence suff previousDistance
      previousRisks).feedbackSignals) : signal.1 ∈ feedbackNames := by
  simp only [qualify, List.mem_append, List.mem_cons, List.mem_flatMap] at h
  rcases h with (hevidence | hsuff) | rfl | htrajectory | ⟨component, hcomponent, hsignal⟩
  · exact asRiskSignals_names hevidence
  · obtain ⟨status⟩ := suff
    cases status <;> simp_all [TaskSufficiencyEvidence.asRiskSignals] <;> decide
  · simp [feedbackNames]
  · split at htrajectory
    · obtain rfl := List.mem_singleton.mp htrajectory
      simp [feedbackNames]
    · cases htrajectory
  · have hname : component.1 ∈ ["structural", "factual", "execution", "sufficiency",
        "constraint"] := by
      simp only [List.not_mem_nil, or_false] at hcomponent
      rcases hcomponent with rfl | rfl | rfl | rfl | rfl <;> simp
    have hall : ∀ name ∈ ["structural", "factual", "execution", "sufficiency", "constraint"],
        name ++ "_worsening" ∈ feedbackNames ∧ name ++ "_improving" ∈ feedbackNames := by
      decide +kernel
    rcases componentSignal_names hsignal with hworse | hbetter
    · rw [hworse]
      exact (hall _ hname).1
    · rw [hbetter]
      exact (hall _ hname).2

/-- The layer blocks exactly where the envelope is disqualified. -/
theorem qualify_block_iff {rank : String} {riskSignals : Signals}
    {evidence : VerificationEvidence} {suff : TaskSufficiencyEvidence}
    {previousDistance : Option ℚ} {previousRisks : Signals} :
    (qualify rank riskSignals evidence suff previousDistance previousRisks).recommendedAction =
        .block ↔
      evidence.factual = .contradicted ∨ evidence.execution = .contradicted ∨
        suff.status = .insufficient ∨ rank = "extinct" ∨ rank = "distorted" := by
  simp only [qualify, verdict]
  split
  · rename_i h
    exact iff_of_true rfl h
  · rename_i h
    refine iff_of_false ?_ h
    split
    · exact QualificationAction.noConfusion
    · split
      · exact QualificationAction.noConfusion
      · exact QualificationAction.noConfusion

end MaestroKernel.Gateway
