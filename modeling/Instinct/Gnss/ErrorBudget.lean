import Instinct.Gnss.ObservationEstimator
import Mathlib.Algebra.Order.BigOperators.Group.List
import Mathlib.Tactic.Ring

namespace Instinct.Gnss

/-- The contributions the estimator may add to the error model's variance of an observable. -/
inductive VarianceTerm where
  | satelliteAndAtmosphere
  | codeBias
  | receiverClock
  deriving DecidableEq, Repr

namespace VarianceTerm

def all : List VarianceTerm := [satelliteAndAtmosphere, codeBias, receiverClock]

/-- The contributions each difference mode keeps: a single difference cancels the errors common
to both receivers of a satellite, a double difference also the receiver clocks. -/
def includedIn : VarianceTerm → ObservationDifference → Bool
  | _, .noDifference => true
  | receiverClock, .singleDifference => true
  | _, _ => false

theorem includedIn_double_single (t : VarianceTerm) :
    t.includedIn .doubleDifference → t.includedIn .singleDifference := by
  cases t <;> decide

theorem includedIn_single_no (t : VarianceTerm) :
    t.includedIn .singleDifference → t.includedIn .noDifference := by
  cases t <;> decide

end VarianceTerm

section
variable {R Sig Freq Sys T Iono : Type} [CommRing R]
variable (env : GnssEnv R Sig Freq Sys T) (est : ObservationEstimator R Freq Sys T Iono)
  (freq : Freq) (freqNum : Int) (navData : SatNavData R) (receiver : Receiver R Freq Sys T)
  (recvObs : ReceiverSpecificData R) (terms : Terms R)

/-- The variance each contribution adds to an observable. -/
def varianceTerm : VarianceTerm → ObservationType → R
  | .satelliteAndAtmosphere, .pseudorange | .satelliteAndAtmosphere, .carrier =>
    navData.calcSatellitePositionVariance + env.ionoErrorVar terms.dpsr_I_r_s freq freqNum
      + env.tropoErrorVar terms.dpsr_T_r_s recvObs.satElevation
  | .codeBias, .pseudorange => est.gnssMeasurementErrorModel.codeBiasErrorVar
      + ((receiver.interFrequencyBias freq).map fun b => b.stdDev ^ 2).getD 0
  | .receiverClock, .pseudorange | .receiverClock, .carrier =>
    InsConst.C ^ 2 * (receiver.recvClk.bias.stdDev ^ 2
      + (receiver.recvClk.sysTimeDiffBias (env.getSatSys freq)).stdDev ^ 2)
  | .receiverClock, .doppler =>
    InsConst.C ^ 2 * (receiver.recvClk.drift.stdDev ^ 2
      + (receiver.recvClk.sysTimeDiffDrift (env.getSatSys freq)).stdDev ^ 2)
  | _, _ => 0

/-- The error budget of an observable: its variance plus every contribution the difference mode
keeps. -/
def budgetVariance (obsDiff : ObservationDifference) (obsType : ObservationType) (measVar : R) :
    R :=
  measVar + ((VarianceTerm.all.filter (·.includedIn obsDiff)).map
    (varianceTerm env est freq freqNum navData receiver recvObs terms · obsType)).sum

/-- The `+=` contributions of the source are the error budget of the difference mode. -/
theorem observationVariance_eq_budgetVariance (obsDiff : ObservationDifference)
    (obsType : ObservationType) (measVar : R) :
    observationVariance env est obsDiff freq freqNum navData receiver recvObs terms obsType
      measVar =
    budgetVariance env est freq freqNum navData receiver recvObs terms obsDiff obsType measVar := by
  cases obsDiff <;> cases obsType <;>
    simp only [observationVariance, budgetVariance, varianceTerm, VarianceTerm.all,
      VarianceTerm.includedIn, List.filter_cons_of_neg, List.filter_cons_of_pos, List.filter_nil,
      List.map_cons, List.map_nil, List.sum_cons, List.sum_nil, add_zero, zero_add, beq_self_eq_true,
      bne_self_eq_false, beq_iff_eq, bne_iff_ne, ne_eq, Bool.or_eq_true, Bool.or_true, Bool.true_or,
      or_self, reduceCtorEq, not_false_eq_true, Bool.false_eq_true, ↓reduceIte]
  case noDifference.pseudorange =>
    cases receiver.interFrequencyBias freq
    · simp only [Option.map_none', Option.getD_none]; ring
    · simp only [Option.map_some', Option.getD_some]; ring
  case noDifference.carrier => ring

end

section Ordered
variable {R Sig Freq Sys T Iono : Type} [LinearOrderedCommRing R]
variable (env : GnssEnv R Sig Freq Sys T) (est : ObservationEstimator R Freq Sys T Iono)
  (freq : Freq) (freqNum : Int) (navData : SatNavData R) (receiver : Receiver R Freq Sys T)
  (recvObs : ReceiverSpecificData R) (terms : Terms R)

/-- With variance providers that return variances, every contribution is one. -/
theorem varianceTerm_nonneg (hiono : ∀ x f n, 0 ≤ env.ionoErrorVar x f n)
    (htropo : ∀ x e, 0 ≤ env.tropoErrorVar x e)
    (hcode : 0 ≤ est.gnssMeasurementErrorModel.codeBiasErrorVar)
    (hnav : 0 ≤ navData.calcSatellitePositionVariance) (t : VarianceTerm) (obsType : ObservationType) :
    0 ≤ varianceTerm env est freq freqNum navData receiver recvObs terms t obsType := by
  have hatm := add_nonneg (add_nonneg hnav (hiono terms.dpsr_I_r_s freq freqNum))
    (htropo terms.dpsr_T_r_s recvObs.satElevation)
  have hclock : ∀ u v : UncertainValue R, 0 ≤ InsConst.C ^ 2 * (u.stdDev ^ 2 + v.stdDev ^ 2) :=
    fun u v => mul_nonneg (sq_nonneg _) (add_nonneg (sq_nonneg _) (sq_nonneg _))
  have hifb : 0 ≤ ((receiver.interFrequencyBias freq).map fun b => b.stdDev ^ 2).getD 0 := by
    cases receiver.interFrequencyBias freq
    · exact le_rfl
    · exact sq_nonneg _
  cases t <;> cases obsType
  case satelliteAndAtmosphere.pseudorange | satelliteAndAtmosphere.carrier => exact hatm
  case codeBias.pseudorange => exact add_nonneg hcode hifb
  case receiverClock.pseudorange | receiverClock.carrier | receiverClock.doppler => exact hclock _ _
  all_goals exact le_rfl

/-- A mode that keeps more contributions has the larger budget. -/
theorem budgetVariance_le_of_included {obsDiff obsDiff' : ObservationDifference}
    (h : ∀ t : VarianceTerm, t.includedIn obsDiff → t.includedIn obsDiff') (obsType : ObservationType)
    (hterm : ∀ t, 0 ≤ varianceTerm env est freq freqNum navData receiver recvObs terms t obsType)
    (measVar : R) :
    budgetVariance env est freq freqNum navData receiver recvObs terms obsDiff obsType measVar ≤
      budgetVariance env est freq freqNum navData receiver recvObs terms obsDiff' obsType measVar :=
  add_le_add_left (((VarianceTerm.all.monotone_filter_right h).map _).sum_le_sum fun _ hx => by
    obtain ⟨t, -, rfl⟩ := List.mem_map.mp hx
    exact hterm t) measVar

theorem le_budgetVariance (obsDiff : ObservationDifference) (obsType : ObservationType)
    (hterm : ∀ t, 0 ≤ varianceTerm env est freq freqNum navData receiver recvObs terms t obsType)
    (measVar : R) :
    measVar ≤ budgetVariance env est freq freqNum navData receiver recvObs terms obsDiff obsType
      measVar :=
  le_add_of_nonneg_right (List.sum_nonneg fun _ hx => by
    obtain ⟨t, -, rfl⟩ := List.mem_map.mp hx
    exact hterm t)

end Ordered

end Instinct.Gnss
