import Instinct.Util.Except
import Mathlib.Algebra.Ring.Defs

namespace Instinct.Gnss

/-- An `Eigen::Vector3d` over the scalar type of the model. -/
structure Vector3 (R : Type) where
  x : R
  y : R
  z : R
  deriving DecidableEq, Repr

namespace Vector3
variable {R : Type} [CommRing R]

instance : Sub (Vector3 R) := ⟨fun a b => ⟨a.x - b.x, a.y - b.y, a.z - b.z⟩⟩

def dot (a b : Vector3 R) : R := a.x * b.x + a.y * b.y + a.z * b.z

/-- Eigen's `norm()`, the square root of the squared norm. -/
def norm (sqrt : R → R) (a : Vector3 R) : R := sqrt (a.dot a)

end Vector3

/-- `UncertainValue<double>`. -/
structure UncertainValue (R : Type) where
  value : R
  stdDev : R
  deriving DecidableEq, Repr

/-- The receiver clock state. The per-system arrays are indexed by
`SatelliteSystem::toEnumeration()`, so every system has an entry. -/
structure ReceiverClock (R Sys : Type) where
  bias : UncertainValue R
  drift : UncertainValue R
  sysTimeDiffBias : Sys → UncertainValue R
  sysTimeDiffDrift : Sys → UncertainValue R

/-- `Receiver<ReceiverType>`; `insTime` is `gnssObs->insTime`, the epoch of its observation.
The inter-frequency map gives `none` where `contains(freq)` is false. -/
structure Receiver (R Freq Sys T : Type) where
  e_pos : Vector3 R
  lla_pos : Vector3 R
  e_vel : Vector3 R
  recvClk : ReceiverClock R Sys
  interFrequencyBias : Freq → Option (UncertainValue R)
  insTime : T

/-- `Clock::Corrections` of the satellite. -/
structure ClockCorrections (R : Type) where
  bias : R
  drift : R
  deriving DecidableEq, Repr

/-- `ZenithDelay` returned by the troposphere model. -/
structure ZenithDelay (R : Type) where
  ZHD : R
  ZWD : R
  zhdMappingFactor : R
  zwdMappingFactor : R
  deriving DecidableEq, Repr

/-- The cached correction terms written back for each signal and receiver. -/
structure Terms (R : Type) where
  rho_r_s : R
  tropoZenithDelay : ZenithDelay R
  dpsr_T_r_s : R
  dpsr_I_r_s : R
  dpsr_ie_r_s : R
  deriving DecidableEq, Repr

/-- `GnssObs::ObservationType`, with the counting sentinel the switch names. -/
inductive ObservationType where
  | pseudorange
  | carrier
  | doppler
  | observationTypeCount
  deriving DecidableEq, Repr

structure ObservationData (R : Type) where
  measurement : R
  estimate : R
  measVar : R
  deriving DecidableEq, Repr

/-- `ReceiverSpecificData` of one signal; `CN0` is `gnssObsData().CN0`. The observables form
a map in the source, a list of pairs here. -/
structure ReceiverSpecificData (R : Type) where
  e_satPos : Vector3 R
  e_satVel : Vector3 R
  satClock : ClockCorrections R
  satElevation : R
  satAzimuth : R
  e_pLOS : Vector3 R
  CN0 : Option R
  obs : List (ObservationType × ObservationData R)
  terms : Terms R
  deriving DecidableEq, Repr

/-- The ephemeris behind `navData()`, seen through the one method the estimator calls. -/
structure SatNavData (R : Type) where
  calcSatellitePositionVariance : R
  deriving DecidableEq, Repr

/-- `SignalObservation`; `recvObs` is indexed by the receiver number. -/
structure SignalObservation (R : Type) where
  navData : SatNavData R
  freqNum : Int
  recvObs : List (ReceiverSpecificData R)
  deriving DecidableEq, Repr

/-- `Observations`: the signals of one epoch, keyed by their `SatSigId`. -/
structure Observations (R Sig : Type) where
  signals : List (Sig × SignalObservation R)
  deriving DecidableEq, Repr

/-- `ObservationEstimator::ObservationDifference`. -/
inductive ObservationDifference where
  | noDifference
  | singleDifference
  | doubleDifference
  deriving DecidableEq, Repr

/-- `GnssMeasurementErrorModel`: the baseline variances of each observable. -/
structure GnssMeasurementErrorModel (R Freq Sys : Type) where
  psrMeasErrorVar : Sys → R → R → R
  carrierMeasErrorVar : Sys → R → R → R
  psrRateMeasErrorVar : Freq → Int → R → R → R
  codeBiasErrorVar : R

/-- The members of `ObservationEstimator`. The troposphere and ionosphere models are seen
through the provider calls that read them, with the selected model already applied. -/
structure ObservationEstimator (R Freq Sys T Iono : Type) where
  calcTroposphericDelayAndMapping : T → Vector3 R → R → R → ZenithDelay R
  calcIonosphericDelay : R → Freq → Int → Vector3 R → R → R → Iono → R
  gnssMeasurementErrorModel : GnssMeasurementErrorModel R Freq Sys

/-- Library functions the estimator calls that are declared outside the estimator:
`SatSigId::freq`, `Frequency::getSatSys`, the time of week of an `InsTime`, the square root
behind Eigen's norm, the Sagnac corrections and the atmosphere error variances. -/
structure GnssEnv (R Sig Freq Sys T : Type) where
  freq : Sig → Freq
  getSatSys : Freq → Sys
  tow : T → R
  sqrt : R → R
  calcSagnacCorrection : Vector3 R → Vector3 R → R
  calcSagnacRateCorrection : Vector3 R → Vector3 R → Vector3 R → Vector3 R → R
  ionoErrorVar : R → Freq → Int → R
  tropoErrorVar : R → R → R

/-- `InsConst<>::C`, the speed of light in m/s. -/
def InsConst.C {R : Type} [CommRing R] : R := 299792458

/-- A C++ `bool` used as a factor of a `double`. -/
def castBool {R : Type} [CommRing R] (b : Bool) : R := if b then 1 else 0

@[simp] theorem castBool_true {R : Type} [CommRing R] : (castBool true : R) = 1 := rfl
@[simp] theorem castBool_false {R : Type} [CommRing R] : (castBool false : R) = 0 := rfl

/-- `std::out_of_range` from `std::array::at`. -/
structure OutOfRange where
  index : Nat
  size : Nat
  deriving DecidableEq, Repr

/-- `std::array::at`. -/
def arrayAt {α : Type} (xs : List α) (i : Nat) : Except OutOfRange α :=
  match xs[i]? with
  | some x => .ok x
  | none => .error ⟨i, xs.length⟩

theorem arrayAt_of_lt {α : Type} {xs : List α} {i : Nat} (h : i < xs.length) :
    arrayAt xs i = .ok xs[i] := by
  simp [arrayAt, h]

theorem arrayAt_of_le {α : Type} {xs : List α} {i : Nat} (h : xs.length ≤ i) :
    arrayAt xs i = .error ⟨i, xs.length⟩ := by
  simp [arrayAt, List.getElem?_eq_none h]

end Instinct.Gnss
