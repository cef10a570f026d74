import Instinct.Gnss.Pointwise
import Mathlib.Tactic.Ring
import Mathlib.Algebra.Ring.Int.Defs

namespace Instinct.Gnss

section
variable {R Sig Freq Sys T Iono : Type} [CommRing R]
variable (env : GnssEnv R Sig Freq Sys T) (est : ObservationEstimator R Freq Sys T Iono)
variable (ionosphericCorrections : Iono) (obsDiff : ObservationDifference)

@[simp] theorem estimateObservation_estimate (freq : Freq) (freqNum : Int) (navData : SatNavData R)
    (receiver : Receiver R Freq Sys T) (recvObs : ReceiverSpecificData R) (terms : Terms R)
    (cn0 : R) (obsType : ObservationType) (obsData : ObservationData R) :
    (estimateObservation env est obsDiff freq freqNum navData receiver recvObs terms cn0 obsType
      obsData).estimate =
      (estimateObservable env est obsDiff freq freqNum receiver recvObs terms cn0 obsType
        obsData).estimate := rfl

/-- An observable of an updated entry is the loop body applied to the observable it came from. -/
theorem mem_obs_estimateReceiverObs {satSigId : Sig} {freqNum : Int} {navData : SatNavData R}
    {receiver : Receiver R Freq Sys T} {recvObs : ReceiverSpecificData R} {obsType : ObservationType}
    {obsData : ObservationData R}
    (h : (obsType, obsData) ∈ (estimateReceiverObs env est ionosphericCorrections obsDiff satSigId
      freqNum navData receiver recvObs).obs) :
    ∃ d, (obsType, d) ∈ recvObs.obs ∧
      obsData = estimateObservation env est obsDiff (env.freq satSigId) freqNum navData receiver
        recvObs (correctionTerms env est ionosphericCorrections (env.freq satSigId) freqNum
          receiver recvObs) (recvObs.CN0.getD 1) obsType d := by
  obtain ⟨⟨t, d⟩, hd, he⟩ := List.mem_map.mp h
  obtain ⟨rfl, rfl⟩ := Prod.mk.inj he
  exact ⟨d, hd, rfl⟩

variable (receivers : List (Receiver R Freq Sys T))

/-- Every entry of a result is the loop body applied to the entry it came from, with the
receiver of its index. -/
theorem entry_of_calcObservationEstimates {observations o' : Observations R Sig}
    (h : calcObservationEstimates env est observations receivers ionosphericCorrections obsDiff =
      .ok o')
    {satSigId : Sig} {so' : SignalObservation R} (hs : (satSigId, so') ∈ o'.signals) {r : Nat}
    {ro' : ReceiverSpecificData R} (hr : so'.recvObs[r]? = some ro') :
    ∃ so ro receiver, (satSigId, so) ∈ observations.signals ∧ so'.freqNum = so.freqNum ∧
      so'.navData = so.navData ∧ so.recvObs[r]? = some ro ∧ receivers[r]? = some receiver ∧
      ro' = estimateReceiverObs env est ionosphericCorrections obsDiff satSigId so.freqNum
        so.navData receiver ro := by
  rw [calcObservationEstimates_eq_pointwise] at h
  split at h
  · obtain ⟨⟨sig, so⟩, hso, he⟩ := List.mem_map.mp ((Except.ok.inj h) ▸ hs)
    simp only [estimateSignalPointwise, Prod.mk.injEq] at he
    obtain ⟨rfl, rfl⟩ := he
    obtain ⟨receiver, ro, hrecv, hro, rfl⟩ := List.getElem?_zipWith_eq_some.mp hr
    exact ⟨so, ro, receiver, hso, rfl, rfl, hro, hrecv, rfl⟩
  · cases h

section Entry
variable (freq : Freq) (freqNum : Int) (receiver : Receiver R Freq Sys T)
  (recvObs : ReceiverSpecificData R) (terms : Terms R) (cn0 : R)

/-- The two range branches differ in the sign of the ionosphere and in the code-only bias. -/
theorem estimateObservable_pseudorange_sub_carrier (d₁ d₂ : ObservationData R) :
    (estimateObservable env est obsDiff freq freqNum receiver recvObs terms cn0 .pseudorange
        d₁).estimate -
      (estimateObservable env est obsDiff freq freqNum receiver recvObs terms cn0 .carrier
        d₂).estimate =
      2 * terms.dpsr_I_r_s + InsConst.C * interFrequencyBiasValue receiver freq := by
  simp only [estimateObservable]
  ring

end Entry

theorem pseudorange_sub_carrier_estimate {observations o' : Observations R Sig}
    (h : calcObservationEstimates env est observations receivers ionosphericCorrections obsDiff =
      .ok o')
    {satSigId : Sig} {so' : SignalObservation R} (hs : (satSigId, so') ∈ o'.signals) {r : Nat}
    {ro' : ReceiverSpecificData R} (hr : so'.recvObs[r]? = some ro')
    {receiver : Receiver R Freq Sys T} (hrecv : receivers[r]? = some receiver)
    {dp dc : ObservationData R} (hp : (.pseudorange, dp) ∈ ro'.obs)
    (hc : (.carrier, dc) ∈ ro'.obs) :
    dp.estimate - dc.estimate =
      2 * ro'.terms.dpsr_I_r_s + InsConst.C * interFrequencyBiasValue receiver (env.freq satSigId) := by
  obtain ⟨so, ro, receiver', -, -, -, -, hrecv', rfl⟩ :=
    entry_of_calcObservationEstimates env est ionosphericCorrections obsDiff receivers h hs hr
  obtain rfl : receiver' = receiver := Option.some.inj (hrecv'.symm.trans hrecv)
  obtain ⟨d₁, -, rfl⟩ := mem_obs_estimateReceiverObs env est ionosphericCorrections obsDiff hp
  obtain ⟨d₂, -, rfl⟩ := mem_obs_estimateReceiverObs env est ionosphericCorrections obsDiff hc
  simp only [estimateObservation_estimate]
  exact estimateObservable_pseudorange_sub_carrier env est obsDiff _ _ _ _ _ _ _ _

end

/-- Library functions that return zero, the square root included. -/
def zeroEnv : GnssEnv Int Unit Unit Unit Unit :=
  ⟨fun _ => (), fun _ => (), fun _ => 0, fun _ => 0, fun _ _ => 0, fun _ _ _ _ => 0,
    fun _ _ _ => 0, fun _ _ => 0⟩

/-- Disabled atmosphere models and an error model of zero variance. -/
def zeroEstimator : ObservationEstimator Int Unit Unit Unit Unit :=
  ⟨fun _ _ _ _ => ⟨0, 0, 0, 0⟩, fun _ _ _ _ _ _ _ => 0,
    ⟨fun _ _ _ => 0, fun _ _ _ => 0, fun _ _ _ _ => 0, 0⟩⟩

/-- A satellite at the receiver's position with no clock error, seen on all three observables. -/
def sampleEntry : ReceiverSpecificData Int :=
  { e_satPos := ⟨0, 0, 0⟩, e_satVel := ⟨0, 0, 0⟩, satClock := ⟨0, 0⟩, satElevation := 0,
    satAzimuth := 0, e_pLOS := ⟨0, 0, 0⟩, CN0 := none,
    obs := [(.pseudorange, ⟨0, 0, 0⟩), (.carrier, ⟨0, 0, 0⟩), (.doppler, ⟨0, 0, 0⟩)],
    terms := ⟨0, ⟨0, 0, 0, 0⟩, 0, 0, 0⟩ }

def sampleObservations : Observations Int Unit := ⟨[((), ⟨⟨0⟩, 0, [sampleEntry]⟩)]⟩

/-- A receiver whose only clock terms are a per-system bias and a per-system drift of one. -/
def sysBiasedReceiver : Receiver Int Unit Unit Unit :=
  { e_pos := ⟨0, 0, 0⟩, lla_pos := ⟨0, 0, 0⟩, e_vel := ⟨0, 0, 0⟩,
    recvClk := ⟨⟨0, 0⟩, ⟨0, 0⟩, fun _ => ⟨1, 0⟩, fun _ => ⟨1, 0⟩⟩,
    interFrequencyBias := fun _ => none, insTime := () }

/-- Every estimate of a set, signal by signal and receiver by receiver. -/
def estimatesView {R Sig : Type} (o : Observations R Sig) : List (List (List R)) :=
  o.signals.map fun p => p.2.recvObs.map fun ro => ro.obs.map fun q => q.2.estimate

/-- A receiver with unit standard deviations on its clock terms and on its inter-frequency bias,
and a per-system bias, per-system drift and inter-frequency bias of one. -/
def noisyReceiver : Receiver Int Unit Unit Unit :=
  { sysBiasedReceiver with
    recvClk := ⟨⟨0, 1⟩, ⟨0, 1⟩, fun _ => ⟨1, 1⟩, fun _ => ⟨1, 1⟩⟩
    interFrequencyBias := fun _ => some ⟨1, 1⟩ }

/-- An ionospheric delay of `4`, a measurement error variance of `2` for every observable and a
code bias variance of `1`. -/
def noisyEstimator : ObservationEstimator Int Unit Unit Unit Unit :=
  ⟨fun _ _ _ _ => ⟨0, 0, 0, 0⟩, fun _ _ _ _ _ _ _ => 4,
    ⟨fun _ _ _ => 2, fun _ _ _ => 2, fun _ _ _ _ => 2, 1⟩⟩

/-- The `NoDifference` result on `sampleObservations` at `noisyReceiver`. -/
def noisyResult : Observations Int Unit :=
  ⟨[((), ⟨⟨0⟩, 0, [{ sampleEntry with
    obs := [(.pseudorange, ⟨0, 4 + 2 * InsConst.C, 4 + 2 * InsConst.C ^ 2⟩),
      (.carrier, ⟨0, InsConst.C - 4, 2 + 2 * InsConst.C ^ 2⟩),
      (.doppler, ⟨0, InsConst.C, 2 + 2 * InsConst.C ^ 2⟩)]
    terms := ⟨0, ⟨0, 0, 0, 0⟩, 0, 4, 0⟩ }]⟩)]⟩

theorem pseudorange_sub_carrier_at_noisyReceiver :
    calcObservationEstimates zeroEnv noisyEstimator sampleObservations [noisyReceiver] ()
        .noDifference = .ok noisyResult ∧
    (4 + 2 * InsConst.C - (InsConst.C - 4) : Int) =
      2 * 4 + InsConst.C * interFrequencyBiasValue noisyReceiver () :=
  have h : calcObservationEstimates zeroEnv noisyEstimator sampleObservations [noisyReceiver] ()
      .noDifference = .ok noisyResult := rfl
  ⟨h, @pseudorange_sub_carrier_estimate Int Unit Unit Unit Unit Unit _ zeroEnv noisyEstimator ()
    .noDifference [noisyReceiver] _ _ h () _ (.head _) 0 _ rfl _ rfl _ _ (.head _)
    (.tail _ (.head _))⟩

/-- The per-system bias enters the range estimates in every mode and the per-system drift
enters Doppler in `NoDifference` only: at a receiver with only those terms, single and double
difference agree on the ranges and no and single difference disagree on Doppler. -/
theorem perSystem_clock_terms_at_sysBiasedReceiver :
    estimatesView <$> calcObservationEstimates zeroEnv zeroEstimator sampleObservations
        [sysBiasedReceiver] () .noDifference = .ok [[[InsConst.C, InsConst.C, InsConst.C]]] ∧
    estimatesView <$> calcObservationEstimates zeroEnv zeroEstimator sampleObservations
        [sysBiasedReceiver] () .singleDifference = .ok [[[InsConst.C, InsConst.C, 0]]] ∧
    estimatesView <$> calcObservationEstimates zeroEnv zeroEstimator sampleObservations
        [sysBiasedReceiver] () .doubleDifference = .ok [[[InsConst.C, InsConst.C, 0]]] :=
  ⟨rfl, rfl, rfl⟩

/-- The estimate and variance of a Doppler observable; the other observables give `none`. -/
def dopplerEntry {R : Type} (q : ObservationType × ObservationData R) : Option (R × R) :=
  if q.1 = .doppler then some (q.2.estimate, q.2.measVar) else none

/-- The Doppler estimates and variances of a set, each in its place. -/
def dopplerView {R Sig : Type} (o : Observations R Sig) :
    List (Sig × List (List (Option (R × R)))) :=
  o.signals.map fun p => (p.1, p.2.recvObs.map fun ro => ro.obs.map dopplerEntry)

/-- The estimator with other troposphere and ionosphere models selected. -/
def ObservationEstimator.withAtmosphere {R Freq Sys T Iono : Type}
    (est : ObservationEstimator R Freq Sys T Iono)
    (calcTropo : T → Vector3 R → R → R → ZenithDelay R)
    (calcIono : R → Freq → Int → Vector3 R → R → R → Iono → R) :
    ObservationEstimator R Freq Sys T Iono :=
  { est with calcTroposphericDelayAndMapping := calcTropo, calcIonosphericDelay := calcIono }

section
variable {R Sig Freq Sys T Iono : Type} [CommRing R]
variable (env : GnssEnv R Sig Freq Sys T) (est : ObservationEstimator R Freq Sys T Iono)
  (obsDiff : ObservationDifference)
  (calcTropo : T → Vector3 R → R → R → ZenithDelay R)
  (calcIono : R → Freq → Int → Vector3 R → R → R → Iono → R)

/-- The Doppler branch and its variance read neither the terms nor the atmosphere models. -/
theorem estimateObservation_doppler (freq : Freq) (freqNum : Int) (navData : SatNavData R)
    (receiver : Receiver R Freq Sys T) (recvObs : ReceiverSpecificData R) (terms terms' : Terms R)
    (cn0 : R) (obsData : ObservationData R) :
    estimateObservation env (est.withAtmosphere calcTropo calcIono) obsDiff freq freqNum navData
        receiver recvObs terms' cn0 .doppler obsData =
      estimateObservation env est obsDiff freq freqNum navData receiver recvObs terms cn0 .doppler
        obsData := by
  cases obsDiff <;> rfl

theorem dopplerEntries_estimateReceiverObs (ionosphericCorrections ionosphericCorrections' : Iono)
    (satSigId : Sig) (freqNum : Int) (navData : SatNavData R) (receiver : Receiver R Freq Sys T)
    (recvObs : ReceiverSpecificData R) :
    (estimateReceiverObs env (est.withAtmosphere calcTropo calcIono) ionosphericCorrections'
        obsDiff satSigId freqNum navData receiver recvObs).obs.map dopplerEntry =
      (estimateReceiverObs env est ionosphericCorrections obsDiff satSigId freqNum navData receiver
        recvObs).obs.map dopplerEntry := by
  simp only [estimateReceiverObs, List.map_map]
  congr 1
  funext ⟨t, d⟩
  by_cases ht : t = .doppler
  · subst ht
    exact congrArg (fun d => dopplerEntry (.doppler, d))
      (estimateObservation_doppler env est obsDiff calcTropo calcIono _ _ _ _ _ _ _ _ _)
  · simp [dopplerEntry, ht]

/-- Whatever the troposphere and ionosphere models and the ionospheric correction parameters,
every Doppler estimate and variance comes out the same. -/
theorem doppler_independent_of_atmosphere (observations : Observations R Sig)
    (receivers : List (Receiver R Freq Sys T)) (ionosphericCorrections ionosphericCorrections' : Iono) :
    dopplerView <$> calcObservationEstimates env (est.withAtmosphere calcTropo calcIono)
        observations receivers ionosphericCorrections' obsDiff =
      dopplerView <$> calcObservationEstimates env est observations receivers ionosphericCorrections
        obsDiff := by
  rw [calcObservationEstimates_eq_pointwise, calcObservationEstimates_eq_pointwise]
  split
  · simp only [map_ok, dopplerView, List.map_map]
    congr 1
    refine List.map_congr_left fun p _ => ?_
    simp only [Function.comp_apply, estimateSignalPointwise, List.map_zipWith,
      dopplerEntries_estimateReceiverObs env est obsDiff calcTropo calcIono ionosphericCorrections
        ionosphericCorrections']
  · rfl

end

end Instinct.Gnss
