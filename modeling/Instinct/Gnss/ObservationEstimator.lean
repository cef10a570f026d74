import Instinct.Gnss.Observation

namespace Instinct.Gnss

section
variable {R Sig Freq Sys T Iono : Type} [CommRing R]
variable (env : GnssEnv R Sig Freq Sys T) (est : ObservationEstimator R Freq Sys T Iono)

/-- `interFrequencyBias.contains(freq) ? interFrequencyBias.at(freq).value : 0.0` -/
def interFrequencyBiasValue (receiver : Receiver R Freq Sys T) (freq : Freq) : R :=
  match receiver.interFrequencyBias freq with
  | some b => b.value
  | none => 0

/-- The `switch (obsType)`: the estimate of the observable and its baseline variance.
The counting sentinel leaves the entry as it was. -/
def estimateObservable (obsDiff : ObservationDifference) (freq : Freq) (freqNum : Int)
    (receiver : Receiver R Freq Sys T) (recvObs : ReceiverSpecificData R) (terms : Terms R)
    (cn0 : R) : ObservationType → ObservationData R → ObservationData R
  | .pseudorange, obsData =>
    { obsData with
      estimate := terms.rho_r_s + terms.dpsr_ie_r_s + terms.dpsr_T_r_s + terms.dpsr_I_r_s
        + InsConst.C * (receiver.recvClk.bias.value * castBool (obsDiff != .doubleDifference)
          - recvObs.satClock.bias * castBool (obsDiff == .noDifference)
          + (receiver.recvClk.sysTimeDiffBias (env.getSatSys freq)).value
          + interFrequencyBiasValue receiver freq)
      measVar := est.gnssMeasurementErrorModel.psrMeasErrorVar (env.getSatSys freq)
        recvObs.satElevation cn0 }
  | .carrier, obsData =>
    { obsData with
      estimate := terms.rho_r_s + terms.dpsr_ie_r_s + terms.dpsr_T_r_s - terms.dpsr_I_r_s
        + InsConst.C * (receiver.recvClk.bias.value * castBool (obsDiff != .doubleDifference)
          - recvObs.satClock.bias * castBool (obsDiff == .noDifference)
          + (receiver.recvClk.sysTimeDiffBias (env.getSatSys freq)).value)
      measVar := est.gnssMeasurementErrorModel.carrierMeasErrorVar (env.getSatSys freq)
        recvObs.satElevation cn0 }
  | .doppler, obsData =>
    { obsData with
      estimate := recvObs.e_pLOS.dot (recvObs.e_satVel - receiver.e_vel)
        - env.calcSagnacRateCorrection receiver.e_pos recvObs.e_satPos receiver.e_vel recvObs.e_satVel
        + InsConst.C * (receiver.recvClk.drift.value * castBool (obsDiff != .doubleDifference)
          - recvObs.satClock.drift * castBool (obsDiff == .noDifference)
          + (receiver.recvClk.sysTimeDiffDrift (env.getSatSys freq)).value
            * castBool (obsDiff == .noDifference))
      measVar := est.gnssMeasurementErrorModel.psrRateMeasErrorVar freq freqNum
        recvObs.satElevation cn0 }
  | .observationTypeCount, obsData => obsData

/-- The `+=` contributions to `measVar` after the switch, in the order the source adds them. -/
def observationVariance (obsDiff : ObservationDifference) (freq : Freq) (freqNum : Int)
    (navData : SatNavData R) (receiver : Receiver R Freq Sys T) (recvObs : ReceiverSpecificData R)
    (terms : Terms R) (obsType : ObservationType) (measVar : R) : R :=
  let satSys := env.getSatSys freq
  let measVar :=
    if obsDiff == .noDifference then
      let measVar :=
        if obsType == .pseudorange || obsType == .carrier then
          measVar + (navData.calcSatellitePositionVariance
            + env.ionoErrorVar terms.dpsr_I_r_s freq freqNum
            + env.tropoErrorVar terms.dpsr_T_r_s recvObs.satElevation)
        else measVar
      if obsType == .pseudorange then
        let measVar := measVar + est.gnssMeasurementErrorModel.codeBiasErrorVar
        match receiver.interFrequencyBias freq with
        | some b => measVar + b.stdDev ^ 2
        | none => measVar
      else measVar
    else measVar
  if obsDiff != .doubleDifference then
    if obsType == .pseudorange || obsType == .carrier then
      measVar + InsConst.C ^ 2 * (receiver.recvClk.bias.stdDev ^ 2
        + (receiver.recvClk.sysTimeDiffBias satSys).stdDev ^ 2)
    else if obsType == .doppler then
      measVar + InsConst.C ^ 2 * (receiver.recvClk.drift.stdDev ^ 2
        + (receiver.recvClk.sysTimeDiffDrift satSys).stdDev ^ 2)
    else measVar
  else measVar

/-- The body of the loop over the observables of one entry. -/
def estimateObservation (obsDiff : ObservationDifference) (freq : Freq) (freqNum : Int)
    (navData : SatNavData R) (receiver : Receiver R Freq Sys T) (recvObs : ReceiverSpecificData R)
    (terms : Terms R) (cn0 : R) (obsType : ObservationType) (obsData : ObservationData R) :
    ObservationData R :=
  let obsData := estimateObservable env est obsDiff freq freqNum receiver recvObs terms cn0
    obsType obsData
  { obsData with
    measVar := observationVariance env est obsDiff freq freqNum navData receiver recvObs terms
      obsType obsData.measVar }

/-- The correction terms of one entry, computed before its observables. -/
def correctionTerms (ionosphericCorrections : Iono) (freq : Freq) (freqNum : Int)
    (receiver : Receiver R Freq Sys T) (recvObs : ReceiverSpecificData R) : Terms R :=
  let tropo_r_s := est.calcTroposphericDelayAndMapping receiver.insTime receiver.lla_pos
    recvObs.satElevation recvObs.satAzimuth
  { rho_r_s := (recvObs.e_satPos - receiver.e_pos).norm env.sqrt
    tropoZenithDelay := tropo_r_s
    dpsr_T_r_s := tropo_r_s.ZHD * tropo_r_s.zhdMappingFactor
      + tropo_r_s.ZWD * tropo_r_s.zwdMappingFactor
    dpsr_I_r_s := est.calcIonosphericDelay (env.tow receiver.insTime) freq freqNum
      receiver.lla_pos recvObs.satElevation recvObs.satAzimuth ionosphericCorrections
    dpsr_ie_r_s := env.calcSagnacCorrection receiver.e_pos recvObs.e_satPos }

/-- The body of the loop over the receivers: one (signal, receiver) entry. -/
def estimateReceiverObs (ionosphericCorrections : Iono) (obsDiff : ObservationDifference)
    (satSigId : Sig) (freqNum : Int) (navData : SatNavData R) (receiver : Receiver R Freq Sys T)
    (recvObs : ReceiverSpecificData R) : ReceiverSpecificData R :=
  let freq := env.freq satSigId
  let terms := correctionTerms env est ionosphericCorrections freq freqNum receiver recvObs
  { recvObs with
    terms := terms
    obs := recvObs.obs.map fun p =>
      (p.1, estimateObservation env est obsDiff freq freqNum navData receiver recvObs terms
        (recvObs.CN0.getD 1) p.1 p.2) }

/-- The loop `for (size_t r = 0; r < observation.recvObs.size(); r++)` of one signal. Entry `r`
is updated in place; `receivers.at(r)` throws past the last receiver. -/
def estimateSignal (receivers : List (Receiver R Freq Sys T)) (ionosphericCorrections : Iono)
    (obsDiff : ObservationDifference) (satSigId : Sig) (observation : SignalObservation R) :
    Except OutOfRange (SignalObservation R) := do
  let recvObs ← (List.range observation.recvObs.length).foldlM (fun recvObs r => do
      let receiver ← arrayAt receivers r
      pure (recvObs.modify (estimateReceiverObs env est ionosphericCorrections obsDiff satSigId
        observation.freqNum observation.navData receiver) r))
    observation.recvObs
  pure { observation with recvObs := recvObs }

/-- `ObservationEstimator::calcObservationEstimates`. The `nameId` argument only feeds the log
and is left out. -/
def calcObservationEstimates (observations : Observations R Sig)
    (receivers : List (Receiver R Freq Sys T)) (ionosphericCorrections : Iono)
    (obsDiff : ObservationDifference) : Except OutOfRange (Observations R Sig) := do
  let signals ← observations.signals.mapM fun (satSigId, observation) => do
    let observation ← estimateSignal env est receivers ionosphericCorrections obsDiff satSigId
      observation
    pure (satSigId, observation)
  pure { observations with signals := signals }

end

end Instinct.Gnss
