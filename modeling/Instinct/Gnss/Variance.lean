import Instinct.Gnss.Estimates
import Instinct.Gnss.ErrorBudget
import Mathlib.Algebra.Order.Ring.Int

namespace Instinct.Gnss

section
variable {R Sig Freq Sys T Iono : Type} [CommRing R]
variable (env : GnssEnv R Sig Freq Sys T) (est : ObservationEstimator R Freq Sys T Iono)

/-- The error model's variance of an observable of an entry, before any `+=`. The counting
sentinel has none. -/
def baselineVariance (freq : Freq) (freqNum : Int) (recvObs : ReceiverSpecificData R) :
    ObservationType → Option R
  | .pseudorange => some (est.gnssMeasurementErrorModel.psrMeasErrorVar (env.getSatSys freq)
      recvObs.satElevation (recvObs.CN0.getD 1))
  | .carrier => some (est.gnssMeasurementErrorModel.carrierMeasErrorVar (env.getSatSys freq)
      recvObs.satElevation (recvObs.CN0.getD 1))
  | .doppler => some (est.gnssMeasurementErrorModel.psrRateMeasErrorVar freq freqNum
      recvObs.satElevation (recvObs.CN0.getD 1))
  | .observationTypeCount => none

variable (freq : Freq) (freqNum : Int) (navData : SatNavData R) (receiver : Receiver R Freq Sys T)
  (recvObs : ReceiverSpecificData R) (terms : Terms R)

/-- The switch sets `measVar` to the baseline of the observable. -/
theorem estimateObservable_measVar {obsType : ObservationType} {b : R}
    (hb : baselineVariance env est freq freqNum recvObs obsType = some b) (obsDiff : ObservationDifference)
    (obsData : ObservationData R) :
    (estimateObservable env est obsDiff freq freqNum receiver recvObs terms (recvObs.CN0.getD 1)
      obsType obsData).measVar = b := by
  cases obsType <;> simp only [baselineVariance, Option.some.injEq, reduceCtorEq] at hb <;>
    exact hb

theorem observationVariance_doubleDifference (obsType : ObservationType) (measVar : R) :
    observationVariance env est .doubleDifference freq freqNum navData receiver recvObs terms
      obsType measVar = measVar := by
  cases obsType <;> rfl

variable (ionosphericCorrections : Iono) (obsDiff : ObservationDifference)
  (receivers : List (Receiver R Freq Sys T))

/-- In `DoubleDifference` no `+=` applies: every variance is the error model's baseline. -/
theorem doubleDifference_measVar_eq_baseline {observations o' : Observations R Sig}
    (h : calcObservationEstimates env est observations receivers ionosphericCorrections
      .doubleDifference = .ok o')
    {satSigId : Sig} {so' : SignalObservation R} (hs : (satSigId, so') ∈ o'.signals) {r : Nat}
    {ro' : ReceiverSpecificData R} (hr : so'.recvObs[r]? = some ro') {obsType : ObservationType}
    {d : ObservationData R} (hd : (obsType, d) ∈ ro'.obs) {b : R}
    (hb : baselineVariance env est (env.freq satSigId) so'.freqNum ro' obsType = some b) :
    d.measVar = b := by
  obtain ⟨so, ro, receiver, -, hfn, -, -, -, rfl⟩ :=
    entry_of_calcObservationEstimates env est ionosphericCorrections .doubleDifference receivers h
      hs hr
  obtain ⟨d₀, -, rfl⟩ :=
    mem_obs_estimateReceiverObs env est ionosphericCorrections .doubleDifference hd
  rw [hfn] at hb
  simp only [estimateObservation, observationVariance_doubleDifference]
  exact estimateObservable_measVar env est _ _ receiver ro _ hb _ _

/-- Every variance of a result is the error model's baseline plus exactly the contributions the
difference mode keeps, computed from the terms written into the entry. -/
theorem measVar_eq_budgetVariance {observations o' : Observations R Sig}
    (h : calcObservationEstimates env est observations receivers ionosphericCorrections obsDiff =
      .ok o')
    {satSigId : Sig} {so' : SignalObservation R} (hs : (satSigId, so') ∈ o'.signals) {r : Nat}
    {ro' : ReceiverSpecificData R} (hr : so'.recvObs[r]? = some ro')
    {receiver : Receiver R Freq Sys T} (hrecv : receivers[r]? = some receiver)
    {obsType : ObservationType} {d : ObservationData R} (hd : (obsType, d) ∈ ro'.obs) {b : R}
    (hb : baselineVariance env est (env.freq satSigId) so'.freqNum ro' obsType = some b) :
    d.measVar = budgetVariance env est (env.freq satSigId) so'.freqNum so'.navData receiver ro'
      ro'.terms obsDiff obsType b := by
  obtain ⟨so, ro, receiver', -, hfn, hnd, -, hrecv', rfl⟩ :=
    entry_of_calcObservationEstimates env est ionosphericCorrections obsDiff receivers h hs hr
  obtain rfl : receiver' = receiver := Option.some.inj (hrecv'.symm.trans hrecv)
  obtain ⟨d₀, -, rfl⟩ := mem_obs_estimateReceiverObs env est ionosphericCorrections obsDiff hd
  rw [hfn] at hb ⊢
  rw [hnd, estimateObservation, ← observationVariance_eq_budgetVariance,
    estimateObservable_measVar env est _ _ _ ro _ hb]
  rfl

end

/-- The `DoubleDifference` result on `sampleObservations` at `noisyReceiver`: only the baseline
variances are left. -/
def noisyDoubleDifferenceResult : Observations Int Unit :=
  ⟨[((), ⟨⟨0⟩, 0, [{ sampleEntry with
    obs := [(.pseudorange, ⟨0, 4 + 2 * InsConst.C, 2⟩), (.carrier, ⟨0, InsConst.C - 4, 2⟩),
      (.doppler, ⟨0, 0, 2⟩)]
    terms := ⟨0, ⟨0, 0, 0, 0⟩, 0, 4, 0⟩ }]⟩)]⟩

theorem doubleDifference_measVar_at_noisyReceiver :
    calcObservationEstimates zeroEnv noisyEstimator sampleObservations [noisyReceiver] ()
        .doubleDifference = .ok noisyDoubleDifferenceResult ∧
    (2 : Int) = 2 :=
  have h : calcObservationEstimates zeroEnv noisyEstimator sampleObservations [noisyReceiver] ()
      .doubleDifference = .ok noisyDoubleDifferenceResult := rfl
  ⟨h, @doubleDifference_measVar_eq_baseline Int Unit Unit Unit Unit Unit _ zeroEnv noisyEstimator
    () [noisyReceiver] _ _ h () _ (.head _) 0 _ rfl .pseudorange _ (.head _) 2 rfl⟩

/-- A receiver whose only uncertain term is an inter-frequency bias of standard deviation one. -/
def ifbReceiver : Receiver Int Unit Unit Unit :=
  { sysBiasedReceiver with
    recvClk := ⟨⟨0, 0⟩, ⟨0, 0⟩, fun _ => ⟨0, 0⟩, fun _ => ⟨0, 0⟩⟩
    interFrequencyBias := fun _ => some ⟨0, 1⟩ }

/-- Every variance of a set, signal by signal and receiver by receiver. -/
def variancesView {R Sig : Type} (o : Observations R Sig) : List (List (List R)) :=
  o.signals.map fun p => p.2.recvObs.map fun ro => ro.obs.map fun q => q.2.measVar

/-- The inter-frequency bias variance is added as `stdDev ^ 2`, without the factor `C ^ 2`
with which its value enters the estimate: with a zero baseline the pseudorange variance is
`1`, not `C ^ 2`. -/
theorem interFrequencyBias_variance_at_ifbReceiver :
    variancesView <$> calcObservationEstimates zeroEnv zeroEstimator sampleObservations
      [ifbReceiver] () .noDifference = .ok [[[1, 0, 0]]] := rfl

/-- Two variance views of one shape, the first entry by entry at most the second. -/
def VariancesLe {R : Type} [LE R] (a b : List (List (List R))) : Prop :=
  List.Forall₂ (List.Forall₂ (List.Forall₂ (· ≤ ·))) a b

section Views
variable {α β γ δ : Type} {Rel : γ → δ → Prop}

theorem forall₂_map_of {f : α → γ} {g : α → δ} {l : List α} (h : ∀ a ∈ l, Rel (f a) (g a)) :
    List.Forall₂ Rel (l.map f) (l.map g) :=
  List.forall₂_map_left_iff.mpr (List.forall₂_map_right_iff.mpr (List.forall₂_same.mpr h))

theorem forall₂_zipWith_of {f : α → β → γ} {g : α → β → δ} (h : ∀ a b, Rel (f a b) (g a b)) :
    ∀ (as : List α) (bs : List β),
      List.Forall₂ Rel (List.zipWith f as bs) (List.zipWith g as bs)
  | [], _ => .nil
  | _ :: _, [] => .nil
  | a :: as, b :: bs => .cons (h a b) (forall₂_zipWith_of h as bs)

variable {R Sig Freq Sys T Iono : Type} [CommRing R]
variable (env : GnssEnv R Sig Freq Sys T) (est : ObservationEstimator R Freq Sys T Iono)

/-- The baseline the switch writes does not depend on the difference mode. -/
theorem estimateObservable_measVar_obsDiff (obsDiff obsDiff' : ObservationDifference) (freq : Freq)
    (freqNum : Int) (receiver : Receiver R Freq Sys T) (recvObs : ReceiverSpecificData R)
    (terms : Terms R) (cn0 : R) (obsType : ObservationType) (obsData : ObservationData R) :
    (estimateObservable env est obsDiff freq freqNum receiver recvObs terms cn0 obsType
      obsData).measVar =
    (estimateObservable env est obsDiff' freq freqNum receiver recvObs terms cn0 obsType
      obsData).measVar := by
  cases obsType <;> rfl

/-- The variances of a successful run, each computed from the entry it came from. -/
theorem variancesView_of_ok (ionosphericCorrections : Iono) (obsDiff : ObservationDifference)
    (receivers : List (Receiver R Freq Sys T)) {observations o' : Observations R Sig}
    (h : calcObservationEstimates env est observations receivers ionosphericCorrections obsDiff =
      .ok o') :
    variancesView o' = observations.signals.map fun p =>
      List.zipWith (fun receiver ro => ro.obs.map fun q =>
        (estimateObservation env est obsDiff (env.freq p.1) p.2.freqNum p.2.navData receiver ro
          (correctionTerms env est ionosphericCorrections (env.freq p.1) p.2.freqNum receiver ro)
          (ro.CN0.getD 1) q.1 q.2).measVar) receivers p.2.recvObs := by
  rw [calcObservationEstimates_eq_pointwise] at h
  split at h
  · obtain rfl := Except.ok.inj h
    simp only [variancesView, estimateSignalPointwise, estimateReceiverObs, List.map_map,
      List.map_zipWith, Function.comp_def]
  · cases h

end Views

section Ordered
variable {R Sig Freq Sys T Iono : Type} [LinearOrderedCommRing R]
variable (env : GnssEnv R Sig Freq Sys T) (est : ObservationEstimator R Freq Sys T Iono)
variable (hiono : ∀ x f n, 0 ≤ env.ionoErrorVar x f n) (htropo : ∀ x e, 0 ≤ env.tropoErrorVar x e)
  (hcode : 0 ≤ est.gnssMeasurementErrorModel.codeBiasErrorVar)
include hiono htropo hcode

/-- Each `+=` adds a variance, so none lowers `measVar`. -/
theorem le_observationVariance (freq : Freq) (freqNum : Int) (navData : SatNavData R)
    (hnav : 0 ≤ navData.calcSatellitePositionVariance) (receiver : Receiver R Freq Sys T)
    (recvObs : ReceiverSpecificData R) (terms : Terms R) (obsDiff : ObservationDifference)
    (obsType : ObservationType) (measVar : R) :
    measVar ≤ observationVariance env est obsDiff freq freqNum navData receiver recvObs terms
      obsType measVar := by
  rw [observationVariance_eq_budgetVariance]
  exact le_budgetVariance env est freq freqNum navData receiver recvObs terms obsDiff obsType
    (varianceTerm_nonneg env est freq freqNum navData receiver recvObs terms hiono htropo hcode hnav
      · obsType) measVar

/-- With variance providers that return variances, every observable's `measVar` is at least
the error model's baseline: the composition only adds. -/
theorem baseline_le_measVar (ionosphericCorrections : Iono) (obsDiff : ObservationDifference)
    (receivers : List (Receiver R Freq Sys T)) {observations o' : Observations R Sig}
    (hnav : ∀ p ∈ observations.signals, 0 ≤ p.2.navData.calcSatellitePositionVariance)
    (h : calcObservationEstimates env est observations receivers ionosphericCorrections obsDiff =
      .ok o')
    {satSigId : Sig} {so' : SignalObservation R} (hs : (satSigId, so') ∈ o'.signals) {r : Nat}
    {ro' : ReceiverSpecificData R} (hr : so'.recvObs[r]? = some ro') {obsType : ObservationType}
    {d : ObservationData R} (hd : (obsType, d) ∈ ro'.obs) {b : R}
    (hb : baselineVariance env est (env.freq satSigId) so'.freqNum ro' obsType = some b) :
    b ≤ d.measVar := by
  obtain ⟨so, ro, receiver, hso, hfn, -, -, -, rfl⟩ :=
    entry_of_calcObservationEstimates env est ionosphericCorrections obsDiff receivers h hs hr
  obtain ⟨d₀, -, rfl⟩ := mem_obs_estimateReceiverObs env est ionosphericCorrections obsDiff hd
  rw [hfn] at hb
  have hbase := estimateObservable_measVar env est _ _ receiver ro
    (correctionTerms env est ionosphericCorrections (env.freq satSigId) so.freqNum receiver ro) hb
    obsDiff d₀
  exact hbase ▸ le_observationVariance env est hiono htropo hcode _ _ _ (hnav _ hso) _ _ _ _ _ _

/-- A mode that keeps fewer contributions gives every observable at most the variance that a mode
keeping more gives it. -/
theorem measVar_le_of_included {obsDiff obsDiff' : ObservationDifference}
    (hincl : ∀ t : VarianceTerm, t.includedIn obsDiff → t.includedIn obsDiff') (freq : Freq)
    (freqNum : Int) (navData : SatNavData R) (hnav : 0 ≤ navData.calcSatellitePositionVariance)
    (receiver : Receiver R Freq Sys T) (recvObs : ReceiverSpecificData R) (terms : Terms R)
    (cn0 : R) (obsType : ObservationType) (obsData : ObservationData R) :
    (estimateObservation env est obsDiff freq freqNum navData receiver recvObs terms cn0 obsType
      obsData).measVar ≤
    (estimateObservation env est obsDiff' freq freqNum navData receiver recvObs terms cn0 obsType
      obsData).measVar := by
  simp only [estimateObservation, observationVariance_eq_budgetVariance,
    estimateObservable_measVar_obsDiff env est obsDiff' obsDiff]
  exact budgetVariance_le_of_included env est freq freqNum navData receiver recvObs terms hincl
    obsType (varianceTerm_nonneg env est freq freqNum navData receiver recvObs terms hiono htropo
      hcode hnav · obsType) _

theorem variancesLe_of_included {obsDiff obsDiff' : ObservationDifference}
    (hincl : ∀ t : VarianceTerm, t.includedIn obsDiff → t.includedIn obsDiff')
    (ionosphericCorrections : Iono) (receivers : List (Receiver R Freq Sys T))
    {observations o o' : Observations R Sig}
    (hnav : ∀ p ∈ observations.signals, 0 ≤ p.2.navData.calcSatellitePositionVariance)
    (h : calcObservationEstimates env est observations receivers ionosphericCorrections obsDiff =
      .ok o)
    (h' : calcObservationEstimates env est observations receivers ionosphericCorrections obsDiff' =
      .ok o') :
    VariancesLe (variancesView o) (variancesView o') := by
  rw [variancesView_of_ok env est ionosphericCorrections obsDiff receivers h,
    variancesView_of_ok env est ionosphericCorrections obsDiff' receivers h']
  exact forall₂_map_of fun p hp => forall₂_zipWith_of (fun receiver ro => forall₂_map_of
    fun q _ => measVar_le_of_included env est hiono htropo hcode hincl _ _ _ (hnav p hp) receiver
      ro _ _ q.1 q.2) _ _

/-- Differencing only removes variance: entry by entry, a double difference has at most the
variance of a single difference, and a single difference at most that of no difference. -/
theorem measVar_antitone_obsDiff (ionosphericCorrections : Iono)
    (receivers : List (Receiver R Freq Sys T)) {observations oN oS oD : Observations R Sig}
    (hnav : ∀ p ∈ observations.signals, 0 ≤ p.2.navData.calcSatellitePositionVariance)
    (hN : calcObservationEstimates env est observations receivers ionosphericCorrections
      .noDifference = .ok oN)
    (hS : calcObservationEstimates env est observations receivers ionosphericCorrections
      .singleDifference = .ok oS)
    (hD : calcObservationEstimates env est observations receivers ionosphericCorrections
      .doubleDifference = .ok oD) :
    VariancesLe (variancesView oD) (variancesView oS) ∧
      VariancesLe (variancesView oS) (variancesView oN) :=
  ⟨variancesLe_of_included env est hiono htropo hcode VarianceTerm.includedIn_double_single
      ionosphericCorrections receivers hnav hD hS,
    variancesLe_of_included env est hiono htropo hcode VarianceTerm.includedIn_single_no
      ionosphericCorrections receivers hnav hS hN⟩

end Ordered

theorem baseline_le_measVar_at_noisyReceiver :
    calcObservationEstimates zeroEnv noisyEstimator sampleObservations [noisyReceiver] ()
        .noDifference = .ok noisyResult ∧
    (2 : Int) ≤ 4 + 2 * InsConst.C ^ 2 :=
  have h : calcObservationEstimates zeroEnv noisyEstimator sampleObservations [noisyReceiver] ()
      .noDifference = .ok noisyResult := rfl
  ⟨h, @baseline_le_measVar Int Unit Unit Unit Unit Unit _ zeroEnv noisyEstimator
    (fun _ _ _ => le_rfl) (fun _ _ => le_rfl) (by decide) () .noDifference [noisyReceiver] _ _
    (fun _ h' => by simp [sampleObservations] at h'; simp [h']) h () _ (.head _) 0 _ rfl
    .pseudorange _ (.head _) 2 rfl⟩

/-- The entry of `sampleObservations` estimated at `ifbReceiver` without differencing. -/
def ifbEntry : ReceiverSpecificData Int :=
  { sampleEntry with
    obs := [(.pseudorange, ⟨0, 0, 1⟩), (.carrier, ⟨0, 0, 0⟩), (.doppler, ⟨0, 0, 0⟩)] }

/-- The `NoDifference` result on `sampleObservations` at `ifbReceiver`; differenced, the set comes
back as it was. -/
def ifbResult : Observations Int Unit := ⟨[((), ⟨⟨0⟩, 0, [ifbEntry]⟩)]⟩

theorem measVar_eq_budgetVariance_at_ifbReceiver :
    calcObservationEstimates zeroEnv zeroEstimator sampleObservations [ifbReceiver] ()
        .noDifference = .ok ifbResult ∧
    (1 : Int) = budgetVariance zeroEnv zeroEstimator () 0 ⟨0⟩ ifbReceiver ifbEntry ifbEntry.terms
      .noDifference .pseudorange 0 :=
  have h : calcObservationEstimates zeroEnv zeroEstimator sampleObservations [ifbReceiver] ()
      .noDifference = .ok ifbResult := rfl
  ⟨h, @measVar_eq_budgetVariance Int Unit Unit Unit Unit Unit _ zeroEnv zeroEstimator ()
    .noDifference [ifbReceiver] _ _ h () _ (.head _) 0 _ rfl _ rfl .pseudorange _ (.head _) 0 rfl⟩

theorem measVar_antitone_at_ifbReceiver :
    calcObservationEstimates zeroEnv zeroEstimator sampleObservations [ifbReceiver] ()
        .noDifference = .ok ifbResult ∧
    calcObservationEstimates zeroEnv zeroEstimator sampleObservations [ifbReceiver] ()
        .singleDifference = .ok sampleObservations ∧
    calcObservationEstimates zeroEnv zeroEstimator sampleObservations [ifbReceiver] ()
        .doubleDifference = .ok sampleObservations ∧
    VariancesLe (variancesView sampleObservations) (variancesView sampleObservations) ∧
    VariancesLe (variancesView sampleObservations) (variancesView ifbResult) :=
  have hN : calcObservationEstimates zeroEnv zeroEstimator sampleObservations [ifbReceiver] ()
      .noDifference = .ok ifbResult := rfl
  have hS : calcObservationEstimates zeroEnv zeroEstimator sampleObservations [ifbReceiver] ()
      .singleDifference = .ok sampleObservations := rfl
  have hD : calcObservationEstimates zeroEnv zeroEstimator sampleObservations [ifbReceiver] ()
      .doubleDifference = .ok sampleObservations := rfl
  ⟨hN, hS, hD, measVar_antitone_obsDiff zeroEnv zeroEstimator (fun _ _ _ => le_rfl)
    (fun _ _ => le_rfl) le_rfl () [ifbReceiver]
    (fun _ h' => by simp [sampleObservations] at h'; simp [h']) hN hS hD⟩

end Instinct.Gnss
