import Instinct.Gnss.ObservationEstimator
import Mathlib.Data.List.Basic

namespace Instinct.Gnss

section Loops
variable {ε α β : Type}

theorem modify_zipWith_prefix (f : β → α → α) (bs : List β) (xs : List α) (k : Nat)
    (hx : k < xs.length) (hb : k < bs.length) :
    ((List.zipWith f bs xs).take k ++ xs.drop k).modify (f bs[k]) k =
      (List.zipWith f bs xs).take (k + 1) ++ xs.drop (k + 1) := by
  have hk : ((List.zipWith f bs xs).take k).length = k := by
    simp only [List.length_take, List.length_zipWith]; omega
  rw [List.modify_eq_take_cons_drop (by simp only [List.length_append, List.length_drop, hk]; omega),
    List.getElem_append_right (by omega)]
  have hzw : k < (List.zipWith f bs xs).length := by simp only [List.length_zipWith]; omega
  simp [List.take_succ, hk, List.take_append_eq_append_take, List.drop_append_eq_append_drop,
    List.getElem?_eq_getElem hzw]

/-- The index loop over the receivers: after `k` passes the first `k` entries hold the body's
result and the others are untouched, or `at` has thrown at the first missing receiver. -/
theorem foldlM_modify_range (f : β → α → α) (bs : List β) (xs : List α) :
    ∀ k, k ≤ xs.length →
      (List.range k).foldlM (fun acc r => do
        let b ← arrayAt bs r
        pure (acc.modify (f b) r)) xs =
      if k ≤ bs.length then .ok ((List.zipWith f bs xs).take k ++ xs.drop k)
      else .error ⟨bs.length, bs.length⟩
  | 0, _ => by simp
  | k + 1, hk => by
    rw [List.range_succ, List.foldlM_append, foldlM_modify_range f bs xs k (by omega)]
    by_cases hb : k < bs.length
    · simp [show k ≤ bs.length by omega, show k + 1 ≤ bs.length by omega, arrayAt_of_lt hb,
        modify_zipWith_prefix f bs xs k (by omega) hb]
    · by_cases he : k = bs.length
      · subst he
        simp [arrayAt_of_le, show ¬ bs.length + 1 ≤ bs.length by omega]
      · simp [show ¬ k ≤ bs.length by omega, show ¬ k + 1 ≤ bs.length by omega]

/-- A `mapM` whose body fails with one error wherever it fails. -/
theorem mapM_of_uniform (f : α → Except ε β) (P : α → Prop) [DecidablePred P] (g : α → β)
    (e : ε) (hf : ∀ a, f a = if P a then .ok (g a) else .error e) :
    ∀ l : List α, l.mapM f = if ∀ a ∈ l, P a then .ok (l.map g) else .error e
  | [] => by rw [if_pos (List.forall_mem_nil _)]; rfl
  | a :: l => by
    rw [List.mapM_cons, hf a, mapM_of_uniform f P g e hf l]
    by_cases ha : P a
    · by_cases hl : ∀ b ∈ l, P b
      · rw [if_pos ha, if_pos hl, if_pos (List.forall_mem_cons.mpr ⟨ha, hl⟩)]; rfl
      · rw [if_pos ha, if_neg hl, if_neg fun h => hl (List.forall_mem_cons.mp h).2]; rfl
    · rw [if_neg ha, if_neg fun h => ha (List.forall_mem_cons.mp h).1]; rfl

theorem map_eq_map_of_fst {γ : Type} {l₁ l₂ : List (α × β)}
    (h : l₁.map Prod.fst = l₂.map Prod.fst) (F G : α × β → γ)
    (hFG : ∀ p q, p.1 = q.1 → F p = G q) : l₁.map F = l₂.map G := by
  induction l₁ generalizing l₂ with
  | nil => rw [List.map_eq_nil_iff.mp h.symm]; rfl
  | cons p l₁ ih =>
    cases l₂ with
    | nil => simp at h
    | cons q l₂ =>
      simp only [List.map_cons, List.cons.injEq] at h ⊢
      exact ⟨hFG p q h.1, ih h.2⟩

theorem zipWith_idem (f : β → α → α) (hf : ∀ b a, f b (f b a) = f b a) :
    ∀ (bs : List β) (xs : List α), List.zipWith f bs (List.zipWith f bs xs) = List.zipWith f bs xs
  | [], _ => rfl
  | _ :: _, [] => rfl
  | b :: bs, x :: xs => by simp [hf, zipWith_idem f hf bs xs]

end Loops

/-- The fields of an entry that the estimator reads. -/
structure EntryInputs (R : Type) where
  e_satPos : Vector3 R
  e_satVel : Vector3 R
  satClock : ClockCorrections R
  satElevation : R
  satAzimuth : R
  e_pLOS : Vector3 R
  CN0 : Option R
  obsTypes : List ObservationType

namespace ReceiverSpecificData
variable {R : Type} [CommRing R]

def inputs (ro : ReceiverSpecificData R) : EntryInputs R :=
  ⟨ro.e_satPos, ro.e_satVel, ro.satClock, ro.satElevation, ro.satAzimuth, ro.e_pLOS, ro.CN0,
    ro.obs.map Prod.fst⟩

/-- What the estimator writes into an entry: its terms, and the estimate and variance of every
observable the switch handles. -/
def written (ro : ReceiverSpecificData R) : Terms R × List (Option (R × R)) :=
  (ro.terms, ro.obs.map fun p =>
    if p.1 = .observationTypeCount then none else some (p.2.estimate, p.2.measVar))

/-- The entry with everything the estimator may write set to zero. -/
def unwritten (ro : ReceiverSpecificData R) : ReceiverSpecificData R :=
  { ro with
    terms := ⟨0, ⟨0, 0, 0, 0⟩, 0, 0, 0⟩
    obs := ro.obs.map fun p =>
      if p.1 = .observationTypeCount then p else (p.1, { p.2 with estimate := 0, measVar := 0 }) }

end ReceiverSpecificData

/-- Two results of the estimator that are equal up to the order of the signals. -/
def SameUpToOrder {R Sig : Type} :
    Except OutOfRange (Observations R Sig) → Except OutOfRange (Observations R Sig) → Prop
  | .ok a, .ok b => a.signals.Perm b.signals
  | .error e, .error e' => e = e'
  | _, _ => False

section
variable {R Sig Freq Sys T Iono : Type} [CommRing R]
variable (env : GnssEnv R Sig Freq Sys T) (est : ObservationEstimator R Freq Sys T Iono)

/-- One signal with every entry `r` updated on its own by the loop body, with `receivers[r]`. -/
def estimateSignalPointwise (receivers : List (Receiver R Freq Sys T))
    (ionosphericCorrections : Iono) (obsDiff : ObservationDifference)
    (p : Sig × SignalObservation R) : Sig × SignalObservation R :=
  (p.1, { p.2 with
    recvObs := List.zipWith (estimateReceiverObs env est ionosphericCorrections obsDiff p.1
      p.2.freqNum p.2.navData) receivers p.2.recvObs })

theorem estimateSignal_eq (receivers : List (Receiver R Freq Sys T))
    (ionosphericCorrections : Iono) (obsDiff : ObservationDifference) (satSigId : Sig)
    (observation : SignalObservation R) :
    estimateSignal env est receivers ionosphericCorrections obsDiff satSigId observation =
      if observation.recvObs.length ≤ receivers.length then
        .ok (estimateSignalPointwise env est receivers ionosphericCorrections obsDiff
          (satSigId, observation)).2
      else .error ⟨receivers.length, receivers.length⟩ := by
  rw [estimateSignal, foldlM_modify_range _ _ _ _ le_rfl]
  split
  · simp [estimateSignalPointwise, List.take_of_length_le, *]
  · rfl

/-- The estimator is the pointwise map of its loop body, or the one `out_of_range` that
`receivers.at` throws when some signal has more entries than there are receivers. -/
theorem calcObservationEstimates_eq_pointwise (observations : Observations R Sig)
    (receivers : List (Receiver R Freq Sys T)) (ionosphericCorrections : Iono)
    (obsDiff : ObservationDifference) :
    calcObservationEstimates env est observations receivers ionosphericCorrections obsDiff =
      if ∀ p ∈ observations.signals, p.2.recvObs.length ≤ receivers.length then
        .ok ⟨observations.signals.map
          (estimateSignalPointwise env est receivers ionosphericCorrections obsDiff)⟩
      else .error ⟨receivers.length, receivers.length⟩ := by
  have hbody : ∀ p : Sig × SignalObservation R,
      (do
        let observation ← estimateSignal env est receivers ionosphericCorrections obsDiff p.1 p.2
        pure (p.1, observation)) =
      if p.2.recvObs.length ≤ receivers.length then
        .ok (estimateSignalPointwise env est receivers ionosphericCorrections obsDiff p)
      else .error ⟨receivers.length, receivers.length⟩ := by
    intro p
    rw [estimateSignal_eq]
    split <;> rfl
  simp only [calcObservationEstimates, mapM_of_uniform _ _ _ _ hbody]
  split <;> rfl

section Entry
variable (ionosphericCorrections : Iono) (obsDiff : ObservationDifference) (satSigId : Sig)
  (freq : Freq) (freqNum : Int) (navData : SatNavData R) (receiver : Receiver R Freq Sys T)

theorem estimateObservation_count (recvObs : ReceiverSpecificData R) (terms : Terms R) (cn0 : R)
    (obsData : ObservationData R) :
    estimateObservation env est obsDiff freq freqNum navData receiver recvObs terms cn0
      .observationTypeCount obsData = obsData := by
  cases obsDiff <;> rfl

theorem estimateObservation_measurement (recvObs : ReceiverSpecificData R) (terms : Terms R)
    (cn0 : R) (obsType : ObservationType) (obsData : ObservationData R) :
    (estimateObservation env est obsDiff freq freqNum navData receiver recvObs terms cn0
      obsType obsData).measurement = obsData.measurement := by
  cases obsType <;> rfl

/-- The loop body writes nothing but the terms and the estimates and variances. -/
theorem unwritten_estimateReceiverObs (recvObs : ReceiverSpecificData R) :
    (estimateReceiverObs env est ionosphericCorrections obsDiff satSigId freqNum navData receiver
      recvObs).unwritten = recvObs.unwritten := by
  simp only [estimateReceiverObs, ReceiverSpecificData.unwritten, List.map_map]
  congr 2
  funext ⟨t, d⟩
  by_cases h : t = .observationTypeCount
  · subst h
    simp [estimateObservation_count]
  · simp [h, estimateObservation_measurement]

/-- What the loop body writes depends on the entry only through the fields it reads. -/
theorem written_estimateReceiverObs_congr (ro₁ ro₂ : ReceiverSpecificData R)
    (h : ro₁.inputs = ro₂.inputs) :
    (estimateReceiverObs env est ionosphericCorrections obsDiff satSigId freqNum navData receiver
        ro₁).written =
      (estimateReceiverObs env est ionosphericCorrections obsDiff satSigId freqNum navData receiver
        ro₂).written := by
  obtain ⟨a, b, c, d, e, g, k, obs₁, terms₁⟩ := ro₁
  obtain ⟨a', b', c', d', e', g', k', obs₂, terms₂⟩ := ro₂
  simp only [ReceiverSpecificData.inputs, EntryInputs.mk.injEq] at h
  obtain ⟨rfl, rfl, rfl, rfl, rfl, rfl, rfl, hobs⟩ := h
  simp only [estimateReceiverObs, ReceiverSpecificData.written, List.map_map, Prod.mk.injEq]
  refine ⟨rfl, map_eq_map_of_fst hobs _ _ ?_⟩
  rintro ⟨t, d⟩ ⟨t', d'⟩ (rfl : t = t')
  cases t <;> rfl

/-- The loop body reads none of the fields it writes. -/
theorem estimateReceiverObs_idem (recvObs : ReceiverSpecificData R) :
    estimateReceiverObs env est ionosphericCorrections obsDiff satSigId freqNum navData receiver
        (estimateReceiverObs env est ionosphericCorrections obsDiff satSigId freqNum navData
          receiver recvObs) =
      estimateReceiverObs env est ionosphericCorrections obsDiff satSigId freqNum navData receiver
        recvObs := by
  simp only [estimateReceiverObs, List.map_map]
  congr 1
  congr 1
  funext ⟨t, d⟩
  cases t
  case observationTypeCount => simp [estimateObservation_count]
  all_goals rfl

end Entry

variable (receivers : List (Receiver R Freq Sys T)) (ionosphericCorrections : Iono)
  (obsDiff : ObservationDifference)

theorem calcObservationEstimates_perm (o₁ o₂ : Observations R Sig)
    (h : o₁.signals.Perm o₂.signals) :
    SameUpToOrder (calcObservationEstimates env est o₁ receivers ionosphericCorrections obsDiff)
      (calcObservationEstimates env est o₂ receivers ionosphericCorrections obsDiff) := by
  rw [calcObservationEstimates_eq_pointwise, calcObservationEstimates_eq_pointwise]
  by_cases h₁ : ∀ p ∈ o₁.signals, p.2.recvObs.length ≤ receivers.length
  · rw [if_pos h₁, if_pos fun p hp => h₁ p (h.mem_iff.mpr hp)]
    exact h.map _
  · rw [if_neg h₁, if_neg fun h₂ => h₁ fun p hp => h₂ p (h.mem_iff.mp hp)]
    rfl

theorem calcObservationEstimates_partition (o : Observations R Sig)
    (s₁ s₂ : List (Sig × SignalObservation R)) (h : o.signals.Perm (s₁ ++ s₂)) :
    SameUpToOrder (calcObservationEstimates env est o receivers ionosphericCorrections obsDiff)
      (do
        let r₁ ← calcObservationEstimates env est ⟨s₁⟩ receivers ionosphericCorrections obsDiff
        let r₂ ← calcObservationEstimates env est ⟨s₂⟩ receivers ionosphericCorrections obsDiff
        pure ⟨r₁.signals ++ r₂.signals⟩) := by
  simp only [calcObservationEstimates_eq_pointwise]
  have hiff : ∀ P : Sig × SignalObservation R → Prop,
      (∀ p ∈ o.signals, P p) ↔ (∀ p ∈ s₁, P p) ∧ ∀ p ∈ s₂, P p := fun P => by
    simp only [h.mem_iff, List.mem_append, or_imp, forall_and]
  by_cases h₁ : ∀ p ∈ s₁, p.2.recvObs.length ≤ receivers.length
  · by_cases h₂ : ∀ p ∈ s₂, p.2.recvObs.length ≤ receivers.length
    · rw [if_pos ((hiff _).mpr ⟨h₁, h₂⟩), if_pos h₁, ok_bind, if_pos h₂, ok_bind, pure_eq_ok]
      simp only [SameUpToOrder, ← List.map_append]
      exact h.map _
    · rw [if_neg fun h' => h₂ ((hiff _).mp h').2, if_pos h₁, ok_bind, if_neg h₂, error_bind]
      rfl
  · rw [if_neg fun h' => h₁ ((hiff _).mp h').1, if_neg h₁, error_bind]
    rfl

/-- The estimator updates each (signal, receiver) entry on its own: it is the pointwise map of
its loop body, which writes only the terms, estimates and variances of the entry from the fields
it reads, so the order of the signals and any split of the set do not matter. -/
theorem estimates_are_entrywise (observations : Observations R Sig) :
    calcObservationEstimates env est observations receivers ionosphericCorrections obsDiff =
      (if ∀ p ∈ observations.signals, p.2.recvObs.length ≤ receivers.length then
        .ok ⟨observations.signals.map
          (estimateSignalPointwise env est receivers ionosphericCorrections obsDiff)⟩
      else .error ⟨receivers.length, receivers.length⟩) ∧
    (∀ (satSigId : Sig) (freqNum : Int) (navData : SatNavData R) (receiver : Receiver R Freq Sys T)
      (recvObs : ReceiverSpecificData R),
      (estimateReceiverObs env est ionosphericCorrections obsDiff satSigId freqNum navData receiver
        recvObs).unwritten = recvObs.unwritten) ∧
    (∀ (satSigId : Sig) (freqNum : Int) (navData : SatNavData R) (receiver : Receiver R Freq Sys T)
      (ro₁ ro₂ : ReceiverSpecificData R), ro₁.inputs = ro₂.inputs →
      (estimateReceiverObs env est ionosphericCorrections obsDiff satSigId freqNum navData receiver
          ro₁).written =
        (estimateReceiverObs env est ionosphericCorrections obsDiff satSigId freqNum navData
          receiver ro₂).written) ∧
    (∀ o₂ : Observations R Sig, observations.signals.Perm o₂.signals →
      SameUpToOrder
        (calcObservationEstimates env est observations receivers ionosphericCorrections obsDiff)
        (calcObservationEstimates env est o₂ receivers ionosphericCorrections obsDiff)) ∧
    (∀ s₁ s₂ : List (Sig × SignalObservation R), observations.signals.Perm (s₁ ++ s₂) →
      SameUpToOrder
        (calcObservationEstimates env est observations receivers ionosphericCorrections obsDiff)
        (do
          let r₁ ← calcObservationEstimates env est ⟨s₁⟩ receivers ionosphericCorrections obsDiff
          let r₂ ← calcObservationEstimates env est ⟨s₂⟩ receivers ionosphericCorrections obsDiff
          pure ⟨r₁.signals ++ r₂.signals⟩)) :=
  ⟨calcObservationEstimates_eq_pointwise env est observations receivers ionosphericCorrections
      obsDiff,
    unwritten_estimateReceiverObs env est ionosphericCorrections obsDiff,
    written_estimateReceiverObs_congr env est ionosphericCorrections obsDiff,
    calcObservationEstimates_perm env est receivers ionosphericCorrections obsDiff observations,
    calcObservationEstimates_partition env est receivers ionosphericCorrections obsDiff
      observations⟩

/-- Running the estimator on its own output changes nothing. -/
theorem calcObservationEstimates_idempotent (observations : Observations R Sig) :
    (calcObservationEstimates env est observations receivers ionosphericCorrections obsDiff >>=
        fun o => calcObservationEstimates env est o receivers ionosphericCorrections obsDiff) =
      calcObservationEstimates env est observations receivers ionosphericCorrections obsDiff := by
  rw [calcObservationEstimates_eq_pointwise]
  split
  · have hfits : ∀ p ∈ observations.signals.map
        (estimateSignalPointwise env est receivers ionosphericCorrections obsDiff),
        p.2.recvObs.length ≤ receivers.length := by
      intro p hp
      obtain ⟨q, -, rfl⟩ := List.mem_map.mp hp
      simp only [estimateSignalPointwise, List.length_zipWith]
      omega
    rw [ok_bind, calcObservationEstimates_eq_pointwise, if_pos hfits, List.map_map]
    congr 2
    refine List.map_congr_left fun p _ => ?_
    simp [estimateSignalPointwise, zipWith_idem _ (estimateReceiverObs_idem env est _ _ _ _ _)]
  · rfl

end

end Instinct.Gnss
