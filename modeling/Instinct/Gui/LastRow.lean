import Instinct.Gui.SaveRestore

namespace Instinct.Gui

theorem modify_concat_of_lt {α} (f : α → α) (r : α) :
    ∀ {P : List α} {i : Nat}, i < P.length → (P ++ [r]).modify f i = P.modify f i ++ [r]
  | _ :: _, 0, _ => rfl
  | p :: P, i + 1, h => by
    rw [List.cons_append, List.modify_succ_cons, List.modify_succ_cons,
      modify_concat_of_lt f r (Nat.lt_of_succ_lt_succ h)]
    rfl

namespace Grid

theorem comboAt_eq_ok {g : Grid} {row column : Nat} {c : ComboBox} :
    g.comboAt row column = .ok c ↔ g.cellAt row column = some (.combo c) := by
  unfold comboAt
  split <;> simp_all

theorem spinAt_eq_ok {g : Grid} {row column : Nat} {s : SpinBox} :
    g.spinAt row column = .ok s ↔ g.cellAt row column = some (.spin s) := by
  unfold spinAt
  split <;> simp_all

theorem setWindow_of_lt {g : Grid} {i : Nat} {c₀ c₁ : Cell} {s : SpinBox}
    (hr : g.rows[i]? = some [c₀, c₁, .spin s]) (hi : i + 1 < g.rows.length) (v : Int) :
    g.setWindow (i + 1) v = .ok (g.setCellAt (i + 1) 2 (.spin (s.setValue v))) := by
  have hs : g.spinAt (i + 1) 2 = .ok s := spinAt_eq_ok.mpr (by simp [cellAt, hr])
  simp only [setWindow, hs, ok_bind]
  rw [if_neg]
  · rfl
  · rintro ⟨-, -, h⟩
    simp only [rowCount, setCellAt, List.length_modify] at h
    omega

/-- The grid ends in a row that `save` skips. -/
def EndsBlank (g : Grid) : Prop := ∃ P r, g.rows = P ++ [r] ∧ rowKept r = false

theorem endsBlank_modify {rows P : List (List Cell)} {r : List Cell} (hrows : rows = P ++ [r])
    (hr : rowKept r = false) (f : List Cell → List Cell) (j : Nat)
    (hf : j = P.length → rowKept (f r) = false) :
    ∃ P' r', rows.modify f j = P' ++ [r'] ∧ rowKept r' = false := by
  subst hrows
  rcases lt_trichotomy j P.length with h | rfl | h
  · exact ⟨_, r, modify_concat_of_lt f r h, hr⟩
  · exact ⟨P, f r, modify_concat f r P, hf rfl⟩
  · exact ⟨P, r, List.modify_eq_self (by simp; omega), hr⟩

section Blank

variable {config : List (List Char)} {x y : ComboBox} {w : SpinBox} {g g' : Grid}

theorem rowKept_set_source {a b : ComboBox} {s : SpinBox} {k : Nat} (hk : k ≤ 1) (c : Cell) :
    rowKept ([.combo a, .combo b, .spin s].set k c) = rowKept [.combo a, .combo b, .spin s] := by
  match k, hk with
  | 0, _ => rfl
  | 1, _ => rfl

theorem endsBlank_setCellAt_combo (hg : g.Shaped config [.combo x, .combo y, .spin w])
    (hb : g.EndsBlank) {row k : Nat} {c : ComboBox} (hc : g.comboAt row k = .ok c)
    (c' : ComboBox) : (g.setCellAt row k (.combo c')).EndsBlank := by
  obtain ⟨P, r, hrows, hr⟩ := hb
  have hcell := comboAt_eq_ok.mp hc
  cases row with
  | zero => cases hcell
  | succ j =>
    obtain ⟨r', hr', hk⟩ := Option.bind_eq_some.mp hcell
    refine endsBlank_modify hrows hr _ j fun hj => ?_
    have hlast : r' = r := by
      rw [hrows, hj, List.getElem?_concat_length] at hr'
      exact (Option.some.inj hr').symm
    subst hlast
    obtain ⟨a, b, s, rfl, -⟩ :=
      forall₂_sameShape_triple.mp (hg.rows_shape r' (List.getElem?_mem hr'))
    have hk1 : k ≤ 1 := by
      match k, hk with
      | 0, _ => exact Nat.zero_le 1
      | 1, _ => exact le_refl 1
      | 2, h => cases h
      | _ + 3, h => simp at h
    rw [rowKept_set_source hk1]
    exact hr

theorem endsBlank_setWindow (ht : rowWidgets config = .ok [.combo x, .combo y, .spin w])
    (hw : w.value = -1) (hg : g.Shaped config [.combo x, .combo y, .spin w]) (hb : g.EndsBlank)
    {row : Nat} {v : Int} (h : g.setWindow row v = .ok g') : g'.EndsBlank := by
  obtain ⟨P, r, hrows, hr⟩ := hb
  obtain ⟨s, hs, -⟩ := bind_eq_ok.mp h
  have hcell := spinAt_eq_ok.mp hs
  cases row with
  | zero => cases hcell
  | succ j =>
    obtain ⟨r', hr', hk⟩ := Option.bind_eq_some.mp hcell
    obtain ⟨a, b, s', rfl, -⟩ :=
      forall₂_sameShape_triple.mp (hg.rows_shape r' (List.getElem?_mem hr'))
    cases Option.some.inj hk
    have hj : j < P.length + 1 := by
      have := (List.getElem?_eq_some_iff.mp hr').1
      rwa [hrows, List.length_append, List.length_singleton] at this
    rcases Nat.lt_succ_iff_lt_or_eq.mp hj with hj | rfl
    · rw [setWindow_of_lt hr' (by rw [hrows]; simp; omega)] at h
      cases h
      exact endsBlank_modify hrows hr _ j fun hj' => absurd hj' (Nat.ne_of_lt hj)
    · have hlast : r = [.combo a, .combo b, .spin s] := by
        rw [hrows, List.getElem?_concat_length] at hr'
        exact Option.some.inj hr'
      subst hlast
      have hg' : g = ⟨config, P ++ [[.combo a, .combo b, .spin s]]⟩ := by
        rw [← hrows, ← hg.config_eq]
      rw [hg', setWindow_concat ht] at h
      cases h
      simp only [rowKept, decide_eq_false_iff_not, not_not] at hr
      split
      · exact ⟨P ++ [[.combo a, .combo b, .spin (s.setValue v)]], [.combo x, .combo y, .spin w],
          by simp, by simp [rowKept, hw]⟩
      · next hc =>
        refine ⟨P, _, rfl, ?_⟩
        simp only [rowKept, SpinBox.setValue_value, decide_eq_false_iff_not, not_not]
        by_contra hne
        exact hc ⟨hr ▸ hne, hne⟩

theorem endsBlank_selectItem (hg : g.Shaped config [.combo x, .combo y, .spin w])
    (hb : g.EndsBlank) {row column i : Nat} (h : g.selectItem row column i = .ok g') :
    g'.EndsBlank := by
  obtain ⟨c, hc, h⟩ := bind_eq_ok.mp h
  split at h <;> cases h
  · exact endsBlank_setCellAt_combo hg hb hc _
  · exact hb

theorem endsBlank_restoreCell (ht : rowWidgets config = .ok [.combo x, .combo y, .spin w])
    (hw : w.value = -1) (hg : g.Shaped config [.combo x, .combo y, .spin w]) (hb : g.EndsBlank)
    {row : Nat} {cell : Nat × List Char} (h : restoreCell row g cell = .ok g') : g'.EndsBlank := by
  obtain ⟨k, cell⟩ := cell
  simp only [restoreCell] at h
  split at h
  · obtain ⟨c, hc, h⟩ := bind_eq_ok.mp h
    cases h
    exact endsBlank_setCellAt_combo hg hb hc _
  · split at h
    · obtain ⟨_, -, h⟩ := bind_eq_ok.mp h
      obtain ⟨_, -, h⟩ := bind_eq_ok.mp h
      exact endsBlank_setWindow ht hw hg hb h
    · cases h
      exact hb

theorem endsBlank_step (ht : rowWidgets config = .ok [.combo x, .combo y, .spin w])
    (hw : w.value = -1) (hg : g.Shaped config [.combo x, .combo y, .spin w]) (hb : g.EndsBlank)
    {e : GridEvent} (h : g.step e = .ok g') : g'.EndsBlank := by
  cases e with
  | setWindow row v => exact endsBlank_setWindow ht hw hg hb h
  | selectItem row column i => exact endsBlank_selectItem hg hb h
  | restore json =>
    let Inv := fun g : Grid => g.Shaped config [.combo x, .combo y, .spin w] ∧ g.EndsBlank
    have hcell : ∀ (row : Nat) (g g' : Grid) (cell : Nat × List Char), Inv g →
        restoreCell row g cell = .ok g' → Inv g' := fun _ _ _ _ hi h =>
      ⟨restoreCell_shaped hi.1 h, endsBlank_restoreCell ht hw hi.1 hi.2 h⟩
    exact (foldlM_invariant (P := Inv)
      (fun _ _ _ _ hi h => foldlM_invariant (P := Inv) (fun _ _ _ _ => hcell _ _ _ _) hi h)
      ⟨hg, hb⟩ h).2

/-- When a fresh window is `-1`, whatever the user and the saved flows do, the grid ends in a row
whose window is `-1`, which `save` skips: there is always an empty row to fill in. -/
theorem reachable_endsBlank (ht : rowWidgets config = .ok [.combo x, .combo y, .spin w])
    (hw : w.value = -1) (h : Reachable config g) :
    ∃ P r, g.rows = P ++ [r] ∧ rowKept r = false := by
  induction h with
  | create hc =>
    rw [create_eq ht] at hc
    cases hc
    exact ⟨[], _, rfl, by simp [rowKept, hw]⟩
  | step hr hs ih => exact endsBlank_step ht hw (reachable_shaped hr ht) ih hs

theorem reachable_endsBlank_sample :
    ∃ g, Reachable sourcesAndWindow g ∧ g.rows.length = 3 ∧
      ∃ P r, g.rows = P ++ [r] ∧ rowKept r = false :=
  have hreach : Reachable sourcesAndWindow _ :=
    .step (e := .setWindow 2 7) (.step (e := .setWindow 1 5) (.create rfl) rfl) rfl
  ⟨_, hreach, rfl, reachable_endsBlank
    (rfl : rowWidgets sourcesAndWindow = .ok [.combo _, .combo _, .spin _]) rfl hreach⟩

end Blank

section Fails

variable {config : List (List Char)} {x y : ComboBox} {w : SpinBox}

/-- With a fresh window other than `-1` the round trip breaks. Setting the first row's window to
another value `v` appends a row and setting it back appends none, so the saved text has two
lines. Restoring them into a fresh node leaves its window where it was, the handler appends no
row, and the second line finds no widget, where the source dereferences a null pointer. -/
theorem restore_save_fails (ht : rowWidgets config = .ok [.combo x, .combo y, .spin w])
    (hw : w.value ≠ -1) {v : Int} (hv : v ≠ w.value) (hv1 : v ≠ -1) (hmin : w.minimum ≤ v)
    (hmax : v ≤ w.maximum) (hsep : ∀ line ∈ config.take 2, ';' ∉ line) {g₀ : Grid}
    (h₀ : create config = .ok g₀) :
    ∃ g json, Reachable config g ∧ g.save = .ok json ∧
      g₀.restore json = .error (.noWidget 2 0) := by
  obtain ⟨_, _, _, _, -, hx, hy, -⟩ := rowWidgets_eq_triple ht
  rw [create_eq ht] at h₀
  cases h₀
  have hxt : '|' ∉ x.currentText := fun h => (currentText_chars hx rfl h).2 rfl
  have hyt : '|' ∉ y.currentText := fun h => (currentText_chars hy rfl h).2 rfl
  have hstay : ∀ s : SpinBox, s.minimum = w.minimum → s.maximum = w.maximum →
      s.bound w.value = w.value := fun s hmin hmax =>
    SpinBox.bound_of_le (hmin ▸ w.min_le_value) (hmax ▸ w.value_le_max)
  -- the run: `v` in the first row appends a row, the fresh value back appends none
  have h₁ := setWindow_concat ht [] (.combo x) (.combo y) w v
  rw [if_pos (by rw [SpinBox.bound_of_le hmin hmax]; exact ⟨hv, hv1⟩)] at h₁
  have h₂ : (⟨config, [[.combo x, .combo y, .spin (w.setValue v)], [.combo x, .combo y,
      .spin w]]⟩ : Grid).setWindow 1 w.value = .ok ⟨config, [[.combo x, .combo y,
        .spin ((w.setValue v).setValue w.value)], [.combo x, .combo y, .spin w]]⟩ :=
    setWindow_of_lt (g := ⟨config, [[.combo x, .combo y, .spin (w.setValue v)],
      [.combo x, .combo y, .spin w]]⟩) (i := 0) rfl (by simp) w.value
  have hreach := Reachable.step (e := .setWindow 1 w.value)
    (Reachable.step (e := .setWindow 1 v) (.create (create_eq ht)) h₁) h₂
  -- both rows are saved, with the line of a fresh row
  have hT := rowLine_sep ht hsep (List.forall₂_same.mpr fun c _ => c.sameShape_refl)
  have hs₂ : (w.setValue v).bound w.value = w.value :=
    hstay _ (w.setValue_minimum v) (w.setValue_maximum v)
  have hlines : ([[Cell.combo x, .combo y, .spin ((w.setValue v).setValue w.value)],
      [.combo x, .combo y, .spin w]].filter rowKept).map rowLine =
      [rowLine [.combo x, .combo y, .spin w], rowLine [.combo x, .combo y, .spin w]] := by
    simp [List.filter_cons, rowKept, rowLine, hs₂, hw]
  have hsave := save_eq (reachable_shaped hreach ht)
  rw [hlines] at hsave
  refine ⟨_, _, hreach, hsave, ?_⟩
  -- the first line leaves the fresh window, so no row is appended for the second
  have hsplit : getlines ';' (List.intercalate [';'] [rowLine [.combo x, .combo y, .spin w],
      rowLine [.combo x, .combo y, .spin w]]) = [rowLine [.combo x, .combo y, .spin w],
      rowLine [.combo x, .combo y, .spin w]] :=
    getlines_intercalate (by simp [hT.1]) (by simp [hT.2])
  have hfirst : restoreLine ⟨config, [[.combo x, .combo y, .spin w]]⟩
      (0, rowLine [.combo x, .combo y, .spin w]) = .ok ⟨config, [[.combo (x.setCurrentText
        x.currentText), .combo (y.setCurrentText y.currentText), .spin (w.setValue w.value)]]⟩ := by
    have h : restoreLine ⟨config, [] ++ [[.combo x, .combo y, .spin w]]⟩ ([].length, _) = _ :=
      restoreLine_concat_eq [] hxt hyt w.valueInt
    rwa [setWindow_concat ht, if_neg fun hc => hc.1 (hstay w rfl rfl)] at h
  have hsecond : restoreLine ⟨config, [[.combo (x.setCurrentText x.currentText),
      .combo (y.setCurrentText y.currentText), .spin (w.setValue w.value)]]⟩
      (1, rowLine [.combo x, .combo y, .spin w]) = .error (.noWidget 2 0) := by
    simp only [restoreLine, rowLine, getlines_three hxt hyt
      (not_mem_toStringInt (c := '|') (by decide) (by decide) _) (toStringInt_ne_nil _),
      List.enum_cons, List.enumFrom_cons, List.foldlM_cons]
    rfl
  rw [restore, hsplit]
  simp only [List.enum_cons, List.enumFrom_cons, List.foldlM_cons, hfirst, ok_bind, hsecond]
  rfl

def sourcesAndSetWindow : List (List Char) :=
  ["GPS|[GLO]|GAL".toList, "[Pos]|Vel".toList, "0|10|100".toList]

theorem restore_save_fails_sample :
    ∃ g₀, create sourcesAndSetWindow = .ok g₀ ∧ ∃ g json, Reachable sourcesAndSetWindow g ∧
      g.save = .ok json ∧ g₀.restore json = .error (.noWidget 2 0) :=
  ⟨_, rfl, restore_save_fails
    (rfl : rowWidgets sourcesAndSetWindow = .ok [.combo _, .combo _, .spin _]) (by decide)
    (v := 20) (by decide) (by decide) (by decide) (by decide) (by decide) rfl⟩

end Fails

end Grid

end Instinct.Gui
