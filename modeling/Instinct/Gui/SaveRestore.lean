import Instinct.Gui.Construction
import Mathlib.Data.List.Forall2

namespace Instinct.Gui

def Cell.SameShape : Cell → Cell → Prop
  | .combo c, .combo d => c.items = d.items
  | .spin s, .spin t => s.minimum = t.minimum ∧ s.maximum = t.maximum
  | _, _ => False

theorem Cell.sameShape_refl : ∀ c : Cell, c.SameShape c
  | .combo _ => rfl
  | .spin _ => ⟨rfl, rfl⟩

theorem forall₂_sameShape_triple {r : List Cell} {x y : ComboBox} {w : SpinBox} :
    List.Forall₂ Cell.SameShape r [.combo x, .combo y, .spin w] ↔
      ∃ a b s, r = [.combo a, .combo b, .spin s] ∧ a.items = x.items ∧ b.items = y.items ∧
        s.minimum = w.minimum ∧ s.maximum = w.maximum := by
  constructor
  · intro h
    obtain ⟨c₀, _, h₀, t₀, rfl⟩ := List.forall₂_cons_right_iff.mp h
    obtain ⟨c₁, _, h₁, t₁, rfl⟩ := List.forall₂_cons_right_iff.mp t₀
    obtain ⟨c₂, _, h₂, t₂, rfl⟩ := List.forall₂_cons_right_iff.mp t₁
    rw [List.forall₂_nil_right_iff.mp t₂]
    cases c₀ <;> cases c₁ <;> cases c₂ <;> simp only [Cell.SameShape] at h₀ h₁ h₂
    exact ⟨_, _, _, rfl, h₀, h₁, h₂⟩
  · rintro ⟨a, b, s, rfl, ha, hb, hs⟩
    exact .cons ha (.cons hb (.cons hs .nil))

theorem forall₂_getElem? {α β} {R : α → β → Prop} :
    ∀ {l : List α} {t : List β}, List.Forall₂ R l t →
      ∀ {n : Nat} {a : α}, l[n]? = some a → ∃ b, t[n]? = some b ∧ R a b
  | _, _, .nil, _, _, h => by simp at h
  | _, _, .cons hab _, 0, _, h =>
    ⟨_, List.getElem?_cons_zero, Option.some.inj (List.getElem?_cons_zero.symm.trans h) ▸ hab⟩
  | _, _, .cons _ hl, _ + 1, _, h => by
    rw [List.getElem?_cons_succ] at h ⊢
    exact forall₂_getElem? hl h

theorem forall₂_set {α β} {R : α → β → Prop} {c : α} :
    ∀ {l : List α} {t : List β} {n : Nat}, List.Forall₂ R l t →
      (∀ b, t[n]? = some b → R c b) → List.Forall₂ R (l.set n c) t
  | _, _, _, .nil, _ => .nil
  | _, _, 0, .cons _ hl, hc => .cons (hc _ List.getElem?_cons_zero) hl
  | _, _, _ + 1, .cons hab hl, hc =>
    .cons hab (forall₂_set hl fun b hb => hc b (List.getElem?_cons_succ.trans hb))

theorem forall_mem_modify {α} {P : α → Prop} {f : α → α} {n : Nat} {l : List α}
    (hl : ∀ a ∈ l, P a) (hf : ∀ a ∈ l, P (f a)) : ∀ b ∈ l.modify f n, P b := by
  intro b hb
  obtain ⟨i, hi⟩ := List.mem_iff_getElem?.mp hb
  rw [List.getElem?_modify] at hi
  cases ha : l[i]? with
  | none => simp [ha] at hi
  | some a =>
    have hmem : a ∈ l := List.getElem?_mem ha
    simp only [ha, Option.map_eq_map, Option.map_some', Option.some.injEq] at hi
    split at hi <;> subst hi
    exacts [hf a hmem, hl a hmem]

inductive GridEvent where
  | setWindow (row : Nat) (v : Int)
  | selectItem (row column i : Nat)
  | restore (json : List Char)

namespace Grid

def step (g : Grid) : GridEvent → Except Failure Grid
  | .setWindow row v => g.setWindow row v
  | .selectItem row column i => g.selectItem row column i
  | .restore json => g.restore json

/-- The grids a node with this configuration can show. -/
inductive Reachable (config : List (List Char)) : Grid → Prop where
  | create {g : Grid} : create config = .ok g → Reachable config g
  | step {g g' : Grid} {e : GridEvent} : Reachable config g → g.step e = .ok g' →
      Reachable config g'

/-- The grid belongs to a node with this configuration, and every row holds the widgets the
configuration builds, changed only in their selection and value. -/
structure Shaped (config : List (List Char)) (template : List Cell) (g : Grid) : Prop where
  config_eq : g.config = config
  rowWidgets_eq : rowWidgets config = .ok template
  rows_shape : ∀ r ∈ g.rows, List.Forall₂ Cell.SameShape r template

section Shape

variable {config : List (List Char)} {template : List Cell} {g g' : Grid}

theorem cellAt_sameShape (hg : g.Shaped config template) {row column : Nat} {c : Cell}
    (h : g.cellAt row column = some c) : ∃ b, template[column]? = some b ∧ c.SameShape b := by
  cases row with
  | zero => cases h
  | succ row =>
    obtain ⟨r, hr, hc⟩ := Option.bind_eq_some.mp h
    exact forall₂_getElem? (hg.rows_shape r (List.getElem?_mem hr)) hc

theorem comboAt_sameShape (hg : g.Shaped config template) {row column : Nat} {c : ComboBox}
    (h : g.comboAt row column = .ok c) :
    ∃ b, template[column]? = some b ∧ (Cell.combo c).SameShape b := by
  unfold comboAt at h
  split at h
  · next hc => cases h; exact cellAt_sameShape hg hc
  · cases h

theorem spinAt_sameShape (hg : g.Shaped config template) {row column : Nat} {s : SpinBox}
    (h : g.spinAt row column = .ok s) :
    ∃ b, template[column]? = some b ∧ (Cell.spin s).SameShape b := by
  unfold spinAt at h
  split at h
  · next hc => cases h; exact cellAt_sameShape hg hc
  · cases h

theorem setCellAt_shaped (hg : g.Shaped config template) {row column : Nat} {cell : Cell}
    (hcell : ∀ b, template[column]? = some b → cell.SameShape b) :
    (g.setCellAt row column cell).Shaped config template :=
  ⟨hg.config_eq, hg.rowWidgets_eq, forall_mem_modify hg.rows_shape
    (fun r hr => forall₂_set (hg.rows_shape r hr) hcell)⟩

theorem addListListIntRow_shaped (hg : g.Shaped config template)
    (h : g.addListListIntRow = .ok g') : g'.Shaped config template := by
  obtain ⟨widgets, hw, hg'⟩ := bind_eq_ok.mp h
  rw [hg.config_eq, hg.rowWidgets_eq] at hw
  cases hw
  cases hg'
  refine ⟨hg.config_eq, hg.rowWidgets_eq, fun r hr => ?_⟩
  split at hr
  · exact hg.rows_shape r hr
  · rcases List.mem_append.mp hr with hr | hr
    · exact hg.rows_shape r hr
    · rw [List.mem_singleton.mp hr]
      exact List.forall₂_same.mpr fun c _ => c.sameShape_refl

theorem setCellAt_combo_shaped (hg : g.Shaped config template) {row column : Nat}
    {c c' : ComboBox} (hc : g.comboAt row column = .ok c) (hitems : c'.items = c.items) :
    (g.setCellAt row column (.combo c')).Shaped config template := by
  obtain ⟨b, hb, hcb⟩ := comboAt_sameShape hg hc
  refine setCellAt_shaped hg fun b' hb' => ?_
  cases Option.some.inj (hb'.symm.trans hb)
  cases b with
  | combo d => exact hitems.trans hcb
  | spin _ => exact hcb

theorem setCellAt_spin_shaped (hg : g.Shaped config template) {row column : Nat}
    {s s' : SpinBox} (hs : g.spinAt row column = .ok s) (hmin : s'.minimum = s.minimum)
    (hmax : s'.maximum = s.maximum) :
    (g.setCellAt row column (.spin s')).Shaped config template := by
  obtain ⟨b, hb, hsb⟩ := spinAt_sameShape hg hs
  refine setCellAt_shaped hg fun b' hb' => ?_
  cases Option.some.inj (hb'.symm.trans hb)
  cases b with
  | combo _ => exact hsb
  | spin t => exact ⟨hmin.trans hsb.1, hmax.trans hsb.2⟩

theorem setWindow_shaped (hg : g.Shaped config template) {row : Nat} {v : Int}
    (h : g.setWindow row v = .ok g') : g'.Shaped config template := by
  obtain ⟨s, hs, h⟩ := bind_eq_ok.mp h
  have hset := setCellAt_spin_shaped hg hs (s.setValue_minimum v) (s.setValue_maximum v)
  dsimp only at h
  split at h
  · exact addListListIntRow_shaped hset (mapError_eq_ok.mp h)
  · cases h
    exact hset

theorem selectItem_shaped (hg : g.Shaped config template) {row column i : Nat}
    (h : g.selectItem row column i = .ok g') : g'.Shaped config template := by
  obtain ⟨c, hc, h⟩ := bind_eq_ok.mp h
  split at h <;> cases h
  · exact setCellAt_combo_shaped hg hc (c.setCurrentIndex_items _)
  · exact hg

theorem restoreCell_shaped (hg : g.Shaped config template) {row : Nat} {cell : Nat × List Char}
    (h : restoreCell row g cell = .ok g') : g'.Shaped config template := by
  obtain ⟨k, cell⟩ := cell
  simp only [restoreCell] at h
  split at h
  · obtain ⟨c, hc, h⟩ := bind_eq_ok.mp h
    cases h
    exact setCellAt_combo_shaped hg hc (c.setCurrentText_items _)
  · split at h
    · obtain ⟨_, -, h⟩ := bind_eq_ok.mp h
      obtain ⟨_, -, h⟩ := bind_eq_ok.mp h
      exact setWindow_shaped hg h
    · cases h
      exact hg

theorem restore_shaped (hg : g.Shaped config template) {json : List Char}
    (h : g.restore json = .ok g') : g'.Shaped config template :=
  foldlM_invariant (fun _ _ _ _ hb h =>
    foldlM_invariant (fun _ _ _ _ hb h => restoreCell_shaped hb h) hb h) hg h

theorem step_shaped (hg : g.Shaped config template) {e : GridEvent} (h : g.step e = .ok g') :
    g'.Shaped config template := by
  cases e with
  | setWindow row v => exact setWindow_shaped hg h
  | selectItem row column i => exact selectItem_shaped hg h
  | restore json => exact restore_shaped hg h

theorem create_shaped (h : create config = .ok g) (ht : rowWidgets config = .ok template) :
    g.Shaped config template :=
  addListListIntRow_shaped ⟨rfl, ht, fun _ h => absurd h (List.not_mem_nil _)⟩ h

/-- Whatever the user and the saved flows do to the grid, each row keeps the widgets the
configuration builds: the handlers only select items and set values. -/
theorem reachable_shaped (h : Reachable config g) (ht : rowWidgets config = .ok template) :
    g.Shaped config template := by
  induction h with
  | create hc => exact create_shaped hc ht
  | step _ hs ih => exact step_shaped ih hs

end Shape

def rowLine : List Cell → List Char
  | [.combo a, .combo b, .spin s] =>
    a.currentText ++ '|' :: b.currentText ++ '|' :: toStringInt s.value
  | _ => []

theorem mem_rowLine {a b : ComboBox} {s : SpinBox} {ch : Char} :
    ch ∈ rowLine [.combo a, .combo b, .spin s] ↔
      ch ∈ a.currentText ∨ ch = '|' ∨ ch ∈ b.currentText ∨ ch ∈ toStringInt s.value := by
  simp only [rowLine, List.mem_append, List.mem_cons]
  tauto

def rowKept : List Cell → Bool
  | [_, _, .spin s] => s.value ≠ -1
  | _ => false

def joinLine (json line : List Char) : List Char :=
  (if json ≠ [] then json ++ [';'] else json) ++ line

theorem foldl_joinLine {acc : List Char} (hacc : acc ≠ []) :
    ∀ lines : List (List Char), lines.foldl joinLine acc = List.intercalate [';'] (acc :: lines)
  | [] => by simp [List.intercalate]
  | l :: ls => by
    rw [List.foldl_cons, joinLine, if_pos hacc, foldl_joinLine (by simp) ls, intercalate_cons,
      intercalate_cons]
    simp

theorem foldl_joinLine_nil :
    ∀ {lines : List (List Char)}, (∀ l ∈ lines.head?, l ≠ []) →
      lines.foldl joinLine [] = List.intercalate [';'] lines
  | [], _ => rfl
  | l :: ls, h => by
    rw [List.foldl_cons, joinLine, if_neg (by simp), List.nil_append,
      foldl_joinLine (h l rfl)]

section Save

variable {config : List (List Char)} {g : Grid} {x y : ComboBox} {w : SpinBox}

theorem saveRow_of_getElem? {j : Nat} {a b : ComboBox} {s : SpinBox}
    (hr : g.rows[j]? = some [.combo a, .combo b, .spin s]) (json : List Char) :
    g.saveRow json (j + 1) = .ok (if rowKept [.combo a, .combo b, .spin s] then
      joinLine json (rowLine [.combo a, .combo b, .spin s]) else json) := by
  have hcell : ∀ k, g.cellAt (j + 1) k = [Cell.combo a, .combo b, .spin s][k]? := fun k => by
    simp [cellAt, hr]
  simp only [saveRow, comboAt, spinAt, hcell, List.getElem?_cons_zero, List.getElem?_cons_succ,
    ok_bind, rowKept, rowLine, joinLine, decide_eq_true_eq]
  split
  · simp only [List.append_assoc, List.singleton_append]
    rfl
  · rfl

theorem foldlM_saveRow
    (hshape : ∀ r ∈ g.rows, List.Forall₂ Cell.SameShape r [.combo x, .combo y, .spin w]) :
    ∀ (pre l : List (List Cell)) (json : List Char), g.rows = pre ++ l →
      (List.range' (pre.length + 1) l.length).foldlM g.saveRow json =
        .ok (((l.filter rowKept).map rowLine).foldl joinLine json)
  | _, [], _, _ => rfl
  | pre, r :: l, json, hrows => by
    obtain ⟨a, b, s, rfl, -⟩ := forall₂_sameShape_triple.mp (hshape r (by simp [hrows]))
    have hr : g.rows[pre.length]? = some [.combo a, .combo b, .spin s] := by
      rw [hrows, List.getElem?_append_right (le_refl _), Nat.sub_self, List.getElem?_cons_zero]
    have ih := foldlM_saveRow hshape (pre ++ [[.combo a, .combo b, .spin s]]) l
    simp only [List.length_append, List.length_singleton, List.append_assoc, List.singleton_append]
      at ih
    rw [List.length_cons, List.range'_succ, List.foldlM_cons, saveRow_of_getElem? hr, ok_bind,
      ih _ hrows, List.filter_cons]
    split <;> simp_all

/-- On a grid whose rows have the shape of a three-column template, `save` cannot fail: it
writes the rows whose window is not `-1`, in order, each as `x|y|window`, joined by `;`. -/
theorem save_eq (hg : g.Shaped config [.combo x, .combo y, .spin w]) :
    g.save = .ok (List.intercalate [';'] ((g.rows.filter rowKept).map rowLine)) := by
  have h := foldlM_saveRow hg.rows_shape [] g.rows [] rfl
  rw [List.length_nil, foldl_joinLine_nil] at h
  · exact h
  · intro l hl
    obtain ⟨r, hr, rfl⟩ := List.mem_map.mp (List.mem_of_mem_head? hl)
    obtain ⟨a, b, s, rfl, -⟩ :=
      forall₂_sameShape_triple.mp (hg.rows_shape r (List.mem_filter.mp hr).1)
    simp [rowLine]

end Save

theorem modify_concat {α} (f : α → α) (r : α) :
    ∀ P : List α, (P ++ [r]).modify f P.length = P ++ [f r]
  | [] => List.modify_zero_cons f r []
  | p :: P => by
    rw [List.cons_append, List.length_cons, List.modify_succ_cons, modify_concat f r P]
    rfl

def restoredRow (x y : ComboBox) (w : SpinBox) : List Cell → List Cell
  | [.combo a, .combo b, .spin s] =>
    [.combo (x.setCurrentText a.currentText), .combo (y.setCurrentText b.currentText),
      .spin (w.setValue s.value)]
  | r => r

section Restore

variable {config : List (List Char)} {x y : ComboBox} {w : SpinBox}

theorem cellAt_concat (P : List (List Cell)) (r : List Cell) (k : Nat) :
    (⟨config, P ++ [r]⟩ : Grid).cellAt (P.length + 1) k = r[k]? := by
  simp only [cellAt, Nat.add_sub_cancel, List.getElem?_concat_length, Option.some_bind]

theorem setCellAt_concat (P : List (List Cell)) (r : List Cell) (k : Nat) (cell : Cell) :
    (⟨config, P ++ [r]⟩ : Grid).setCellAt (P.length + 1) k cell =
      ⟨config, P ++ [r.set k cell]⟩ := by
  simp only [setCellAt, Nat.add_sub_cancel, modify_concat]

theorem addListListIntRow_concat (ht : rowWidgets config = .ok [.combo x, .combo y, .spin w])
    (P : List (List Cell)) (r : List Cell) :
    (⟨config, P ++ [r]⟩ : Grid).addListListIntRow =
      .ok ⟨config, P ++ [r, [.combo x, .combo y, .spin w]]⟩ := by
  simp [addListListIntRow, ht]

theorem create_eq (ht : rowWidgets config = .ok [.combo x, .combo y, .spin w]) :
    create config = .ok ⟨config, [[.combo x, .combo y, .spin w]]⟩ := by
  simp [create, addListListIntRow, ht]

theorem comboAt_concat (P : List (List Cell)) {r : List Cell} {k : Nat} {c : ComboBox}
    (h : r[k]? = some (.combo c)) :
    (⟨config, P ++ [r]⟩ : Grid).comboAt (P.length + 1) k = .ok c := by
  simp only [comboAt, cellAt_concat, h]

theorem spinAt_concat (P : List (List Cell)) {r : List Cell} {k : Nat} {s : SpinBox}
    (h : r[k]? = some (.spin s)) :
    (⟨config, P ++ [r]⟩ : Grid).spinAt (P.length + 1) k = .ok s := by
  simp only [spinAt, cellAt_concat, h]

theorem restoreCell_combo_concat (P : List (List Cell)) {r : List Cell} {k : Nat} {c : ComboBox}
    (text : List Char) (hk : k ≤ 1) (h : r[k]? = some (.combo c)) :
    restoreCell (P.length + 1) ⟨config, P ++ [r]⟩ (k, text) =
      .ok ⟨config, P ++ [r.set k (.combo (c.setCurrentText text))]⟩ := by
  simp only [restoreCell, if_pos hk, comboAt_concat P h, ok_bind, setCellAt_concat]
  rfl

/-- The window handler on the last row: the value is set, and a fresh row appended when it
changed to something other than `-1`. -/
theorem setWindow_concat (ht : rowWidgets config = .ok [.combo x, .combo y, .spin w])
    (P : List (List Cell)) (c₀ c₁ : Cell) (s : SpinBox) (v : Int) :
    (⟨config, P ++ [[c₀, c₁, .spin s]]⟩ : Grid).setWindow (P.length + 1) v =
      .ok ⟨config, P ++ [c₀, c₁, .spin (s.setValue v)] ::
        if s.bound v ≠ s.value ∧ s.bound v ≠ -1 then [[.combo x, .combo y, .spin w]] else []⟩ := by
  have hs : (⟨config, P ++ [[c₀, c₁, .spin s]]⟩ : Grid).spinAt (P.length + 1) 2 = .ok s :=
    spinAt_concat P rfl
  simp only [setWindow, hs, ok_bind, setCellAt_concat, SpinBox.setValue_value, rowCount,
    List.length_append, List.length_singleton, Nat.add_sub_cancel, and_true]
  split
  · rw [addListListIntRow_concat ht]
    rfl
  · rfl

theorem restoreLine_concat_eq (P : List (List Cell)) {xt yt : List Char} (hxt : '|' ∉ xt)
    (hyt : '|' ∉ yt) (v : CInt) :
    restoreLine ⟨config, P ++ [[.combo x, .combo y, .spin w]]⟩
        (P.length, xt ++ '|' :: yt ++ '|' :: toStringInt v.val) =
      (⟨config, P ++ [[.combo (x.setCurrentText xt), .combo (y.setCurrentText yt), .spin w]]⟩ :
        Grid).setWindow (P.length + 1) v.val := by
  have hpieces := getlines_three hxt hyt
    (not_mem_toStringInt (c := '|') (by decide) (by decide) v.val) (toStringInt_ne_nil v.val)
  have h₀ : restoreCell (P.length + 1) ⟨config, P ++ [[.combo x, .combo y, .spin w]]⟩ (0, xt) =
      .ok ⟨config, P ++ [[.combo (x.setCurrentText xt), .combo y, .spin w]]⟩ :=
    restoreCell_combo_concat P xt (Nat.zero_le 1) rfl
  have h₁ : restoreCell (P.length + 1)
      ⟨config, P ++ [[.combo (x.setCurrentText xt), .combo y, .spin w]]⟩ (1, yt) =
      .ok ⟨config,
        P ++ [[.combo (x.setCurrentText xt), .combo (y.setCurrentText yt), .spin w]]⟩ :=
    restoreCell_combo_concat P yt (le_refl 1) rfl
  have hs : ∀ c₀ c₁ : Cell,
      (⟨config, P ++ [[c₀, c₁, .spin w]]⟩ : Grid).spinAt (P.length + 1) 2 = .ok w :=
    fun _ _ => spinAt_concat P rfl
  simp only [restoreLine, hpieces, List.enum_cons, List.enumFrom_cons, List.foldlM_cons, h₀,
    ok_bind, h₁, List.enumFrom_nil, List.foldlM_nil]
  rw [restoreCell, if_neg (by decide), if_pos rfl]
  simp only [hs, ok_bind, stoi_toStringInt, Except.mapError]
  cases (⟨config, P ++ [[.combo (x.setCurrentText xt), .combo (y.setCurrentText yt), .spin w]]⟩ :
    Grid).setWindow (P.length + 1) v.val <;> rfl

theorem restoreLine_concat (ht : rowWidgets config = .ok [.combo x, .combo y, .spin w])
    (hw : w.value = -1) (P : List (List Cell)) {xt yt : List Char} (hxt : '|' ∉ xt)
    (hyt : '|' ∉ yt) {v : CInt} (hv : w.bound v.val ≠ -1) :
    restoreLine ⟨config, P ++ [[.combo x, .combo y, .spin w]]⟩
        (P.length, xt ++ '|' :: yt ++ '|' :: toStringInt v.val) =
      .ok ⟨config, P ++ [[.combo (x.setCurrentText xt), .combo (y.setCurrentText yt),
        .spin (w.setValue v.val)], [.combo x, .combo y, .spin w]]⟩ := by
  rw [restoreLine_concat_eq P hxt hyt v, setWindow_concat ht, if_pos ⟨hw ▸ hv, hv⟩]

theorem restoredRow_spec {r : List Cell}
    (hr : List.Forall₂ Cell.SameShape r [.combo x, .combo y, .spin w])
    (hkept : rowKept r = true) :
    rowKept (restoredRow x y w r) = true ∧ rowLine (restoredRow x y w r) = rowLine r := by
  obtain ⟨a, b, s, rfl, ha, hb, hmin, hmax⟩ := forall₂_sameShape_triple.mp hr
  have hv : w.bound s.value = s.value :=
    SpinBox.bound_of_le (hmin ▸ s.min_le_value) (hmax ▸ s.value_le_max)
  simp only [rowKept, decide_eq_true_eq] at hkept
  simp only [restoredRow, rowKept, rowLine, SpinBox.setValue_value, hv, hkept,
    ComboBox.currentText_setCurrentText_of_items ha.symm,
    ComboBox.currentText_setCurrentText_of_items hb.symm]
  simpa using hkept

theorem foldlM_restoreLine (ht : rowWidgets config = .ok [.combo x, .combo y, .spin w])
    (hw : w.value = -1) {l₀ l₁ : List Char} (hx : comboFromLine l₀ = .ok x)
    (hy : comboFromLine l₁ = .ok y) :
    ∀ (K P : List (List Cell)),
      (∀ r ∈ K, List.Forall₂ Cell.SameShape r [.combo x, .combo y, .spin w] ∧
        rowKept r = true) →
      ((K.map rowLine).enumFrom P.length).foldlM restoreLine
          ⟨config, P ++ [[.combo x, .combo y, .spin w]]⟩ =
        .ok ⟨config, P ++ K.map (restoredRow x y w) ++ [[.combo x, .combo y, .spin w]]⟩
  | [], _, _ => by
    simp only [List.map_nil, List.enumFrom_nil, List.foldlM_nil, List.append_nil]
    rfl
  | r :: K, P, hK => by
    obtain ⟨hr, hkept⟩ := hK r (List.mem_cons_self r K)
    obtain ⟨a, b, s, rfl, ha, hb, hmin, hmax⟩ := forall₂_sameShape_triple.mp hr
    have hv : w.bound s.valueInt.val = s.value :=
      SpinBox.bound_of_le (hmin ▸ s.min_le_value) (hmax ▸ s.value_le_max)
    have ih := foldlM_restoreLine ht hw hx hy K
      (P ++ [restoredRow x y w [.combo a, .combo b, .spin s]])
      (fun r hr => hK r (List.mem_cons_of_mem _ hr))
    simp only [List.length_append, List.length_singleton, List.append_assoc, List.singleton_append]
      at ih
    simp only [rowKept, decide_eq_true_eq] at hkept
    have hline := restoreLine_concat ht hw P (fun h => (currentText_chars hx ha h).2 rfl)
      (fun h => (currentText_chars hy hb h).2 rfl) (v := s.valueInt) (by rw [hv]; exact hkept)
    dsimp only [SpinBox.valueInt] at hline
    rw [List.map_cons, List.enumFrom_cons, List.foldlM_cons, rowLine, hline, ok_bind]
    simpa [restoredRow] using ih

end Restore

section RoundTrip

variable {config : List (List Char)} {x y : ComboBox} {w : SpinBox}

theorem rowLine_sep (ht : rowWidgets config = .ok [.combo x, .combo y, .spin w])
    (hsep : ∀ line ∈ config.take 2, ';' ∉ line) {r : List Cell}
    (hr : List.Forall₂ Cell.SameShape r [.combo x, .combo y, .spin w]) :
    ';' ∉ rowLine r ∧ rowLine r ≠ [] := by
  obtain ⟨l₀, l₁, l₂, rest, hconfig, hx, hy, -⟩ := rowWidgets_eq_triple ht
  obtain ⟨a, b, s, rfl, ha, hb, -⟩ := forall₂_sameShape_triple.mp hr
  refine ⟨fun hmem => ?_, by simp [rowLine]⟩
  rcases mem_rowLine.mp hmem with h | h | h | h
  · exact hsep l₀ (by simp [hconfig]) (currentText_chars hx ha h).1
  · exact absurd h (by decide)
  · exact hsep l₁ (by simp [hconfig]) (currentText_chars hy hb h).1
  · exact not_mem_toStringInt (c := ';') (by decide) (by decide) s.value h

/-- The text `save` writes for a grid of a node with a three-line configuration: the kept rows'
lines joined by `;`. -/
theorem reachable_save {g : Grid} (ht : rowWidgets config = .ok [.combo x, .combo y, .spin w])
    (hg : Reachable config g) :
    g.save = .ok (List.intercalate [';'] ((g.rows.filter rowKept).map rowLine)) :=
  save_eq (reachable_shaped hg ht)

def sourcesAndWindow : List (List Char) :=
  ["GPS|[GLO]|GAL".toList, "[Pos]|Vel".toList, "-1|-1|1000".toList]

theorem reachable_save_sample :
    ∃ g, Reachable sourcesAndWindow g ∧ g.save = .ok "GAL|Pos|5".toList ∧
      g.save = .ok (List.intercalate [';'] ((g.rows.filter rowKept).map rowLine)) :=
  have hreach : Reachable sourcesAndWindow _ :=
    .step (e := .selectItem 1 0 2) (.step (e := .setWindow 1 5) (.create rfl) rfl) rfl
  ⟨_, hreach, rfl,
    reachable_save (rfl : rowWidgets sourcesAndWindow = .ok [.combo _, .combo _, .spin _]) hreach⟩

theorem restore_saved_text {g g₀ : Grid} {json : List Char}
    (ht : rowWidgets config = .ok [.combo x, .combo y, .spin w]) (hw : w.value = -1)
    (hsep : ∀ line ∈ config.take 2, ';' ∉ line) (hg : Reachable config g)
    (h₀ : create config = .ok g₀) (hs : g.save = .ok json) :
    ∃ g', g₀.restore json = .ok g' ∧ g'.save = .ok json := by
  obtain ⟨_, _, _, _, -, hx, hy, -⟩ := rowWidgets_eq_triple ht
  have hshape := reachable_shaped hg ht
  rw [save_eq hshape] at hs
  cases hs
  have hK : ∀ r ∈ g.rows.filter rowKept,
      List.Forall₂ Cell.SameShape r [.combo x, .combo y, .spin w] ∧ rowKept r = true :=
    fun r hr => ⟨hshape.rows_shape r (List.mem_filter.mp hr).1, (List.mem_filter.mp hr).2⟩
  have hlines := getlines_intercalate
    (fun line hl => by
      obtain ⟨r, hr, rfl⟩ := List.mem_map.mp hl
      exact (rowLine_sep ht hsep (hK r hr).1).1)
    (fun line hl => by
      obtain ⟨r, hr, rfl⟩ := List.mem_map.mp (List.mem_of_mem_getLast? hl)
      exact (rowLine_sep ht hsep (hK r hr).1).2)
  have hrestore : (⟨config, [[.combo x, .combo y, .spin w]]⟩ : Grid).restore
      (List.intercalate [';'] ((g.rows.filter rowKept).map rowLine)) =
      .ok ⟨config, (g.rows.filter rowKept).map (restoredRow x y w) ++
        [[.combo x, .combo y, .spin w]]⟩ := by
    rw [restore, hlines]
    simpa using foldlM_restoreLine ht hw hx hy _ [] hK
  have hkept : (((g.rows.filter rowKept).map (restoredRow x y w) ++
      [[Cell.combo x, .combo y, .spin w]]).filter rowKept).map rowLine =
      (g.rows.filter rowKept).map rowLine := by
    have hT : rowKept [.combo x, .combo y, .spin w] = false := by simp [rowKept, hw]
    rw [List.filter_append, List.filter_singleton, hT, cond_false, List.append_nil,
      List.filter_eq_self.mpr fun r hr => ?_, List.map_map]
    · exact List.map_congr_left fun r hr => (restoredRow_spec (hK r hr).1 (hK r hr).2).2
    · obtain ⟨r₀, hr₀, rfl⟩ := List.mem_map.mp hr
      exact (restoredRow_spec (hK r₀ hr₀).1 (hK r₀ hr₀).2).1
  rw [create_eq ht] at h₀
  cases h₀
  refine ⟨_, hrestore, ?_⟩
  rw [save_eq (reachable_shaped (.step (e := .restore _) (.create (create_eq ht)) hrestore) ht),
    hkept]

/-- Saving a grid, restoring the text into a fresh node of the same configuration and saving
again gives the same text, when a fresh row's window is `-1` and the source lists hold no `;`. -/
theorem restore_save {g g₀ : Grid} (ht : rowWidgets config = .ok [.combo x, .combo y, .spin w])
    (hw : w.value = -1) (hsep : ∀ line ∈ config.take 2, ';' ∉ line) (hg : Reachable config g)
    (h₀ : create config = .ok g₀) :
    ∃ json g', g.save = .ok json ∧ g₀.restore json = .ok g' ∧ g'.save = .ok json := by
  have hs := save_eq (reachable_shaped hg ht)
  obtain ⟨g', hr, hs'⟩ := restore_saved_text ht hw hsep hg h₀ hs
  exact ⟨_, g', hs, hr, hs'⟩

theorem restore_save_sample :
    ∃ g₀ g, create sourcesAndWindow = .ok g₀ ∧ Reachable sourcesAndWindow g ∧
      g.save = .ok "GAL|Pos|5;GLO|Vel|7".toList ∧
      ∃ json g', g.save = .ok json ∧ g₀.restore json = .ok g' ∧ g'.save = .ok json :=
  have hreach : Reachable sourcesAndWindow _ :=
    .step (e := .selectItem 2 1 1) (.step (e := .setWindow 2 7)
      (.step (e := .selectItem 1 0 2) (.step (e := .setWindow 1 5) (.create rfl) rfl) rfl) rfl) rfl
  ⟨_, _, rfl, hreach, rfl,
    restore_save (rfl : rowWidgets sourcesAndWindow = .ok [.combo _, .combo _, .spin _]) rfl
      (by decide) hreach rfl⟩

end RoundTrip

end Grid

end Instinct.Gui
