import Instinct.Gui.NodeModel

namespace Instinct.Gui

theorem foldlM_invariant {ε α β} {P : β → Prop} {f : β → α → Except ε β} :
    ∀ {l : List α}, (∀ b, ∀ a ∈ l, ∀ b', P b → f b a = .ok b' → P b') →
      ∀ {b b' : β}, P b → l.foldlM f b = .ok b' → P b'
  | [], _, _, _, hb, h => by cases h; exact hb
  | a :: _, hf, _, _, hb, h => by
    obtain ⟨_, h₁, h₂⟩ := bind_eq_ok.mp h
    exact foldlM_invariant (fun b a' ha' => hf b a' (List.mem_cons_of_mem a ha'))
      (hf _ a (List.mem_cons_self _ _) _ hb h₁) h₂

theorem comboFromLine_items {line : List Char} {c : ComboBox} (h : comboFromLine line = .ok c) :
    ∀ item ∈ c.items, ∀ ch ∈ item, ch ∈ line ∧ ch ≠ '|' := by
  refine foldlM_invariant (P := fun c : ComboBox => ∀ item ∈ c.items, ∀ ch ∈ item,
    ch ∈ line ∧ ch ≠ '|') ?_ (fun _ h => absurd h (List.not_mem_nil _)) h
  intro c cell hcell c' hc hstep
  have hnew : ∀ new, (∀ ch ∈ new, ch ∈ cell) → ∀ item ∈ c.items ++ [new], ∀ ch ∈ item,
      ch ∈ line ∧ ch ≠ '|' := by
    intro new hsub item hitem ch hch
    rcases List.mem_append.mp hitem with hitem | hitem
    · exact hc item hitem ch hch
    · rw [List.mem_singleton.mp hitem] at hch
      exact mem_getlines hcell ch (hsub ch hch)
  obtain ⟨_, -, hstep⟩ := bind_eq_ok.mp hstep
  split at hstep
  · obtain ⟨new, hnew', hstep⟩ := bind_eq_ok.mp hstep
    cases hstep
    exact hnew new (substr_subset hnew')
  · cases hstep
    exact hnew cell fun _ h => h

theorem currentText_chars {line : List Char} {c d : ComboBox} (hd : comboFromLine line = .ok d)
    (hcd : c.items = d.items) {ch : Char} (h : ch ∈ c.currentText) : ch ∈ line ∧ ch ≠ '|' := by
  obtain ⟨item, hitem, hch⟩ := ComboBox.exists_item_of_mem_currentText h
  exact comboFromLine_items hd item (hcd ▸ hitem) ch hch

theorem rowWidgets_eq_triple {config : List (List Char)} {x y : ComboBox} {w : SpinBox}
    (h : rowWidgets config = .ok [.combo x, .combo y, .spin w]) :
    ∃ l₀ l₁ l₂ rest, config = l₀ :: l₁ :: l₂ :: rest ∧ comboFromLine l₀ = .ok x ∧
      comboFromLine l₁ = .ok y ∧ spinFromLine l₂ = .ok w := by
  match config, h with
  | [], h => cases h
  | [_], h =>
    obtain ⟨_, -, h⟩ := bind_eq_ok.mp h
    cases h
  | [_, _], h =>
    obtain ⟨_, -, h⟩ := bind_eq_ok.mp h
    obtain ⟨_, -, h⟩ := bind_eq_ok.mp h
    cases h
  | _ :: _ :: _ :: _, h =>
    obtain ⟨_, h₀, h⟩ := bind_eq_ok.mp h
    obtain ⟨_, h₁, h⟩ := bind_eq_ok.mp h
    obtain ⟨_, h₂, h⟩ := bind_eq_ok.mp h
    cases h
    exact ⟨_, _, _, _, rfl, h₀, h₁, h₂⟩

def bracketed (cell : List Char) : Bool := cell.head? = some '['

def stripBrackets (cell : List Char) : List Char :=
  if bracketed cell then (cell.drop 1).dropLast else cell

def selectedText (cells : List (List Char)) : List Char :=
  match (cells.filter bracketed).getLast? with
  | some cell => stripBrackets cell
  | none => (cells.head?.map stripBrackets).getD []

theorem selectedText_concat (cells : List (List Char)) (cell : List Char) :
    selectedText (cells ++ [cell]) =
      if bracketed cell ∨ cells = [] then stripBrackets cell else selectedText cells := by
  unfold selectedText
  rw [List.filter_append, List.filter_singleton]
  cases hb : bracketed cell
  · cases cells with
    | nil => simp
    | cons c cs => simp
  · simp

theorem addCell_nil (c : ComboBox) : addCell c [] = .error .outOfRange := rfl

theorem addCell_ok (c : ComboBox) {cell : List Char} (hne : cell ≠ []) :
    ∃ c', addCell c cell = .ok c' := by
  obtain ⟨ch, rest, rfl⟩ := List.exists_cons_of_ne_nil hne
  unfold addCell
  simp only [charAt, List.getElem?_cons_zero, ok_bind, substr, List.length_cons,
    Nat.le_add_left, if_true]
  split <;> exact ⟨_, rfl⟩

/-- `cell.substr(1, cell.size() - 2)` on a cell of a `std::string`, whose size is below
`2 ^ 64`: the cell without its first and last characters. -/
theorem substr_one_sizeSub {cell : List Char} (hne : cell ≠ [])
    (hlen : cell.length < 18446744073709551616) :
    substr cell 1 (sizeSub cell.length 2) = .ok (cell.drop 1).dropLast := by
  have h1 : 1 ≤ cell.length := List.length_pos.mpr hne
  rw [substr, if_pos h1, List.dropLast_eq_take, List.length_drop]
  by_cases h2 : cell.length = 1
  · rw [List.drop_eq_nil_of_le (by omega), List.take_nil, List.take_nil]
  · have hsub : sizeSub cell.length 2 = cell.length - 1 - 1 := by
      unfold sizeSub
      rw [show cell.length + 18446744073709551616 - 2 = cell.length - 2 + 18446744073709551616 by
        omega, Nat.add_mod_right, Nat.mod_eq_of_lt (by omega)]
      omega
    rw [hsub]

theorem addCell_of_ne_nil (c : ComboBox) {cell : List Char} (hne : cell ≠ [])
    (hlen : cell.length < 18446744073709551616) :
    ∃ c', addCell c cell = .ok c' ∧ c'.items = c.items ++ [stripBrackets cell] ∧
      c'.currentText = if bracketed cell ∨ c.items = [] then stripBrackets cell
        else c.currentText := by
  obtain ⟨ch, rest, rfl⟩ := List.exists_cons_of_ne_nil hne
  have hsub := substr_one_sizeSub hne hlen
  unfold addCell
  simp only [charAt, List.getElem?_cons_zero, ok_bind, hsub]
  by_cases hch : ch = '['
  · have hb : bracketed (ch :: rest) = true := by simp [bracketed, hch]
    simp only [if_pos hch, hb, stripBrackets, if_true, true_or]
    refine ⟨_, rfl, rfl, ?_⟩
    rw [ComboBox.currentText_setCurrentIndex]
    simp
  · have hb : bracketed (ch :: rest) = false := by simp [bracketed, hch]
    simp only [if_neg hch, hb, stripBrackets, Bool.false_eq_true, if_false, false_or]
    exact ⟨_, rfl, rfl, ComboBox.currentText_addItem c _⟩

theorem foldlM_addCell_eq_error {e : StdException} :
    ∀ {cells : List (List Char)} {c : ComboBox},
      cells.foldlM addCell c = .error e ↔ e = .outOfRange ∧ [] ∈ cells
  | [], _ => by simp [pure, Except.pure]
  | cell :: cells, c => by
    rw [List.foldlM_cons]
    by_cases hnil : cell = []
    · subst hnil
      rw [addCell_nil]
      simp [bind, Except.bind, eq_comm]
    · obtain ⟨c', hc'⟩ := addCell_ok c hnil
      rw [hc', ok_bind, foldlM_addCell_eq_error]
      simp [Ne.symm hnil]

/-- Building a row throws exactly when a line for a combo box has an empty cell (two `|` in a
row, or one in front), and what it throws is `std::out_of_range` from `cell.at(0)`. -/
theorem comboFromLine_eq_error_iff {line : List Char} {e : StdException} :
    comboFromLine line = .error e ↔ e = .outOfRange ∧ [] ∈ getlines '|' line :=
  foldlM_addCell_eq_error

theorem foldlM_addCell_spec :
    ∀ (cells : List (List Char)) {c : ComboBox},
      (∀ cell ∈ cells, cell.length < 18446744073709551616) →
      cells.foldlM addCell ComboBox.empty = .ok c →
        c.items = cells.map stripBrackets ∧ c.currentText = selectedText cells := by
  intro cells
  induction cells using List.reverseRecOn with
  | nil => intro c _ h; cases h; exact ⟨rfl, rfl⟩
  | append_singleton cells cell ih =>
    intro c hlen h
    rw [List.foldlM_append] at h
    obtain ⟨c₁, h₁, h₂⟩ := bind_eq_ok.mp h
    obtain ⟨hitems, htext⟩ := ih (fun cell hc => hlen cell (List.mem_append_left _ hc)) h₁
    have hne : cell ≠ [] := by
      rintro rfl
      cases h₂
    obtain ⟨c', hc', hitems', htext'⟩ :=
      addCell_of_ne_nil c₁ hne (hlen cell (List.mem_append_right _ (List.mem_singleton_self _)))
    rw [List.foldlM_cons, hc', ok_bind] at h₂
    cases h₂
    refine ⟨by rw [hitems', hitems, List.map_append, List.map_singleton], ?_⟩
    rw [htext', selectedText_concat, htext]
    simp only [hitems, List.map_eq_nil_iff]

theorem spinFromLine_toStringInt (m v M : CInt) :
    spinFromLine (toStringInt m.val ++ '|' :: toStringInt v.val ++ '|' :: toStringInt M.val) =
      .ok (((SpinBox.default.setMinimum m).setValue v.val).setMaximum M) := by
  have hbar := not_mem_toStringInt (c := '|') (by decide) (by decide)
  rw [List.append_assoc, List.cons_append]
  simp only [spinFromLine, getline_append (hbar m.val), getline_append (hbar v.val),
    getline_of_not_mem (hbar M.val), stoi_toStringInt, ok_bind]
  rfl

/-- A fresh row's window starts at the configured default `v` of a line `m|v|M` with
`m ≤ v ≤ M` only when `v ≤ max 99 m`: the value is set while Qt's default maximum `99` still
holds, and a larger default is cut down to it, whatever `M` is. -/
theorem spinFromLine_value_eq_iff {m v M : CInt} (hmv : m.val ≤ v.val) (hvM : v.val ≤ M.val) :
    ∃ s, spinFromLine (toStringInt m.val ++ '|' :: toStringInt v.val ++ '|' ::
        toStringInt M.val) = .ok s ∧ (s.value = v.val ↔ v.val ≤ max 99 m.val) := by
  refine ⟨_, spinFromLine_toStringInt m v M, ?_⟩
  simp only [SpinBox.setMaximum, SpinBox.setValue, SpinBox.bound, SpinBox.setMinimum,
    SpinBox.default]
  omega

theorem spinFromLine_default_cut :
    ∃ s, spinFromLine "0|150|1000".toList = .ok s ∧ s.value ≠ 150 := by
  obtain ⟨s, hs, hiff⟩ := spinFromLine_value_eq_iff (m := ⟨0, by decide, by decide⟩)
    (v := ⟨150, by decide, by decide⟩) (M := ⟨1000, by decide, by decide⟩) (by decide) (by decide)
  exact ⟨s, hs, fun h => absurd (hiff.mp h) (by decide)⟩

end Instinct.Gui
