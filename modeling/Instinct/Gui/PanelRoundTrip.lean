import Instinct.Gui.PanelShape

namespace Instinct.Gui

namespace Widget

def saved (w : Widget) : Option JsonValue :=
  match w.saveValue with
  | .ok o => o
  | .error _ => none

theorem saved_of_saveValue {w : Widget} {o : Option JsonValue} (h : w.saveValue = .ok o) :
    w.saved = o := by
  rw [saved, h]

theorem exists_saved_of_typed {w : Widget} {o : Option JsonValue} (ht : w.typed = true)
    (h : w.saveValue = .ok o) : ∃ v, w.saved = some v := by
  have hs := saved_of_saveValue h
  rw [saveValue, if_pos ht] at h
  obtain ⟨v, -, h⟩ := bind_eq_ok.mp h
  cases h
  exact ⟨v, hs⟩

theorem saveValue_of_not_typed {w : Widget} (h : w.typed = false) : w.saveValue = .ok none := by
  rw [saveValue, h]
  rfl

end Widget

/-- The value `save` writes under `key`: the last one a widget of that name writes. -/
def lastSaved (key : List Char) : List Widget → Option JsonValue
  | [] => none
  | w :: ws => (lastSaved key ws).or (if w.objectName = key then w.saved else none)

theorem lastSaved_append (key : List Char) :
    ∀ l₁ l₂ : List Widget, lastSaved key (l₁ ++ l₂) = (lastSaved key l₂).or (lastSaved key l₁)
  | [], l₂ => Option.or_none.symm
  | w :: l₁, l₂ => by
    rw [List.cons_append, lastSaved, lastSaved_append key l₁ l₂, lastSaved, Option.or_assoc]

theorem lastSaved_of_not_mem {key : List Char} :
    ∀ {ws : List Widget}, key ∉ ws.map Widget.objectName → lastSaved key ws = none
  | [], _ => rfl
  | w :: ws, h => by
    simp only [List.map_cons, List.mem_cons, not_or] at h
    rw [lastSaved, lastSaved_of_not_mem h.2, if_neg (Ne.symm h.1)]
    rfl

theorem lastSaved_of_nodup :
    ∀ {ws : List Widget}, (ws.map Widget.objectName).Nodup → ∀ {w}, w ∈ ws →
      lastSaved w.objectName ws = w.saved
  | [], _, _, h => absurd h (List.not_mem_nil _)
  | u :: ws, hn, w, hw => by
    rw [List.map_cons, List.nodup_cons] at hn
    rw [lastSaved]
    rcases List.mem_cons.mp hw with rfl | hw
    · rw [lastSaved_of_not_mem hn.1, if_pos rfl, Option.none_or]
    · have hne : u.objectName ≠ w.objectName := fun h => hn.1 (h ▸ List.mem_map_of_mem _ hw)
      rw [lastSaved_of_nodup hn.2 hw, if_neg hne, Option.or_none]

theorem lastSaved_isSome {key : List Char} {v : JsonValue} :
    ∀ {ws : List Widget} {w : Widget}, w ∈ ws → w.objectName = key → w.saved = some v →
      (lastSaved key ws).isSome
  | [], _, hw, _, _ => absurd hw (List.not_mem_nil _)
  | u :: ws, w, hw, hk, hv => by
    rw [lastSaved]
    rcases List.mem_cons.mp hw with rfl | hw
    · cases lastSaved key ws <;> simp [hk, hv]
    · have := lastSaved_isSome hw hk hv
      cases h : lastSaved key ws
      · simp [h] at this
      · rfl

theorem lastSaved_of_isSome_drop {key : List Char} {l : List Widget} {n : Nat}
    (h : (lastSaved key (l.drop n)).isSome) : lastSaved key l = lastSaved key (l.drop n) := by
  conv_lhs => rw [← List.take_append_drop n l]
  rw [lastSaved_append]
  obtain ⟨v, hv⟩ := Option.isSome_iff_exists.mp h
  rw [hv, Option.or_some]

namespace NodeModel

variable {configs : List GuiConfig} {m m₀ m' : NodeModel} {base json : JsonObject}

/-- `save` writes under each key the value of the last widget of that name that writes one, and
leaves what the base object holds under any other key. -/
theorem value_save (h : m.save base = .ok json) (key : List Char) :
    json.value key = (lastSaved key m.widgets).or (base.value key) := by
  obtain ⟨ws⟩ := m
  induction ws generalizing base with
  | nil => cases h; rfl
  | cons w ws ih =>
    obtain ⟨json₁, h₁, h₂⟩ := bind_eq_ok.mp h
    obtain ⟨o, ho, h₁⟩ := bind_eq_ok.mp h₁
    cases h₁
    rw [ih h₂, lastSaved, Option.or_assoc, Widget.saved_of_saveValue ho]
    congr 1
    cases o with
    | none => simp
    | some v =>
      rw [JsonObject.value_insert]
      by_cases hk : key = w.objectName
      · simp [hk]
      · simp [hk, Ne.symm hk]

theorem saveWidget_some {w : Widget} {v : JsonValue} (h : w.saveValue = .ok (some v))
    (json : JsonObject) : saveWidget json w = .ok (json.insert w.objectName v) := by
  rw [saveWidget, h]
  rfl

theorem saveWidget_none {w : Widget} (h : w.saveValue = .ok none) (json : JsonObject) :
    saveWidget json w = .ok json := by
  rw [saveWidget, h]
  rfl

theorem save_ok (hok : ∀ w ∈ m.widgets, ∃ o, w.saveValue = .ok o) (base : JsonObject) :
    ∃ json, m.save base = .ok json := by
  obtain ⟨ws⟩ := m
  induction ws generalizing base with
  | nil => exact ⟨base, rfl⟩
  | cons w ws ih =>
    have hws := fun u hu => hok u (List.mem_cons_of_mem w hu)
    obtain ⟨o, ho⟩ := hok w (List.mem_cons_self _ _)
    cases o with
    | some v =>
      obtain ⟨json, hjson⟩ := ih (base.insert w.objectName v) hws
      exact ⟨json, by rw [save, List.foldlM_cons, saveWidget_some ho, ok_bind]; exact hjson⟩
    | none =>
      obtain ⟨json, hjson⟩ := ih base hws
      exact ⟨json, by rw [save, List.foldlM_cons, saveWidget_none ho, ok_bind]; exact hjson⟩

theorem save_congr :
    ∀ {ws ws' : List Widget}, List.Forall₂ (fun w w' => w'.saveValue = w.saveValue ∧
      w'.objectName = w.objectName) ws ws' → ∀ base : JsonObject,
      (⟨ws'⟩ : NodeModel).save base = (⟨ws⟩ : NodeModel).save base
  | _, _, .nil, _ => rfl
  | _, _, .cons ⟨hs, hn⟩ hl, base => by
    simp only [save, List.foldlM_cons, saveWidget, hs, hn]
    congr 1
    funext b
    exact save_congr hl b

end NodeModel

/-- The configuration of a grid whose saved text restores into a fresh node: three lines, a
fresh window of `-1`, and source lists without `;`. -/
def RestorableGrid (config : List (List Char)) : Prop :=
  ∃ x y w, rowWidgets config = .ok [.combo x, .combo y, .spin w] ∧ w.value = -1 ∧
    ∀ line ∈ config.take 2, ';' ∉ line

theorem SpinBox.setValue_toInt_double {s t : SpinBox} (hmin : t.minimum = s.minimum)
    (hmax : t.maximum = s.maximum) :
    (s.setValue (JsonValue.double t.value).toInt).value = t.value := by
  have hv : (JsonValue.double t.value).toInt = t.value := JsonValue.toInt_double t.valueInt
  rw [hv]
  exact SpinBox.bound_of_le (hmin ▸ t.min_le_value) (hmax ▸ t.value_le_max)

namespace Control

theorem restoreValue_saveValue {c₀ c : Control} {v : JsonValue} (hf : c₀.Follows c)
    (hgrid : ∀ g, c₀ = .gridGroupBox g → RestorableGrid g.config) (hs : c.saveValue = .ok v) :
    ∃ c', c₀.restoreValue v = .ok c' ∧ c'.saveValue = .ok v := by
  cases hf with
  | checkBox b₀ b => cases hs; exact ⟨_, rfl, rfl⟩
  | spinBox hmin hmax =>
    cases hs
    exact ⟨_, rfl, by simp only [saveValue, SpinBox.setValue_toInt_double hmin hmax, pure_eq_ok]⟩
  | @doubleSpinBox d e hmin hmax =>
    cases hs
    refine ⟨_, rfl, ?_⟩
    simp only [saveValue, JsonValue.toDouble, DoubleSpinBox.setValue_value,
      DoubleSpinBox.bound_of_value hmin.symm hmax.symm, pure_eq_ok]
  | lineEdit e f =>
    cases hs
    exact ⟨_, rfl, by simp only [saveValue, JsonValue.toString, LineEdit.setText_of_text,
      pure_eq_ok]⟩
  | @comboBox c d hitems =>
    cases hs
    exact ⟨_, rfl, by simp only [saveValue, JsonValue.toString,
      ComboBox.currentText_setCurrentText_of_items hitems.symm, pure_eq_ok]⟩
  | @gridGroupBox g h hc hg =>
    obtain ⟨json, hjson, hs⟩ := bind_eq_ok.mp hs
    cases hs
    obtain ⟨x, y, w, ht, hw, hsep⟩ := hgrid g rfl
    obtain ⟨g', hr, hs'⟩ := Grid.restore_saved_text ht hw hsep hg hc hjson
    refine ⟨.gridGroupBox g', ?_, ?_⟩
    · simp only [restoreValue, JsonValue.toString, hr, ok_bind, pure_eq_ok]
    · simp only [saveValue, hs', ok_bind, pure_eq_ok]
  | mapSpinBox hmin hmax =>
    cases hs
    exact ⟨_, rfl, by simp only [saveValue, SpinBox.setValue_toInt_double hmin hmax, pure_eq_ok]⟩

end Control

namespace Widget

theorem saveValue_ok {w₀ w : Widget} (hf : w₀.Follows w)
    (hgrid : ∀ g, w₀.control = .gridGroupBox g →
      ∃ x y s, rowWidgets g.config = .ok [.combo x, .combo y, .spin s]) :
    ∃ o, w.saveValue = .ok o := by
  obtain ⟨n₀, c₀, t₀⟩ := w₀
  obtain ⟨n, c, t⟩ := w
  obtain ⟨-, -, hc⟩ := hf
  unfold saveValue
  split
  · cases hc with
    | @gridGroupBox g h _ hg =>
      obtain ⟨x, y, s, ht⟩ := hgrid g rfl
      exact ⟨_, by simp only [Control.saveValue, Grid.save_eq (Grid.reachable_shaped hg ht),
        ok_bind, pure_eq_ok]; rfl⟩
    | _ => exact ⟨_, rfl⟩
  · exact ⟨_, rfl⟩

theorem restore_saveValue {w₀ w : Widget} {p : JsonObject} (hf : w₀.Follows w)
    (hgrid : ∀ g, w₀.control = .gridGroupBox g → RestorableGrid g.config)
    (hp : ∀ v, w.saved = some v → p.value w.objectName = some v) {o : Option JsonValue}
    (hs : w.saveValue = .ok o) :
    ∃ w', NodeModel.restoreWidget p w₀ = .ok w' ∧ w'.saveValue = w.saveValue ∧
      w'.objectName = w.objectName := by
  unfold NodeModel.restoreWidget
  cases htyped : w.typed
  · have h₀ : w₀.typed = false := hf.typed_eq ▸ htyped
    refine ⟨w₀, ?_, by rw [saveValue_of_not_typed h₀, saveValue_of_not_typed htyped],
      hf.objectName_eq.symm⟩
    split
    · simp only [restoreValue, h₀]; rfl
    · rfl
  · have h₀ : w₀.typed = true := hf.typed_eq ▸ htyped
    have hsv := hs
    rw [saveValue, if_pos htyped] at hs
    obtain ⟨v, hv, hs⟩ := bind_eq_ok.mp hs
    cases hs
    have hval : p.value w₀.objectName = some v := by
      rw [← hf.objectName_eq, hp v (saved_of_saveValue hsv)]
    obtain ⟨c', hc', hs'⟩ := Control.restoreValue_saveValue hf.control hgrid hv
    refine ⟨{ w₀ with control := c' }, ?_, ?_, hf.objectName_eq.symm⟩
    · simp only [hval, restoreValue, h₀, if_true, hc', ok_bind, pure_eq_ok]
    · rw [hsv, saveValue, if_pos h₀]
      simp only [hs']
      rfl

end Widget

theorem newControl_bool {defaults : List (List Char)} {c : Control}
    (h : newControl defaults .configBool = .ok (some c)) : ∃ b, c = .checkBox b := by
  obtain ⟨_, -, h⟩ := bind_eq_ok.mp h
  obtain ⟨_, -, h⟩ := bind_eq_ok.mp h
  cases h
  exact ⟨_, rfl⟩

namespace NodeModel

variable {configs : List GuiConfig} {m₀ m : NodeModel}

theorem reachable_saveValue_ok
    (hgrid : ∀ c ∈ configs, c.type = .configListListInt →
      ∃ x y s, rowWidgets c.defaults = .ok [.combo x, .combo y, .spin s])
    (h₀ : create configs = .ok m₀) (hm : Reachable configs m) :
    ∀ w ∈ m.widgets, ∃ o, w.saveValue = .ok o := by
  intro w hw
  obtain ⟨w₀, hw₀, hf⟩ := forall₂_mem_right (reachable_follows h₀ hm) hw
  refine Widget.saveValue_ok hf fun g hg => ?_
  obtain ⟨c, hc, ht, hcreate⟩ := create_grids h₀ w₀ hw₀ g hg
  rw [Grid.create_config hcreate]
  exact hgrid c hc ht

theorem restoreWidget_ok {w : Widget} (hng : ∀ g, w.control ≠ .gridGroupBox g)
    (p : JsonObject) : ∃ w', restoreWidget p w = .ok w' := by
  unfold restoreWidget Widget.restoreValue
  split
  · split
    · cases h : w.control with
      | gridGroupBox g => exact absurd h (hng g)
      | _ => exact ⟨_, rfl⟩
    · exact ⟨_, rfl⟩
  · exact ⟨_, rfl⟩

theorem restore_ok_of_no_grid (hng : ∀ w ∈ m.widgets, ∀ g, w.control ≠ .gridGroupBox g)
    (p : JsonObject) : ∃ m', m.restore p = .ok m' ∧
      List.Forall₂ (fun w w' => restoreWidget p w = .ok w') m.widgets m'.widgets := by
  obtain ⟨ws', hws', hq⟩ := mapM_of_forall₂ (List.forall₂_same.mpr fun w _ => rfl)
    (Q := fun w w' => restoreWidget p w = .ok w') fun w b hwb hw _ => by
      subst hwb
      obtain ⟨w', h⟩ := restoreWidget_ok (hng w hw) p
      exact ⟨w', h, h⟩
  exact ⟨⟨ws'⟩, by rw [restore, hws', ok_bind]; rfl, hq⟩

theorem reachable_no_grid (hng : ∀ c ∈ configs, c.type ≠ .configListListInt)
    (h₀ : create configs = .ok m₀) (hm : Reachable configs m) :
    ∀ w ∈ m.widgets, ∀ g, w.control ≠ .gridGroupBox g := by
  intro w hw g hg
  obtain ⟨w₀, hw₀, hf⟩ := forall₂_mem_right (reachable_follows h₀ hm) hw
  obtain ⟨g₀, hg₀, -⟩ := Control.follows_gridGroupBox (hg ▸ hf.control)
  obtain ⟨c, hc, ht, -⟩ := create_grids h₀ w₀ hw₀ g₀ hg₀
  exact hng c hc ht

/-- An option of a kind the panel has no branch for takes over the widget of the option before
it, renaming it and taking its type away. Over every run, whatever the user sets in that widget,
`save` writes no value under the earlier option's description, which keeps what the base object
holds, when the options' descriptions are distinct. -/
theorem save_skips_option_before_other {pre post : List GuiConfig} {cp co : GuiConfig}
    (hnodup : ((pre ++ cp :: co :: post).map GuiConfig.description).Nodup)
    (hco : co.type = .other) (h₀ : create (pre ++ cp :: co :: post) = .ok m₀)
    (hm : Reachable (pre ++ cp :: co :: post) m) (hs : m.save base = .ok json) :
    json.value cp.description = base.value cp.description := by
  have hnames : m.widgets.map Widget.objectName = m₀.widgets.map Widget.objectName :=
    map_eq_map_of_forall₂ ((reachable_follows h₀ hm).imp fun _ _ h => h.objectName_eq)
  have hnot : cp.description ∉ m.widgets.map Widget.objectName := fun hmem => by
    rw [List.map_append, List.map_cons, List.nodup_middle, List.nodup_cons] at hnodup
    exact hnodup.1 (by simpa using (create_names_other hco h₀).subset (hnames ▸ hmem))
  rw [value_save hs, lastSaved_of_not_mem hnot, Option.none_or]

def portThenHidden : List GuiConfig :=
  [⟨.configBool, "Legend".toList, ["1".toList]⟩, ⟨.configInt, "Port".toList, portDefaults⟩,
    ⟨.other, "Hidden".toList, []⟩]

theorem save_skips_port : ∃ m json, Reachable portThenHidden m ∧ m.save [] = .ok json ∧
    json.value "Port".toList = none :=
  have hreach : Reachable portThenHidden _ :=
    .step (e := .edit 1 (.setValue 9000)) (.create rfl) rfl
  ⟨_, _, hreach, rfl, save_skips_option_before_other (by decide) rfl
    (rfl : create ([⟨.configBool, "Legend".toList, ["1".toList]⟩] ++
      ⟨.configInt, "Port".toList, portDefaults⟩ :: ⟨.other, "Hidden".toList, []⟩ :: []) = .ok _)
    hreach rfl⟩

/-- Saving a panel and restoring the object into a fresh node of the same type gives every
widget back the value it saved, so that saving again writes the same object, when the options'
descriptions are distinct and every grid option's saved text restores. -/
theorem restore_save_node (hnodup : (configs.map GuiConfig.description).Nodup)
    (hgrid : ∀ c ∈ configs, c.type = .configListListInt → RestorableGrid c.defaults)
    (h₀ : create configs = .ok m₀) (hm : Reachable configs m) (base : JsonObject) :
    ∃ json m', m.save base = .ok json ∧ m₀.restore json = .ok m' ∧ m'.save base = .ok json ∧
      m'.widgets.map Widget.saveValue = m.widgets.map Widget.saveValue := by
  have hf := reachable_follows h₀ hm
  have hnames : m.widgets.map Widget.objectName = m₀.widgets.map Widget.objectName :=
    map_eq_map_of_forall₂ (hf.imp fun _ _ h => h.objectName_eq)
  have hnd : (m.widgets.map Widget.objectName).Nodup := hnames ▸ (create_names h₀).nodup hnodup
  have hgrid₀ : ∀ w₀ ∈ m₀.widgets, ∀ g, w₀.control = .gridGroupBox g →
      RestorableGrid g.config := fun w₀ hw₀ g hg => by
    obtain ⟨c, hc, ht, hcreate⟩ := create_grids h₀ w₀ hw₀ g hg
    rw [Grid.create_config hcreate]
    exact hgrid c hc ht
  have hok := reachable_saveValue_ok
    (fun c hc ht => let ⟨x, y, w, h, _⟩ := hgrid c hc ht; ⟨x, y, w, h⟩) h₀ hm
  obtain ⟨json, hjson⟩ := save_ok hok base
  -- each widget's value is the one under its name
  have hval : ∀ w ∈ m.widgets, ∀ v, w.saved = some v → json.value w.objectName = some v :=
    fun w hw v hv => by rw [value_save hjson, lastSaved_of_nodup hnd hw, hv, Option.or_some]
  obtain ⟨ws', hws', hq⟩ := mapM_of_forall₂ hf fun w₀ w hfw hw₀ hw => by
    obtain ⟨o, ho⟩ := hok w hw
    exact Widget.restore_saveValue hfw (hgrid₀ w₀ hw₀) (hval w hw) ho
  refine ⟨json, ⟨ws'⟩, hjson, by rw [restore, hws', ok_bind]; rfl, ?_, ?_⟩
  · rw [save_congr hq, hjson]
  · exact map_eq_map_of_forall₂ (hq.imp fun _ _ h => h.1)

theorem restore_save_plot : ∃ m₀ m, create plotConfigs = .ok m₀ ∧ Reachable plotConfigs m ∧
    ∃ json m', m.save [] = .ok json ∧ m₀.restore json = .ok m' ∧ m'.save [] = .ok json ∧
      m'.widgets.map Widget.saveValue = m.widgets.map Widget.saveValue :=
  have hreach : Reachable plotConfigs _ :=
    .step (e := .edit 4 (.grid (.setWindow 1 5)))
      (.step (e := .edit 0 (.setChecked false)) (.create rfl) rfl) rfl
  have hgrid : ∀ c ∈ plotConfigs, c.type = .configListListInt → RestorableGrid c.defaults := by
    intro c hc ht
    simp only [plotConfigs, List.mem_cons, List.mem_singleton, List.not_mem_nil, or_false] at hc
    rcases hc with rfl | rfl | rfl | rfl | rfl | rfl <;> first
      | exact show RestorableGrid Grid.sourcesAndWindow from ⟨_, _, _, rfl, rfl, by decide⟩
      | cases ht
  ⟨_, _, rfl, hreach, restore_save_node (by decide) hgrid rfl hreach []⟩

/-- Two options with one description share one key of the object, the later one's. A check box
followed by another option of its description loses its state: some panel, saved and restored
into a fresh node, gets back the other option's value in the check box instead of its own. -/
theorem restore_save_duplicate (hh : ∀ c ∈ configs, c.type ≠ .other)
    (hng : ∀ c ∈ configs, c.type ≠ .configListListInt) {i j : Nat} {ci cj : GuiConfig}
    (hij : i < j) (hi : configs[i]? = some ci) (hj : configs[j]? = some cj)
    (hbool : ci.type = .configBool) (hname : cj.description = ci.description)
    (h₀ : create configs = .ok m₀) (base : JsonObject) :
    ∃ m json m', Reachable configs m ∧ m.save base = .ok json ∧ m₀.restore json = .ok m' ∧
      m'.widgets[i]?.map Widget.saveValue ≠ m.widgets[i]?.map Widget.saveValue := by
  have hal := create_handled hh h₀
  obtain ⟨wi, hwi, hni, hti, hci⟩ := forall₂_getElem? hal hi
  obtain ⟨wj, hwj, hnj, htj, -⟩ := forall₂_getElem? hal hj
  obtain ⟨b₀, hb₀⟩ := newControl_bool (hbool ▸ hci)
  have hgrid : ∀ c ∈ configs, c.type = .configListListInt →
      ∃ x y s, rowWidgets c.defaults = .ok [.combo x, .combo y, .spin s] :=
    fun c hc ht => absurd ht (hng c hc)
  -- the later widget writes a value under the shared name
  let key := wi.objectName
  have hlater : (lastSaved key (m₀.widgets.drop (i + 1))).isSome := by
    obtain ⟨o, ho⟩ := reachable_saveValue_ok hgrid h₀ (.create h₀) wj (List.getElem?_mem hwj)
    obtain ⟨v, hv⟩ := Widget.exists_saved_of_typed htj ho
    refine lastSaved_isSome (List.getElem?_mem (n := j - (i + 1)) ?_) (by rw [hnj, hname, ← hni]) hv
    rw [List.getElem?_drop, Nat.add_sub_cancel' hij, hwj]
  obtain ⟨v, hv⟩ := Option.isSome_iff_exists.mp hlater
  -- the user sets the check box to the other state than the one restored from that value
  have hlt : i < m₀.widgets.length := (List.getElem?_eq_some_iff.mp hwi).1
  let wu : Widget := { wi with control := .checkBox !v.toBool }
  have hstep : m₀.step (.edit i (.setChecked !v.toBool)) = .ok ⟨m₀.widgets.set i wu⟩ := by
    simp only [step, hwi, hb₀]
    rfl
  have hm : Reachable configs ⟨m₀.widgets.set i wu⟩ := .step (.create h₀) hstep
  obtain ⟨json, hjson⟩ := save_ok (reachable_saveValue_ok hgrid h₀ hm) base
  have hkey : json.value key = some v := by
    have hdrop : (m₀.widgets.set i wu).drop (i + 1) = m₀.widgets.drop (i + 1) :=
      List.drop_set_of_lt _ _ (Nat.lt_succ_self i)
    rw [value_save hjson, lastSaved_of_isSome_drop (hdrop ▸ hlater), hdrop, hv, Option.or_some]
  obtain ⟨m', hm', hq⟩ := restore_ok_of_no_grid (reachable_no_grid hng h₀ (.create h₀)) json
  obtain ⟨wr, hwr, hr⟩ := forall₂_getElem? hq hwi
  simp only [restoreWidget, hkey, Widget.restoreValue, hti, hb₀, if_true] at hr
  cases hr
  refine ⟨_, json, m', hm, hjson, hm', ?_⟩
  rw [hwr, List.getElem?_set_self hlt]
  simp [Widget.saveValue, hti, Control.saveValue, wu]

def twoLegends : List GuiConfig :=
  [⟨.configBool, "Legend".toList, ["1".toList]⟩, ⟨.configBool, "Legend".toList, ["0".toList]⟩]

theorem restore_save_twoLegends : ∃ m₀, create twoLegends = .ok m₀ ∧
    ∃ m json m', Reachable twoLegends m ∧ m.save [] = .ok json ∧ m₀.restore json = .ok m' ∧
      m'.widgets[0]?.map Widget.saveValue ≠ m.widgets[0]?.map Widget.saveValue :=
  ⟨_, rfl, @restore_save_duplicate twoLegends _ (by decide) (by decide) 0 1 _ _ (by decide) rfl rfl
    rfl rfl rfl []⟩

end NodeModel

end Instinct.Gui
