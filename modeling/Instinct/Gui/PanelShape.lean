import Instinct.Gui.Panel

namespace Instinct.Gui

theorem mapM_eq_ok {ε α β} {f : α → Except ε β} {l : List α} :
    ∀ {l' : List β}, l.mapM f = .ok l' ↔ List.Forall₂ (fun a b => f a = .ok b) l l' := by
  induction l with
  | nil => intro l'; rw [List.mapM_nil]; cases l' <;> simp
  | cons a l ih =>
    intro l'
    rw [List.mapM_cons]
    cases l' <;> simp [-List.mapM, bind_eq_ok, ih]

theorem forall₂_trans {α β γ} {R : α → β → Prop} {S : β → γ → Prop} {T : α → γ → Prop}
    (h : ∀ a b c, R a b → S b c → T a c) :
    ∀ {l₁ l₂ l₃}, List.Forall₂ R l₁ l₂ → List.Forall₂ S l₂ l₃ → List.Forall₂ T l₁ l₃
  | _, _, _, .nil, .nil => .nil
  | _, _, _, .cons hab hl, .cons hbc hl' => .cons (h _ _ _ hab hbc) (forall₂_trans h hl hl')

theorem mapM_of_forall₂ {ε α β γ} {R : α → β → Prop} {f : α → Except ε γ} {Q : β → γ → Prop} :
    ∀ {l₀ : List α} {l : List β}, List.Forall₂ R l₀ l →
      (∀ a b, R a b → a ∈ l₀ → b ∈ l → ∃ c, f a = .ok c ∧ Q b c) →
      ∃ l', l₀.mapM f = .ok l' ∧ List.Forall₂ Q l l'
  | _, _, .nil, _ => ⟨[], rfl, .nil⟩
  | a :: _, b :: _, .cons hab hl, hf => by
    obtain ⟨c, hc, hq⟩ := hf a b hab (List.mem_cons_self _ _) (List.mem_cons_self _ _)
    obtain ⟨l', hl', hq'⟩ := mapM_of_forall₂ hl fun a b h ha hb =>
      hf a b h (List.mem_cons_of_mem _ ha) (List.mem_cons_of_mem _ hb)
    exact ⟨c :: l', by rw [List.mapM_cons, hc, ok_bind, hl', ok_bind]; rfl, .cons hq hq'⟩

theorem forall₂_mem_right {α β} {R : α → β → Prop} :
    ∀ {l₁ : List α} {l₂ : List β}, List.Forall₂ R l₁ l₂ → ∀ {b}, b ∈ l₂ → ∃ a ∈ l₁, R a b
  | _, _, .nil, _, h => absurd h (List.not_mem_nil _)
  | a :: _, _, .cons hab hl, _, h => by
    rcases List.mem_cons.mp h with rfl | h
    · exact ⟨a, List.mem_cons_self _ _, hab⟩
    · obtain ⟨a', ha', h'⟩ := forall₂_mem_right hl h
      exact ⟨a', List.mem_cons_of_mem _ ha', h'⟩

theorem map_eq_map_of_forall₂ {α β γ} {f : α → γ} {g : β → γ} :
    ∀ {l₁ : List α} {l₂ : List β}, List.Forall₂ (fun a b => g b = f a) l₁ l₂ →
      l₂.map g = l₁.map f
  | _, _, .nil => rfl
  | _, _, .cons h hl => by rw [List.map_cons, List.map_cons, h, map_eq_map_of_forall₂ hl]

/-- `c` can have come from the freshly built `fresh` by the user's actions and restores: the same
class, with the same range or items, and for a grid one its configuration can show. -/
inductive Control.Follows : Control → Control → Prop where
  | checkBox (b b' : Bool) : Follows (.checkBox b) (.checkBox b')
  | spinBox {s t : SpinBox} : t.minimum = s.minimum → t.maximum = s.maximum →
      Follows (.spinBox s) (.spinBox t)
  | doubleSpinBox {d e : DoubleSpinBox} : e.minimum = d.minimum → e.maximum = d.maximum →
      Follows (.doubleSpinBox d) (.doubleSpinBox e)
  | lineEdit (e f : LineEdit) : Follows (.lineEdit e) (.lineEdit f)
  | comboBox {c d : ComboBox} : d.items = c.items → Follows (.comboBox c) (.comboBox d)
  | gridGroupBox {g h : Grid} : Grid.create g.config = .ok g → Grid.Reachable g.config h →
      Follows (.gridGroupBox g) (.gridGroupBox h)
  | mapSpinBox {s t : SpinBox} : t.minimum = s.minimum → t.maximum = s.maximum →
      Follows (.mapSpinBox s) (.mapSpinBox t)

/-- A widget that can have come from `fresh`: the same name and type, the control following. -/
structure Widget.Follows (fresh w : Widget) : Prop where
  objectName_eq : w.objectName = fresh.objectName
  typed_eq : w.typed = fresh.typed
  control : fresh.control.Follows w.control

namespace Control

theorem follows_apply {c d d' : Control} {e : ControlEvent} (h : c.Follows d)
    (ha : d.apply e = .ok d') : c.Follows d' := by
  cases h with
  | checkBox b b' => cases e <;> cases ha <;> exact .checkBox _ _
  | spinBox hmin hmax => cases e <;> cases ha <;> exact .spinBox hmin hmax
  | doubleSpinBox hmin hmax => cases e <;> cases ha <;> exact .doubleSpinBox hmin hmax
  | lineEdit => cases e <;> cases ha <;> exact .lineEdit _ _
  | comboBox hitems =>
    cases e <;> cases ha
    all_goals first
      | exact .comboBox hitems
      | exact .comboBox (by split <;> exact hitems)
  | gridGroupBox hc hg =>
    cases e with
    | grid e =>
      obtain ⟨g', hg', h⟩ := bind_eq_ok.mp ha
      cases h
      exact .gridGroupBox hc (.step hg hg')
    | _ => cases ha; exact .gridGroupBox hc hg
  | mapSpinBox hmin hmax => cases e <;> cases ha <;> exact .mapSpinBox hmin hmax

theorem follows_restoreValue {c d d' : Control} {v : JsonValue} (h : c.Follows d)
    (hr : d.restoreValue v = .ok d') : c.Follows d' := by
  cases h with
  | checkBox b b' => cases hr; exact .checkBox _ _
  | spinBox hmin hmax => cases hr; exact .spinBox hmin hmax
  | doubleSpinBox hmin hmax => cases hr; exact .doubleSpinBox hmin hmax
  | lineEdit => cases hr; exact .lineEdit _ _
  | comboBox hitems => cases hr; exact .comboBox (by simpa using hitems)
  | gridGroupBox hc hg =>
    obtain ⟨g', hg', h⟩ := bind_eq_ok.mp hr
    cases h
    exact .gridGroupBox hc (.step (e := .restore _) hg hg')
  | mapSpinBox hmin hmax => cases hr; exact .mapSpinBox hmin hmax

theorem follows_gridGroupBox {c : Control} {h : Grid} (hf : c.Follows (.gridGroupBox h)) :
    ∃ g, c = .gridGroupBox g ∧ Grid.create g.config = .ok g ∧ Grid.Reachable g.config h := by
  cases hf with
  | gridGroupBox hc hg => exact ⟨_, rfl, hc, hg⟩

end Control

theorem Widget.follows_restore {w₀ w w' : Widget} {p : JsonObject} (h : w₀.Follows w)
    (hr : NodeModel.restoreWidget p w = .ok w') : w₀.Follows w' := by
  unfold NodeModel.restoreWidget at hr
  split at hr
  · unfold Widget.restoreValue at hr
    split at hr
    · obtain ⟨c', hc', hw'⟩ := bind_eq_ok.mp hr
      cases hw'
      exact ⟨h.objectName_eq, h.typed_eq, Control.follows_restoreValue h.control hc'⟩
    · cases hr; exact h
  · cases hr; exact h

theorem Grid.create_config {config : List (List Char)} {g : Grid}
    (h : Grid.create config = .ok g) : g.config = config := by
  obtain ⟨_, -, h⟩ := bind_eq_ok.mp h
  cases h
  rfl

theorem newControl_grid {defaults : List (List Char)} {t : ConfigOptions} {g : Grid}
    (h : newControl defaults t = .ok (some (.gridGroupBox g))) :
    t = .configListListInt ∧ Grid.create defaults = .ok g := by
  cases t <;> simp [newControl, bind_eq_ok, mapError_eq_ok] at h ⊢
  exact h

theorem newControl_none {defaults : List (List Char)} {t : ConfigOptions}
    (h : newControl defaults t = .ok none) : t = .other := by
  cases t <;> simp [newControl, bind_eq_ok, mapError_eq_ok] at h ⊢

theorem newControl_follows {defaults : List (List Char)} {t : ConfigOptions} {c : Control}
    (h : newControl defaults t = .ok (some c)) : c.Follows c := by
  cases c with
  | checkBox b => exact .checkBox b b
  | spinBox s => exact .spinBox rfl rfl
  | doubleSpinBox d => exact .doubleSpinBox rfl rfl
  | lineEdit e => exact .lineEdit e e
  | comboBox c => exact .comboBox rfl
  | gridGroupBox g =>
    have hg := (newControl_grid h).2
    rw [← Grid.create_config hg] at hg
    exact .gridGroupBox hg (.create hg)
  | mapSpinBox s => exact .mapSpinBox rfl rfl

theorem spinBoxFromDefaults_eq {defaults : List (List Char)} {first : Nat} {m d M : CInt}
    (hm : (vectorAt defaults first >>= stoi) = .ok m)
    (hd : (vectorAt defaults (first + 1) >>= stoi) = .ok d)
    (hM : (vectorAt defaults (first + 2) >>= stoi) = .ok M) :
    ∃ s, spinBoxFromDefaults defaults first = .ok s ∧ s.minimum = min m.val M.val ∧
      s.maximum = M.val ∧ s.value = max (min m.val M.val) (min d.val M.val) := by
  obtain ⟨_, h₀, hm⟩ := bind_eq_ok.mp hm
  obtain ⟨_, h₁, hd⟩ := bind_eq_ok.mp hd
  obtain ⟨_, h₂, hM⟩ := bind_eq_ok.mp hM
  exact ⟨((SpinBox.default.setMinimum m).setMaximum M).setValue d.val,
    by simp only [spinBoxFromDefaults, h₀, hm, h₁, hd, h₂, hM, ok_bind, pure_eq_ok], rfl, rfl, rfl⟩

/-- The spin box of a `CONFIG_INT` or `CONFIG_MAP_INT` option keeps its default `d` exactly when
`min m M ≤ d ≤ M`, so always when `m ≤ d ≤ M`: the default is set once the range is complete, and
Qt's default maximum `99`, which cuts a grid's window, never cuts it. -/
theorem spinBoxFromDefaults_value_eq_iff {defaults : List (List Char)} {first : Nat}
    {m d M : CInt} (hm : (vectorAt defaults first >>= stoi) = .ok m)
    (hd : (vectorAt defaults (first + 1) >>= stoi) = .ok d)
    (hM : (vectorAt defaults (first + 2) >>= stoi) = .ok M) :
    ∃ s, spinBoxFromDefaults defaults first = .ok s ∧
      (s.value = d.val ↔ min m.val M.val ≤ d.val ∧ d.val ≤ M.val) := by
  obtain ⟨s, hs, -, -, hv⟩ := spinBoxFromDefaults_eq hm hd hM
  exact ⟨s, hs, by rw [hv]; omega⟩

def portDefaults : List (List Char) := ["0".toList, "8080".toList, "65535".toList]

theorem spinBoxFromDefaults_port :
    ∃ s, spinBoxFromDefaults portDefaults 0 = .ok s ∧ s.value = 8080 :=
  let ⟨s, hs, hiff⟩ := spinBoxFromDefaults_value_eq_iff
    (rfl : (vectorAt portDefaults 0 >>= stoi) = .ok ⟨0, by decide, by decide⟩)
    (rfl : (vectorAt portDefaults 1 >>= stoi) = .ok ⟨8080, by decide, by decide⟩)
    (rfl : (vectorAt portDefaults 2 >>= stoi) = .ok ⟨65535, by decide, by decide⟩)
  ⟨s, hs, hiff.mpr ⟨by decide, by decide⟩⟩

theorem addOption_cases {ws ws' : List Widget} {config : GuiConfig}
    (h : addOption ws config = .ok ws') :
    (∃ c, newControl config.defaults config.type = .ok (some c) ∧
      ws' = ws ++ [⟨config.description, c, true⟩]) ∨
    (newControl config.defaults config.type = .ok none ∧ ∃ w, ws.getLast? = some w ∧
      ws' = ws.dropLast ++ [{ w with objectName := config.description, typed := false }]) := by
  obtain ⟨o, ho, h⟩ := bind_eq_ok.mp h
  cases o with
  | some c => cases h; exact .inl ⟨c, ho, rfl⟩
  | none =>
    simp only at h
    split at h
    · next w hw => cases h; exact .inr ⟨ho, w, hw, rfl⟩
    · cases h

theorem addOption_names {ws ws' : List Widget} {config : GuiConfig}
    (h : addOption ws config = .ok ws') :
    (ws'.map Widget.objectName).Sublist (ws.map Widget.objectName ++ [config.description]) := by
  rcases addOption_cases h with ⟨c, -, rfl⟩ | ⟨-, w, -, rfl⟩
  · simp
  · rw [List.map_append, List.map_dropLast]
    exact (List.dropLast_sublist _).append (.refl _)

namespace NodeModel

variable {configs : List GuiConfig} {m₀ m m' : NodeModel}

theorem foldlM_addOption_names :
    ∀ {configs : List GuiConfig} {ws ws' : List Widget}, configs.foldlM addOption ws = .ok ws' →
      (ws'.map Widget.objectName).Sublist
        (ws.map Widget.objectName ++ configs.map GuiConfig.description)
  | [], _, _, h => by cases h; simp
  | c :: cs, ws, ws', h => by
    obtain ⟨ws₁, h₁, h₂⟩ := bind_eq_ok.mp h
    have := (foldlM_addOption_names h₂).trans ((addOption_names h₁).append_right _)
    simpa using this

theorem create_names (h : create configs = .ok m) :
    (m.widgets.map Widget.objectName).Sublist (configs.map GuiConfig.description) := by
  obtain ⟨ws, hws, h⟩ := bind_eq_ok.mp h
  cases h
  simpa using foldlM_addOption_names hws

theorem addOption_other_names {ws ws' : List Widget} {config : GuiConfig}
    (ht : config.type = .other) (h : addOption ws config = .ok ws') :
    ws'.map Widget.objectName = (ws.map Widget.objectName).dropLast ++ [config.description] := by
  rcases addOption_cases h with ⟨c, hc, -⟩ | ⟨-, w, -, rfl⟩
  · rw [ht] at hc
    cases hc
  · simp [List.map_dropLast]

theorem addOption_names_dropLast {ws ws' : List Widget} {config : GuiConfig}
    (h : addOption ws config = .ok ws') :
    (ws'.map Widget.objectName).dropLast.Sublist (ws.map Widget.objectName) := by
  rcases addOption_cases h with ⟨c, -, rfl⟩ | ⟨-, w, -, rfl⟩
  · simp
  · simpa [List.map_dropLast] using List.dropLast_sublist _

theorem create_names_other {pre post : List GuiConfig} {cp co : GuiConfig}
    (hco : co.type = .other) (h : create (pre ++ cp :: co :: post) = .ok m) :
    (m.widgets.map Widget.objectName).Sublist ((pre ++ co :: post).map GuiConfig.description) := by
  obtain ⟨ws, hws, h⟩ := bind_eq_ok.mp h
  cases h
  rw [List.foldlM_append] at hws
  obtain ⟨ws₁, h₁, hws⟩ := bind_eq_ok.mp hws
  obtain ⟨ws₂, h₂, hws⟩ := bind_eq_ok.mp hws
  obtain ⟨ws₃, h₃, hws⟩ := bind_eq_ok.mp hws
  have hpre : (ws₁.map Widget.objectName).Sublist (pre.map GuiConfig.description) := by
    simpa using foldlM_addOption_names h₁
  have hco' : (ws₃.map Widget.objectName).Sublist
      (pre.map GuiConfig.description ++ [co.description]) := by
    rw [addOption_other_names hco h₃]
    exact ((addOption_names_dropLast h₂).trans hpre).append_right _
  simpa using (foldlM_addOption_names hws).trans (hco'.append_right _)

theorem create_handled (hh : ∀ c ∈ configs, c.type ≠ .other) (h : create configs = .ok m) :
    List.Forall₂ (fun c w => w.objectName = c.description ∧ w.typed = true ∧
      newControl c.defaults c.type = .ok (some w.control)) configs m.widgets := by
  obtain ⟨ws, hws, h⟩ := bind_eq_ok.mp h
  cases h
  suffices ∀ {cs : List GuiConfig} {done : List GuiConfig} {ws ws' : List Widget},
      (∀ c ∈ cs, c.type ≠ .other) →
      List.Forall₂ (fun c w => w.objectName = c.description ∧ w.typed = true ∧
        newControl c.defaults c.type = .ok (some w.control)) done ws →
      cs.foldlM addOption ws = .ok ws' →
      List.Forall₂ (fun c w => w.objectName = c.description ∧ w.typed = true ∧
        newControl c.defaults c.type = .ok (some w.control)) (done ++ cs) ws' by
    simpa using this hh .nil hws
  intro cs
  induction cs with
  | nil => intro _ _ _ _ hd h; cases h; simpa using hd
  | cons c cs ih =>
    intro done ws ws' hh hd h
    obtain ⟨ws₁, h₁, h₂⟩ := bind_eq_ok.mp h
    rcases addOption_cases h₁ with ⟨x, hx, rfl⟩ | ⟨hx, -⟩
    · have := ih (fun c' hc' => hh c' (List.mem_cons_of_mem _ hc'))
        (List.rel_append hd (.cons ⟨rfl, rfl, hx⟩ .nil)) h₂
      simpa using this
    · exact absurd (newControl_none hx) (hh c (List.mem_cons_self _ _))

/-- Widget `i` holds the control the `i`-th option of a kind with a branch built: an option of a
kind without one only renames the last widget. -/
theorem create_controls (h : create configs = .ok m) :
    List.Forall₂ (fun c x => newControl c.defaults c.type = .ok (some x))
      (configs.filter (·.type != .other)) (m.widgets.map Widget.control) := by
  obtain ⟨ws, hws, h⟩ := bind_eq_ok.mp h
  cases h
  suffices ∀ (done : List GuiConfig) {cs : List GuiConfig} {ws ws' : List Widget},
      List.Forall₂ (fun c x => newControl c.defaults c.type = .ok (some x))
        (done.filter (·.type != .other)) (ws.map Widget.control) →
      cs.foldlM addOption ws = .ok ws' →
      List.Forall₂ (fun c x => newControl c.defaults c.type = .ok (some x))
        ((done ++ cs).filter (·.type != .other)) (ws'.map Widget.control) by
    simpa using @this [] configs [] ws .nil hws
  intro done cs
  induction cs generalizing done with
  | nil => intro ws ws' hd h; cases h; simpa using hd
  | cons c cs ih =>
    intro ws ws' hd h
    obtain ⟨ws₁, h₁, h₂⟩ := bind_eq_ok.mp h
    rw [show done ++ c :: cs = (done ++ [c]) ++ cs by simp]
    refine ih _ ?_ h₂
    rcases addOption_cases h₁ with ⟨x, hx, rfl⟩ | ⟨hx, w, hw, rfl⟩
    · have hc : c.type ≠ .other := fun ht => by rw [ht] at hx; cases hx
      simpa [hc] using List.rel_append hd (.cons hx .nil)
    · have hkeep : (ws.dropLast ++ [{ w with objectName := c.description, typed := false }]).map
          Widget.control = ws.map Widget.control := by
        conv_rhs => rw [← List.dropLast_append_getLast? w hw]
        simp
      simpa [newControl_none hx, hkeep] using hd

theorem create_grids (h : create configs = .ok m) :
    ∀ w ∈ m.widgets, ∀ g, w.control = .gridGroupBox g →
      ∃ c ∈ configs, c.type = .configListListInt ∧ Grid.create c.defaults = .ok g := by
  intro w hw g hg
  obtain ⟨c, hc, hx⟩ := forall₂_mem_right (create_controls h) (List.mem_map_of_mem _ hw)
  rw [hg] at hx
  exact ⟨c, List.mem_of_mem_filter hc, newControl_grid hx⟩

theorem create_follows (h : create configs = .ok m) :
    List.Forall₂ Widget.Follows m.widgets m.widgets :=
  List.forall₂_same.mpr fun _ hw =>
    have ⟨_, _, hx⟩ := forall₂_mem_right (create_controls h) (List.mem_map_of_mem _ hw)
    ⟨rfl, rfl, newControl_follows hx⟩

theorem follows_step (hf : List.Forall₂ Widget.Follows m₀.widgets m.widgets) {e : NodeEvent}
    (h : m.step e = .ok m') : List.Forall₂ Widget.Follows m₀.widgets m'.widgets := by
  cases e with
  | edit i e =>
    simp only [step] at h
    split at h
    · next w hw =>
      obtain ⟨c', hc', hm'⟩ := bind_eq_ok.mp h
      cases hm'
      refine (forall₂_set hf.flip fun w₀ hw₀ => ?_).flip
      obtain ⟨w₁, hw₁, hf₁⟩ := forall₂_getElem? hf.flip hw
      cases hw₀.symm.trans hw₁
      exact ⟨hf₁.objectName_eq, hf₁.typed_eq, Control.follows_apply hf₁.control hc'⟩
    · cases h; exact hf
  | restore p =>
    obtain ⟨ws, hws, h⟩ := bind_eq_ok.mp h
    cases h
    refine forall₂_trans ?_ hf (mapM_eq_ok.mp hws)
    exact fun _ _ _ hf hr => Widget.follows_restore hf hr

/-- Whatever the user does and whatever is restored, the panel keeps the widgets the constructor
built: the same names and types, the same ranges and items, and each grid one its configuration
can show. -/
theorem reachable_follows (h₀ : create configs = .ok m₀) (h : Reachable configs m) :
    List.Forall₂ Widget.Follows m₀.widgets m.widgets := by
  induction h with
  | create hc =>
    rw [h₀] at hc
    cases hc
    exact create_follows h₀
  | step _ hs ih => exact follows_step ih hs

def plotConfigs : List GuiConfig :=
  [⟨.configBool, "Legend".toList, ["1".toList]⟩,
    ⟨.configInt, "Port".toList, portDefaults⟩,
    ⟨.configString, "File".toList, ["log.csv".toList]⟩,
    ⟨.configList, "Mode".toList, ["Lines".toList, "[Points]".toList]⟩,
    ⟨.configListListInt, "Data".toList, Grid.sourcesAndWindow⟩,
    ⟨.configMapInt, "Rate".toList, ["GPS".toList, "1".toList, "10".toList, "100".toList]⟩]

end NodeModel

end Instinct.Gui
