import Reveal.Proofs.Updates

/-!
# Reveal — activating the checkbox by keys

A key can activate the checkbox only while it has the keyboard focus, and the focus is
kept by the name of a widget. The checkbox below the pane and the checkbox alone have
different names. So a key that activates the checkbox takes the focus from it: the
frame after it draws the other one, and the focus goes with the widget that is gone.

Away from Tab and Escape the focus does not move: it stays or it is lost. A pass of the
focus from one widget to the next needs two frames at most, and the checkbox, which is
always the last widget that is drawn, ends it at the latest.

## Results

* `Turn.offerAll_of_still`  — without Tab nothing takes the focus.
* `sound_after`             — while the focus is passed on, nothing has it.
* `run_keys`                — of several activating keys only the first can do something.
* `focused_of_tab`          — when Tab gives the focus to the checkbox.
* `keys_after_tab`          — all of this for Tab and keys after any run.
-/

namespace Reveal

open Widget (Name)

/-- Whether a key goes down or up. -/
def Input.isKey : Input → Bool
  | keyDown _ | keyUp _ => true
  | idle | rest | press _ _ | release _ _ => false

/-! ## Turns -/

namespace Focus

namespace Turn

/-- Where Tab was not pressed and no widget has passed the focus on, nothing takes it. -/
theorem offer_of_still {t : Turn} (hpassing : t.passing = false) (hadvancing : t.advancing = false)
    (name : Name) : t.offer name = t := by
  unfold offer
  simp [hpassing, hadvancing]

/-- A turn that is neither passing nor advancing stays, whomever it is offered to. -/
theorem offerAll_of_still {t : Turn} (hpassing : t.passing = false)
    (hadvancing : t.advancing = false) (names : List Name) : t.offerAll names = t := by
  induction names with
  | nil => rfl
  | cons name names ih =>
    rw [offerAll, List.foldl_cons, offer_of_still hpassing hadvancing]
    exact ih

/-- While the focus is passed on, nothing has it. -/
def Sound (t : Turn) : Prop := t.passing = true → t.holder = none

theorem Sound.offer {t : Turn} (h : t.Sound) (name : Name) : (t.offer name).Sound := by
  unfold Turn.offer
  split
  · exact h
  · split
    · -- the widget takes what was passed on
      intro hpassing
      contradiction
    · split
      · split
        · intro _
          rfl
        · exact h
      · split
        · next hfree =>
          intro hpassing
          exact absurd hpassing hfree.2.2
        · exact h

theorem Sound.offerAll {t : Turn} (h : t.Sound) (names : List Name) :
    (t.offerAll names).Sound := by
  induction names generalizing t with
  | nil => exact h
  | cons name names ih => exact ih (h.offer name)

/-- What is passed on from the frame before is taken by the first widget that can. -/
theorem passing_offerAll {t : Turn} (hadvancing : t.advancing = false)
    (hbefore : t.passing = true → t.before = none) {names : List Name}
    (hstop : ∃ name ∈ names, name.takesFocus = true) : (t.offerAll names).passing = false := by
  induction names with
  | nil =>
    obtain ⟨name, hname, -⟩ := hstop
    contradiction
  | cons name names ih =>
    cases hpassing : t.passing with
    | false => rw [offerAll_of_still hpassing hadvancing, hpassing]
    | true =>
      cases htakes : name.takesFocus with
      | true =>
        -- this is the first one
        have htake : t.offer name = { t with holder := some name, passing := false } := by
          simp [offer, htakes, hpassing, hbefore hpassing]
        have hrest := offerAll_of_still (t := { t with holder := some name, passing := false })
          rfl hadvancing names
        show ((t.offer name).offerAll names).passing = false
        rw [htake, hrest]
      | false =>
        have hskip : t.offer name = t := by simp [offer, htakes]
        obtain ⟨stop, hmem, hstop⟩ := hstop
        have hlater : stop ∈ names := by
          rcases List.mem_cons.mp hmem with rfl | hmem
          · rw [htakes] at hstop
            contradiction
          · exact hmem
        show ((t.offer name).offerAll names).passing = false
        rw [hskip]
        exact ih ⟨stop, hlater, hstop⟩

/-- Widgets that do not take the focus might as well not ask for it. -/
theorem offerAll_append_of_none {t : Turn} {names : List Name}
    (h : ∀ name ∈ names, name.takesFocus = false) (last : Name) :
    t.offerAll (names ++ [last]) = t.offer last := by
  induction names with
  | nil => rfl
  | cons name names ih =>
    have hskip : t.offer name = t := by simp [offer, h name List.mem_cons_self]
    show (t.offer name).offerAll (names ++ [last]) = _
    rw [hskip]
    exact ih fun other hother => h other (List.mem_cons_of_mem name hother)

end Turn

/-- While the focus is passed on, nothing has it. -/
def Sound (f : Focus) : Prop := f.passing = true → f.holder = none

theorem Sound.begin {f : Focus} (h : f.Sound) (key : Option Key) : (f.begin key).Sound := by
  intro hpassing
  show (if key = some .escape then none else f.holder) = none
  rw [h hpassing]
  split
  · rfl
  · rfl

theorem Turn.Sound.finish {t : Turn} (h : t.Sound) (drawn : List Name) (leaves : Name → Bool) :
    (t.finish drawn leaves).Sound := by
  intro hpassing
  show ((t.holder.filter _).filter _) = none
  rw [h hpassing]
  rfl

end Focus

namespace Session

open Focus (Turn)

/-! ## What asks for the focus in a frame -/

/-- The names of what the frame draws in the pane. -/
def paneNames (s : Session) (input : Input) : List Name :=
  (s.drawPane input).drawn.map (·.name)

/-- The checkbox is the last widget of a frame. -/
theorem names_layOut (s : Session) (input : Input) :
    (s.layOut input).drawn.map (·.name) =
      s.paneNames input ++ [.checkbox s.window.pane.visible] := by
  have hdrawn : (s.drawPane input).paneDrawn = s.window.pane.visible := by
    unfold drawPane
    dsimp only
    split
    · next h => exact h.symm
    · next h => exact ((Bool.not_eq_true _).mp h).symm
  simp only [layOut, drawCheckbox, checkboxName, paneNames, List.map_map, List.map_append, hdrawn]
  rfl

/-- The checkbox is named for what the frame has found, not for what it leaves. -/
theorem checkboxName_layOut (s : Session) (input : Input) :
    (s.layOut input).checkboxName = .checkbox s.window.pane.visible := by
  simp only [checkboxName, layOut, drawCheckbox, drawPane]
  split
  · next h => rw [h]
  · next h => rw [(Bool.not_eq_true _).mp h]

/-- Nothing in the pane is a checkbox. -/
theorem ne_checkbox_of_mem_paneNames {s : Session} {input : Input} {name : Name}
    (h : name ∈ s.paneNames input) (below : Bool) : name ≠ .checkbox below := by
  unfold paneNames drawPane at h
  dsimp only at h
  split at h
  · -- the background, the text and the two bars
    unfold drawnArea ScrollArea.draw at h
    simp only [List.map_append, List.mem_append, List.mem_map, List.mem_singleton,
      List.map_map, List.map_cons, List.map_nil] at h
    rcases h with ((⟨r, -, rfl⟩ | rfl) | ⟨r, -, rfl⟩) | ⟨r, -, rfl⟩
    · intro heq
      contradiction
    · intro heq
      contradiction
    · intro heq
      contradiction
    · intro heq
      contradiction
  · simp at h

/-- A hidden pane draws nothing. -/
theorem paneNames_of_hidden {s : Session} (h : s.window.pane.visible = false) (input : Input) :
    s.paneNames input = [] := by
  simp [paneNames, drawPane, h]

/-! ## Frames with a key -/

/-- Drawing the pane and the checkbox leaves the focus for the end of the frame. -/
theorem focus_layOut (s : Session) (input : Input) : (s.layOut input).focus = s.focus := by
  simp only [layOut, drawCheckbox, drawPane]
  split
  · rfl
  · rfl

/-- The focus while a frame is drawn. -/
theorem turn_layOut (s : Session) (input : Input) :
    (s.layOut input).turn input =
      (s.focus.begin input.key?).offerAll
        (s.paneNames input ++ [.checkbox s.window.pane.visible]) := by
  rw [turn, focus_layOut, names_layOut]

/-- **While the focus is passed on, nothing has it**, after any moments. -/
theorem sound_after {s : Session} (h : s.focus.Sound) (moments : List Moment) :
    (s.after moments).focus.Sound := by
  induction moments generalizing s with
  | nil => exact h
  | cons m later ih =>
    refine ih (s := s.next m) ?_
    cases m with
    | act action => exact h
    | resize screen => exact h
    | frame input =>
      have hturn : ((s.layOut input).turn input).Sound := by
        rw [turn_layOut]
        exact (h.begin input.key?).offerAll _
      exact hturn.finish _ _

/-- Where nothing is clicked, as by the keyboard, the focus stays with what has it and is still
drawn. -/
theorem focus_of_not_clicked (s : Session) {input : Input}
    (h : (s.hand input).stroke.clicked = false) :
    (s.next (.frame input)).focus =
      ((s.layOut input).turn input).finish
        (s.paneNames input ++ [.checkbox s.window.pane.visible]) fun _ => false := by
  have hbeside : (s.hand input).clicksBeside = fun _ => false := by
    funext name
    rw [Hand.clicksBeside, h, Bool.false_and]
  show (s.layOut input).focusAfter _ _ = _
  rw [focusAfter, names_layOut, hbeside]

/-- A key activates the checkbox if it is one of those that do and the checkbox has the
focus. -/
theorem turnsOver_of_key {s : Session} {input : Input} (h : input.isKey = true) :
    s.turnsOver (.frame input) =
      (input.key?.any Key.activates &&
        ((s.layOut input).turn input).holder == some (.checkbox s.window.pane.visible)) := by
  have hclicks : ∀ name, (s.hand input).clicks name = false := by
    intro name
    cases input with
    | keyDown key => rfl
    | keyUp key => rfl
    | idle | rest | press _ _ | release _ _ => contradiction
  show (s.layOut input).activates _ _ = _
  rw [activates, hclicks, checkboxName_layOut, Bool.false_or]

/-- A key that goes up, or one that activates nothing, turns nothing over. -/
theorem not_turnsOver_of_key {s : Session} {input : Input} (h : input.isKey = true)
    (hkey : input.key?.any Key.activates = false) : s.turnsOver (.frame input) = false := by
  rw [turnsOver_of_key h, hkey, Bool.false_and]

/-- No widget passes the focus on. -/
def Still (s : Session) : Prop := s.focus.passing = false

/-- The checkbox, as it would be drawn now, has the focus. -/
def Focused (s : Session) : Prop := s.focus.holder = some (.checkbox s.window.pane.visible)

instance (s : Session) : Decidable s.Focused :=
  inferInstanceAs (Decidable (s.focus.holder = some (.checkbox s.window.pane.visible)))

/-- Without Tab, Escape and a click the focus stays where it is, if that is still drawn. -/
theorem Still.frame {s : Session} (h : s.Still) (input : Input)
    (hclicked : (s.hand input).stroke.clicked = false) (htab : input.key? ≠ some .tab)
    (hescape : input.key? ≠ some .escape) :
    ((s.layOut input).turn input).holder = s.focus.holder ∧
    (s.next (.frame input)).Still ∧
    (s.next (.frame input)).focus.holder = s.focus.holder.filter
      (· ∈ s.paneNames input ++ [.checkbox s.window.pane.visible]) := by
  have hbegin : s.focus.begin input.key? =
      ⟨s.focus.holder, s.focus.passing, s.focus.holder, false⟩ := by
    simp [Focus.begin, htab, hescape]
  have hturn : (s.layOut input).turn input =
      ⟨s.focus.holder, s.focus.passing, s.focus.holder, false⟩ := by
    rw [turn_layOut, hbegin]
    exact Turn.offerAll_of_still (t := ⟨_, s.focus.passing, _, false⟩) h rfl _
  refine ⟨by rw [hturn], ?_, ?_⟩
  · show (s.next (.frame input)).focus.passing = false
    rw [focus_of_not_clicked _ hclicked, hturn]
    exact h
  · rw [focus_of_not_clicked _ hclicked, hturn]
    -- what has the focus had it before the frame as well
    show (s.focus.holder.filter fun _ => true).filter _ = _
    cases s.focus.holder with
    | none => rfl
    | some name => simp [Option.filter]

/-- The checkbox is drawn in the frame after a key in which it has the focus: it keeps it. -/
theorem mem_filter_checkbox {s : Session} {input : Input} {holder : Option Name} {below : Bool}
    (h : holder.filter (· ∈ s.paneNames input ++ [.checkbox s.window.pane.visible]) =
      some (.checkbox below)) : below = s.window.pane.visible ∧ holder = some (.checkbox below) := by
  obtain ⟨hmem, hdrawn⟩ := Option.filter_eq_some_iff.mp h
  have hdrawn : Name.checkbox below ∈ s.paneNames input ++ [.checkbox s.window.pane.visible] := by
    simpa using hdrawn
  rcases List.mem_append.mp hdrawn with hpane | hbox
  · exact absurd rfl (ne_checkbox_of_mem_paneNames hpane below)
  · exact ⟨Name.checkbox.inj (List.mem_singleton.mp hbox), hmem⟩

/-- The document is shown and hidden as the checkbox is turned over. -/
theorem visible_frame (s : Session) (input : Input) :
    (s.next (.frame input)).window.pane.visible =
      if s.turnsOver (.frame input) then !s.window.checkbox.isChecked
      else s.window.pane.visible := by
  have hvisible : (s.layOut input).window.pane.visible = s.window.pane.visible := by
    rw [window_layOut]
    split
    · rfl
    · rfl
  show (turned _ _ _).pane.visible = _
  unfold turned turnsOver
  split
  · rw [checkbox_layOut]
    rfl
  · exact hvisible

theorem visible_of_not_turnsOver {s : Session} {input : Input}
    (h : s.turnsOver (.frame input) = false) :
    (s.next (.frame input)).window.pane.visible = s.window.pane.visible := by
  rw [visible_frame, h, if_neg (by simp)]

/-! ## Keys after each other -/

/-- The frames of a key that goes down and up. -/
def keyFrames (key : Key) : List Moment := (Gesture.key key).inputs.map .frame

/-- **A key that activates**, where nothing passes the focus on: it turns the window over
exactly if the checkbox has the focus, and the checkbox does not have it afterwards. -/
theorem key_of_still {s : Session} (hstill : s.Still) (hconsistent : s.window.isConsistent = true)
    {key : Key} (hkey : key.activates = true) :
    s.log (keyFrames key) =
        (if s.Focused then [.visibilityUpdated !s.window.checkbox.isChecked] else []) ∧
      (s.after (keyFrames key)).Still ∧ ¬ (s.after (keyFrames key)).Focused ∧
      (s.after (keyFrames key)).window.checkbox.isChecked =
        if s.Focused then !s.window.checkbox.isChecked else s.window.checkbox.isChecked := by
  have htab : some key ≠ some .tab := by
    rintro ⟨⟩
    contradiction
  have hescape : some key ≠ some .escape := by
    rintro ⟨⟩
    contradiction
  -- the key goes down, and activates what has the focus
  obtain ⟨hturn, hstill₁, hholder₁⟩ := hstill.frame (.keyDown key) rfl htab hescape
  have hover₁ : s.turnsOver (.frame (.keyDown key)) = decide s.Focused := by
    rw [turnsOver_of_key rfl, hturn]
    simp only [Input.key?, Option.any_some, hkey, Bool.true_and, Focused]
    exact beq_eq_decide _ _
  set pressed := s.next (.frame (.keyDown key)) with hpressed
  -- the key goes up, and does nothing
  obtain ⟨-, hstill₂, hholder₂⟩ :=
    hstill₁.frame (.keyUp key) rfl (by simp [Input.key?]) (by simp [Input.key?])
  have hover₂ : pressed.turnsOver (.frame (.keyUp key)) = false := not_turnsOver_of_key rfl rfl
  have hafter : s.after (keyFrames key) = pressed.next (.frame (.keyUp key)) := rfl
  rw [hafter]
  refine ⟨?_, hstill₂, ?_, ?_⟩
  · rw [keyFrames, Gesture.inputs, List.map_cons, List.map_cons, log_cons, log_cons, ← hpressed,
      updates, updates, hover₁, hover₂]
    simp [log, stages]
  · -- it would have kept the focus in both frames, but the window was turned over in the first
    intro hfocused
    unfold Focused at hfocused
    rw [hholder₂] at hfocused
    obtain ⟨-, hholder⟩ := mem_filter_checkbox hfocused
    have hsame₂ : (pressed.next (.frame (.keyUp key))).window.pane.visible =
        pressed.window.pane.visible := by
      rw [visible_frame, hover₂, if_neg (by simp)]
    rw [hholder₁] at hholder
    obtain ⟨hsame₁, hholder⟩ := mem_filter_checkbox hholder
    rw [hsame₂] at hsame₁ hholder
    have hover : s.Focused := by
      rw [Focused, hholder, hsame₁]
    have hturned : pressed.window.pane.visible = !s.window.checkbox.isChecked := by
      rw [hpressed, visible_frame, hover₁, if_pos (by simpa using hover)]
    have hagree : s.window.pane.visible = s.window.checkbox.isChecked := by
      simpa [Window.isConsistent] using hconsistent
    rw [hsame₁, hagree] at hturned
    simp at hturned
  · rw [isChecked_next, hover₂, if_neg (by simp), hpressed, isChecked_next, hover₁]
    simp only [decide_eq_true_eq]

/-- **Of several keys only the first** can do something. -/
theorem run_keys {s : Session} (hstill : s.Still) (hconsistent : s.window.isConsistent = true)
    {keys : List Key} (hkeys : ∀ key ∈ keys, key.activates = true) :
    s.log (keys.flatMap keyFrames) =
        (if s.Focused ∧ keys ≠ [] then [.visibilityUpdated !s.window.checkbox.isChecked]
          else []) ∧
      (s.after (keys.flatMap keyFrames)).window.checkbox.isChecked =
        if s.Focused ∧ keys ≠ [] then !s.window.checkbox.isChecked
        else s.window.checkbox.isChecked := by
  induction keys generalizing s with
  | nil => simp [log, stages, after]
  | cons key keys ih =>
    obtain ⟨hlog, hstill', hfocus', hstate⟩ :=
      key_of_still hstill hconsistent (hkeys key List.mem_cons_self)
    -- from here on the checkbox does not have the focus
    obtain ⟨hlater, hlast⟩ := ih hstill' (isConsistent_after hconsistent _)
      fun later hlater => hkeys later (List.mem_cons_of_mem key hlater)
    rw [List.flatMap_cons, log_append, after_append, hlog, hlater, hlast, hstate]
    simp [hfocus']

/-! ## Tab -/

/-- **Tab** turns nothing over, and when it is up nothing passes the focus on. -/
theorem tab_of_sound {s : Session} (hsound : s.focus.Sound) :
    s.log (keyFrames .tab) = [] ∧ (s.after (keyFrames .tab)).Still ∧
      (s.after (keyFrames .tab)).window.checkbox.isChecked = s.window.checkbox.isChecked := by
  have hover₁ : s.turnsOver (.frame (.keyDown .tab)) = false := not_turnsOver_of_key rfl rfl
  set pressed := s.next (.frame (.keyDown .tab)) with hpressed
  have hover₂ : pressed.turnsOver (.frame (.keyUp .tab)) = false := not_turnsOver_of_key rfl rfl
  have hafter : s.after (keyFrames .tab) = pressed.next (.frame (.keyUp .tab)) := rfl
  rw [hafter]
  refine ⟨?_, ?_, ?_⟩
  · rw [keyFrames, Gesture.inputs, List.map_cons, List.map_cons, log_cons, log_cons, ← hpressed,
      updates, updates, hover₁, hover₂]
    rfl
  · -- the checkbox takes what is still passed on, if no other widget does
    have hsound' : pressed.focus.Sound := sound_after hsound [.frame (.keyDown .tab)]
    show (pressed.next (.frame (.keyUp .tab))).focus.passing = false
    rw [focus_of_not_clicked _ rfl]
    show ((pressed.layOut (.keyUp .tab)).turn (.keyUp .tab)).passing = false
    rw [turn_layOut]
    exact Turn.passing_offerAll (t := pressed.focus.begin none) rfl hsound'
      ⟨.checkbox pressed.window.pane.visible, by simp, rfl⟩
  · rw [isChecked_next, hover₂, if_neg (by simp), hpressed, isChecked_next, hover₁,
      if_neg (by simp)]

/-- **When Tab brings the focus to the checkbox**: nothing else on the screen takes it, and
it is free, or with the checkbox already. -/
theorem focused_of_tab {s : Session} (hsound : s.focus.Sound)
    (hfree : s.focus.holder = none ∨ s.Focused)
    (halone : ∀ name ∈ s.paneNames (.keyDown .tab), name.takesFocus = false)
    (halone' : ∀ name ∈ (s.next (.frame (.keyDown .tab))).paneNames (.keyUp .tab),
      name.takesFocus = false) :
    (s.after (keyFrames .tab)).Focused := by
  have hover₁ : s.turnsOver (.frame (.keyDown .tab)) = false := not_turnsOver_of_key rfl rfl
  have hvisible₁ := s.visible_frame (.keyDown .tab)
  rw [hover₁, if_neg (by simp)] at hvisible₁
  have hfocus₁ : (s.next (.frame (.keyDown .tab))).focus = _ := s.focus_of_not_clicked rfl
  rw [turn_layOut, Turn.offerAll_append_of_none halone] at hfocus₁
  set pressed := s.next (.frame (.keyDown .tab)) with hpressed
  have hover₂ : pressed.turnsOver (.frame (.keyUp .tab)) = false := not_turnsOver_of_key rfl rfl
  have hvisible₂ := pressed.visible_frame (.keyUp .tab)
  rw [hover₂, if_neg (by simp), hvisible₁] at hvisible₂
  have hfocus₂ : (pressed.next (.frame (.keyUp .tab))).focus = _ := pressed.focus_of_not_clicked rfl
  rw [turn_layOut, Turn.offerAll_append_of_none halone', hvisible₁] at hfocus₂
  set box : Name := .checkbox s.window.pane.visible with hbox
  have htakes : box.takesFocus = true := rfl
  -- the checkbox has the focus already, or it has been passed on for it to take
  have hpass : pressed.focus = ⟨some box, false⟩ ∨ pressed.focus = ⟨none, true⟩ := by
    rw [hfocus₁]
    rcases hfree with hnone | hhas
    · left
      cases hpassing : s.focus.passing with
      | true =>
        simp [Focus.begin, Turn.offer, Turn.finish, Option.filter, Input.key?, hnone, hpassing,
          htakes]
      | false =>
        simp [Focus.begin, Turn.offer, Turn.finish, Option.filter, Input.key?, hnone, hpassing,
          htakes]
    · right
      have hpassing : s.focus.passing = false := by
        cases hpassing : s.focus.passing with
        | false => rfl
        | true =>
          have := hsound hpassing
          rw [hhas] at this
          contradiction
      have hholder : s.focus.holder = some box := hhas
      simp [Focus.begin, Turn.offer, Turn.finish, Option.filter, Input.key?, hholder, hpassing,
        htakes]
  show (pressed.next (.frame (.keyUp .tab))).focus.holder =
    some (.checkbox (pressed.next (.frame (.keyUp .tab))).window.pane.visible)
  rw [hvisible₂, ← hbox, hfocus₂]
  rcases hpass with hhas | hpassed
  · simp [Focus.begin, Turn.offer, Turn.finish, Option.filter, hhas, htakes, Input.key?]
  · simp [Focus.begin, Turn.offer, Turn.finish, Option.filter, hpassed, htakes, Input.key?]

/-- Where only the checkbox takes the focus among the widgets of a frame, nothing in the pane
does. -/
theorem takesFocus_of_alone {s : Session} {input : Input} {below : Bool}
    (h : ∀ w ∈ (s.next (.frame input)).drawn,
      w.name.takesFocus = true → w.name = .checkbox below) :
    ∀ name ∈ s.paneNames input, name.takesFocus = false := by
  intro name hname
  have hmem : name ∈ (s.layOut input).drawn.map (·.name) := by
    rw [names_layOut]
    exact List.mem_append_left _ hname
  obtain ⟨w, hw, rfl⟩ := List.mem_map.mp hmem
  cases htakes : w.name.takesFocus with
  | false => rfl
  | true => exact absurd (h w hw htakes) (ne_checkbox_of_mem_paneNames hname below)

/-! ## Tab and keys after any run -/

theorem flatMap_keys (keys : List Key) :
    (keys.map fun key => Step.gesture (.key key)).flatMap Step.moments =
      keys.flatMap keyFrames := by
  rw [List.flatMap_map]
  rfl

/-- **Keys after Tab.** Whatever has happened to a new window, Tab turns nothing over, and
of the activating keys pressed after it only the first can do so: it does, and logs the
one update of them all, exactly if Tab has brought the focus to the checkbox. That is
so at least if the focus is free or with the checkbox before, and nothing else on the
screen takes it, as while the document is hidden. -/
theorem keys_after_tab (settings : Settings) (document : Document) (screen : Screen)
    (steps : List Step) (keys : List Key) (hkeys : ∀ key ∈ keys, key.activates = true) :
    ∃ s log tabbed t, (build settings document screen).1.run steps = .ok (s, log) ∧
      s.step (.gesture (.key .tab)) = .ok (tabbed, []) ∧
      tabbed.window.checkbox.isChecked = s.window.checkbox.isChecked ∧
      tabbed.run (keys.map fun key => .gesture (.key key)) =
        .ok (t, if tabbed.Focused ∧ keys ≠ []
          then [.visibilityUpdated !s.window.checkbox.isChecked] else []) ∧
      t.window.checkbox.isChecked =
        (if tabbed.Focused ∧ keys ≠ [] then !s.window.checkbox.isChecked
          else s.window.checkbox.isChecked) ∧
      (s.focus.holder = none ∨ s.Focused →
        (s.window.pane.visible = false ∨
          ∀ w ∈ (s.next (.frame (.keyDown .tab))).drawn ++ tabbed.drawn,
            w.name.takesFocus = true → w.name = .checkbox s.window.pane.visible) →
        tabbed.Focused) := by
  set start := (build settings document screen).1
  set s := start.after (steps.flatMap Step.moments)
  have hconsistent : s.window.isConsistent = true := isConsistent_after rfl _
  have hsound : s.focus.Sound := sound_after (s := start) (fun _ => rfl) _
  obtain ⟨htab, hstill, hstate⟩ := tab_of_sound hsound
  set tabbed := s.after (keyFrames .tab)
  obtain ⟨hlog, hlast⟩ := run_keys hstill (isConsistent_after hconsistent _) hkeys
  rw [hstate] at hlog hlast
  refine ⟨s, _, tabbed, _, start.advanceAll_eq_log _, ?_, hstate, ?_, hlast, ?_⟩
  · rw [step, advanceAll_eq_log, ← htab]
    rfl
  · rw [run, flatMap_keys, advanceAll_eq_log, hlog]
  · intro hfree halone
    have hpressed := s.visible_frame (.keyDown .tab)
    rw [not_turnsOver_of_key rfl rfl, if_neg (by simp)] at hpressed
    rcases halone with hhidden | halone
    · -- a hidden pane draws nothing that could take it
      have hhidden' : (s.next (.frame (.keyDown .tab))).window.pane.visible = false :=
        hpressed.trans hhidden
      refine focused_of_tab hsound hfree ?_ ?_
      · simp [paneNames_of_hidden hhidden]
      · simp [paneNames_of_hidden hhidden']
    · refine focused_of_tab hsound hfree ?_ ?_
      · exact takesFocus_of_alone fun w hw => halone w (List.mem_append_left _ hw)
      · exact takesFocus_of_alone fun w hw => halone w (List.mem_append_right _ hw)

/-- After Tab in a new window, Space shows the document, and Enter does not hide it. -/
theorem keys_after_tab_shows :
    ∃ tabbed t, (build .standard ⟨"abc"⟩ ⟨320, 160⟩).1.step (.gesture (.key .tab)) =
        .ok (tabbed, []) ∧
      tabbed.run [.gesture (.key .space), .gesture (.key .enter)] =
        .ok (t, [.visibilityUpdated true]) ∧ t.window.checkbox.isChecked = true := by
  obtain ⟨s, log, tabbed, t, hrun, htab, -, hkeys, hstate, hfocus⟩ :=
    keys_after_tab .standard ⟨"abc"⟩ ⟨320, 160⟩ [] [.space, .enter] (by decide)
  obtain ⟨rfl, -⟩ : (build .standard ⟨"abc"⟩ ⟨320, 160⟩).1 = s ∧ [] = log := by
    simpa [run, advanceAll, Run.attempt, Except.map] using hrun
  -- nothing has the focus, and the document is hidden
  have hfocused : tabbed.Focused := hfocus (.inl rfl) (.inl rfl)
  rw [if_pos ⟨hfocused, by simp⟩] at hkeys hstate
  exact ⟨tabbed, t, htab, hkeys, hstate⟩

/-- Not every key after Tab turns the window over: of these two only the first does. -/
theorem second_key_lost :
    let run (steps : List Step) :=
      ((build .standard ⟨"abc"⟩ ⟨320, 160⟩).1.run steps).toOption.map fun r =>
        (r.1.window.checkbox.isChecked, r.2)
    run [.gesture (.key .tab), .gesture (.key .space)] =
        some (true, [.visibilityUpdated true]) ∧
      run [.gesture (.key .tab), .gesture (.key .space), .gesture (.key .space)] =
        some (true, [.visibilityUpdated true]) := by
  decide +kernel

end Session

end Reveal
