import Reveal.Proofs.Updates

/-!
# Reveal — the row of the checkbox

The pane leaves a row for the checkbox at the lower edge of the screen, but it never becomes
lower than the smallest scrolled area. With the margin above it and the space below it, this
takes `75` points, and the row ends at `93`. A window may be made lower than that: its least
height is `80`. On the screens between the two the checkbox is cut off while the document is
shown, by up to `13` of the `18` points of its row. Everywhere else it can be seen whole.

## Results

* `centred_mem`      — how far rounding can move the checkbox.
* `rowHeight_le_iff` — on which screens the row ends within the screen.
* `row_on_screen`    — so it is in every frame of every run.
-/

namespace Reveal

/-- Wrapping makes at most one row for each character, and one more. -/
theorem Glyph.length_wrap_le (limit : Rat) (line : List Char) :
    (wrap limit line).length ≤ line.length + 1 := by
  have h : ∀ (rest row : List Char) (l : Rat), (wrapFrom l row rest).length ≤ rest.length + 1 := by
    intro rest
    induction rest with
    | nil => intro row l; simp [wrapFrom]
    | cons c rest ih =>
      intro row l
      rw [wrapFrom, List.length_cons]
      split
      · exact Nat.succ_le_succ (ih _ _)
      · exact (ih _ _).trans (Nat.le_succ _)
  exact h line [] _

namespace Layout

/-- The label of a window about which nothing was chosen takes few rows, however narrow the
screen is. -/
theorem boxHeight_standard_le (screen : Screen) (paneDrawn : Bool) :
    boxHeight screen paneDrawn Settings.standard.label ≤ 285 := by
  have hline : pieces '\n' Settings.standard.label.toList = [Settings.standard.label.toList] := by
    decide
  have hlength : Settings.standard.label.toList.length = 18 := by decide
  have hrows := Glyph.length_wrap_le
    ((checkboxRoom screen.width paneDrawn : Rat) - boxWidth) Settings.standard.label.toList
  simp only [boxHeight, labelRows, hline, List.flatMap_cons, List.flatMap_nil, List.append_nil,
    rowHeight, lineHeight]
  omega

/-- The steps in which something is put in the middle of its own place. -/
theorem centred_eq {start height : Nat} (hstart : start ≤ 2 ^ 24) (hheight : height ≤ 2 ^ 24) :
    centred start height =
      .ofRat ((Scalar.ofRat ((Scalar.ofRat (start +
        (Scalar.ofRat (start + height)).toRat)).toRat / 2)).toRat - height / 2) := by
  have hfirst := (Scalar.toRat_ofNat hstart).2
  have hsize := (Scalar.toRat_ofNat hheight).2
  have htwo : (2 : Scalar).toRat = (2 : ℚ) := (Scalar.toRat_ofNat (n := 2) (by norm_num)).2
  have hhalf : (Scalar.ofNat height / 2).toRat = (height : ℚ) / 2 := by
    show (Scalar.ofRat (_ / _)).toRat = _
    rw [hsize, htwo]
    exact (Scalar.toRat_ofRat (Scalar.exact_half hheight)).2
  show Scalar.ofRat ((Scalar.ofRat ((Scalar.ofRat ((Scalar.ofNat start).toRat +
    (Scalar.ofRat ((Scalar.ofNat start).toRat + (Scalar.ofNat height).toRat)).toRat)).toRat /
      (2 : Scalar).toRat)).toRat - (Scalar.ofNat height / 2).toRat) = _
  rw [hfirst, hsize, htwo, hhalf]

/-- **Rounding** moves what is put in the middle of its own place down by two points at most, and
not above the screen. -/
theorem centred_mem {start height : Nat} (hstart : start + 2 ≤ 2 ^ 24) (hheight : height ≤ start) :
    0 ≤ (centred start height).toRat ∧ (centred start height).toRat ≤ start + 2 := by
  have hheight0 : (0 : ℚ) ≤ height := Nat.cast_nonneg height
  have hheight' : (height : ℚ) ≤ start := by exact_mod_cast hheight
  -- the end is rounded to an even point next to it at most, and twice the middle to a fourth one
  obtain ⟨half, hhalf, hhalf'⟩ : ∃ half : Nat, start + height ≤ 2 * half ∧
      2 * half ≤ start + height + 1 := ⟨(start + height + 1) / 2, by omega, by omega⟩
  obtain ⟨quarter, hquarter, hquarter'⟩ : ∃ quarter : Nat, 2 * start + height + 1 ≤ 4 * quarter ∧
      4 * quarter ≤ 2 * start + height + 4 := ⟨(2 * start + height + 4) / 4, by omega, by omega⟩
  have hexact : Scalar.Exact (4 * (quarter : ℚ)) :=
    ⟨quarter, 2, by omega, by norm_num, by norm_num, by
      rw [abs_of_nonneg (by positivity), zpow_ofNat]; ring⟩
  have hhalf₁ : (start : ℚ) + height ≤ 2 * half := by exact_mod_cast hhalf
  have hhalf₂ : 2 * (half : ℚ) ≤ start + height + 1 := by exact_mod_cast hhalf'
  have hquarter₁ : 2 * (start : ℚ) + height + 1 ≤ 4 * quarter := by exact_mod_cast hquarter
  have hquarter₂ : 4 * (quarter : ℚ) ≤ 2 * start + height + 4 := by exact_mod_cast hquarter'
  rw [centred_eq (by omega) (by omega)]
  obtain ⟨-, hend, hend'⟩ := Scalar.toRat_ofRat_mem (q := (start : ℚ) + height)
    (Scalar.exact_natCast (n := start) (by omega)) (Scalar.exact_double (n := half) (by omega))
    (by linarith) hhalf₁
  generalize (Scalar.ofRat ((start : ℚ) + height)).toRat = bottom at *
  obtain ⟨-, hsum, hsum'⟩ := Scalar.toRat_ofRat_mem (q := (start : ℚ) + bottom)
    (Scalar.exact_double (n := start) (by omega)) hexact (by linarith) (by linarith)
  generalize (Scalar.ofRat ((start : ℚ) + bottom)).toRat = sum at *
  obtain ⟨-, hmiddle, hmiddle'⟩ := Scalar.toRat_ofRat_mem (q := sum / 2)
    (Scalar.exact_natCast (n := start) (by omega)) (Scalar.exact_double (n := quarter) (by omega))
    (by linarith) (by linarith)
  generalize (Scalar.ofRat (sum / 2)).toRat = middle at *
  obtain ⟨-, hlow, hhigh⟩ := Scalar.toRat_ofRat_mem (q := middle - height / 2)
    (Scalar.exact_natCast (n := 0) (Nat.zero_le _)) (Scalar.exact_natCast (n := start + 2) hstart)
    (by push_cast; linarith) (by push_cast; linarith)
  push_cast at hlow hhigh
  exact ⟨hlow, hhigh⟩

/-- **On which screens the row of the checkbox ends within the screen**, if the label is not
wrapped to more than `18` rows: if the checkbox stands alone on all that a window can have, and
below the pane on those of `93` points or more. -/
theorem rowHeight_le_iff {screen : Screen} {paneDrawn : Bool} {label : String}
    (hlow : 80 ≤ screen.height) (hhigh : paneDrawn = true → screen.height ≤ 2 ^ 24)
    (hlabel : boxHeight screen paneDrawn label ≤ 285) :
    0 ≤ (checkbox screen paneDrawn label).top ∧
      ((checkbox screen paneDrawn label).top + rowHeight ≤ screen.height ↔
        paneDrawn = false ∨ 93 ≤ screen.height) := by
  by_cases hexact : IsExact screen paneDrawn label
  · -- the exact sums decide
    rw [checkbox_top hexact]
    constructor
    · have : 0 ≤ boxTop screen.height paneDrawn := by
        unfold boxTop innerHeight
        split <;> omega
      exact_mod_cast this
    · have : boxTop screen.height paneDrawn + rowHeight ≤ (screen.height : Int) ↔
          paneDrawn = false ∨ 93 ≤ screen.height := by
        cases paneDrawn with
        | false => simp [boxTop, rowHeight]; omega
        | true => simp [boxTop, innerHeight, rowHeight]; omega
      exact_mod_cast this
  · -- what is rounded is a high screen, on which there is room for it
    have hshown : paneDrawn = true := by
      by_contra hnot
      rw [Bool.not_eq_true] at hnot
      subst hnot
      exact hexact ⟨by simp, by simp [boxTop]; omega, .inr (by simp [boxTop]; omega)⟩
    subst hshown
    have hheight := hhigh rfl
    have hlarge : 2 ^ 10 ≤ screen.height := by
      by_contra hsmall
      exact hexact ⟨hhigh, by simp [boxTop, innerHeight]; omega,
        .inr (by simp [boxTop, innerHeight]; omega)⟩
    have htop : (checkboxTop screen.height true : Int) = boxTop screen.height true :=
      checkboxTop_eq hhigh (by simp [boxTop, innerHeight]; omega)
    simp only [boxTop, innerHeight, if_true] at htop
    have hstart : checkboxTop screen.height true + 26 = screen.height := by omega
    have hmem : 0 ≤ (centred (checkboxTop screen.height true) (boxHeight screen true label)).toRat ∧
        (centred (checkboxTop screen.height true) (boxHeight screen true label)).toRat ≤
          checkboxTop screen.height true + 2 := centred_mem (by omega) (by omega)
    obtain ⟨hnonneg, hle⟩ := hmem
    refine ⟨hnonneg, iff_of_true ?_ (.inr (by omega))⟩
    have hstart' : (checkboxTop screen.height true : ℚ) + 26 = screen.height := by
      exact_mod_cast hstart
    have hrow : ((rowHeight : Nat) : ℚ) = 18 := by norm_num [rowHeight]
    show (centred (checkboxTop screen.height true) (boxHeight screen true label)).toRat + _ ≤ _
    rw [hrow]
    linarith

end Layout

namespace Session

/-- A frame draws the checkbox of the window that it begins with. -/
theorem box_frame (s : Session) (input : Input) :
    (s.next (.frame input)).box =
      some (Layout.checkbox s.screen s.window.pane.visible s.window.checkbox.label) :=
  (s.recalls_frame input).2

/-- **The row of the checkbox in every frame.** Take any run of a window about which nothing was
chosen, and any frame of it on a screen that is not lower than the window may be made. The frame
does not fail. It draws the checkbox not above the screen; and the row of it ends on the screen
exactly if the document is hidden or the screen has `93` points or more. -/
theorem row_on_screen (document : Document) (screen : Screen) (steps : List Step) :
    let start := (build .standard document screen).1
    (∃ s log, start.run steps = .ok (s, log)) ∧
    ∀ f ∈ start.frames (steps.flatMap Step.moments),
      Settings.standard.viewport.minSize.height ≤ .ofNat f.1.screen.height →
      (f.1.window.pane.visible = true → f.1.screen.height ≤ 2 ^ 24) →
      ∃ s log box, f.1.frame f.2 = .ok (s, log) ∧ s.box = some box ∧ 0 ≤ box.top ∧
        (box.top + Layout.rowHeight ≤ f.1.screen.height ↔
          f.1.window.pane.visible = false ∨ 93 ≤ f.1.screen.height) := by
  intro start
  refine ⟨⟨_, _, start.advanceAll_eq_log _⟩, ?_⟩
  intro f hf hmin hmax
  -- the least height as a number of points
  have hlow : 80 ≤ f.1.screen.height := by
    by_contra hless
    have hbelow : (Scalar.ofNat f.1.screen.height).rank ≤ (Scalar.ofNat 79).rank :=
      Scalar.rank_ofNat_le (by omega)
    have hleast : (Scalar.ofNat 79).rank < Settings.standard.viewport.minSize.height.rank := by
      decide +kernel
    exact absurd (hleast.trans_le hmin) (not_lt.mpr hbelow)
  -- the label of the run is still the standard one
  obtain ⟨before, -, -, hbefore⟩ := exists_of_mem_frames hf
  have hlabel : f.1.window.checkbox.label = Settings.standard.label := by
    rw [hbefore]
    exact (start.sameTexts_after before).label
  have hsmall : Layout.boxHeight f.1.screen f.1.window.pane.visible
      f.1.window.checkbox.label ≤ 285 := by
    rw [hlabel]
    exact Layout.boxHeight_standard_le _ _
  obtain ⟨htop, hrow⟩ := Layout.rowHeight_le_iff hlow hmax hsmall
  exact ⟨_, _, _, f.1.advance_eq_updates (.frame f.2), f.1.box_frame f.2, htop, hrow⟩

/-- On the lowest screen the checkbox is on it while the document is hidden, and also when it is
shown after the screen has grown to `93` points. -/
theorem row_on_screen_resized :
    let start := (build .standard ⟨"abc"⟩ ⟨320, 80⟩).1
    let steps : List Step := [.gesture .wait, .act .click, .resize ⟨320, 93⟩, .gesture .wait]
    ∀ f ∈ start.frames (steps.flatMap Step.moments),
      Settings.standard.viewport.minSize.height ≤ .ofNat f.1.screen.height ∧
      (f.1.window.pane.visible = true → f.1.screen.height ≤ 2 ^ 24) ∧
      ∃ s log box, f.1.frame f.2 = .ok (s, log) ∧ s.box = some box ∧
        0 ≤ box.top ∧ box.top + Layout.rowHeight ≤ f.1.screen.height := by
  intro start steps f hf
  obtain ⟨-, hrow⟩ := row_on_screen ⟨"abc"⟩ ⟨320, 80⟩ steps
  have hseen : ∀ f ∈ start.frames (steps.flatMap Step.moments),
      Settings.standard.viewport.minSize.height ≤ .ofNat f.1.screen.height ∧
      (f.1.window.pane.visible = true → f.1.screen.height ≤ 2 ^ 24) ∧
      (f.1.window.pane.visible = false ∨ 93 ≤ f.1.screen.height) := by
    decide +kernel
  obtain ⟨hmin, hmax, hroom⟩ := hseen f hf
  obtain ⟨s, log, box, hframe, hbox, htop, hend⟩ := hrow f hf hmin hmax
  exact ⟨hmin, hmax, s, log, box, hframe, hbox, htop, hend.mpr hroom⟩

/-- A shown document leaves no room for the row on the lowest screen: the row begins at `75`, and
the screen ends at `80`. -/
theorem row_cut_off :
    let run := (build .standard ⟨"abc"⟩ ⟨320, 80⟩).1.run [.act .click, .gesture .wait]
    Settings.standard.viewport.minSize.height = .ofNat 80 ∧
      (run.toOption.bind fun r => r.1.box.map Rect.top) = some 75 ∧
      ¬ (75 : ℚ) + Layout.rowHeight ≤ 80 := by
  decide +kernel

end Session

end Reveal
