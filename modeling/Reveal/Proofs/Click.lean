import Reveal.Proofs.Extent
import Reveal.Proofs.Keyboard
import Reveal.Proofs.Press

/-!
# Reveal — a click on the checkbox

A click takes four frames. After the first, a rest, nothing is held for a click any more,
whatever has been pressed before; and after the second the screen has been drawn twice as
it is, so that nothing but the checkbox is within reach of its middle. So the press takes
hold of it, and the release clicks it, as long as the middle is on the part of it that is on
the screen, or near (`Layout.IsClickable`).

## Results

* `Widget.hit_of_alone`         — what a press hits that has one widget within reach.
* `Layout.isClickable_of_rows`  — which checkboxes can be clicked.
* `Session.turnsOver_click`     — the release of a click turns the window over.
* `Session.log_click`           — what a click logs.
-/

namespace Reveal

/-! ## A widget alone -/

namespace Widget

/-- **One widget within reach** is hit, by a click if it does not answer to drags. -/
theorem hit_of_alone {others : List Widget} {box : Widget} {p : Point}
    (hfar : ∀ w ∈ others, w.bounds.isInverted = true ∨ reach * reach < w.distanceSq p)
    (hbox : box.bounds.isInverted = false) (hnear : box.distanceSq p ≤ reach * reach)
    (hclicks : box.name.takesClicks = true) (hdrags : box.name.takesDrags = false) :
    hit (others ++ [box]) p = ⟨some box.name, none⟩ := by
  have hclose : (others ++ [box]).filter (fun w =>
      !w.bounds.isInverted && decide (w.distanceSq p ≤ reach * reach)) = [box] := by
    have hothers : others.filter (fun w =>
        !w.bounds.isInverted && decide (w.distanceSq p ≤ reach * reach)) = [] := by
      rw [List.filter_eq_nil_iff]
      intro w hw
      rcases hfar w hw with hinverted | hless
      · simp [hinverted]
      · simp [not_le.mpr hless]
    rw [List.filter_append, hothers]
    simp [hbox, hnear]
  unfold hit
  dsimp only
  rw [hclose]
  -- the pointer is on it, or only near
  cases hon : box.distanceSq p == 0 with
  | true => simp [hon, hclicks, hdrags, nearest]
  | false => simp [hon, hclicks, hdrags, nearest, Hit.all]

end Widget

namespace Layout

/-- Whether a click on the middle of the checkbox meets it: its place is computed without
rounding, and the part of it that is on the screen is within reach of the middle. -/
structure IsClickable (screen : Screen) (paneDrawn : Bool) (label : String) : Prop
    extends IsExact screen paneDrawn label where
  seen : ((checkbox screen paneDrawn label).meet (whole screen)).isInverted = false
  near : ((checkbox screen paneDrawn label).meet (whole screen)).distanceSq
    (checkbox screen paneDrawn label).center ≤ Widget.reach * Widget.reach

instance (screen : Screen) (paneDrawn : Bool) (label : String) :
    Decidable (IsExact screen paneDrawn label) :=
  decidable_of_iff
    ((paneDrawn = true → screen.height ≤ 2 ^ 24) ∧
      boxTop screen.height paneDrawn + boxHeight screen paneDrawn label ≤ 2 ^ 24 ∧
      (2 ∣ boxHeight screen paneDrawn label ∨
        2 * boxTop screen.height paneDrawn + boxHeight screen paneDrawn label ≤ 2 ^ 24))
    ⟨fun ⟨hheight, hbottom, hmiddle⟩ => ⟨hheight, hbottom, hmiddle⟩,
      fun h => ⟨h.height, h.bottom, h.middle⟩⟩

instance (screen : Screen) (paneDrawn : Bool) (label : String) :
    Decidable (IsClickable screen paneDrawn label) :=
  decidable_of_iff
    (IsExact screen paneDrawn label ∧
      ((checkbox screen paneDrawn label).meet (whole screen)).isInverted = false ∧
      ((checkbox screen paneDrawn label).meet (whole screen)).distanceSq
        (checkbox screen paneDrawn label).center ≤ Widget.reach * Widget.reach)
    ⟨fun ⟨hexact, hseen, hnear⟩ => ⟨hexact, hseen, hnear⟩, fun h => ⟨h.toIsExact, h.seen, h.near⟩⟩

theorem distanceAlong_le {a b v d : ℚ} (hd : 0 ≤ d) (hlow : a ≤ v) (hhigh : v ≤ b + d) :
    0 ≤ Rect.distanceAlong a b v ∧ Rect.distanceAlong a b v ≤ d := by
  unfold Rect.distanceAlong
  rw [if_neg (not_lt.mpr hlow)]
  split
  · constructor <;> linarith
  · exact ⟨le_rfl, hd⟩

/-- Across, the middle of a checkbox is not beyond its right edge, nor beyond that of the screen if
the exact middle is not. -/
theorem center_x_mem {box : Rect} {n width : Nat} (hleft : box.left = 8)
    (hright : box.right = 26 + (n : ℚ) / 32) (hwidth : width ≤ 2 ^ 24)
    (hmiddle : box.left + box.right ≤ 2 * width) :
    8 ≤ box.center.x.toRat ∧ box.center.x.toRat ≤ min (26 + (n : ℚ) / 32) width := by
  have hcenter : (box.left + box.right) / 2 = 17 + (n : ℚ) / 64 := by
    rw [hleft, hright]
    ring
  have hn : (0 : ℚ) ≤ (n : ℚ) / 64 := by positivity
  have hwide : 17 + (n : ℚ) / 64 ≤ width := by
    rw [← hcenter]
    linarith
  -- rounding to single precision does not cross a whole point, and the edge of the screen is one
  have hceil : ((⌈17 + (n : ℚ) / 64⌉₊ : Nat) : ℚ) < 17 + (n : ℚ) / 64 + 1 :=
    Nat.ceil_lt_add_one (by positivity)
  have hle : ⌈17 + (n : ℚ) / 64⌉₊ ≤ width := Nat.ceil_le.mpr hwide
  have hcast : ((⌈17 + (n : ℚ) / 64⌉₊ : Nat) : ℚ) ≤ width := by exact_mod_cast hle
  obtain ⟨-, hge, hmem⟩ := Scalar.toRat_ofRat_mem (q := (box.left + box.right) / 2)
    (Scalar.exact_natCast (n := 8) (by norm_num)) (Scalar.exact_natCast (hle.trans hwidth))
    (by rw [hcenter]; push_cast; linarith) (by rw [hcenter]; exact Nat.le_ceil _)
  refine ⟨by exact_mod_cast hge, le_min ?_ ?_⟩
  · exact hmem.trans (by linarith)
  · exact hmem.trans hcast

/-- Down, the middle of a checkbox is kept exactly. -/
theorem toRat_center_y {box : Rect} {top height : Nat} (htop : box.top = top)
    (hbottom : box.bottom = top + height) (hsmall : 2 * top + height ≤ 2 ^ 24) :
    box.center.y.toRat = top + (height : ℚ) / 2 := by
  have hcenter : (box.top + box.bottom) / 2 = ((2 * top + height : Nat) : ℚ) / 2 := by
    rw [htop, hbottom]
    push_cast
    ring
  show (Scalar.ofRat ((box.top + box.bottom) / 2)).toRat = _
  rw [hcenter, (Scalar.toRat_ofRat (Scalar.exact_half hsmall)).2]
  push_cast
  ring

/-- The rows that the label of the checkbox takes on a screen. -/
def rows (screen : Screen) (paneDrawn : Bool) (label : String) : List (List Char) :=
  labelRows (checkboxRoom screen.width paneDrawn) label

/-- On a screen of `101` points or more, the checkbox has room for `26` points below its top. -/
theorem exists_boxTop {height : Nat} (h : 101 ≤ height) (paneDrawn : Bool) :
    ∃ top : Nat, boxTop height paneDrawn = top ∧ 8 ≤ top ∧ top + 26 ≤ height := by
  refine ⟨(boxTop height paneDrawn).toNat, ?_, ?_, ?_⟩ <;>
  · unfold boxTop innerHeight
    split <;> omega

/-- Where the edges of a checkbox are that is placed without rounding. -/
theorem checkbox_edges {screen : Screen} {paneDrawn : Bool} {label : String}
    (h : IsExact screen paneDrawn label) {top : Nat} (htop : boxTop screen.height paneDrawn = top) :
    (checkbox screen paneDrawn label).left = 8 ∧
      (∃ n : Nat, (checkbox screen paneDrawn label).right = 26 + (n : ℚ) / 32) ∧
      (checkbox screen paneDrawn label).top = top ∧
      (checkbox screen paneDrawn label).bottom = top + boxHeight screen paneDrawn label := by
  have hboxTop : (checkbox screen paneDrawn label).top = top := by
    rw [checkbox_top h, htop]
    exact Int.cast_natCast top
  refine ⟨rfl, ?_, hboxTop, ?_⟩
  · obtain ⟨n, hn⟩ := exists_widest (rows screen paneDrawn label)
    refine ⟨n, ?_⟩
    rw [← hn]
    simp only [checkbox, Rect.ofCorner, margin, boxWidth, rows]
    push_cast
    ring
  · rw [← checkbox_height, ← hboxTop, Rect.height]
    ring

/-- A checkbox is within reach of its middle, if that is on the screen across, and at most four
points below it. -/
theorem reaches_center {box : Rect} {screen : Screen} {n top height : Nat}
    (hleft : box.left = 8) (hright : box.right = 26 + (n : ℚ) / 32) (htop : box.top = top)
    (hbottom : box.bottom = top + height) (hmiddle : box.left + box.right ≤ 2 * screen.width)
    (hwidth : screen.width ≤ 2 ^ 24) (hheight : screen.height ≤ 2 ^ 24)
    (hsmall : 2 * top + height ≤ 2 ^ 24) (hseen : top ≤ screen.height)
    (hlow : (top : ℚ) + height / 2 ≤ screen.height + 4) :
    (box.meet (whole screen)).isInverted = false ∧
      (box.meet (whole screen)).distanceSq box.center ≤ Widget.reach * Widget.reach := by
  have hx := center_x_mem hleft hright hwidth hmiddle
  have hy := toRat_center_y htop hbottom hsmall
  have hheight0 : (0 : ℚ) ≤ height := Nat.cast_nonneg height
  have hbounds : box.meet (whole screen) = ⟨8, top, min (26 + (n : ℚ) / 32) screen.width,
      min ((top : ℚ) + height) screen.height⟩ := by
    have htop0 : (0 : ℚ) ≤ top := Nat.cast_nonneg top
    show (⟨max box.left 0, max box.top 0, min box.right (0 + (held screen.width : ℚ)),
      min box.bottom (0 + (held screen.height : ℚ))⟩ : Rect) = _
    rw [hleft, htop, hright, hbottom, held_of_le hwidth, held_of_le hheight, zero_add, zero_add,
      max_eq_left (by norm_num), max_eq_left htop0]
  have hend : (top : ℚ) + height / 2 ≤ min ((top : ℚ) + height) screen.height + 4 := by
    rw [← min_add_add_right]
    exact le_min (by linarith) hlow
  rw [hbounds]
  constructor
  · have hseen' : (top : ℚ) ≤ screen.height := by exact_mod_cast hseen
    simp only [Rect.isInverted, Bool.or_eq_false_iff, decide_eq_false_iff_not, not_lt]
    exact ⟨hx.1.trans hx.2, le_min (by linarith) hseen'⟩
  · -- across, the middle is on the checkbox; down, it is below the screen by four points at most
    have hacross := distanceAlong_le (d := 0) le_rfl hx.1 (hx.2.trans_eq (add_zero _).symm)
    have hdown := distanceAlong_le (d := 4) (a := (top : ℚ)) (by norm_num)
      (by rw [hy]; linarith) (hy.trans_le hend)
    have hzero := le_antisymm hacross.2 hacross.1
    unfold Rect.distanceSq Widget.reach
    dsimp only
    rw [hzero]
    nlinarith [hdown.1, hdown.2]

/-- **A checkbox of up to four rows** can be clicked on every screen of `101` points or more, as
long as its middle is not beyond the right edge. -/
theorem isClickable_of_rows {screen : Screen} {paneDrawn : Bool} {label : String}
    (hlow : 101 ≤ screen.height) (hhigh : screen.height ≤ 2 ^ 22) (hwidth : screen.width ≤ 2 ^ 24)
    (hrows : (rows screen paneDrawn label).length ≤ 4)
    (hmiddle : (checkbox screen paneDrawn label).left + (checkbox screen paneDrawn label).right ≤
      2 * screen.width) : IsClickable screen paneDrawn label := by
  have hsize : boxHeight screen paneDrawn label ≤ 60 := by
    simp only [boxHeight, rowHeight, lineHeight, rows] at hrows ⊢
    omega
  obtain ⟨top, htop, hmargin, hroom⟩ := exists_boxTop hlow paneDrawn
  have hexact : IsExact screen paneDrawn label := by
    refine ⟨fun _ => by omega, ?_, ?_⟩
    · rw [htop]
      omega
    · right
      rw [htop]
      omega
  obtain ⟨hleft, ⟨n, hright⟩, hboxTop, hbottom⟩ := checkbox_edges hexact htop
  -- half of the largest checkbox is four points more than there is room for
  have hhalf : (top : ℚ) + boxHeight screen paneDrawn label / 2 ≤ screen.height + 4 := by
    have hroom' : (top : ℚ) + 26 ≤ screen.height := by exact_mod_cast hroom
    have hsize' : (boxHeight screen paneDrawn label : ℚ) ≤ 60 := by exact_mod_cast hsize
    linarith
  obtain ⟨hseen, hnear⟩ := reaches_center hleft hright hboxTop hbottom hmiddle hwidth (by omega)
    (by omega) (by omega) hhalf
  exact ⟨hexact, hseen, hnear⟩

end Layout

namespace Session

open Layout (IsClickable)

/-! ## The press -/

/-- The widgets of a frame: those of the pane, and the checkbox. -/
theorem exists_drawn_frame (s : Session) (input : Input) :
    ∃ pane : List Widget, pane.map (·.name) = s.paneNames input ∧
      (s.next (.frame input)).drawn = pane ++
        [⟨.checkbox s.window.pane.visible,
          (Layout.checkbox s.screen s.window.pane.visible s.window.checkbox.label).meet
            (Layout.whole s.screen)⟩] := by
  refine ⟨(s.drawPane input).drawn.map fun w =>
    { w with bounds := w.bounds.meet (Layout.whole s.screen) }, ?_, ?_⟩
  · rw [List.map_map]
    rfl
  · show (s.layOut input).drawn = _
    simp only [layOut, drawCheckbox, checkboxName, List.map_append, List.map_cons, List.map_nil]
    simp only [drawPane]
    split
    · next hvisible =>
      rw [hvisible]
      rfl
    · next hhidden => rw [(Bool.not_eq_true _).mp hhidden]

/-- **A press on the checkbox** hits it and nothing else, if the frame before, and the one before
that as far as it drew the text, had the screen as it is. -/
theorem hits_checkbox {s : Session} {input : Input} (button : Button)
    (h : IsClickable s.screen s.window.pane.visible s.window.checkbox.label)
    (hsettled : s.Settled) :
    (s.next (.frame input)).hits (.press button .checkbox) =
      ⟨some (.checkbox s.window.pane.visible), none⟩ := by
  have hposition := position_press (s.locate_checkbox input) button
  obtain ⟨pane, hnames, hdrawn⟩ := s.exists_drawn_frame input
  unfold hits
  rw [hposition, Option.elim_some, hdrawn]
  refine Widget.hit_of_alone ?_ h.seen h.near rfl rfl
  -- everything but the checkbox is in the pane, and too far up
  intro w hw
  have hmem : w ∈ (s.next (.frame input)).drawn := by
    rw [hdrawn]
    exact List.mem_append_left _ hw
  have hname : w.name ∈ s.paneNames input := by
    rw [← hnames]
    exact List.mem_map_of_mem hw
  cases hinverted : w.bounds.isInverted with
  | true => exact .inl rfl
  | false =>
    right
    rcases lt_center_of_frame h.toIsExact hsettled hmem with ⟨below, hbox⟩ | hbelow
    · exact absurd hbox (ne_checkbox_of_mem_paneNames hname below)
    · exact Rect.lt_distanceSq (by norm_num [Widget.reach]) hinverted hbelow

/-! ## The release -/

/-- A frame without a key turns the window over if the checkbox is clicked in it. -/
theorem turnsOver_of_no_key {s : Session} {input : Input} (h : input.key? = none) :
    s.turnsOver (.frame input) = (s.hand input).clicks (.checkbox s.window.pane.visible) := by
  show (s.layOut input).activates _ _ = _
  rw [activates, checkboxName_layOut, h]
  simp

/-- Nothing is clicked but by a release. -/
theorem not_turnsOver_of_not_release {s : Session} {input : Input} (hkey : input.key? = none)
    (h : ∀ button target, input ≠ .release button target) :
    s.turnsOver (.frame input) = false := by
  have hreleased : (s.hand input).stroke.released = none := by
    cases input with
    | release button target => exact absurd rfl (h button target)
    | idle | rest | press _ _ | keyDown _ | keyUp _ => rfl
  rw [turnsOver_of_no_key hkey, Hand.clicks, hreleased]
  simp

/-- A release of the primary button turns the window over if it is one that clicks, and what was
held for it is the checkbox. -/
theorem turnsOver_release (s : Session) (button : Button) (target : Target) :
    s.turnsOver (.frame (.release button target)) =
      ((s.hand (.release button target)).stroke.clicked &&
        s.grip.click.filter (· ∈ s.drawn.map (·.name)) ==
          some (.checkbox s.window.pane.visible) && button == .primary) := by
  have hreleased : (s.hand (.release button target)).stroke.released = some button := rfl
  rw [turnsOver_of_no_key rfl, Hand.clicks, hreleased, clicked_hand,
    target_of_not_press (by simp)]
  cases (s.hand (.release button target)).stroke.clicked with
  | false => simp
  | true => simp

/-- A button was pressed there in the last frame, and has not been released. -/
structure Holds (s : Session) (place : Point) : Prop where
  press : s.pointer.press = some ⟨place, s.clock.now⟩
  strayed : s.pointer.strayed = false
  down : s.pointer.isDown = true

theorem holds_press {s : Session} {target : Target} {place : Point}
    (h : s.locate target = some place) (button : Button) :
    (s.next (.frame (.press button target))).Holds place := by
  have hnow : (s.next (.frame (.press button target))).clock.now =
      (s.tick (.press button target)).now := by
    rw [now_frame]
    rfl
  -- where and when it was pressed, that a button is down, and that it has not strayed
  refine ⟨?_, ?_, ?_⟩
  · show (s.hand (.press button target)).pointer.press = _
    rw [press_of_press, position_press h, hnow]
    rfl
  · cases button with
    | primary => rfl
    | secondary => rfl
  · cases button with
    | primary => rfl
    | secondary => exact Bool.or_true _

/-- What a press hits is held for a click, if nothing was before. -/
theorem click_press {s : Session} {target : Target} {place : Point}
    (h : s.locate target = some place) (hnone : s.grip.click = none) (button : Button) :
    (s.next (.frame (.press button target))).grip.click =
      (s.hits (.press button target)).click := by
  obtain ⟨hpress, hstrayed, hdown⟩ := holds_press h button
  rw [now_frame] at hpress
  -- the press is not old at all
  have hnew : instant 0 ≤ Pointer.clickTime := by decide +kernel
  have hmay : (s.hand (.press button target)).pointer.mayClick
      (s.tick (.press button target)).now true = true := by
    have hpress : (s.hand (.press button target)).pointer.press =
        some ⟨place, (s.tick (.press button target)).now⟩ := hpress
    have hstrayed : (s.hand (.press button target)).pointer.strayed = false := hstrayed
    unfold Pointer.mayClick
    rw [hpress, hstrayed]
    simp [hnew]
  have hdown : (s.hand (.press button target)).pointer.isDown = true := hdown
  have hreleased : (s.hand (.press button target)).stroke.released = none := rfl
  have hpressed : (s.hand (.press button target)).stroke.pressed = true := rfl
  rw [click_frame]
  dsimp only
  rw [hreleased, hdown, Option.isSome_none, Bool.or_false, hmay, Session.target, hpressed, hnone]
  rfl

/-- **A release right after the press**, at the same place, is one that clicks. -/
theorem Holds.clicked {s : Session} {place : Point} (h : s.Holds place) (hearly : s.clock.IsEarly)
    {target : Target} (htarget : s.locate target = some place) (button : Button) :
    (s.hand (.release button target)).stroke.clicked = true := by
  obtain ⟨hpress, hstrayed, hdown⟩ := h
  obtain ⟨hmono, -, -, hsoon⟩ := Clock.tick_bounds hearly false
  have hplace : s.place (.release button target) = some place := htarget
  -- the frame is short enough for a click
  have hnew : instant ((s.clock.tick false).now - s.clock.now) ≤ Pointer.clickTime := by
    have hlate := hsoon rfl
    have hmem := instant_mem (t := (s.clock.tick false).now - s.clock.now) (by linarith)
      (by linarith)
    have htime : 1 / 2 ≤ Pointer.clickTime := by decide +kernel
    linarith [hmem.2]
  have hmay : (s.pointer.moveTo place).mayClick (s.clock.tick false).now true = true := by
    have hzero : place.distanceSq place = 0 := by simp [Point.distanceSq]
    have hradius : ¬ Pointer.clickRadius * Pointer.clickRadius < 0 := by decide +kernel
    unfold Pointer.mayClick Pointer.moveTo
    simp [hpress, hstrayed, hzero, hradius, hnew]
  unfold hand
  rw [hplace]
  show (s.pointer.moveTo place).mayClick (s.clock.tick false).now s.pointer.isDown = true
  rw [hdown]
  exact hmay

/-- A frame that is no release turns nothing over, unless by a key. -/
theorem visible_of_not_release {s : Session} {input : Input} (hkey : input.key? = none)
    (h : ∀ button target, input ≠ .release button target) :
    (s.next (.frame input)).window.pane.visible = s.window.pane.visible :=
  visible_of_not_turnsOver (not_turnsOver_of_not_release hkey h)

/-- **A press and a release** of the checkbox, after a frame with the screen as it is: the release
turns the window over, if nothing else is held for a click. -/
theorem turnsOver_release_checkbox {s : Session} (hearly : s.clock.IsEarly)
    (hlate : s.clock.now + 6 ≤ 2 ^ 47) (hclick : s.grip.click = none)
    (h : IsClickable s.screen s.window.pane.visible s.window.checkbox.label)
    (hsettled : s.Settled) :
    ((s.next (.frame .idle)).next (.frame (.press .primary .checkbox))).turnsOver
      (.frame (.release .primary .checkbox)) = true := by
  set settled := s.next (.frame .idle) with hidle
  set pressed := settled.next (.frame (.press .primary .checkbox)) with hpressed
  have hvisible₁ : settled.window.pane.visible = s.window.pane.visible :=
    visible_of_not_release rfl (by simp)
  have hvisible₂ : pressed.window.pane.visible = s.window.pane.visible :=
    (visible_of_not_release rfl (by simp)).trans hvisible₁
  -- the checkbox is drawn at the same place both times
  have hplace₁ := s.locate_checkbox .idle
  have hplace₂ := settled.locate_checkbox (.press .primary .checkbox)
  have hscreen : settled.screen = s.screen := s.screen_frame .idle
  have hlabel : settled.window.checkbox.label = s.window.checkbox.label :=
    (s.sameTexts_next (.frame .idle)).label
  rw [hvisible₁, hscreen, hlabel] at hplace₂
  rw [← hidle] at hplace₁
  rw [← hpressed] at hplace₂
  have hheld : pressed.grip.click = some (.checkbox s.window.pane.visible) := by
    have hnone : settled.grip.click = none := click_eq_none hclick (by simp)
    rw [hpressed, click_press hplace₁ hnone, hidle, hits_checkbox .primary h hsettled]
  have hdrawn : Widget.Name.checkbox s.window.pane.visible ∈ pressed.drawn.map (·.name) := by
    obtain ⟨pane, -, hdrawn⟩ := settled.exists_drawn_frame (.press .primary .checkbox)
    rw [hpressed, hdrawn, hvisible₁]
    simp
  have hholds := holds_press hplace₁ .primary
  rw [← hpressed] at hholds
  have hearly₂ : pressed.clock.IsEarly := by
    obtain ⟨hearly₁, hnow⟩ := early_frame hearly (by linarith) .idle
    exact (early_frame hearly₁ (by linarith) _).1
  rw [turnsOver_release, hholds.clicked hearly₂ hplace₂, hheld, hvisible₂]
  simpa using hdrawn

/-- **A click on the checkbox** turns the window over by its release, if nothing is held for a click
after its first frame. -/
theorem turnsOver_click {s : Session} (hearly : s.clock.IsEarly) (hlate : s.clock.now + 8 ≤ 2 ^ 47)
    (hclick : (s.next (.frame .rest)).grip.click = none)
    (h : IsClickable s.screen s.window.pane.visible s.window.checkbox.label) :
    (((s.next (.frame .rest)).next (.frame .idle)).next
      (.frame (.press .primary .checkbox))).turnsOver (.frame (.release .primary .checkbox)) =
      true := by
  have hvisible : (s.next (.frame .rest)).window.pane.visible = s.window.pane.visible :=
    visible_of_not_release rfl (by simp)
  have hscreen := s.screen_frame .rest
  have hlabel := (s.sameTexts_next (.frame .rest)).label
  obtain ⟨hearly₁, hnow⟩ := early_frame hearly (by linarith) .rest
  refine turnsOver_release_checkbox hearly₁ (by linarith) hclick ?_ ?_
  · rw [hvisible, hscreen, hlabel]
    exact h
  · -- the first frame has drawn the pane as the second one will
    exact settled_frame hvisible

/-- **What a click on the checkbox logs**: one update, and it leaves the checkbox in that state. -/
theorem log_click {s : Session} (hearly : s.clock.IsEarly) (hlate : s.clock.now + 8 ≤ 2 ^ 47)
    (hclick : (s.next (.frame .rest)).grip.click = none)
    (h : IsClickable s.screen s.window.pane.visible s.window.checkbox.label) :
    s.log (Step.gesture (.click .primary .checkbox)).moments =
        [.visibilityUpdated !s.window.checkbox.isChecked] ∧
      (s.after (Step.gesture (.click .primary .checkbox)).moments).window.checkbox.isChecked =
        !s.window.checkbox.isChecked := by
  have hover := turnsOver_click hearly hlate hclick h
  set rested := s.next (.frame .rest) with hrested
  set settled := rested.next (.frame .idle) with hsettled
  set pressed := settled.next (.frame (.press .primary .checkbox)) with hpressed
  -- only the last of the four frames turns anything over
  have hover₁ : s.turnsOver (.frame .rest) = false := not_turnsOver_of_not_release rfl (by simp)
  have hover₂ : rested.turnsOver (.frame .idle) = false :=
    not_turnsOver_of_not_release rfl (by simp)
  have hover₃ : settled.turnsOver (.frame (.press .primary .checkbox)) = false :=
    not_turnsOver_of_not_release rfl (by simp)
  have hstate : pressed.window.checkbox.isChecked = s.window.checkbox.isChecked := by
    rw [hpressed, isChecked_next, hover₃, if_neg (by simp), hsettled, isChecked_next, hover₂,
      if_neg (by simp), hrested, isChecked_next, hover₁, if_neg (by simp)]
  constructor
  · show s.log [.frame .rest, .frame .idle, .frame (.press .primary .checkbox),
      .frame (.release .primary .checkbox)] = _
    rw [log_cons, log_cons, log_cons, log_cons, ← hrested, ← hsettled, ← hpressed, updates, updates,
      updates, updates, hover₁, hover₂, hover₃, hover, hstate]
    rfl
  · show (pressed.next (.frame (.release .primary .checkbox))).window.checkbox.isChecked = _
    rw [isChecked_next, hover, if_pos rfl, hstate]

/-! ## The frames of a click -/

/-- A click takes four frames. -/
theorem frames_click (s : Session) (button : Button) (target : Target) :
    s.frames (Step.gesture (.click button target)).moments =
      let settled := (s.next (.frame .rest)).next (.frame .idle)
      [(s, .rest), (s.next (.frame .rest), .idle), (settled, .press button target),
        (settled.next (.frame (.press button target)), .release button target)] :=
  rfl

/-- Of these only the last one, the release, can turn the window over. -/
theorem not_turnsOver_of_release {s : Session} {button : Button} {target : Target}
    (h : (((s.next (.frame .rest)).next (.frame .idle)).next
      (.frame (.press button target))).turnsOver (.frame (.release button target)) = false)
    {f : Session × Input} (hf : f ∈ s.frames (Step.gesture (.click button target)).moments) :
    f.1.turnsOver (.frame f.2) = false := by
  rw [frames_click] at hf
  simp only [List.mem_cons, List.not_mem_nil, or_false] at hf
  rcases hf with rfl | rfl | rfl | rfl
  · exact not_turnsOver_of_not_release rfl (by simp)
  · exact not_turnsOver_of_not_release rfl (by simp)
  · exact not_turnsOver_of_not_release rfl (by simp)
  · exact h

end Session

end Reveal
