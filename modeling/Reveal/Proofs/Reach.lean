import Mathlib.Tactic.NormNum
import Mathlib.Tactic.Positivity
import Reveal.Proofs.Scroll

/-!
# Reveal — what a press reaches

A press takes hold of something only within a few points of it, and everything by which
the text is scrolled ends at the lower edge of the pane. The checkbox stands below that,
and its middle is far enough away. So once the screen has been drawn twice as it is, a
click on the checkbox leaves the text alone; and so does everything else that is not a
press.

## Results

* `Widget.all_hit`                — what is hit is near.
* `Session.reaches_of_not_press`  — only a press reaches for the text.
* `Session.reaches_checkbox`      — a press on the checkbox does not.
* `Session.reaches_press_checkbox` — so no frame of a gesture with one does.
* `Session.reaches_of_calm`       — nor does a run in which nothing else is pressed.
-/

namespace Reveal

/-! ## Distances -/

/-- A point below a rectangle is as far from it as its lower side, or further. -/
theorem Rect.lt_distanceSq {r : Rect} {p : Point} {d : ℚ} (hd : 0 ≤ d)
    (hr : r.isInverted = false) (h : r.bottom + d < p.y.toRat) : d * d < r.distanceSq p := by
  simp only [isInverted, Bool.or_eq_false_iff, decide_eq_false_iff_not, not_lt] at hr
  have hdown : distanceAlong r.top r.bottom p.y.toRat = p.y.toRat - r.bottom := by
    unfold distanceAlong
    rw [if_neg (by linarith), if_pos (by linarith)]
  unfold distanceSq
  dsimp only
  rw [hdown]
  have hfar : d * d < (p.y.toRat - r.bottom) * (p.y.toRat - r.bottom) := by
    apply mul_self_lt_mul_self hd
    linarith
  have := mul_self_nonneg (distanceAlong r.left r.right p.x.toRat)
  linarith

/-- What two have in common does not go down further than either. -/
theorem Rect.bottom_meet_le (a b : Rect) :
    (a.meet b).bottom ≤ a.bottom ∧ (a.meet b).bottom ≤ b.bottom := by
  show min a.bottom b.bottom ≤ _ ∧ min a.bottom b.bottom ≤ _
  exact ⟨min_le_left _ _, min_le_right _ _⟩

namespace Widget

theorem nearest_mem {p : Point} {widgets : List Widget} {w : Widget}
    (h : nearest p widgets = some w) : w ∈ widgets := by
  -- the best one so far is one of those seen so far
  have hbest : ∀ v ∈ nearest p widgets, v ∈ widgets := by
    refine List.foldlRecOn (motive := fun best : Option Widget => ∀ v ∈ best, v ∈ widgets)
      widgets _ (by simp) ?_
    intro best hbest a ha v hv
    cases best with
    | none =>
      obtain rfl : a = v := by simpa using hv
      exact ha
    | some back =>
      dsimp only at hv
      split at hv
      · obtain rfl : a = v := by simpa using hv
        exact ha
      · exact hbest v hv
  exact hbest w h

/-- Whatever a click or a drag goes to has some property. -/
def Hit.All (P : Name → Prop) (h : Hit) : Prop :=
  (∀ name ∈ h.click, P name) ∧ ∀ name ∈ h.drag, P name

section

variable {P : Name → Prop}

theorem all_ite {held : Name} (h : P held) (c : Prop) [Decidable c] :
    ∀ name ∈ (if c then some held else none), P name := by
  intro name hname
  split at hname
  · rwa [← Option.mem_some.mp hname]
  · contradiction

theorem all_some {held : Name} (h : P held) : ∀ name ∈ some held, P name := by
  intro name hname
  rwa [← Option.mem_some.mp hname]

theorem all_none : ∀ name ∈ (none : Option Name), P name := by simp

/-- What is hit on a background is close, as the background is. -/
theorem all_hitBackground {p : Point} {close : List Widget} {big : Widget}
    (h : ∀ w ∈ close, P w.name) (hbig : big ∈ close) : (hitBackground p close big).All P := by
  -- it is the background or something small that is close to the point
  unfold hitBackground
  split
  · next small hsmall =>
    have hsmall := h small (List.mem_of_mem_filter (nearest_mem hsmall))
    split
    · refine ⟨all_some hsmall, all_some ?_⟩
      split
      · exact hsmall
      · exact h big hbig
    · exact ⟨all_none, all_some (h big hbig)⟩
  · split
    · next small hsmall =>
      have hsmall := h small (List.mem_of_mem_filter (nearest_mem hsmall))
      refine ⟨all_none, all_some ?_⟩
      split
      · exact hsmall
      · exact h big hbig
    · exact ⟨all_none, all_some (h big hbig)⟩

/-- **What is hit is near**: what all widgets within reach have in common, that to which a
click and a drag go has as well. -/
theorem all_hit {widgets : List Widget} {p : Point}
    (h : ∀ w ∈ widgets, w.bounds.isInverted = false → w.distanceSq p ≤ reach * reach → P w.name) :
    (hit widgets p).All P := by
  unfold hit
  dsimp only
  set close := widgets.filter fun w =>
    !w.bounds.isInverted && decide (w.distanceSq p ≤ reach * reach) with hclose
  have hall : ∀ w ∈ close, P w.name := by
    intro w hw
    simp only [hclose, List.mem_filter, Bool.and_eq_true, Bool.not_eq_true',
      decide_eq_true_eq] at hw
    exact h w hw.1 hw.2.1 hw.2.2
  -- what is under the pointer is within reach
  have hunder : ∀ {q : Widget → Bool} {w : Widget},
      nearest p ((close.filter fun w => w.distanceSq p == 0).filter q) = some w → w ∈ close :=
    fun hw => List.mem_of_mem_filter (List.mem_of_mem_filter (nearest_mem hw))
  split
  · split
    · next w hw =>
      have hw := hall w (nearest_mem hw)
      exact ⟨all_ite hw _, all_ite hw _⟩
    · exact ⟨all_none, all_none⟩
  · next big _ hbig => exact all_hitBackground hall (hunder hbig)
  · next small hsmall _ => exact ⟨all_some (hall small (hunder hsmall)), all_none⟩
  · next c d hc hd =>
    have hc := hall c (hunder hc)
    have hd := hall d (hunder hd)
    split
    · refine ⟨all_some hc, all_some ?_⟩
      split
      · exact hc
      · exact hd
    · exact ⟨all_ite hd _, all_some hd⟩

end

end Widget

/-! ## The lower edge of the pane -/

/-- A bar along the horizontal axis ends at the edge of the area, or of the screen. -/
theorem ScrollBar.high_across {edge : Scalar} (hedge : edge.IsFinite) (extent : Nat)
    (width : Scalar) : (across edge (.ofNat extent) width).high.toRat ≤ edge.toRat := by
  unfold across
  dsimp only
  split
  · next h =>
    have hle : (Scalar.ofNat extent).rank ≤ edge.rank := le_of_lt h
    exact Scalar.toRat_le_toRat (hedge.of_rank_le (Scalar.rank_ofNat_nonneg _) hle) hedge hle
  · exact le_rfl

/-- A bar is drawn along its track, in some width. -/
theorem Track.bar_drawBar {t : Track} {f : Frame} {look : ScrollBar.Look} {r : Rect}
    (h : (t.drawBar f look).bar = some r) :
    ∃ width, r = ScrollBar.bounds f.axis f.extent.track (f.across width) := by
  unfold drawBar at h
  split at h
  · contradiction
  · exact ⟨_, (Option.some.inj h).symm⟩

theorem Track.bar_settle {t : Track} {f : Frame} {r : Rect} (h : (t.settle f).bar = some r) :
    ∃ width, r = ScrollBar.bounds f.axis f.extent.track (f.across width) :=
  bar_drawBar h

namespace ScrollArea

/-- The lower edge of the pane on a screen. -/
def edge (screen : Screen) : Nat := Layout.margin + Layout.paneHeight screen.height

/-- The lower edge of the pane is kept as it is, if it is not too far down. -/
theorem toRat_edge {screen : Screen} (h : edge screen ≤ 2 ^ 24) :
    (Scalar.ofNat (edge screen)).IsFinite ∧ (Scalar.ofNat (edge screen)).toRat = edge screen :=
  Scalar.toRat_ofNat h

/-- What a frame knows of an axis when it draws the bar. -/
def Frame.alongside (f : Frame) (offset : Offset) (axis : Axis) : Track.Frame :=
  { axis
    now := f.now
    step := f.step
    extent := f.extent offset axis
    aside := (f.extent offset axis.other).track
    screen := f.screen
    hand := f.hand }

/-- The bar of a frame is drawn when the text has been moved. -/
theorem Frame.bar_advance (f : Frame) (offset : Offset) (track : Track) (motion : Motion)
    (axis : Axis) :
    ∃ t : Track, (f.advance offset track motion axis).bar = (t.settle (f.alongside offset axis)).bar := by
  unfold Frame.advance Frame.alongside
  dsimp only
  exact ⟨_, rfl⟩

/-- A bar does not go down further than the pane. -/
theorem bottom_bar {f : Frame} (hedge : edge f.screen ≤ 2 ^ 24) {offset : Offset} {track : Track}
    {motion : Motion} {axis : Axis} {r : Rect}
    (hr : (f.advance offset track motion axis).bar = some r) : r.bottom ≤ edge f.screen := by
  obtain ⟨hfinite, hvalue⟩ := toRat_edge hedge
  obtain ⟨t, ht⟩ := f.bar_advance offset track motion axis
  rw [ht] at hr
  obtain ⟨width, rfl⟩ := Track.bar_settle hr
  rw [← hvalue]
  cases axis with
  | x =>
    simp only [ScrollBar.bounds, Track.Frame.across, Frame.alongside, Axis.other, Frame.extent,
      Extent.track, Track.Frame.screenEdge]
    exact ScrollBar.high_across hfinite _ _
  | y =>
    simp only [ScrollBar.bounds, Frame.alongside, Frame.extent, Extent.track]
    exact le_rfl

/-- Nothing in the pane goes over its lower edge by more than what is clipped. -/
theorem bottom_draw {a : ScrollArea} {f : Frame} (hedge : edge f.screen ≤ 2 ^ 24)
    (hbounds : ∀ r ∈ a.bounds, r = Layout.pane f.screen) {w : Widget}
    (hw : w ∈ (a.draw f).widgets) : w.bounds.bottom ≤ edge f.screen + 3 := by
  have hpane : (Layout.pane f.screen).bottom = edge f.screen := by
    simp only [Layout.pane, Rect.ofCorner, edge]
    push_cast
    rfl
  unfold draw at hw
  dsimp only at hw
  simp only [List.mem_append, List.mem_map, List.mem_singleton, Option.mem_toList] at hw
  -- the background, the text and the two bars
  rcases hw with ((⟨r, hr, rfl⟩ | rfl) | ⟨r, hr, rfl⟩) | ⟨r, hr, rfl⟩
  · have hr : r ∈ a.bounds := by
      split at hr
      · exact Option.mem_toList.mp hr
      · exact absurd hr List.not_mem_nil
    have hbottom : r.bottom = edge f.screen := by rw [hbounds r hr, hpane]
    show r.bottom ≤ _
    linarith
  · have htext : ((Layout.text f.document a.offset).meet (Layout.window f.screen)).bottom ≤
        (Layout.window f.screen).bottom := (Rect.bottom_meet_le _ _).2
    have hwindow : (Layout.window f.screen).bottom ≤ (Layout.pane f.screen).bottom + 3 :=
      (Rect.bottom_meet_le _ _).1
    rw [hpane] at hwindow
    exact htext.trans hwindow
  · have := bottom_bar hedge hr
    linarith
  · have := bottom_bar hedge hr
    linarith

end ScrollArea

namespace Session

open ScrollArea (edge)

/-! ## What a frame draws -/

/-- The last frame that drew the text had the screen as it is, so that the background is where it
is drawn now. -/
def Settled (s : Session) : Prop :=
  s.window.pane.visible = true → ∀ r ∈ s.area.bounds, r = Layout.pane s.screen

/-- What a frame draws besides the checkbox ends at the lower edge of the pane, if the
screen has its size since the frame before. -/
theorem bottom_frame {s : Session} {input : Input}
    (hedge : s.window.pane.visible = true → edge s.screen ≤ 2 ^ 24)
    (hsettled : s.Settled)
    {w : Widget}
    (hw : w ∈ (s.next (.frame input)).drawn) :
    (∃ below, w.name = .checkbox below) ∨
      s.window.pane.visible = true ∧ w.bounds.bottom ≤ edge s.screen + 3 := by
  obtain ⟨v, hv, rfl⟩ : ∃ v ∈ ((s.drawPane input).drawCheckbox).drawn,
      { v with bounds := v.bounds.meet (Layout.whole (s.drawPane input).screen) } = w :=
    List.mem_map.mp hw
  have hv : v ∈ (s.drawPane input).drawn ++ [_] := hv
  -- the checkbox is drawn last, and everything else is in the pane
  rcases List.mem_append.mp hv with hpane | hbox
  · right
    unfold drawPane at hpane
    dsimp only at hpane
    split at hpane
    · next hvisible =>
      have hbounds' : ∀ r ∈ s.placedArea.bounds, r = Layout.pane s.screen := by
        unfold placedArea
        split
        · exact hsettled hvisible
        · exact hsettled hvisible
      have hbottom :=
        ScrollArea.bottom_draw (f := s.view input) (hedge hvisible) hbounds' hpane
      exact ⟨hvisible, (Rect.bottom_meet_le _ _).1.trans hbottom⟩
    · exact absurd hpane List.not_mem_nil
  · left
    obtain rfl := List.mem_singleton.mp hbox
    exact ⟨_, rfl⟩

/-- The pointer on the middle of the checkbox is well below its upper side. -/
theorem le_center {screen : Screen} {paneDrawn : Bool} {label : String}
    (h : Layout.IsExact screen paneDrawn label) :
    (Layout.boxTop screen.height paneDrawn : ℚ) + 8 ≤
      (Layout.checkbox screen paneDrawn label).center.y.toRat := by
  have htop := Layout.checkbox_top h
  have hheight := Layout.checkbox_height screen paneDrawn label
  have hrow : Layout.rowHeight ≤ Layout.boxHeight screen paneDrawn label := le_max_left _ _
  have hbottom := h.bottom
  obtain ⟨top, hnat⟩ : ∃ top : Nat, Layout.boxTop screen.height paneDrawn = top := by
    refine ⟨(Layout.boxTop screen.height paneDrawn).toNat, ?_⟩
    unfold Layout.boxTop Layout.innerHeight
    split <;> omega
  rw [hnat] at htop hbottom ⊢
  generalize Layout.boxHeight screen paneDrawn label = height at *
  unfold Layout.rowHeight at hrow
  show _ ≤ (Scalar.ofRat ((_ + _) / 2)).toRat
  generalize Layout.checkbox screen paneDrawn label = box at *
  unfold Rect.height at hheight
  have hend : box.bottom = top + height := by
    rw [← hheight, htop]
    push_cast
    ring
  have hrow : (18 : ℚ) ≤ height := by exact_mod_cast hrow
  have hsum : (top : ℚ) + height ≤ 2 ^ 24 := by exact_mod_cast hbottom
  -- the middle may have to be rounded, but not over a point that can be stored
  have hmem := Scalar.toRat_ofRat_mem (q := (box.top + box.bottom) / 2)
    (Scalar.exact_natCast (n := top + 8) (by omega)) (Scalar.exact_natCast (n := 2 ^ 24) le_rfl)
    (by rw [htop, hend]; push_cast; linarith) (by rw [htop, hend]; push_cast; linarith)
  have := hmem.2.1
  push_cast at this ⊢
  exact this

/-! ## Presses -/

/-- Where nothing is to be seen, nothing has to be scrolled for it. -/
theorem reaches_of_sought {s : Session} {input : Input} (hgrab : s.grabs input = false)
    (hsought : s.sought input = none) : s.reaches input = false := by
  have hview : (s.view input).inView = true := ScrollArea.Frame.inView_of_sought hsought
  rw [reaches, hgrab, hview, Bool.not_true, Bool.and_false, Bool.or_false]

/-- **Only a press** reaches for the text. -/
theorem reaches_of_not_press (s : Session) {input : Input}
    (h : ∀ button target, input ≠ .press button target) : s.reaches input = false := by
  have hpressed : (s.hand input).stroke.pressed = false := by
    cases input with
    | press button target => exact absurd rfl (h button target)
    | idle | rest | release _ _ | keyDown _ | keyUp _ => rfl
  have hsought : s.sought input = none := by
    unfold sought Selection.sought Selection.begins
    rw [hpressed]
    rfl
  exact reaches_of_sought (by rw [grabs, hpressed, Bool.false_and]) hsought

/-- The pointer is where the press takes it. -/
theorem position_press {s : Session} {target : Target} {place : Point}
    (h : s.locate target = some place) (button : Button) :
    (s.hand (.press button target)).pointer.position = some place := by
  have hplace : s.place (.press button target) = some place := h
  unfold hand
  rw [hplace]
  cases button with
  | primary => rfl
  | secondary => rfl

/-- A press does not reach for the text if it is out of the reach of everything but the
checkbox. -/
theorem reaches_of_far {s : Session} {button : Button} {target : Target} {place : Point}
    (hplace : s.locate target = some place)
    (hfar : ∀ w ∈ s.drawn, (∃ below, w.name = .checkbox below) ∨
      w.bounds.bottom + 5 < place.y.toRat) :
    s.reaches (.press button target) = false := by
  have hposition := position_press hplace button
  have hhit : (s.hits (.press button target)).All fun name => ∃ below, name = .checkbox below := by
    unfold hits
    rw [hposition]
    apply Widget.all_hit
    intro w hw hright hnear
    rcases hfar w hw with hname | hbelow
    · exact hname
    · have := Rect.lt_distanceSq (by norm_num) hright hbelow
      unfold Widget.reach Widget.distanceSq at hnear
      linarith
  have hscrolls : (s.hits (.press button target)).scrolls = false := by
    simp only [Widget.Hit.scrolls, Bool.or_eq_false_iff, Option.any_eq_false]
    constructor
    · intro name hname
      obtain ⟨below, rfl⟩ := hhit.1 name hname
      simp [Widget.Name.scrolls]
    · intro name hname
      obtain ⟨below, rfl⟩ := hhit.2 name hname
      simp [Widget.Name.scrolls]
  -- the text is met only by a pointer on it, or by one that would click or drag it
  have hmet : Widget.Name.text ∉ (s.hand (.press button target)).touch.met := by
    show Widget.Name.text ∉ (s.hand (.press button target)).pointer.position.elim [] (fun place =>
        (s.drawn.filter fun w => !w.bounds.isInverted && w.bounds.contains place).map (·.name)) ++
      (s.hits (.press button target)).click.toList ++ (s.hits (.press button target)).drag.toList
    rw [hposition]
    simp only [Option.elim_some, List.mem_append, List.mem_map, List.mem_filter,
      Option.mem_toList, not_or]
    refine ⟨⟨?_, ?_⟩, ?_⟩
    · rintro ⟨w, ⟨hw, hon⟩, hname⟩
      rcases hfar w hw with ⟨below, hbox⟩ | hbelow
      · rw [hbox] at hname
        contradiction
      · simp only [Rect.contains, Bool.and_eq_true, decide_eq_true_eq] at hon
        linarith [hon.2.2]
    · intro hclick
      obtain ⟨below, hname⟩ := hhit.1 _ hclick
      contradiction
    · intro hdrag
      obtain ⟨below, hname⟩ := hhit.2 _ hdrag
      contradiction
  have hsought : s.sought (.press button target) = none := by
    unfold sought Selection.sought Selection.begins
    rw [if_neg (by simp [hmet])]
  exact reaches_of_sought (by rw [grabs, hscrolls, Bool.and_false]) hsought

/-- The middle of the checkbox, where the last frame has drawn it. -/
theorem locate_checkbox (s : Session) (input : Input) :
    (s.next (.frame input)).locate .checkbox =
      some (Layout.checkbox s.screen s.window.pane.visible s.window.checkbox.label).center := by
  obtain ⟨-, hbox⟩ := s.recalls_frame input
  unfold locate
  rw [hbox]
  rfl

/-- What a frame draws besides the checkbox is out of reach of the middle of the checkbox, if the
frame before, as far as it drew the text, had the screen as it is. -/
theorem lt_center_of_frame {s : Session} {input : Input}
    (hexact : Layout.IsExact s.screen s.window.pane.visible s.window.checkbox.label)
    (hsettled : s.Settled)
    {w : Widget} (hw : w ∈ (s.next (.frame input)).drawn) :
    (∃ below, w.name = .checkbox below) ∨
      w.bounds.bottom + 5 <
        (Layout.checkbox s.screen s.window.pane.visible s.window.checkbox.label).center.y.toRat := by
  have hcenter := le_center hexact
  -- the checkbox begins three points below the pane
  have hedge : s.window.pane.visible = true →
      (edge s.screen : Int) + 3 = Layout.boxTop s.screen.height s.window.pane.visible := by
    intro hvisible
    have := Layout.paneHeight_eq (hexact.height hvisible)
    rw [hvisible]
    simp only [edge, Layout.margin, Layout.boxTop, if_true]
    omega
  have hedge' : s.window.pane.visible = true → edge s.screen ≤ 2 ^ 24 := by
    intro hvisible
    have := hedge hvisible
    have := hexact.bottom
    omega
  rcases bottom_frame hedge' hsettled hw with hname | ⟨hvisible, hbottom⟩
  · exact Or.inl hname
  · right
    have hsame : ((edge s.screen : Int) : ℚ) + 3 =
        (Layout.boxTop s.screen.height s.window.pane.visible : ℚ) := by
      exact_mod_cast hedge hvisible
    push_cast at hsame
    linarith

/-- **A press on the checkbox** does not reach for the text, if the frame before, and the
one before that as far as it drew the text, had the screen as it is. -/
theorem reaches_checkbox {s : Session} {input : Input} (button : Button)
    (hexact : Layout.IsExact s.screen s.window.pane.visible s.window.checkbox.label)
    (hsettled : s.Settled) :
    (s.next (.frame input)).reaches (.press button .checkbox) = false :=
  reaches_of_far (s.locate_checkbox input) fun _ hw => lt_center_of_frame hexact hsettled hw

/-- A rest activates nothing. -/
theorem visible_rest (s : Session) :
    (s.next (.frame .rest)).window.pane.visible = s.window.pane.visible := by
  have hclicked : (s.hand .rest).touch.clicked = none := rfl
  have hactivates : (s.layOut .rest).activates (s.hand .rest) .rest = false := by
    unfold activates Hand.clicks
    rw [hclicked]
    rfl
  show (turned _ _ _).pane.visible = _
  unfold turned
  rw [hactivates, if_neg (by simp), window_layOut]
  split
  · rfl
  · rfl

theorem screen_frame (s : Session) (input : Input) :
    (s.next (.frame input)).screen = s.screen := by
  simp only [next, layOut, drawCheckbox, drawPane]
  split
  · rfl
  · rfl

/-- The area of a frame that draws the document is the pane. -/
theorem bounds_frame {s : Session} (hvisible : s.window.pane.visible = true) (input : Input) :
    (s.next (.frame input)).area.bounds = some (Layout.pane s.screen) := by
  rw [(area_frame hvisible input).1, drawnArea_eq]
  rfl

/-- A frame settles the screen, unless it shows or hides the text. -/
theorem settled_frame {s : Session} {input : Input}
    (h : (s.next (.frame input)).window.pane.visible = s.window.pane.visible) :
    (s.next (.frame input)).Settled := by
  intro hvisible r hr
  rw [h] at hvisible
  rw [bounds_frame hvisible] at hr
  rw [s.screen_frame input]
  exact (Option.mem_some.mp hr).symm

/-- Nothing but a press reaches for the text. -/
theorem reaches_of_no_press {s : Session} {inputs : List Input}
    (h : ∀ input ∈ inputs, ∀ button target, input ≠ .press button target)
    {f : Session × Input} (hf : f ∈ s.frames (inputs.map .frame)) : f.1.reaches f.2 = false := by
  obtain ⟨before, later, hmoments, -⟩ := exists_of_mem_frames hf
  have hmem : Moment.frame f.2 ∈ inputs.map Moment.frame := by
    rw [hmoments]
    exact List.mem_append_right _ List.mem_cons_self
  obtain ⟨input, hinput, heq⟩ := List.mem_map.mp hmem
  obtain rfl := Moment.frame.inj heq
  exact reaches_of_not_press _ (h _ hinput)

/-- **A gesture that presses the checkbox** does not reach for the text in any of its
frames: before the press, the screen is drawn twice as it is. -/
theorem reaches_press_checkbox (s : Session) (button : Button)
    (hexact : Layout.IsExact s.screen s.window.pane.visible s.window.checkbox.label)
    {later : List Input} (hlater : ∀ input ∈ later, ∀ button target, input ≠ .press button target)
    {f : Session × Input}
    (hf : f ∈ s.frames
      ((.rest :: .idle :: .press button .checkbox :: later : List Input).map .frame)) :
    f.1.reaches f.2 = false := by
  have hpress : ((s.next (.frame .rest)).next (.frame .idle)).reaches (.press button .checkbox) =
      false := by
    have hscreen := s.screen_frame .rest
    have hlabel := (s.sameTexts_next (.frame .rest)).label
    apply reaches_checkbox
    · rw [hscreen, hlabel, visible_rest]
      exact hexact
    · exact settled_frame s.visible_rest
  -- the third frame is the only one with a press
  simp only [List.map_cons, frames, List.mem_cons] at hf
  rcases hf with rfl | rfl | rfl | hf
  · exact reaches_of_not_press _ (by simp)
  · exact reaches_of_not_press _ (by simp)
  · exact hpress
  · exact reaches_of_no_press hlater hf

/-! ## Calm runs -/

/-- Whether the step presses nothing but the checkbox. -/
def Step.isCalm : Step → Bool
  | .act _ | .resize _ => true
  | .gesture (.click _ target) | .gesture (.press target) => target = .checkbox
  | .gesture .wait | .gesture (.release _) | .gesture (.key _) => true

theorem screen_after_frames (s : Session) (inputs : List Input) :
    (s.after (inputs.map .frame)).screen = s.screen := by
  induction inputs generalizing s with
  | nil => rfl
  | cons input inputs ih => exact (ih (s.next (.frame input))).trans (s.screen_frame input)

/-- A calm step does not reach for the text. -/
theorem reaches_of_calm_step {s : Session} {step : Step} (hcalm : step.isCalm = true)
    (hexact : ∀ paneDrawn, Layout.IsExact s.screen paneDrawn s.window.checkbox.label)
    {f : Session × Input} (hf : f ∈ s.frames step.moments) : f.1.reaches f.2 = false := by
  cases step with
  | act action => exact absurd hf List.not_mem_nil
  | resize screen => exact absurd hf List.not_mem_nil
  | gesture g =>
    cases g with
    | wait => exact reaches_of_no_press (by simp [Gesture.inputs]) hf
    | click button target =>
      obtain rfl : target = .checkbox := by simpa [Step.isCalm] using hcalm
      exact s.reaches_press_checkbox button (hexact _) (by simp) hf
    | press target =>
      obtain rfl : target = .checkbox := by simpa [Step.isCalm] using hcalm
      exact s.reaches_press_checkbox .primary (hexact _) (by simp) hf
    | release target => exact reaches_of_no_press (by simp [Gesture.inputs]) hf
    | key k => exact reaches_of_no_press (by simp [Gesture.inputs]) hf

/-- A step leaves the screen as it is, or it is the resize that changes it. -/
theorem screen_after_step (s : Session) (step : Step) :
    (s.after step.moments).screen = s.screen ∨ step = .resize (s.after step.moments).screen := by
  cases step with
  | act action => exact Or.inl rfl
  | resize screen => exact Or.inr rfl
  | gesture g => exact Or.inl (s.screen_after_frames g.inputs)

/-- So the screen after some steps is that of before, or one that a step has given it. -/
theorem screen_after_steps (s : Session) (steps : List Step) :
    (s.after (steps.flatMap Step.moments)).screen = s.screen ∨
      .resize (s.after (steps.flatMap Step.moments)).screen ∈ steps := by
  induction steps generalizing s with
  | nil => exact .inl rfl
  | cons step steps ih =>
    rw [List.flatMap_cons, after_append]
    rcases ih (s.after step.moments) with hsame | hmem
    · rw [hsame]
      exact (s.screen_after_step step).imp_right fun hresize => List.mem_cons.mpr (.inl hresize.symm)
    · exact .inr (List.mem_cons_of_mem step hmem)

/-- What holds of all screens of a run holds of those from some step of it on. -/
theorem screens_after_steps {s : Session} (first : List Step) {second : List Step}
    {P : Screen → Prop}
    (h : ∀ screen, screen = s.screen ∨ .resize screen ∈ first ++ second → P screen)
    {screen : Screen}
    (hscreen : screen = (s.after (first.flatMap Step.moments)).screen ∨ .resize screen ∈ second) :
    P screen := by
  apply h
  rcases hscreen with rfl | hmem
  · exact (s.screen_after_steps first).imp_right (List.mem_append_left second)
  · exact .inr (List.mem_append_right first hmem)

/-- **A calm run**, in which nothing but the checkbox is pressed, does not reach for the text, as
long as the checkbox is placed exactly on all of its screens. -/
theorem reaches_of_calm {s : Session} {steps : List Step}
    (hcalm : ∀ step ∈ steps, step.isCalm = true)
    (hexact : ∀ screen, screen = s.screen ∨ .resize screen ∈ steps → ∀ paneDrawn,
      Layout.IsExact screen paneDrawn s.window.checkbox.label)
    {f : Session × Input} (hf : f ∈ s.frames (steps.flatMap Step.moments)) :
    f.1.reaches f.2 = false := by
  induction steps generalizing s with
  | nil => exact absurd hf List.not_mem_nil
  | cons step steps ih =>
    rw [List.flatMap_cons, frames_append] at hf
    rcases List.mem_append.mp hf with hf | hf
    · exact reaches_of_calm_step (hcalm step List.mem_cons_self) (hexact _ (Or.inl rfl)) hf
    · refine ih (fun later hlater => hcalm later (List.mem_cons_of_mem step hlater)) ?_ hf
      intro screen hscreen
      rw [(s.sameTexts_after step.moments).label]
      refine screens_after_steps [step] hexact ?_
      rw [List.flatMap_singleton]
      exact hscreen

end Session

end Reveal
