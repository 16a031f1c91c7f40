import Mathlib.Tactic.Set
import Reveal.Proofs.Scalar
import Reveal.ScrollArea

/-!
# Reveal — a text at rest

The pointer scrolls the text by the background of the pane and by the bars, and nothing
else on the screen is of that kind (`Widget.Name.scrolls`). As long as no press hits
either of them the pointer never has a hold of one: it can take hold of something only
by a press, and whatever it is about to click or drag, or has just let go of, it has had
a hold of before.

A text that neither coasts nor goes to a goal is at rest. Unless the pointer moves it,
drawing it only brings it into its range. It does not matter whether the pointer has a
hold of the background, as long as it stays where it is: a motion of no length
(`Motion.isStill`) moves nothing. Afterwards the text is at rest again, unless something
in it has to be brought into view. That does not move it yet, but gives it a goal.

## Results

* `Grip.IsOf.update`           — what the pointer has a hold of after a frame.
* `Track.move_of_isStill`      — a motion of no length.
* `Frame.offset_advance`, `Frame.rests_advance` — a frame along one axis.
* `ScrollArea.draw_of_rests`   — a frame that the pointer spares the text in.
* `ScrollArea.draw_of_isStill` — a frame that the pointer does not move it in.
-/

namespace Reveal

open Widget (Name Hit)

/-- How far a text is scrolled along an axis. -/
def Offset.along (o : Offset) : Axis → Scalar
  | .x => o.x
  | .y => o.y

/-! ## What the pointer holds -/

/-- Whether the text is scrolled by it. -/
def Widget.Name.scrolls : Name → Bool
  | .area | .bar _ => true
  | .text | .checkbox _ => false

/-- What is held, if anything, does not scroll the text. -/
def Spares (held : Option Name) : Prop := ∀ name ∈ held, name.scrolls = false

instance (held : Option Name) : Decidable (Spares held) :=
  inferInstanceAs (Decidable (∀ name ∈ held, name.scrolls = false))

theorem spares_none : Spares none := by simp [Spares]

/-- What spares the text is nothing that scrolls it. -/
theorem Spares.ne {held : Option Name} (h : Spares held) (name : Name)
    (hname : name.scrolls = true) : held ≠ some name := by
  intro heq
  have := h name heq
  rw [hname] at this
  contradiction

/-- Whether a click or a drag would go to something that scrolls the text. -/
def Widget.Hit.scrolls (h : Hit) : Bool :=
  h.click.any Name.scrolls || h.drag.any Name.scrolls

namespace Grip

section

variable {P Q : Name → Prop} {held other : Option Name}

theorem kind_filter (h : ∀ name ∈ held, P name) (p : Name → Bool) :
    ∀ name ∈ held.filter p, P name :=
  fun name hname => h name (Option.mem_filter_iff.mp hname).1

theorem kind_or (h : ∀ name ∈ held, P name) (h' : ∀ name ∈ other, P name) :
    ∀ name ∈ held.or other, P name := by
  intro name hname
  cases held with
  | none => exact h' name hname
  | some old => exact h name hname

theorem kind_ite (h : ∀ name ∈ held, P name) (h' : ∀ name ∈ other, P name) (c : Prop)
    [Decidable c] : ∀ name ∈ (if c then held else other), P name := by
  split
  · exact h
  · exact h'

/-- What is held for a click is of one kind, and what is held for a drag and what is dragged of
another. -/
structure IsOf (P Q : Name → Prop) (g : Grip) : Prop where
  click : ∀ name ∈ g.click, P name
  drag : ∀ name ∈ g.drag, Q name
  dragged : ∀ name ∈ g.dragged, Q name

theorem IsOf.seize {g : Grip} (h : g.IsOf P Q) {hit : Hit} (hclick : ∀ name ∈ hit.click, P name)
    (hdrag : ∀ name ∈ hit.drag, Q name) : (g.seize hit).IsOf P Q :=
  ⟨kind_or h.click hclick, kind_or h.drag hdrag, h.dragged⟩

theorem IsOf.startDrag {g : Grip} (h : g.IsOf P Q) (drawn : List Name) (certain : Bool) :
    (g.startDrag drawn certain).IsOf P Q := by
  unfold Grip.startDrag
  split
  · next name _ hname =>
    split
    · exact ⟨h.click, h.drag, by rw [← hname]; exact h.drag⟩
    · exact h
  · exact h

/-- **What the pointer holds after a frame** is of the kinds of what it held before and of what
a press hits; so is what it clicks and what it lets go of. -/
theorem IsOf.update {g : Grip} (h : g.IsOf P Q) (drawn : List Name) {hit : Hit}
    (pointer : Pointer) (now : Rat) {stroke : Stroke} (escape : Bool)
    (hclick : stroke.pressed = true → ∀ name ∈ hit.click, P name)
    (hdrag : stroke.pressed = true → ∀ name ∈ hit.drag, Q name) :
    (g.update drawn hit pointer now stroke escape).1.IsOf P Q ∧
    (∀ name ∈ (g.update drawn hit pointer now stroke escape).2.clicked, P name) ∧
    ∀ name ∈ (g.update drawn hit pointer now stroke escape).2.dropped, Q name := by
  have hnone : ∀ {R : Name → Prop}, ∀ name ∈ (none : Option Name), R name := by simp
  unfold Grip.update
  dsimp only
  -- the grip after each of the things that the frame does to it
  set g₁ : Grip := { g with click := g.click.filter (· ∈ drawn) }
  have h₁ : g₁.IsOf P Q := ⟨kind_filter h.click _, h.drag, h.dragged⟩
  set g₂ : Grip := if escape then { g₁ with drag := none, dragged := none } else g₁
  have h₂ : g₂.IsOf P Q := by
    simp only [g₂]
    split
    · exact ⟨h₁.click, hnone, hnone⟩
    · exact h₁
  set g₃ : Grip := if stroke.pressed then g₂.seize hit else g₂
  have h₃ : g₃.IsOf P Q := by
    simp only [g₃]
    split
    · next hpressed => exact h₂.seize (hclick hpressed) (hdrag hpressed)
    · exact h₂
  set g₄ : Grip := if stroke.released.isSome then {} else g₃
  have h₄ : g₄.IsOf P Q := by
    simp only [g₄]
    split
    · exact ⟨hnone, hnone, hnone⟩
    · exact h₃
  set g₅ : Grip := g₄.startDrag drawn (pointer.isDragging now stroke)
  have h₅ : g₅.IsOf P Q := h₄.startDrag _ _
  set g₆ : Grip :=
    if pointer.mayClick now (pointer.isDown || stroke.released.isSome) then g₅
    else { g₅ with click := none }
  have h₆ : g₆.IsOf P Q := by
    simp only [g₆]
    split
    · exact h₅
    · exact ⟨hnone, h₅.drag, h₅.dragged⟩
  refine ⟨?_, kind_ite h₃.click hnone _, kind_ite hnone h.dragged _⟩
  split
  · exact h₆
  · exact ⟨hnone, hnone, h₆.dragged⟩

end

/-- The pointer has no hold of anything that scrolls the text. -/
structure Spares (g : Grip) : Prop where
  click : Reveal.Spares g.click
  drag : Reveal.Spares g.drag
  dragged : Reveal.Spares g.dragged

instance (g : Grip) : Decidable g.Spares :=
  decidable_of_iff (Reveal.Spares g.click ∧ Reveal.Spares g.drag ∧ Reveal.Spares g.dragged)
    ⟨fun ⟨hclick, hdrag, hdragged⟩ => ⟨hclick, hdrag, hdragged⟩,
      fun h => ⟨h.click, h.drag, h.dragged⟩⟩

theorem spares_empty : Spares {} := ⟨spares_none, spares_none, spares_none⟩

/-- **What the pointer holds after a frame** spares the text, if that was so before and
no press hits what scrolls it; so does what it clicks and what it lets go of. -/
theorem Spares.update {g : Grip} (h : g.Spares) (drawn : List Name) {hit : Hit}
    (pointer : Pointer) (now : Rat) {stroke : Stroke} (escape : Bool)
    (hhit : stroke.pressed = true → hit.scrolls = false) :
    (g.update drawn hit pointer now stroke escape).1.Spares ∧
    Reveal.Spares (g.update drawn hit pointer now stroke escape).2.clicked ∧
    Reveal.Spares (g.update drawn hit pointer now stroke escape).2.dropped := by
  simp only [Hit.scrolls, Bool.or_eq_false_iff, Option.any_eq_false] at hhit
  have hgrip : g.IsOf (·.scrolls = false) (·.scrolls = false) := ⟨h.click, h.drag, h.dragged⟩
  obtain ⟨hafter, hclicked, hdropped⟩ := hgrip.update drawn pointer now escape
    (fun hpressed => (hhit hpressed).1) fun hpressed => (hhit hpressed).2
  exact ⟨⟨hafter.click, hafter.drag, hafter.dragged⟩, hclicked, hdropped⟩

end Grip

namespace Hand

/-- The pointer does nothing in the frame that could scroll the text. -/
structure Spares (h : Hand) : Prop where
  grip : h.grip.Spares
  clicked : Reveal.Spares h.touch.clicked
  dropped : Reveal.Spares h.touch.dropped

/-- A pointer that spares the text does not deal with what scrolls it. -/
theorem Spares.engages {h : Hand} (hh : h.Spares) (name : Name) (hname : name.scrolls = true) :
    h.engages name = false := by
  simp only [Hand.engages, Bool.or_eq_false_iff, beq_eq_false_iff_ne]
  exact ⟨⟨⟨hh.grip.click.ne name hname, hh.grip.drag.ne name hname⟩, hh.clicked.ne name hname⟩,
    hh.dropped.ne name hname⟩

end Hand

/-! ## A frame along an axis -/

/-- What may move a text without its doing anything by itself: nothing, or the end of a
motion that it does not have. -/
def Motion.isRest : Motion → Bool
  | .none | .coast Option.none => true
  | .drag _ | .coast (some _) => false

/-- What moves a text by nothing and does not make it coast: the pointer may drag it, or let go
of it, without going anywhere. -/
def Motion.isStill : Motion → Bool
  | .none => true
  | .drag way => way = .zero
  | .coast launch => launch.getD .zero = .zero

/-- Where the pointer leaves the text alone it moves it by nothing. -/
theorem Motion.isStill_of_isRest {motion : Motion} (h : motion.isRest = true) :
    motion.isStill = true := by
  cases motion with
  | none => rfl
  | drag way => contradiction
  | coast launch =>
    cases launch with
    | none => rfl
    | some v => contradiction

namespace Track

/-- The text neither coasts nor goes to a goal. -/
structure Rests (t : Track) : Prop where
  velocity : t.velocity = .zero
  goal : t.goal = none

instance (t : Track) : Decidable t.Rests :=
  decidable_of_iff (t.velocity = .zero ∧ t.goal = none)
    ⟨fun ⟨hvelocity, hgoal⟩ => ⟨hvelocity, hgoal⟩, fun h => ⟨h.velocity, h.goal⟩⟩

/-- A text at rest does not begin to coast. -/
theorem move_of_rests {t : Track} (h : t.Rests) (step : Scalar) {motion : Motion}
    (hmotion : motion.isRest = true) : t.move step motion = (t, false) := by
  cases motion with
  | none => rfl
  | drag way => contradiction
  | coast launch =>
    cases launch with
    | some v => contradiction
    | none =>
      -- the velocity is below that at which a text stops
      have hslow : Scalar.zero.abs < stopSpeed := by decide
      have hstop : t.coast step = t := by
        unfold coast
        dsimp only
        rw [h.velocity, if_pos (Or.inr hslow), ← h.velocity]
      have hmove : t.move step (.coast none) =
          (t.coast step, decide ((t.coast step).velocity ≠ .zero)) := rfl
      rw [hmove, hstop, h.velocity]
      rfl

/-- There is no goal to go to. -/
theorem pursue_of_rests {t : Track} (h : t.Rests) (now : Rat) (step : Scalar) :
    t.pursue now step = (t, false) := by
  rw [pursue, h.goal]

/-- **A motion of no length** leaves a text at rest, and where it is. -/
theorem move_of_isStill {t : Track} (h : t.Rests) (step : Scalar) {motion : Motion}
    (hmotion : motion.isStill = true) :
    ∃ v, t.move step motion = ({ t with offset := v }, false) ∧
      (t.offset ≠ .infinity → ∀ r, v.clamp r = t.offset.clamp r) := by
  cases motion with
  | none => exact ⟨t.offset, rfl, fun _ _ => rfl⟩
  | drag way =>
    obtain rfl : way = .zero := of_decide_eq_true hmotion
    refine ⟨t.offset - Scalar.zero, ?_, fun hfinite r => Scalar.clamp_sub_zero hfinite r⟩
    show (({ t with offset := t.offset - Scalar.zero, goal := none } : Track), false) = _
    rw [← h.goal]
  | coast launch =>
    -- a launch at no speed is none
    refine ⟨t.offset, ?_, fun _ _ => rfl⟩
    have hlaunch : launch.getD t.velocity = .zero := by
      cases launch with
      | none => exact h.velocity
      | some v => exact of_decide_eq_true hmotion
    have hstart : ({ t with velocity := launch.getD t.velocity } : Track) = t := by
      rw [hlaunch, ← h.velocity]
    have hmove : t.move step (.coast none) = (t, false) := move_of_rests h step rfl
    rw [← hmove]
    show (Track.coast { t with velocity := launch.getD t.velocity } step, _) = _
    rw [hstart]
    rfl

/-- Everything about two tracks but their bars. -/
structure SameCourse (t t' : Track) : Prop where
  offset : t'.offset = t.offset
  velocity : t'.velocity = t.velocity
  goal : t'.goal = t.goal

/-- The bar moves the text only if the pointer deals with it. -/
theorem sameCourse_steer (t : Track) {f : Frame} (hf : f.hand.engages f.name = false)
    (across : Interval) : t.SameCourse (t.steer f across) := by
  unfold steer
  split
  · rw [if_neg (by simp [hf])]
    exact ⟨rfl, rfl, rfl⟩
  · exact ⟨rfl, rfl, rfl⟩

/-- A bar that the pointer does not deal with is only drawn. -/
theorem sameCourse_drawBar (t : Track) {f : Frame} (hf : f.hand.engages f.name = false)
    (look : ScrollBar.Look) : t.SameCourse (t.drawBar f look).track := by
  unfold drawBar
  split
  · exact ⟨rfl, rfl, rfl⟩
  · -- whatever the bar looks like, it is steered by
    have hsteer := sameCourse_steer
      { t with
        bar :=
          { (t.bar.swell f.now f.step look.strength (f.isNear || t.bar.engaged)).1 with
            engaged := f.hand.isOn f.name || f.hand.grip.dragged == some f.name } }
      hf (f.across (t.bar.swell f.now f.step look.strength
        (f.isNear || t.bar.engaged)).2.strength)
    exact ⟨hsteer.offset, hsteer.velocity, hsteer.goal⟩

/-- Settling a text that the pointer does not deal with only brings it into its range. -/
theorem offset_settle (t : Track) {f : Frame} (hf : f.hand.engages f.name = false) :
    (t.settle f).track.offset = t.offset.clamp f.extent.range := by
  have hcourse := sameCourse_drawBar
    { t with bar := (t.bar.appear f.now f.step t.overflows f.extent.overflows).1 } hf
    (t.bar.appear f.now f.step t.overflows f.extent.overflows).2
  unfold settle
  dsimp only [bound]
  rw [hcourse.offset]

/-- A text that is brought into its range stays at rest, if the pointer does not deal with its
bar. -/
theorem Rests.settle {t : Track} (h : t.Rests) {f : Frame}
    (hf : f.hand.engages f.name = false) : (t.settle f).track.Rests := by
  have hcourse := sameCourse_drawBar
    { t with bar := (t.bar.appear f.now f.step t.overflows f.extent.overflows).1 } hf
    (t.bar.appear f.now f.step t.overflows f.extent.overflows).2
  unfold Track.settle
  dsimp only [bound]
  exact ⟨hcourse.velocity.trans h.velocity, hcourse.goal.trans h.goal⟩

end Track

/-! ## A frame -/

namespace ScrollArea

/-- The text neither coasts nor goes to a goal. -/
structure Rests (a : ScrollArea) : Prop where
  x : a.x.Rests
  y : a.y.Rests

instance (a : ScrollArea) : Decidable a.Rests :=
  decidable_of_iff (a.x.Rests ∧ a.y.Rests) ⟨fun ⟨hx, hy⟩ => ⟨hx, hy⟩, fun h => ⟨h.x, h.y⟩⟩

theorem Rests.scrollTo {a : ScrollArea} (h : a.Rests) (offset : Offset) :
    (a.scrollTo offset).Rests :=
  ⟨⟨h.x.velocity, h.x.goal⟩, ⟨h.y.velocity, h.y.goal⟩⟩

/-- A pointer that spares the text neither drags it nor lets go of it. -/
theorem isRest_motion (a : ScrollArea) {hand : Hand} (h : hand.Spares) (axis : Axis) :
    (a.motion hand axis).isRest = true := by
  unfold motion
  rw [if_neg (h.grip.dragged.ne .area rfl),
    if_neg (h.dropped.ne .area rfl)]
  split
  · rfl
  · rfl

/-- Whether what is to be seen is seen, so that the text need not go anywhere for it. -/
def Frame.inView (f : Frame) : Bool := (f.way .x).numEq 0 && (f.way .y).numEq 0

/-- Where nothing is sought, nothing is out of view. -/
theorem Frame.inView_of_sought {f : Frame} (h : f.sought = none) : f.inView = true := by
  have hway : ∀ axis, f.way axis = 0 := by
    intro axis
    rw [Frame.way, h]
    rfl
  rw [inView, hway, hway]
  decide

/-- What is in view is no way off, along either axis. -/
theorem Frame.way_of_inView {f : Frame} (h : f.inView = true) (axis : Axis) :
    (f.way axis).numEq 0 = true := by
  rw [inView, Bool.and_eq_true] at h
  cases axis with
  | x => exact h.1
  | y => exact h.2

section

variable {f : Frame} {axis : Axis} {track moved : Track} {motion : Motion}

/-- Where no bar moves the text, a frame along one axis only brings it into its range, from where
the pointer or its own motion has put it. What is to be seen moves it in later frames only. -/
theorem Frame.offset_advance (hbar : f.hand.engages (.bar axis) = false) (offset : Offset)
    (hmove : track.move (f.step.smaller Track.longestStep) motion = (moved, false))
    (h : moved.Rests) :
    (f.advance offset track motion axis).track.offset =
      moved.offset.clamp (f.extent offset axis).range := by
  unfold Frame.advance
  simp only [hmove, Track.pursue_of_rests h]
  rw [Track.offset_settle _ hbar]
  -- a goal leaves the offset as it is
  split
  · rfl
  · rfl

/-- If what is to be seen is in view already, it leaves the text at rest as well. -/
theorem Frame.rests_advance (hbar : f.hand.engages (.bar axis) = false) (hview : f.inView = true)
    (offset : Offset)
    (hmove : track.move (f.step.smaller Track.longestStep) motion = (moved, false))
    (h : moved.Rests) : (f.advance offset track motion axis).track.Rests := by
  unfold Frame.advance
  simp only [hmove, Track.pursue_of_rests h, way_of_inView hview, if_true]
  exact h.settle hbar

end

/-- Wherever a frame has moved the text, it ends in its range. -/
theorem Frame.exists_advance_offset (f : Frame) (offset : Offset) (track : Track)
    (motion : Motion) (axis : Axis) :
    ∃ v : Scalar, (f.advance offset track motion axis).track.offset =
      v.clamp (f.extent offset axis).range := by
  unfold Frame.advance Track.settle
  dsimp only [Track.bound]
  exact ⟨_, rfl⟩

theorem offset_draw (a : ScrollArea) (f : Frame) :
    (a.draw f).area.offset =
      ⟨(f.advance a.offset a.x (a.motion f.hand .x) .x).track.offset,
        (f.advance a.offset a.y (a.motion f.hand .y) .y).track.offset⟩ := by
  unfold draw
  generalize f.advance a.offset a.x (a.motion f.hand .x) .x = x
  generalize f.advance a.offset a.y (a.motion f.hand .y) .y = y
  dsimp only
  split <;> rfl

/-- However it has moved, the text is in its range when it has been drawn. -/
theorem exists_draw_offset (a : ScrollArea) (f : Frame) :
    ∃ v w : Scalar, (a.draw f).area.offset =
      ⟨v.clamp (f.extent a.offset .x).range, w.clamp (f.extent a.offset .y).range⟩ := by
  obtain ⟨v, hv⟩ := f.exists_advance_offset a.offset a.x (a.motion f.hand .x) .x
  obtain ⟨w, hw⟩ := f.exists_advance_offset a.offset a.y (a.motion f.hand .y) .y
  refine ⟨v, w, ?_⟩
  rw [offset_draw, hv, hw]

/-- A text that comes to rest along both axes is at rest when it has been drawn. -/
theorem rests_draw {a : ScrollArea} {f : Frame}
    (hx : (f.advance a.offset a.x (a.motion f.hand .x) .x).track.Rests)
    (hy : (f.advance a.offset a.y (a.motion f.hand .y) .y).track.Rests) :
    (a.draw f).area.Rests := by
  unfold draw
  generalize f.advance a.offset a.x (a.motion f.hand .x) .x = x at hx
  generalize f.advance a.offset a.y (a.motion f.hand .y) .y = y at hy
  dsimp only
  split
  · exact ⟨⟨rfl, hx.goal⟩, ⟨rfl, hy.goal⟩⟩
  · exact ⟨hx, hy⟩

/-- **Drawing a text at rest** that the pointer spares only brings it into its range, and leaves it
at rest if nothing in it has to be brought into view. -/
theorem draw_of_rests {a : ScrollArea} (h : a.Rests) {f : Frame} (hand : f.hand.Spares) :
    (a.draw f).area.offset =
        ⟨a.x.offset.clamp (f.extent a.offset .x).range,
          a.y.offset.clamp (f.extent a.offset .y).range⟩ ∧
      (f.inView = true → (a.draw f).area.Rests) := by
  have hbar : ∀ axis, f.hand.engages (.bar axis) = false := fun axis =>
    hand.engages (.bar axis) rfl
  have hx := Track.move_of_rests h.x (f.step.smaller Track.longestStep) (a.isRest_motion hand .x)
  have hy := Track.move_of_rests h.y (f.step.smaller Track.longestStep) (a.isRest_motion hand .y)
  refine ⟨?_, fun hview => rests_draw ?_ ?_⟩
  · rw [offset_draw, Frame.offset_advance (hbar .x) a.offset hx h.x,
      Frame.offset_advance (hbar .y) a.offset hy h.y]
  · exact Frame.rests_advance (hbar .x) hview a.offset hx h.x
  · exact Frame.rests_advance (hbar .y) hview a.offset hy h.y

/-- **Drawing a text at rest** that the pointer does not move is no different, whatever the pointer
has a hold of, as long as that is no bar. -/
theorem draw_of_isStill {a : ScrollArea} (h : a.Rests) {f : Frame}
    (hmotion : ∀ axis, (a.motion f.hand axis).isStill = true)
    (hbar : ∀ axis, f.hand.engages (.bar axis) = false) :
    (∀ axis, a.offset.along axis ≠ .infinity →
      (a.draw f).area.offset.along axis =
        (a.offset.along axis).clamp (f.extent a.offset axis).range) ∧
      (f.inView = true → (a.draw f).area.Rests) := by
  obtain ⟨v, hx, hsame⟩ :=
    Track.move_of_isStill h.x (f.step.smaller Track.longestStep) (hmotion .x)
  obtain ⟨w, hy, hsame'⟩ :=
    Track.move_of_isStill h.y (f.step.smaller Track.longestStep) (hmotion .y)
  have hxrests : ({ a.x with offset := v } : Track).Rests := ⟨h.x.velocity, h.x.goal⟩
  have hyrests : ({ a.y with offset := w } : Track).Rests := ⟨h.y.velocity, h.y.goal⟩
  refine ⟨?_, fun hview => rests_draw ?_ ?_⟩
  · -- both axes find the extents at the offset from before the frame
    intro axis hfinite
    rw [offset_draw, Frame.offset_advance (hbar .x) a.offset hx hxrests,
      Frame.offset_advance (hbar .y) a.offset hy hyrests]
    cases axis with
    | x => exact hsame hfinite _
    | y => exact hsame' hfinite _
  · exact Frame.rests_advance (hbar .x) hview a.offset hx hxrests
  · exact Frame.rests_advance (hbar .y) hview a.offset hy hyrests

end ScrollArea

end Reveal
