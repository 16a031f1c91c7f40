import Reveal.Proofs.Lineage

/-!
# Reveal — what is chosen, and where it arrives

Four things can be chosen about a window, and each edit writes one of them. So the settings after
a list of edits say of each of the four what the last edit of that kind wrote, and the standard
where there is none. Edits of different kinds do not meet: two lists that write the same to each
field, one after the other, give the same settings, in whatever way they are interleaved.

The settings are read twice. The toolkit is told the title and both sizes, and a window takes over
the title and the label. It keeps them, as do its copies, whatever is done to it or to them, and
whatever other windows are made of.

## Results

* `get_apply`       — an edit writes the field that it names, and no other.
* `get_ofEdits`     — after a list of edits, the last one of each kind counts.
* `getElem?_trace`  — so it does after each of the edits.
* `eq_of_get`       — settings are known from their fields.
* `Ledger.settings_after`, `Lineage.title_window`, `Lineage.label_window` — what a window was made
  of stays the same, and can be read off it.
* `choices_arrive`  — all of this.
-/

namespace Reveal

/-! ## Fields -/

namespace Settings

/-- What can be chosen about a window. -/
inductive Field where
  | title | label | size | minSize
deriving DecidableEq, Repr

/-- What a field holds. -/
abbrev Field.Value : Field → Type
  | title | label => String
  | size | minSize => Size

/-- What the settings say of a field. -/
def get (s : Settings) : (f : Field) → f.Value
  | .title => s.title
  | .label => s.label
  | .size => s.size
  | .minSize => s.minSize

/-- What an edit writes into a field, if it is the one that it names. -/
def Edit.writes? : Edit → (f : Field) → Option f.Value
  | title text, .title => some text
  | label text, .label => some text
  | size pair, .size => some pair
  | minSize pair, .minSize => some pair
  | _, _ => none

/-- All that a list of edits writes into a field. -/
def written (f : Field) (edits : List Edit) : List f.Value := edits.filterMap (·.writes? f)

/-- What was written last into a field. The standard is as if written before all edits. -/
def latest (f : Field) (edits : List Edit) : f.Value :=
  (written f edits).getLast?.getD (standard.get f)

/-- The latest value of a field is that of the last edit which writes it. -/
theorem latest_concat (f : Field) (edits : List Edit) (e : Edit) :
    latest f (edits ++ [e]) = (e.writes? f).getD (latest f edits) := by
  unfold latest written
  cases h : e.writes? f with
  | none =>
    -- the edit is about something else, and what was last before it is still last
    simp [h]
  | some value => simp [h]

/-- **An edit** writes the field that it names, and no other. -/
theorem get_apply (s : Settings) (e : Edit) (f : Field) :
    (s.apply e).get f = (e.writes? f).getD (s.get f) := by
  -- each kind of edit against each field, as crossing two of them would show in one pair only
  cases e <;> cases f <;> rfl

theorem ofEdits_concat (edits : List Edit) (e : Edit) :
    ofEdits (edits ++ [e]) = (ofEdits edits).apply e := List.foldl_concat ..

/-- **After a list of edits**, the last one of each kind counts. -/
theorem get_ofEdits (edits : List Edit) (f : Field) : (ofEdits edits).get f = latest f edits := by
  -- on the last edit, which has the last word on its own field and none on the others
  induction edits using List.reverseRecOn with
  | nil => rfl
  | append_singleton edits e ih => rw [ofEdits_concat, get_apply, ih, latest_concat]

-- the pattern of a NaN and the sign of a zero are kept, and what is overwritten leaves no trace
example :
    let odd : Size := ⟨⟨0xff800001⟩, ⟨0x80000000⟩⟩
    (ofEdits [.title "a", .size odd, .title "b"]).viewport = ⟨"b", odd, standard.minSize⟩ := by
  decide

/-- What is shown after each of the edits is what the edits so far have chosen. -/
theorem getElem?_trace (edits : List Edit) {n : Nat} (h : n < edits.length) :
    (standard.trace edits)[n]? = some (ofEdits (edits.take (n + 1))) := by
  -- what is shown there is the next edit, made where those before it have led to
  rw [trace, List.getElem?_map, Run.getElem?_trace, List.getElem?_eq_getElem h,
    List.take_add_one, List.getElem?_eq_getElem h, Option.toList_some, ofEdits_concat]
  rfl

/-- Settings are known from their fields. -/
theorem eq_of_get {a b : Settings} (h : ∀ f, a.get f = b.get f) : a = b := by
  obtain ⟨title, label, size, minSize⟩ := a
  obtain rfl : title = b.title := h .title
  obtain rfl : label = b.label := h .label
  obtain rfl : size = b.size := h .size
  obtain rfl : minSize = b.minSize := h .minSize
  rfl

end Settings

/-! ## Windows -/

namespace Lineage

/-- Nothing that is done to a window changes its title. -/
theorem title_window (l : Lineage) : l.window.title = l.settings.title := by
  rw [window, Window.after_build]

theorem label_window (l : Lineage) : l.window.checkbox.label = l.settings.label := by
  rw [window, Window.after_build]

end Lineage

namespace Ledger

variable {b : Ledger} {r : Windows}

/-- **What a window was made of** does not change any more, whatever is done later. -/
theorem settings_after (b : Ledger) (steps : List Windows.Step) {i : Nat} (h : i < b.count) :
    ((b.after steps).lineage i).settings = (b.lineage i).settings := by
  rw [b.lineage_after steps h]
  rfl

theorem Describes.title_eq (h : b.Describes r) {i : Nat} {w : Window}
    (hw : r.members[i]? = some w) : w.title = (b.lineage i).settings.title := by
  rw [h.lineage i w hw, Lineage.title_window]

theorem Describes.label_eq (h : b.Describes r) {i : Nat} {w : Window}
    (hw : r.members[i]? = some w) : w.checkbox.label = (b.lineage i).settings.label := by
  rw [h.lineage i w hw, Lineage.label_window]

end Ledger

/-- **What is chosen arrives.** After each of a list of edits the settings are those that the edits
so far choose; each field holds what the last edit of that kind wrote, or the standard if there is
none; and edits that write the same to each field, in whatever way they are interleaved, choose the
same. The toolkit is told the title and the sizes that were written last.

Take any windows now, the first of them made of any settings: steps on them do not fail, and
what a window was made of stays what it was. Each window that was made of the chosen settings, or
is a copy of one that was, has the title and the label that were written last. -/
theorem Settings.choices_arrive (edits : List Settings.Edit) :
    let chosen := ofEdits edits
    (∀ n, n < edits.length →
      (standard.trace edits)[n]? = some (ofEdits (edits.take (n + 1)))) ∧
    (∀ f, chosen.get f = latest f edits) ∧
    (∀ others, (∀ f, written f others = written f edits) → ofEdits others = chosen) ∧
    chosen.viewport = ⟨latest .title edits, latest .size edits, latest .minSize edits⟩ ∧
    ∀ (first : Settings) (document : Document) (steps : List Windows.Step),
      let start : Windows := .single (Window.build first document).1
      let books := (Ledger.opened first document).after steps
      ∃ visited r,
        Windows.trace start steps = .ok visited ∧
        (visited.getLast?.map Prod.fst).getD start = r ∧
        r.members.length = books.count ∧
        (books.lineage 0).settings = first ∧
        (∀ i later, i < books.count →
          ((books.after later).lineage i).settings = (books.lineage i).settings) ∧
        ∀ i w, r.members[i]? = some w → (books.lineage i).settings = chosen →
          w.title = latest .title edits ∧ w.checkbox.label = latest .label edits := by
  intro chosen
  refine ⟨?_, get_ofEdits edits, ?_, ?_, ?_⟩
  · intro n hn
    exact getElem?_trace edits hn
  · intro others h
    -- what was written last can be seen from all that was written
    refine eq_of_get fun f => ?_
    rw [get_ofEdits, get_ofEdits, latest, latest, h]
  · -- the toolkit reads three of the fields as they are
    rw [← get_ofEdits, ← get_ofEdits, ← get_ofEdits]
    rfl
  · intro first document steps start books
    -- the books have kept what each window was made of, and its title and label are from there
    have hbooks : books.Describes (Run.after Windows.perform start steps) :=
      Ledger.describes_after (Ledger.describes_opened first document) steps
    refine ⟨_, _, Windows.trace_eq start steps, Run.getLast?_trace _ _ _, hbooks.count, ?_, ?_, ?_⟩
    · exact (Ledger.opened first document).settings_after steps Nat.zero_lt_one
    · intro i later hi
      exact books.settings_after later hi
    · intro i w hw hmade
      rw [hbooks.title_eq hw, hbooks.label_eq hw, hmade, ← get_ofEdits, ← get_ofEdits]
      exact ⟨rfl, rfl⟩

end Reveal
