import Reveal.Launch

/-!
# Reveal — canonical command lines

An accepted command line asks for at most one of the two flags, and perhaps for a text. The
same can be asked for in one way that always works: the flag in either of its spellings, a
separator, and the text. What stands after the separator is the text whatever it looks like,
be it a flag, a second separator, or nothing at all.

An accepted command line has no effect beyond what it asks for. So it can be replaced by the
canonical one for the same, and the program leaves behind the same.

## Results

* `take_written`      — a flag that is written out is taken as that flag.
* `foldlM_written`    — so are several of them, none of which is repeated.
* `parse_arguments`   — reading gives back what was written.
* `not_both`          — an accepted command line has not both flags.
* `launch_canonical`  — all of this, and what it means for the program.
-/

namespace Reveal

/-- A result that is reached in two steps. -/
theorem bind_eq_ok_iff {ε α β : Type} {x : Except ε α} {f : α → Except ε β} {b : β} :
    x >>= f = .ok b ↔ ∃ a, x = .ok a ∧ f a = .ok b := by
  cases x with
  | error e => simp [bind, Except.bind]
  | ok a => simp [bind, Except.bind]

theorem Symbol.mapM_char {f : Symbol → Option Char} (h : ∀ c, f (.char c) = some c)
    (cs : List Char) : (cs.map Symbol.char).mapM f = some cs := by
  induction cs with
  | nil => rfl
  | cons c cs ih =>
    rw [List.map_cons, List.mapM_cons, h, ih]
    rfl

theorem Argument.text?_ofString (s : String) : (Argument.ofString s).text? = some s := by
  rw [text?, ofString, Symbol.mapM_char fun _ => rfl, Option.map_some, String.ofList_toList]

/-! ## Writing -/

/-- A flag as an argument, in its long or its short spelling. -/
def Flag.written (long : Bool) (f : Flag) : Argument :=
  .ofString (if long then "--" ++ f.name else "-" ++ f.letter.toString)

namespace Invocation

/-- The flags that are asked for. -/
def flags (i : Invocation) : List Flag :=
  (if i.verbose then [.verbose] else []) ++ if i.quiet then [.quiet] else []

theorem nodup_flags (i : Invocation) : i.flags.Nodup := by
  unfold flags
  cases i.verbose <;> cases i.quiet <;> decide

theorem mem_flags {i : Invocation} {f : Flag} :
    f ∈ i.flags ↔ f = .verbose ∧ i.verbose = true ∨ f = .quiet ∧ i.quiet = true := by
  unfold flags
  cases i.verbose <;> cases i.quiet <;> simp

/-- One flag at most, as the two exclude each other. -/
theorem length_flags_le {i : Invocation} (h : ¬(i.verbose = true ∧ i.quiet = true)) :
    i.flags.length ≤ 1 := by
  unfold flags
  cases hv : i.verbose with
  | false => cases i.quiet <;> decide
  | true =>
    cases hq : i.quiet with
    | false => decide
    | true => exact absurd ⟨hv, hq⟩ h

/-- The text that is asked for, as it stands at the end of a command line. -/
def textArguments (i : Invocation) : List Argument :=
  match i.text with
  | none => []
  | some text => [.ofString "--", .ofString text]

/-- The canonical command line, with flags in their long or their short spelling. -/
def arguments (long : Bool) (i : Invocation) : List Argument :=
  i.flags.map (Flag.written long) ++ i.textArguments

end Invocation

/-! ## Reading what was written -/

namespace CommandLine

theorem shape_written (long : Bool) (f : Flag) :
    Shape.of (f.written long) =
      if long then .long f none else .cluster [.char f.letter] := by
  cases long with
  | false => cases f <;> rfl
  | true => cases f <;> rfl

theorem ofLetter?_letter (f : Flag) : Flag.ofLetter? (.char f.letter) = some f := by
  cases f <;> rfl

namespace Progress

variable {p : Progress}

/-- **A flag that is written out** is taken as that flag, in both spellings. -/
theorem take_written (hp : p.separated = false) (long : Bool) (f : Flag) :
    p.take (f.written long) = p.takeFlag f := by
  rw [take, if_neg (by simp [hp]), shape_written]
  cases long with
  | true => rfl
  | false =>
    -- a group of one flag has no letter that would make a text of it
    have hgroup : (p.text.isNone &&
        [Symbol.char f.letter].any fun symbol => (Flag.ofLetter? symbol).isNone) = false := by
      simp [ofLetter?_letter]
    show (if _ = true then _ else p.takeCluster [.char f.letter]) = _
    rw [hgroup, if_neg Bool.false_ne_true, takeCluster, ofLetter?_letter]
    show (p.takeFlag f >>= fun p => .ok p) = p.takeFlag f
    cases p.takeFlag f with
    | error stop => rfl
    | ok p' => rfl

/-- A flag is taken in if it has not been before. -/
theorem takeFlag_of_notMem (htext : p.text = none) {f : Flag} (hhelp : f ≠ .help)
    (hversion : f ≠ .version) (hf : f ∉ p.flags) :
    p.takeFlag f = .ok { p with flags := p.flags ++ [f] } := by
  have hread : p.readText = .ok none := by rw [readText, htext]
  cases f with
  | verbose =>
    simp only [takeFlag, hread, bind, Except.bind]
    exact if_neg hf
  | quiet =>
    simp only [takeFlag, hread, bind, Except.bind]
    exact if_neg hf
  | help => exact absurd rfl hhelp
  | version => exact absurd rfl hversion

/-- **Several flags**, none of which is repeated or ends the reading. -/
theorem foldlM_written (hp : p.separated = false) (htext : p.text = none) (long : Bool)
    {flags : List Flag} (hnodup : (p.flags ++ flags).Nodup) (hhelp : .help ∉ flags)
    (hversion : .version ∉ flags) :
    (flags.map (Flag.written long)).foldlM take p = .ok { p with flags := p.flags ++ flags } := by
  induction flags generalizing p with
  | nil => simp [pure, Except.pure]
  | cons f flags ih =>
    -- no flag stands twice in the whole, so this one has not been taken yet
    have hnew : f ∉ p.flags := by
      intro hmem
      exact (List.nodup_append.mp hnodup).2.2 f hmem f (List.mem_cons_self ..) rfl
    have htake : p.take (f.written long) = .ok { p with flags := p.flags ++ [f] } := by
      rw [take_written hp]
      exact takeFlag_of_notMem htext (fun h => hhelp (h ▸ List.mem_cons_self ..))
        (fun h => hversion (h ▸ List.mem_cons_self ..)) hnew
    have hrest := ih (p := { p with flags := p.flags ++ [f] }) hp htext
      (by rw [List.append_assoc]; exact hnodup)
      (fun h => hhelp (List.mem_cons_of_mem _ h)) (fun h => hversion (List.mem_cons_of_mem _ h))
    rw [List.map_cons, List.foldlM_cons, htake]
    show (flags.map (Flag.written long)).foldlM take _ = _
    rw [hrest, List.append_assoc]
    rfl

/-- After a separator the next argument is the text, whatever it looks like. -/
theorem foldlM_textArguments (hp : p.separated = false) (htext : p.text = none) (text : String) :
    [Argument.ofString "--", Argument.ofString text].foldlM take p =
      .ok { p with text := some (.ofString text), separated := true } := by
  have hseparator : p.take (.ofString "--") = .ok { p with separated := true } := by
    rw [take, if_neg (by simp [hp])]
    rfl
  rw [List.foldlM_cons, hseparator]
  show ({ p with separated := true } : Progress).take (.ofString text) >>= _ = _
  rw [take, if_pos rfl, takeText, htext]
  rfl

theorem readText_ofString {text : String} (h : p.text = some (.ofString text)) :
    p.readText = .ok (some text) := by
  simp only [readText, h, Argument.text?_ofString]

/-- When reading succeeds at the end, and with what. -/
theorem finish_eq_ok_iff {i : Invocation} :
    p.finish = .ok i ↔
      p.flags.length ≤ 1 ∧ decide (.verbose ∈ p.flags) = i.verbose ∧
        decide (.quiet ∈ p.flags) = i.quiet ∧ p.readText = .ok i.text := by
  obtain ⟨verbose, quiet, text⟩ := i
  cases hread : p.readText with
  | error stop => simp [finish, hread, bind, Except.bind]
  | ok found =>
    simp only [finish, hread, bind, Except.bind]
    cases hflags : p.flags with
    | nil => simp
    | cons f flags =>
      cases flags with
      | nil => simp
      | cons g flags => simp

end Progress

/-- A command line is accepted in two steps: all arguments are taken, and what they have given
together is in order. -/
theorem parse_eq_ok_iff {args : List Argument} {i : Invocation} :
    parse args = .ok i ↔
      ∃ p, args.foldlM Progress.take {} = .ok p ∧ p.finish = .ok i := bind_eq_ok_iff

/-- **An accepted command line has not both flags**, as the second one is refused in any case. -/
theorem not_both {args : List Argument} {i : Invocation} (h : parse args = .ok i) :
    ¬(i.verbose = true ∧ i.quiet = true) := by
  rintro ⟨hverbose, hquiet⟩
  obtain ⟨p, -, hfinish⟩ := parse_eq_ok_iff.mp h
  -- the flags that were taken are refused at the end unless there is at most one
  obtain ⟨hlength, hv, hq, -⟩ := Progress.finish_eq_ok_iff.mp hfinish
  rw [hverbose, decide_eq_true_eq] at hv
  rw [hquiet, decide_eq_true_eq] at hq
  -- one place is not enough for two flags
  obtain ⟨f, hf⟩ : ∃ f, p.flags = [f] :=
    List.length_eq_one_iff.mp (Nat.le_antisymm hlength (List.length_pos_of_mem hv))
  rw [hf, List.mem_singleton] at hv hq
  exact absurd (hv.trans hq.symm) (by decide)

/-- **Reading gives back what was written.** -/
theorem parse_arguments {i : Invocation} (h : ¬(i.verbose = true ∧ i.quiet = true))
    (long : Bool) : parse (i.arguments long) = .ok i := by
  have hflags : (i.flags.map (Flag.written long)).foldlM Progress.take {} =
      .ok { flags := i.flags } :=
    Progress.foldlM_written (p := {}) rfl rfl long i.nodup_flags
      (by simp [Invocation.mem_flags]) (by simp [Invocation.mem_flags])
  -- the text, if any, is taken after all flags, and changes nothing about them
  obtain ⟨p, hfold, hpflags, hread⟩ : ∃ p,
      (i.arguments long).foldlM Progress.take {} = .ok p ∧ p.flags = i.flags ∧
        p.readText = .ok i.text := by
    rw [Invocation.arguments, List.foldlM_append, hflags]
    unfold Invocation.textArguments
    cases i.text with
    | none => exact ⟨_, rfl, rfl, rfl⟩
    | some text =>
      exact ⟨_, Progress.foldlM_textArguments (p := { flags := i.flags }) rfl rfl text, rfl,
        Progress.readText_ofString rfl⟩
  have hfinish : p.finish = .ok i := by
    refine Progress.finish_eq_ok_iff.mpr ⟨?_, ?_, ?_, hread⟩
    · rw [hpflags]
      exact Invocation.length_flags_le h
    · simp [hpflags, Invocation.mem_flags]
    · simp [hpflags, Invocation.mem_flags]
  rw [parse, hfold]
  exact hfinish

-- a text that looks like a flag
example : parse [.ofString "-v", .ofString "--", .ofString "--help"] =
    .ok ⟨true, false, some "--help"⟩ := by rfl

/-- **Canonical command lines.** Let flags be written in their long or in their short spelling. Each
combination of the flags but both together, with any text or none, is read from its canonical
command line just as it is. And every accepted command line, with whatever arguments, can be
replaced by the canonical one for what was read from it: whatever the written log filter is, the
program has the same exit code, writes the same to both outputs, and logs the same. -/
theorem launch_canonical (long : Bool) :
    (∀ i : Invocation, ¬(i.verbose = true ∧ i.quiet = true) → parse (i.arguments long) = .ok i) ∧
    ∀ args i, parse args = .ok i →
      parse (i.arguments long) = .ok i ∧
        ∀ reason filterText,
          launch reason filterText (i.arguments long) = launch reason filterText args := by
  refine ⟨fun i h => parse_arguments h long, ?_⟩
  intro args i h
  have hcanonical : parse (i.arguments long) = .ok i := parse_arguments (not_both h) long
  refine ⟨hcanonical, ?_⟩
  intro reason filterText
  -- the program looks at its arguments no further than through the reading of them
  rw [launch, launch, h, hcanonical]

end CommandLine

end Reveal
