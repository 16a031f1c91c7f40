import Reveal.Proofs.Canonical

/-!
# Reveal — texts that look like flags

The text to show may begin with hyphens, so that nothing but its spelling tells it from a flag.
Three things cannot be given as the text unless a separator comes first: the separator itself, a
long option name with or without a value behind it, and a hyphen with letters each of which is a
flag (`IsFlag`). Everything else is the text, however close it comes to one of these: a hyphen
alone, three of them, a name that is cut short or goes on, a group with one other letter in it.

This does not depend on the flags that came before, as long as they were accepted, since these
leave neither a text nor a separator.

## Results

* `isFlag_iff_shape`             — what a text looks like, by its spelling.
* `Progress.eq_of_take_isFlag`   — a flag leaves no text and no separator.
* `Progress.take_text`           — any other text is taken as it is.
* `text_iff_not_isFlag`          — both, at the end of an accepted command line.
-/

namespace Reveal

/-! ## Names and letters -/

namespace Flag

theorem ofName?_eq_some_iff {cs : List Char} {flag : Flag} :
    ofName? (cs.map .char) = some flag ↔ cs = flag.name.toList := by
  constructor
  · intro h
    rw [ofName?] at h
    have hname := List.find?_some h
    exact (List.map_inj_right fun _ _ => Symbol.char.inj).mp (eq_of_beq hname)
  · rintro rfl
    cases flag <;> rfl

theorem ofLetter?_isNone_eq_false_iff {c : Char} :
    (ofLetter? (.char c)).isNone = false ↔ ∃ flag : Flag, c = flag.letter := by
  rw [Option.isNone_eq_false_iff, ofLetter?, List.find?_isSome]
  constructor
  · rintro ⟨flag, -, h⟩
    exact ⟨flag, Symbol.char.inj (eq_of_beq h)⟩
  · rintro ⟨flag, rfl⟩
    exact ⟨flag, by cases flag <;> decide, beq_self_eq_true _⟩

end Flag

/-- The parts before and after the first `=` of an argument that is well-formed. -/
theorem Argument.splitValue_chars (cs : List Char) :
    splitValue (cs.map .char) =
      ((cs.takeWhile (· ≠ '=')).map .char,
        (cs.dropWhile (· ≠ '=')).tail?.map (List.map .char)) := by
  induction cs with
  | nil => rfl
  | cons c cs ih =>
    rw [List.map_cons, splitValue]
    by_cases hc : c = '='
    · simp [hc]
    · rw [if_neg (fun h => hc (Symbol.char.inj h)), ih]
      simp [hc]

/-- A text is what stands before its first `=`, and the rest if there is one. -/
theorem eq_or_eq_of_takeWhile {cs name : List Char} (h : cs.takeWhile (· ≠ '=') = name) :
    cs = name ∨ ∃ value, cs = name ++ '=' :: value := by
  have hsplit : name ++ cs.dropWhile (· ≠ '=') = cs := by
    rw [← h]
    exact List.takeWhile_append_dropWhile
  cases hrest : cs.dropWhile (· ≠ '=') with
  | nil =>
    rw [hrest, List.append_nil] at hsplit
    exact Or.inl hsplit.symm
  | cons c value =>
    -- the first character that is not passed over is the `=`
    have hc := List.head?_dropWhile_not (· ≠ '=') cs
    rw [hrest, List.head?_cons] at hc
    obtain rfl : c = '=' := by simpa using hc
    exact Or.inr ⟨value, by rw [← hsplit, hrest]⟩

/-- Whether an argument of this shape is a flag, or a group of nothing but flags. -/
def Shape.isFlag : Shape → Bool
  | .long _ _ => true
  | .cluster symbols => !symbols.any fun symbol => (Flag.ofLetter? symbol).isNone
  | _ => false

namespace CommandLine

/-! ## Spellings of flags -/

/-- The texts that are flags: an option name after two hyphens, whether a value follows it or not,
and one or more letters of flags after one. -/
inductive IsFlag : String → Prop where
  | long (flag : Flag) : IsFlag ("--" ++ flag.name)
  | valued (flag : Flag) (value : String) : IsFlag ("--" ++ flag.name ++ "=" ++ value)
  | short {letters : List Char} (hne : letters ≠ [])
      (hletters : ∀ c ∈ letters, ∃ flag : Flag, c = flag.letter) :
      IsFlag (.ofList ('-' :: letters))

/-- After two hyphens there is the name of a flag, up to an equals sign. -/
theorem shape_long {cs : List Char} (hne : cs ≠ []) :
    Shape.of (('-' :: '-' :: cs).map .char) =
      match Flag.ofName? ((cs.takeWhile (· ≠ '=')).map .char) with
      | some flag => .long flag ((cs.dropWhile (· ≠ '=')).tail?.map (List.map .char))
      | none => .unknownLong ((cs.takeWhile (· ≠ '=')).map .char) := by
  obtain ⟨c, cs, rfl⟩ := List.exists_cons_of_ne_nil hne
  -- behind the hyphens the two parts decide
  exact congrArg
    (fun parts : Argument × Option Argument =>
      match Flag.ofName? parts.1 with
      | some flag => Shape.long flag parts.2
      | none => .unknownLong parts.1)
    (Argument.splitValue_chars (c :: cs))

/-- After one hyphen there are the letters of flags. -/
theorem shape_short {c : Char} (hc : c ≠ '-') (cs : List Char) :
    Shape.of (('-' :: c :: cs).map .char) = .cluster ((c :: cs).map .char) := by
  simp [Shape.of, hc]

/-- Without a hyphen it is no flag. -/
theorem shape_plain {c : Char} (hc : c ≠ '-') (cs : List Char) :
    Shape.of ((c :: cs).map .char) = .plain := by
  simp [Shape.of, hc]

/-- When a group has nothing but flags. -/
theorem any_isNone_eq_false_iff {cs : List Char} :
    ((cs.map Symbol.char).any fun symbol => (Flag.ofLetter? symbol).isNone) = false ↔
      ∀ c ∈ cs, ∃ flag : Flag, c = flag.letter := by
  simp only [List.any_map, List.any_eq_false, Function.comp_apply, Bool.not_eq_true,
    Flag.ofLetter?_isNone_eq_false_iff]

/-- **A flag looks like one**: it has an option name, or it is a group of flags only. -/
theorem shape_of_isFlag {s : String} (h : IsFlag s) :
    (∃ flag value, Shape.of (.ofString s) = .long flag value) ∨
      ∃ symbols, Shape.of (.ofString s) = .cluster symbols ∧
        (symbols.any fun symbol => (Flag.ofLetter? symbol).isNone) = false := by
  cases h with
  | long flag => exact Or.inl ⟨flag, none, shape_written true flag⟩
  | valued flag value =>
    have htext : Argument.ofString ("--" ++ flag.name ++ "=" ++ value) =
        ('-' :: '-' :: (flag.name.toList ++ '=' :: value.toList)).map .char := by
      simp [Argument.ofString]
    -- no option name has an `=` in it
    have hname : (flag.name.toList ++ '=' :: value.toList).takeWhile (· ≠ '=') =
        flag.name.toList := by
      cases flag <;> rfl
    rw [htext, shape_long (by simp), hname, Flag.ofName?_eq_some_iff.mpr rfl]
    exact Or.inl ⟨flag, _, rfl⟩
  | @short letters hne hletters =>
    obtain ⟨c, cs, rfl⟩ := List.exists_cons_of_ne_nil hne
    -- the hyphen is no letter of a flag, so that the second one would not be one either
    have hc : c ≠ '-' := by
      obtain ⟨flag, rfl⟩ := hletters c (List.mem_cons_self ..)
      cases flag <;> decide
    refine Or.inr ⟨(c :: cs).map .char, ?_, ?_⟩
    · rw [Argument.ofString, String.toList_ofList, shape_short hc]
    · exact any_isNone_eq_false_iff.mpr hletters

/-- Two hyphens make a flag of a text that has the name of an option before its first `=`. -/
theorem isFlag_of_ofName? {cs : List Char} {flag : Flag}
    (h : Flag.ofName? ((cs.takeWhile (· ≠ '=')).map .char) = some flag) :
    IsFlag (.ofList ('-' :: '-' :: cs)) := by
  rcases eq_or_eq_of_takeWhile (Flag.ofName?_eq_some_iff.mp h) with rfl | ⟨value, rfl⟩
  · have htext : "--" ++ flag.name = .ofList ('-' :: '-' :: flag.name.toList) := by
      simp [← String.toList_inj]
    exact htext ▸ .long flag
  · have htext : "--" ++ flag.name ++ "=" ++ .ofList value =
        .ofList ('-' :: '-' :: (flag.name.toList ++ '=' :: value)) := by
      simp [← String.toList_inj]
    exact htext ▸ .valued flag (.ofList value)

/-- **Nothing else does**, apart from the separator. What begins with two hyphens is no option then,
and what begins with one has a letter that is no flag. -/
theorem shape_of_not_isFlag {s : String} (hseparator : s ≠ "--") (h : ¬IsFlag s) :
    Shape.of (.ofString s) = .plain ∨
      (∃ name : List Char, Shape.of (.ofString s) = .unknownLong (name.map .char)) ∨
      ∃ symbols, Shape.of (.ofString s) = .cluster symbols ∧
        (symbols.any fun symbol => (Flag.ofLetter? symbol).isNone) = true := by
  obtain ⟨cs, rfl⟩ : ∃ cs, s = .ofList cs := ⟨s.toList, String.ofList_toList.symm⟩
  rw [Argument.ofString, String.toList_ofList]
  cases cs with
  | nil => exact Or.inl rfl
  | cons c tail =>
    by_cases hc : c = '-'
    · subst hc
      cases tail with
      | nil => exact Or.inl rfl
      | cons d rest =>
        by_cases hd : d = '-'
        · subst hd
          have hne : rest ≠ [] := by
            rintro rfl
            exact hseparator rfl
          rw [shape_long hne]
          cases hname : Flag.ofName? ((rest.takeWhile (· ≠ '=')).map .char) with
          | none => exact Or.inr (Or.inl ⟨_, rfl⟩)
          | some flag => exact absurd (isFlag_of_ofName? hname) h
        · rw [shape_short hd]
          refine Or.inr (Or.inr ⟨_, rfl, ?_⟩)
          -- if all its letters were flags it would be one
          rw [← Bool.not_eq_false]
          intro hall
          exact h (.short (List.cons_ne_nil d rest) (any_isNone_eq_false_iff.mp hall))
    · exact Or.inl (shape_plain hc tail)

/-- Whether a text is a flag can be told from its shape. -/
theorem isFlag_iff_shape {s : String} :
    IsFlag s ↔ (Shape.of (.ofString s)).isFlag = true := by
  constructor
  · intro h
    rcases shape_of_isFlag h with ⟨flag, value, hshape⟩ | ⟨symbols, hshape, hflags⟩
    · rw [hshape, Shape.isFlag]
    · rw [hshape, Shape.isFlag, hflags, Bool.not_false]
  · intro h
    by_cases hseparator : s = "--"
    · rw [hseparator] at h
      exact absurd h (by decide)
    · refine Classical.byContradiction fun hs => ?_
      rcases shape_of_not_isFlag hseparator hs with
        hshape | ⟨name, hshape⟩ | ⟨symbols, hshape, hother⟩
      · simp [hshape, Shape.isFlag] at h
      · simp [hshape, Shape.isFlag] at h
      · simp [hshape, Shape.isFlag, hother] at h

instance : DecidablePred IsFlag := fun _ => decidable_of_iff _ isFlag_iff_shape.symm

-- close to a flag, and a flag
example : (¬IsFlag "---" ∧ ¬IsFlag "--=" ∧ ¬IsFlag "--verbos" ∧ ¬IsFlag "-vé") ∧
    IsFlag "--help=" ∧ IsFlag "-vV" := by decide

/-! ## Taking the next argument -/

namespace Progress

variable {p p' : Progress}

/-- What it means that a flag is accepted. -/
theorem eq_of_takeFlag {flag : Flag} (h : p.takeFlag flag = .ok p') :
    p' = { p with flags := p.flags ++ [flag] } := by
  obtain ⟨text, -, h⟩ := bind_eq_ok_iff.mp h
  -- help and version end the reading, and so does a flag that is repeated
  split at h
  · cases h
  · cases h
  · split at h
    · cases h
    · cases h
      rfl

/-- What it means that a group is accepted. -/
theorem eq_of_takeCluster {symbols : Argument} (h : p.takeCluster symbols = .ok p') :
    ∃ flags, p' = { p with flags := flags } := by
  induction symbols generalizing p with
  | nil =>
    cases h
    exact ⟨_, rfl⟩
  | cons symbol rest ih =>
    rw [takeCluster] at h
    split at h
    · next flag _ =>
      obtain ⟨next, hnext, h⟩ := bind_eq_ok_iff.mp h
      obtain rfl := eq_of_takeFlag hnext
      obtain ⟨flags, rfl⟩ := ih h
      exact ⟨flags, rfl⟩
    · cases h

/-- **A flag leaves no text and no separator**, if it is accepted: it is one flag more, or
several. -/
theorem eq_of_take_isFlag {s : String} (hs : IsFlag s) (hp : p.separated = false)
    (h : p.take (.ofString s) = .ok p') : ∃ flags, p' = { p with flags := flags } := by
  rw [take, if_neg (by simp [hp])] at h
  rcases shape_of_isFlag hs with ⟨flag, value, hshape⟩ | ⟨symbols, hshape, hflags⟩
  · rw [hshape] at h
    cases value with
    | none => exact ⟨_, eq_of_takeFlag h⟩
    | some value => cases h
  · simp only [hshape, hflags, Bool.and_false, Bool.false_eq_true, if_false] at h
    exact eq_of_takeCluster h

/-- **Any other text is taken as it is**, if there is none yet. -/
theorem take_text {s : String} (hseparator : s ≠ "--") (hs : ¬IsFlag s)
    (hp : p.separated = false) (htext : p.text = none) :
    p.take (.ofString s) = .ok { p with text := some (.ofString s) } := by
  have htake : ∀ complaint, p.takeText (.ofString s) complaint =
      .ok { p with text := some (.ofString s) } := by
    intro complaint
    rw [takeText, htext]
  rw [take, if_neg (by simp [hp])]
  rcases shape_of_not_isFlag hseparator hs with hshape | ⟨name, hshape⟩ | ⟨symbols, hshape, hother⟩
  · rw [hshape]
    exact htake _
  · -- a name of characters does not stand in the way
    have hname : (Argument.text? (name.map .char)).isNone = false := by
      rw [Argument.text?, Symbol.mapM_char fun _ => rfl]
      rfl
    simp only [hshape, takeUnknownLong, hname, Bool.false_eq_true, if_false]
    exact htake _
  · simp only [hshape, htext, hother, Option.isNone_none, Bool.and_self, if_true]
    exact htake _

/-- So do several arguments that are flags. -/
theorem eq_of_foldlM_isFlag {flags : List String} (hflags : ∀ a ∈ flags, IsFlag a)
    (hp : p.separated = false) (h : (flags.map Argument.ofString).foldlM take p = .ok p') :
    ∃ taken, p' = { p with flags := taken } := by
  induction flags generalizing p with
  | nil =>
    cases h
    exact ⟨_, rfl⟩
  | cons a flags ih =>
    rw [List.map_cons, List.foldlM_cons] at h
    obtain ⟨next, hnext, h⟩ := bind_eq_ok_iff.mp h
    obtain ⟨taken, rfl⟩ := eq_of_take_isFlag (hflags a (List.mem_cons_self ..)) hp hnext
    have hrest : ∀ b ∈ flags, IsFlag b := fun b hb => hflags b (List.mem_cons_of_mem _ hb)
    obtain ⟨taken, rfl⟩ := ih (p := { p with flags := taken }) hrest hp h
    exact ⟨taken, rfl⟩

end Progress

/-! ## The last argument -/

variable {flags : List String} {i : Invocation}

/-- A command line with one argument more. -/
theorem parse_concat_eq_ok_iff {args : List Argument} {p : Progress}
    (htaken : args.foldlM Progress.take {} = .ok p) (a : Argument) :
    parse (args ++ [a]) = .ok i ↔ ∃ p', p.take a = .ok p' ∧ p'.finish = .ok i := by
  have hlast : (args ++ [a]).foldlM Progress.take {} = p.take a := by
    rw [List.foldlM_append, htaken]
    show [a].foldlM Progress.take p = p.take a
    simp only [List.foldlM_cons, List.foldlM_nil, bind_pure]
  rw [parse_eq_ok_iff, hlast]

/-- An accepted list of flags, before it is looked at as a whole. -/
theorem exists_of_parse_flags (hflags : ∀ a ∈ flags, IsFlag a)
    (haccepted : parse (flags.map .ofString) = .ok i) :
    ∃ p : Progress, (flags.map Argument.ofString).foldlM Progress.take {} = .ok p ∧
      p.text = none ∧ p.separated = false ∧ p.finish = .ok i := by
  obtain ⟨p, htaken, hfinish⟩ := parse_eq_ok_iff.mp haccepted
  obtain ⟨taken, rfl⟩ := Progress.eq_of_foldlM_isFlag hflags rfl htaken
  exact ⟨_, htaken, rfl, rfl, hfinish⟩

/-- A text that is no flag is what was missing. -/
theorem parse_append_text (hflags : ∀ a ∈ flags, IsFlag a)
    (haccepted : parse (flags.map .ofString) = .ok i) {s : String} (hseparator : s ≠ "--")
    (hs : ¬IsFlag s) :
    parse (flags.map .ofString ++ [.ofString s]) = .ok { i with text := some s } := by
  obtain ⟨p, htaken, htext, hseparated, hfinish⟩ := exists_of_parse_flags hflags haccepted
  refine (parse_concat_eq_ok_iff htaken _).mpr
    ⟨_, Progress.take_text hseparator hs hseparated htext, ?_⟩
  -- the flags are in order as they were without it
  obtain ⟨hlength, hverbose, hquiet, -⟩ := Progress.finish_eq_ok_iff.mp hfinish
  exact Progress.finish_eq_ok_iff.mpr ⟨hlength, hverbose, hquiet, Progress.readText_ofString rfl⟩

/-- After a separator, or a flag that is accepted, there is still no text. -/
theorem text_of_parse_append (hflags : ∀ a ∈ flags, IsFlag a)
    (haccepted : parse (flags.map .ofString) = .ok i) {s : String} (hs : s = "--" ∨ IsFlag s)
    {i' : Invocation} (h : parse (flags.map .ofString ++ [.ofString s]) = .ok i') :
    i'.text = none := by
  obtain ⟨p, htaken, htext, hseparated, -⟩ := exists_of_parse_flags hflags haccepted
  obtain ⟨p', htake, hfinish⟩ := (parse_concat_eq_ok_iff htaken _).mp h
  have hnone : p'.text = none := by
    rcases hs with rfl | hs
    · rw [Progress.take, if_neg (by simp [hseparated])] at htake
      cases htake
      exact htext
    · obtain ⟨taken, rfl⟩ := Progress.eq_of_take_isFlag hs hseparated htake
      exact htext
  obtain ⟨-, -, -, hread⟩ := Progress.finish_eq_ok_iff.mp hfinish
  rw [Progress.readText, hnone] at hread
  exact (Except.ok.inj hread).symm

/-- **Which texts need no separator.** Let a list of flags be accepted by itself, in any spelling.
With one more argument behind it the command line is accepted and has it as its text, unchanged,
exactly if this argument is neither the separator nor a flag: an option name after two hyphens, with
or without a value, or a hyphen and then letters of flags only. The flags are then read as before.
And if it is one of these, the command line has no text, should it be accepted at all. -/
theorem text_iff_not_isFlag (hflags : ∀ a ∈ flags, IsFlag a)
    (haccepted : parse (flags.map .ofString) = .ok i) (s : String) :
    let args := flags.map .ofString ++ [.ofString s]
    ((∃ i', parse args = .ok i' ∧ i'.text = some s) ↔ s ≠ "--" ∧ ¬IsFlag s) ∧
    (s ≠ "--" ∧ ¬IsFlag s → parse args = .ok { i with text := some s }) ∧
    (s = "--" ∨ IsFlag s → ∀ i', parse args = .ok i' → i'.text = none) := by
  intro args
  have htext : s ≠ "--" ∧ ¬IsFlag s → parse args = .ok { i with text := some s } :=
    fun h => parse_append_text hflags haccepted h.1 h.2
  have hnone : s = "--" ∨ IsFlag s → ∀ i', parse args = .ok i' → i'.text = none :=
    fun h _ hparse => text_of_parse_append hflags haccepted h hparse
  refine ⟨⟨?_, fun h => ⟨_, htext h, rfl⟩⟩, htext, hnone⟩
  rintro ⟨i', hparse, hi'⟩
  -- if it were one of them there would be no text
  rw [← not_or]
  intro hs
  rw [hnone hs i' hparse] at hi'
  cases hi'

/-- A group of which one letter is no flag, and a separator, after a flag. -/
theorem text_iff_not_isFlag_quiet :
    ((∀ a ∈ ["--quiet"], IsFlag a) ∧
      parse (["--quiet"].map .ofString) = .ok ⟨false, true, none⟩) ∧
    parse [.ofString "--quiet", .ofString "-vx"] = .ok ⟨false, true, some "-vx"⟩ ∧
    ∀ i', parse [.ofString "--quiet", .ofString "--"] = .ok i' → i'.text = none := by
  have hflags : ∀ a ∈ ["--quiet"], IsFlag a := by decide
  have haccepted : parse (["--quiet"].map .ofString) = .ok ⟨false, true, none⟩ := by rfl
  refine ⟨⟨hflags, haccepted⟩, ?_, ?_⟩
  · exact (text_iff_not_isFlag hflags haccepted "-vx").2.1 (by decide)
  · exact (text_iff_not_isFlag hflags haccepted "--").2.2 (Or.inl rfl)

end CommandLine

end Reveal
