import Reveal.Proofs.Canonical

/-!
# Reveal — how a run of the program ends

Where no window can be opened, a run ends in one of four ways (`Ending`): it tells something
about the program, it complains about the command line, it finds no text to show, or it gives
up because the toolkit does. They can be told apart by what is left behind, even the two that
have the same exit code: whatever is quoted in a complaint about the command line, and whatever
that does to a terminal, its first words come through, and they are never those about a missing
text.

Only the last way goes so far as to make a window, and only there is anything logged. The
written log filter decides what is, and which of its own parts are complained about; it has no
say in the exit code and in what goes to the standard output.

## Results

* `report_eq`          — how a complaint about the command line begins.
* `EndsAs.unique`      — no run ends in two ways.
* `endsAs_ofReading`   — how a run ends is known from the reading of its command line.
* `launch_ends`        — all of this.
-/

namespace Reveal

/-! ## Complaints about the command line -/

namespace Terminal.Strip

/-- What is shown outside sequences comes through. -/
theorem run_append_of_shown {cs : List Char} (hcs : ∀ c ∈ cs, isShown c = true) (flowing : Bool)
    (rest : List Char) :
    ∃ flowing', run { flowing := flowing } (cs ++ rest) =
      cs ++ run { flowing := flowing' } rest := by
  induction cs generalizing flowing with
  | nil => exact ⟨flowing, rfl⟩
  | cons c cs ih =>
    have hc : isShown c = true := hcs c (List.mem_cons_self ..)
    -- both ways of going on lead back to the state outside sequences
    have hnext : next { flowing := flowing } c = ({ flowing := true }, true) := by
      cases flowing with
      | true => simp [next, hc]
      | false => simp [next, skip, State.passes, hc]
    obtain ⟨flowing', hrun⟩ := ih (fun c hc => hcs c (List.mem_cons_of_mem _ hc)) true
    refine ⟨flowing', ?_⟩
    rw [List.cons_append, run, hnext, List.cons_append]
    exact congrArg (c :: ·) hrun

end Terminal.Strip

/-- A text with no line end in it belongs to the first paragraph. -/
theorem firstParagraph.cut_append {cs : List Char} (hcs : '\n' ∉ cs) (rest : List Char) :
    cut (cs ++ rest) = cs ++ cut rest := by
  induction cs with
  | nil => rfl
  | cons c cs ih =>
    have hc : c ≠ '\n' := fun h => hcs (h ▸ List.mem_cons_self ..)
    -- a character that is no line end does not begin an empty line either
    have hcut : ∀ rest, cut (c :: rest) = c :: cut rest := by
      intro rest
      rw [cut]
      exact fun _ h _ => hc h
    rw [List.cons_append, hcut, ih fun h => hcs (List.mem_cons_of_mem _ h), List.cons_append]

namespace UsageError

/-- The words that a complaint begins with, up to what it names. -/
def opening : UsageError → String
  | unexpectedValue _ _ => "unexpected value '"
  | unexpectedArgument _ => "unexpected argument '"
  | repeated _ | conflict _ _ => "the argument '--"
  | notUtf8 => "invalid UTF-8 was detected in one or more arguments"

/-- What is said of an error begins with its opening, whatever it is about. -/
theorem message_eq_opening (error : UsageError) :
    ∃ rest, error.message = error.opening ++ rest := by
  -- every message is put together from its opening and what the error is about
  cases error with
  | unexpectedValue value flag =>
    refine ⟨Terminal.yellow value ++
      ("' for '--" ++ (flag.name ++ "' found; no more were expected")), ?_⟩
    show _ = "unexpected value '" ++ _
    unfold message
    simp [toString, String.append_assoc]
  | unexpectedArgument shown =>
    refine ⟨Terminal.yellow shown ++ "' found", ?_⟩
    show _ = "unexpected argument '" ++ _
    unfold message
    simp [toString, String.append_assoc]
  | repeated flag =>
    refine ⟨flag.name ++ "' cannot be used multiple times", ?_⟩
    show _ = "the argument '--" ++ _
    unfold message
    simp [toString, String.append_assoc]
  | conflict first second =>
    refine ⟨first.name ++ ("' cannot be used with '--" ++ (second.name ++ "'")), ?_⟩
    show _ = "the argument '--" ++ _
    unfold message
    simp [toString, String.append_assoc]
  | notUtf8 => exact ⟨"", String.append_empty.symm⟩

/-- All the first words there are. -/
def openings : List String :=
  ["unexpected value '", "unexpected argument '", "the argument '--",
    "invalid UTF-8 was detected in one or more arguments"]

theorem opening_mem (error : UsageError) : error.opening ∈ openings := by
  cases error <;> simp [opening, openings]

/-- Whether a text stands on one line and comes through a terminal as it is. -/
def isPlain (text : String) : Bool :=
  text.toList.all fun c => Terminal.isShown c && c != '\n'

theorem of_isPlain {text : String} (h : isPlain text = true) {c : Char} (hc : c ∈ text.toList) :
    Terminal.isShown c = true ∧ c ≠ '\n' := by
  have hboth := List.all_eq_true.mp h c hc
  rw [Bool.and_eq_true, bne_iff_ne] at hboth
  exact hboth

theorem isPlain_opening (error : UsageError) : isPlain error.opening = true :=
  List.all_eq_true.mp (by decide : openings.all isPlain = true) _ error.opening_mem

/-- **How a complaint begins**, whatever is quoted in the rest of it. -/
theorem report_eq (error : UsageError) :
    ∃ rest, error.report.toList = "error: ".toList ++ (error.opening.toList ++ rest) := by
  obtain ⟨rest, hmessage⟩ := error.message_eq_opening
  let cs := "error: ".toList ++ error.opening.toList
  have hcs : ∀ c ∈ cs, Terminal.isShown c = true ∧ c ≠ '\n' := by
    intro c hc
    rcases List.mem_append.mp hc with hc | hc
    · exact of_isPlain (rfl : isPlain "error: " = true) hc
    · exact of_isPlain error.isPlain_opening hc
  -- these characters pass the terminal, and none of them ends the paragraph
  obtain ⟨flowing, hrun⟩ := Terminal.Strip.run_append_of_shown (fun c hc => (hcs c hc).1) false
    rest.toList
  have hcut := firstParagraph.cut_append (fun hc => (hcs _ hc).2 rfl)
    (Terminal.Strip.run { flowing := flowing } rest.toList)
  have htext : ("error: " ++ error.message).toList = cs ++ rest.toList := by
    rw [hmessage, String.toList_append, String.toList_append, List.append_assoc]
  refine ⟨firstParagraph.cut (Terminal.Strip.run { flowing := flowing } rest.toList) ++ ['\n'],
    ?_⟩
  rw [report, Terminal.plain, firstParagraph, htext, hrun, String.toList_append,
    String.toList_ofList, String.toList_ofList, hcut, List.append_assoc, List.append_assoc]
  rfl

/-- No complaint begins with the word about something missing. -/
theorem exists_head_opening (error : UsageError) :
    ∃ c rest, error.opening.toList = c :: rest ∧ c ≠ 'm' := by
  have hall : ∀ s ∈ openings, s.toList.head?.any (· ≠ 'm') = true := by decide
  have hhead := hall _ error.opening_mem
  cases hopening : error.opening.toList with
  | nil =>
    rw [hopening] at hhead
    exact absurd hhead Bool.false_ne_true
  | cons c rest =>
    rw [hopening] at hhead
    exact ⟨c, rest, rfl, of_decide_eq_true hhead⟩

end UsageError

/-! ## Complaints about the written log filter -/

namespace LogFilter

theorem notice_eq (part : List Char) (fault : DirectiveFault) :
    ∃ rest, (notice part fault).toList = 'i' :: rest := by
  refine ⟨"gnoring `".toList ++
    (part ++ ("`: ".toList ++ (fault.message.toList ++ "\n".toList))), ?_⟩
  simp [notice, toString]

/-- Where there are complaints about the filter, they begin with a word of their own. -/
theorem notices_eq (text : String) :
    (notices text).toList = [] ∨ ∃ rest, (notices text).toList = 'i' :: rest := by
  rw [notices, String.toList_join]
  induction parts text with
  | nil => exact Or.inl rfl
  | cons part later ih =>
    rw [List.map_cons, List.flatMap_cons]
    cases Directive.read part with
    | ok d => exact ih
    | error fault =>
      -- the first complaint that there is decides
      obtain ⟨rest, hrest⟩ := notice_eq part fault
      exact Or.inr ⟨_, congrArg (· ++ _) hrest⟩

end LogFilter

/-! ## Endings -/

/-- How a run can end where no window can be opened. -/
inductive Ending where
  /-- It tells something about the program. -/
  | informed
  /-- It does not accept the command line. -/
  | rejected
  /-- It accepts the command line, but there is no text to show. -/
  | textMissing
  /-- There is a text to show, but the toolkit could not start. -/
  | toolkitFailed
deriving DecidableEq, Repr

/-- What a run leaves behind that ends in some way. `reason` is why the toolkit could not start,
and `notices` are the complaints about the written log filter. -/
def Outcome.EndsAs (o : Outcome) (reason notices : String) : Ending → Prop
  | .informed => o.exitCode = 0 ∧ o.stdout ≠ "" ∧ o.stderr = "" ∧ o.events = []
  | .rejected =>
    o.exitCode = 2 ∧ o.stdout = "" ∧ o.events = [] ∧
      ∃ error : UsageError, o.stderr = error.report ∧
        ("error: " ++ error.opening).toList <+: o.stderr.toList
  | .textMissing =>
    o.exitCode = 2 ∧ o.stdout = "" ∧ o.events = [] ∧
      o.stderr = notices ++
        ("error: missing required argument <TEXT>: the text to display\n\n" ++
          "Usage: textpeek [OPTIONS] [TEXT]\n")
  | .toolkitFailed =>
    o.exitCode = 1 ∧ o.stdout = "" ∧
      o.stderr = notices ++
        ("error: failed to show the document window: GUI toolkit error: " ++ reason ++ "\n")

namespace Ending

/-- The exit code of a run that ends in some way. -/
def exitCode : Ending → Nat
  | informed => 0
  | rejected | textMissing => 2
  | toolkitFailed => 1

/-- The exit code tells the endings apart, but for the two usage errors. -/
theorem eq_of_exitCode_eq {a b : Ending} (h : a.exitCode = b.exitCode)
    (hab : ¬(a = rejected ∧ b = textMissing)) (hba : ¬(b = rejected ∧ a = textMissing)) :
    a = b := by
  revert h hab hba
  cases a <;> cases b <;> decide

/-- The ending of a run, by the reading of its command line. -/
def ofReading : Except Stop Invocation → Ending
  | .error .help | .error .version => informed
  | .error (.rejected _) => rejected
  | .ok ⟨_, _, none⟩ => textMissing
  | .ok ⟨_, _, some _⟩ => toolkitFailed

end Ending

namespace Outcome

variable {o : Outcome} {reason notices : String}

theorem EndsAs.exitCode_eq {ending : Ending} (h : o.EndsAs reason notices ending) :
    o.exitCode = ending.exitCode := by
  cases ending with
  | informed => exact h.1
  | rejected => exact h.1
  | textMissing => exact h.1
  | toolkitFailed => exact h.1

/-- A complaint about the command line is never the one about a missing text. -/
theorem report_ne_textMissing (error : UsageError) (filterText rest : String) :
    error.report ≠ LogFilter.notices filterText ++ ("error: missing" ++ rest) := by
  intro h
  obtain ⟨more, hreport⟩ := error.report_eq
  have hchars : "error: ".toList ++ (error.opening.toList ++ more) =
      (LogFilter.notices filterText).toList ++ ("error: missing" ++ rest).toList := by
    rw [← hreport, h, String.toList_append]
  rcases LogFilter.notices_eq filterText with hnone | ⟨others, hsome⟩
  · -- the two go apart at the first word after the heading
    obtain ⟨c, later, hopening, hc⟩ := error.exists_head_opening
    have hmissing : ("error: missing" ++ rest).toList =
        "error: ".toList ++ ('m' :: ("issing".toList ++ rest.toList)) := by
      rw [String.toList_append]
      rfl
    rw [hnone, List.nil_append, hmissing, hopening, List.append_cancel_left_eq] at hchars
    exact hc (List.cons.inj hchars).1
  · -- a complaint about the log filter would come before
    rw [hsome] at hchars
    exact absurd (List.cons.inj hchars).1 (by decide)

/-- **No run ends in two ways.** -/
theorem EndsAs.unique {filterText : String} {a b : Ending}
    (ha : o.EndsAs reason (LogFilter.notices filterText) a)
    (hb : o.EndsAs reason (LogFilter.notices filterText) b) : a = b := by
  -- these two are all that the exit code does not tell apart
  have hdiffer : ¬(o.EndsAs reason (LogFilter.notices filterText) .rejected ∧
      o.EndsAs reason (LogFilter.notices filterText) .textMissing) := by
    rintro ⟨⟨-, -, -, error, hreport, -⟩, -, -, -, hmissing⟩
    exact report_ne_textMissing error filterText
      (" required argument <TEXT>: the text to display\n\n" ++
        "Usage: textpeek [OPTIONS] [TEXT]\n") (hreport.symm.trans hmissing)
  refine Ending.eq_of_exitCode_eq (ha.exitCode_eq.symm.trans hb.exitCode_eq) ?_ ?_
  · rintro ⟨rfl, rfl⟩
    exact hdiffer ⟨ha, hb⟩
  · rintro ⟨rfl, rfl⟩
    exact hdiffer ⟨hb, ha⟩

end Outcome

/-- **How a run ends** is known from the reading of its command line. -/
theorem endsAs_ofReading (reason filterText : String) (args : List Argument) :
    (launch reason filterText args).EndsAs reason (LogFilter.notices filterText)
      (.ofReading (CommandLine.parse args)) := by
  unfold launch
  cases CommandLine.parse args with
  | error stop =>
    cases stop with
    | help => exact ⟨rfl, (by decide : helpText ≠ ""), rfl, rfl⟩
    | version => exact ⟨rfl, (by decide : versionLine ≠ ""), rfl, rfl⟩
    | rejected error =>
      have hstderr : (Stop.rejected error).outcome.stderr = error.report := String.empty_append
      -- the report begins with the opening of its message
      obtain ⟨rest, hreport⟩ := error.report_eq
      refine ⟨rfl, rfl, rfl, error, hstderr, rest, ?_⟩
      show _ = (Stop.rejected error).outcome.stderr.toList
      rw [hstderr, hreport, String.toList_append, List.append_assoc]
  | ok i =>
    obtain ⟨verbose, quiet, text⟩ := i
    cases text with
    | none => exact ⟨rfl, rfl, rfl, rfl⟩
    | some text => exact ⟨rfl, rfl, rfl⟩

/-- The exit code is that of the ending which the arguments come to. -/
theorem exitCode_launch (reason filterText : String) (args : List Argument) :
    (launch reason filterText args).exitCode =
      (Ending.ofReading (CommandLine.parse args)).exitCode :=
  (endsAs_ofReading reason filterText args).exitCode_eq

theorem stdout_launch (reason filterText : String) (args : List Argument) :
    (launch reason filterText args).stdout =
      match CommandLine.parse args with
      | .error .help => helpText
      | .error .version => versionLine
      | .error (.rejected _) | .ok _ => "" := by
  unfold launch
  cases CommandLine.parse args with
  | error stop =>
    cases stop with
    | help => rfl
    | version => rfl
    | rejected error => rfl
  | ok i =>
    obtain ⟨verbose, quiet, text⟩ := i
    cases text with
    | none => rfl
    | some text => rfl

/-- **A run of the program** on any arguments, UTF-8 or not, and with any written log filter, ends
in one and only one of the four ways, the one that belongs to the reading of its command line.
Nothing is logged unless there is a text to show, and no command line is accepted that has both
flags. The exit code and the standard output depend on the arguments alone: not on the written log
filter, nor on why the toolkit could not start. -/
theorem launch_ends (reason filterText : String) (args : List Argument) :
    let o := launch reason filterText args
    (∀ ending, o.EndsAs reason (LogFilter.notices filterText) ending ↔
      ending = .ofReading (CommandLine.parse args)) ∧
    (∀ i, CommandLine.parse args = .ok i → ¬(i.verbose = true ∧ i.quiet = true)) ∧
    ∀ reason' filterText',
      (launch reason' filterText' args).exitCode = o.exitCode ∧
        (launch reason' filterText' args).stdout = o.stdout := by
  intro o
  have hends := endsAs_ofReading reason filterText args
  refine ⟨?_, fun i h => CommandLine.not_both h, ?_⟩
  · intro ending
    constructor
    · intro h
      exact h.unique hends
    · rintro rfl
      exact hends
  · intro reason' filterText'
    constructor
    · rw [exitCode_launch, exitCode_launch]
    · rw [stdout_launch, stdout_launch]

end Reveal
