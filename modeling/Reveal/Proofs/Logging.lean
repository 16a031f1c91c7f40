import Reveal.Proofs.Ending

/-!
# Reveal — what a run logs

A run that comes as far as the toolkit has three things to tell: that it has a text, that it
makes a window for it, and that it starts the toolkit. The log filter keeps or drops each of
them for itself, so that the log is always a part of these three in their order. All other
runs log nothing.

The flags choose a threshold, but the filter uses it only if there is no directive in its
text at all, and then the log is all or nothing: no flag chooses a threshold between the
levels of the three events. A single directive takes the place of the flags altogether, even
one about a component that is no part of the program. So a filter that is meant for other
components (`Directive.IsForeign`) silences the program, though it is called with `-v`.

## Results

* `passes_read_of_foreign` — what a filter for other components lets pass.
* `events_of_silent`       — the log without any directive.
* `launch_logs`            — the log of every run.
* `launch_logs_foreign`    — the log with a filter for other components.
-/

namespace Reveal

/-- The components of the program that report events. -/
def Event.components : List String := ["textpeek", "textpeek_core::window", "textpeek_viz::host"]

theorem Event.target_mem_components (e : Event) : e.target ∈ components := by
  cases e <;> simp [target, components]

/-! ## Filters -/

/-- The directive is about a component by name, and about none of the program. -/
def Directive.IsForeign (d : Directive) : Prop :=
  ∃ target ∈ d.target, ∀ component ∈ Event.components, ¬ target <+: component.toList

instance (d : Directive) : Decidable d.IsForeign :=
  inferInstanceAs (Decidable (∃ target ∈ d.target, ∀ component ∈ Event.components,
    ¬ target <+: component.toList))

theorem Directive.IsForeign.appliesTo {d : Directive} (h : d.IsForeign) (e : Event) :
    d.appliesTo e = false := by
  obtain ⟨target, htarget, hforeign⟩ := h
  have hother : target.isPrefixOf e.target.toList = false := by
    rw [Bool.eq_false_iff, ne_eq, List.isPrefixOf_iff_prefix]
    exact hforeign _ e.target_mem_components
  have hall : d.target.all (·.isPrefixOf e.target.toList) = false := by
    rw [Option.mem_def.mp htarget]
    exact hother
  rw [Directive.appliesTo, hall, Bool.and_false, Bool.false_and]

namespace LogFilter

/-- A text has no directive in it if each of its pieces is empty or cannot be read. -/
theorem directives_eq_nil {text : String}
    (h : ∀ piece ∈ pieces ',' text.toList,
      piece = [] ∨ ∃ fault, Directive.read piece = .error fault) :
    directives text = [] := by
  rw [directives, List.filterMap_eq_nil_iff]
  intro part hpart
  obtain ⟨hpiece, hsome⟩ := List.mem_filter.mp hpart
  rcases h part hpiece with rfl | ⟨fault, hfault⟩
  · simp at hsome
  · rw [hfault]
    rfl

/-- An event that no directive is about is dropped. -/
theorem passes_of_forall_not_appliesTo {f : LogFilter} {e : Event}
    (h : ∀ d ∈ f, d.appliesTo e = false) : f.passes e = false := by
  have hnone : f.filter (·.appliesTo e) = [] := by
    rw [List.filter_eq_nil_iff]
    intro d hd
    rw [h d hd]
    exact Bool.false_ne_true
  rw [passes, decisive?, hnone]
  rfl

/-- Without directives the threshold of the flags is all that counts. -/
theorem passes_read_of_silent {text : String} (h : directives text = []) (standard : Threshold)
    (e : Event) : (read text standard).passes e = standard.allows e.level := by
  rw [read, h]
  rfl

/-- **A filter for other components** lets pass what the flags do if there is nothing in it, and
else nothing. -/
theorem passes_read_of_foreign {text : String} (h : ∀ d ∈ directives text, d.IsForeign)
    (standard : Threshold) (e : Event) :
    (read text standard).passes e =
      (decide (directives text = []) && standard.allows e.level) := by
  by_cases hsilent : directives text = []
  · rw [passes_read_of_silent hsilent, decide_eq_true hsilent, Bool.true_and]
  · have hread : read text standard = directives text := by
      rw [read]
      split
      · next heq => exact absurd heq hsilent
      · rfl
    rw [hread, decide_eq_false hsilent, Bool.false_and]
    exact passes_of_forall_not_appliesTo fun d hd => (h d hd).appliesTo e

end LogFilter

/-! ## Runs -/

/-- All that there is to tell about a run that gets as far as the toolkit. -/
theorem startEvents_standard (text : String) :
    startEvents .standard ⟨text⟩ =
      [.textReceived text.utf8ByteSize,
        .buildingWindow text.utf8ByteSize (text.toList.count '\n' + 1),
        .startingLoop "My App"] := by
  rw [← Document.lineCount_eq ⟨text⟩]
  rfl

/-- No flag chooses a threshold between the levels of these events. -/
theorem allows_of_mem_startEvents {i : Invocation} (h : ¬(i.verbose = true ∧ i.quiet = true))
    {text : String} {e : Event} (he : e ∈ startEvents .standard ⟨text⟩) :
    i.threshold.allows e.level = i.verbose := by
  -- the threshold lets both levels pass or neither
  have hlevel : e.level = .debug ∨ e.level = .info := by
    rw [startEvents_standard] at he
    simp only [List.mem_cons, List.not_mem_nil, or_false] at he
    rcases he with rfl | rfl | rfl
    · exact .inl rfl
    · exact .inl rfl
    · exact .inr rfl
  cases hverbose : i.verbose with
  | true =>
    have hquiet : i.quiet = false := by simpa [hverbose] using h
    rw [Invocation.threshold, hquiet, hverbose]
    rcases hlevel with hlevel | hlevel <;> rw [hlevel] <;> rfl
  | false =>
    rw [Invocation.threshold, hverbose]
    rcases hlevel with hlevel | hlevel <;> rw [hlevel] <;> cases i.quiet <;> rfl

/-- What is logged of a run with a text. -/
theorem events_launch {args : List Argument} {i : Invocation} {text : String}
    (h : CommandLine.parse args = .ok i) (htext : i.text = some text)
    (reason filterText : String) :
    (launch reason filterText args).events =
      (startEvents .standard ⟨text⟩).filter (LogFilter.read filterText i.threshold).passes := by
  obtain ⟨verbose, quiet, text'⟩ := i
  obtain rfl : text' = some text := htext
  rw [launch, h]
  rfl

/-- **The log with a filter for other components**, of a run with a text. -/
theorem events_of_foreign {args : List Argument} {i : Invocation} {text : String}
    (h : CommandLine.parse args = .ok i) (htext : i.text = some text) (reason : String)
    {filterText : String} (hforeign : ∀ d ∈ LogFilter.directives filterText, d.IsForeign) :
    (launch reason filterText args).events =
      if LogFilter.directives filterText = [] ∧ i.verbose = true then startEvents .standard ⟨text⟩
      else [] := by
  rw [events_launch h htext]
  have hpasses : ∀ e ∈ startEvents .standard ⟨text⟩,
      (LogFilter.read filterText i.threshold).passes e =
        decide (LogFilter.directives filterText = [] ∧ i.verbose = true) := by
    intro e he
    rw [LogFilter.passes_read_of_foreign hforeign,
      allows_of_mem_startEvents (CommandLine.not_both h) he, Bool.decide_and, Bool.decide_eq_true]
  -- so it is the same for all events
  split
  · next hall =>
    rw [List.filter_eq_self]
    intro e he
    rw [hpasses e he, decide_eq_true hall]
  · next hnot =>
    rw [List.filter_eq_nil_iff]
    intro e he
    rw [hpasses e he, decide_eq_false hnot]
    exact Bool.false_ne_true

/-- **The log without any directive** is all there is to tell, or nothing. -/
theorem events_of_silent {args : List Argument} {i : Invocation} {text : String}
    (h : CommandLine.parse args = .ok i) (htext : i.text = some text) (reason : String)
    {filterText : String} (hsilent : LogFilter.directives filterText = []) :
    (launch reason filterText args).events =
      if i.verbose then startEvents .standard ⟨text⟩ else [] := by
  have hforeign : ∀ d ∈ LogFilter.directives filterText, d.IsForeign := by
    rw [hsilent]
    exact fun d hd => absurd hd List.not_mem_nil
  rw [events_of_foreign h htext reason hforeign]
  simp only [hsilent, true_and]

/-- A run that does not come as far as the toolkit logs nothing. -/
theorem Outcome.EndsAs.silent {o : Outcome} {reason notices : String} {ending : Ending}
    (h : o.EndsAs reason notices ending) (hending : ending ≠ .toolkitFailed) :
    o.exitCode ≠ 1 ∧ o.events = [] := by
  refine ⟨?_, ?_⟩
  · rw [h.exitCode_eq]
    cases ending with
    | informed | rejected | textMissing => decide
    | toolkitFailed => exact absurd rfl hending
  · cases ending with
    | informed => exact h.2.2.2
    | rejected | textMissing => exact h.2.2.1
    | toolkitFailed => exact absurd rfl hending

/-- **What a run logs**, on any arguments and with any written log filter: some of the three events
that there are to tell, each once at most and in this order, and nothing unless the toolkit was to
be started. If no piece of the filter is a directive, it is all three of them or none. -/
theorem launch_logs (reason filterText : String) (args : List Argument) :
    let o := launch reason filterText args
    match CommandLine.parse args with
    | .ok ⟨verbose, _, some text⟩ =>
      let bytes := text.utf8ByteSize
      let lines := text.toList.count '\n' + 1
      let told : List Event :=
        [.textReceived bytes, .buildingWindow bytes lines, .startingLoop "My App"]
      o.exitCode = 1 ∧ o.events.Sublist told ∧ o.events.Nodup ∧
        (o.events.map Event.line).Sublist
          [s!"DEBUG text argument received bytes={bytes}",
            s!"DEBUG building document window bytes={bytes} lines={lines}",
            "INFO starting event loop title=My App"] ∧
        ((∀ piece ∈ pieces ',' filterText.toList,
            piece = [] ∨ ∃ fault, Directive.read piece = .error fault) →
          o.events = if verbose then told else [])
    | _ => o.exitCode ≠ 1 ∧ o.events = [] := by
  intro o
  have hcode := exitCode_launch reason filterText args
  have hends := endsAs_ofReading reason filterText args
  split
  · next verbose quiet text hparse =>
    -- the events of a launch are those that pass the filter
    intro bytes lines told
    have htold : startEvents .standard ⟨text⟩ = told := startEvents_standard text
    have hsub : o.events.Sublist told := by
      rw [← htold, show o.events = _ from events_launch hparse rfl reason filterText]
      exact List.filter_sublist
    refine ⟨?_, hsub, ?_, hsub.map Event.line, ?_⟩
    · rw [hparse] at hcode
      exact hcode
    · have hdistinct : told.Nodup := by simp [told]
      exact hdistinct.sublist hsub
    · intro hsilent
      rw [← htold]
      exact events_of_silent hparse rfl reason (LogFilter.directives_eq_nil hsilent)
  · next hno =>
    -- no other ending starts anything
    refine hends.silent ?_
    cases hreading : CommandLine.parse args with
    | error stop => cases stop <;> nofun
    | ok i =>
      obtain ⟨verbose, quiet, text⟩ := i
      cases text with
      | none => nofun
      | some text => exact absurd hreading (hno verbose quiet text)

/-- **A filter for other components** silences a run with a text, whatever its flags are, unless
there is no directive in it: then all is logged with `-v` and nothing otherwise, as it is without
a filter. So the two logs differ exactly if there is a directive and `-v` is given. -/
theorem launch_logs_foreign {args : List Argument} {i : Invocation} {text : String}
    (h : CommandLine.parse args = .ok i) (htext : i.text = some text) (reason : String)
    {filterText : String} (hforeign : ∀ d ∈ LogFilter.directives filterText, d.IsForeign) :
    let events (filterText : String) := (launch reason filterText args).events
    let told := startEvents .standard ⟨text⟩
    events "" = (if i.verbose then told else []) ∧
      events filterText = (if LogFilter.directives filterText = [] then events "" else []) ∧
      (events filterText = events "" ↔
        i.verbose = false ∨ LogFilter.directives filterText = []) := by
  intro events told
  have hunset : events "" = if i.verbose then told else [] :=
    events_of_silent h htext reason rfl
  have hset : events filterText =
      if LogFilter.directives filterText = [] then events "" else [] := by
    rw [hunset, show events filterText = _ from events_of_foreign h htext reason hforeign]
    by_cases hsilent : LogFilter.directives filterText = [] <;> simp [hsilent, told]
  refine ⟨hunset, hset, ?_⟩
  rw [hset, hunset]
  have htold : told ≠ [] := List.cons_ne_nil _ _
  cases hverbose : i.verbose with
  | false => simp
  | true => simp [htold.symm]

/-- The flag asks for all events, and a directive about another program takes them away. -/
theorem launch_logs_foreign_verbose :
    let args := [Argument.ofString "-v", Argument.ofString "x"]
    (launch "" "" args).events =
        [.textReceived 1, .buildingWindow 1 1, .startingLoop "My App"] ∧
      (launch "" "other=debug" args).events = [] := by
  intro args
  have hparse : CommandLine.parse args = .ok ⟨true, false, some "x"⟩ := by rfl
  have hforeign : ∀ d ∈ LogFilter.directives "other=debug", d.IsForeign := by decide +kernel
  obtain ⟨hunset, hset, -⟩ := launch_logs_foreign hparse rfl "" hforeign
  have hsome : LogFilter.directives "other=debug" ≠ [] := by decide +kernel
  refine ⟨hunset, ?_⟩
  rw [if_neg hsome] at hset
  exact hset

/-- A directive about another program does not leave the level that the flag has chosen. -/
theorem flags_overruled :
    let args := [Argument.ofString "-v", Argument.ofString "x"]
    (∀ d ∈ LogFilter.directives "other=debug", d.IsForeign) ∧
      (launch "" "other=debug" args).events ≠ (launch "" "" args).events := by
  decide +kernel

end Reveal
