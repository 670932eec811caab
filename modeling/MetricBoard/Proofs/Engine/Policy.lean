import MetricBoard.Engine.Report
import MetricBoard.Proofs.Engine.Stage

/-!
# Dashboards under both policies

A dashboard is compared with its widgets dispatched one after the other, each from the state that
the one before left. Skipping reports on all of these runs. Aborting makes the same calls up to
the first run that fails, and none after it.
-/

namespace MetricBoard

variable {σ α : Type}

namespace Run

/-- What a run yielded, if it did not fail. -/
def value? (run : Run σ α) : Option α :=
  match run.result with
  | .ok value => some value
  | .error _ => none

def error? (run : Run σ α) : Option WidgetError :=
  match run.result with
  | .ok _ => none
  | .error error => some error

/-- The state after some runs that started from a state. -/
def stateAfter (state : σ) (runs : List (Run σ α)) : σ :=
  runs.foldl (fun _ run => run.state) state

theorem error?_eq_none {run : Run σ α} (h : run.error? = none) :
    ∃ value, run.result = .ok value := by
  unfold error? at h
  split at h
  · exact ⟨_, ‹_›⟩
  · cases h

theorem error?_eq_some {run : Run σ α} {error : WidgetError} (h : run.error? = some error) :
    run.result = .error error := by
  unfold error? at h
  split at h
  · cases h
  · obtain rfl := Option.some.inj h
    assumption

theorem value?_isSome (run : Run σ α) : run.value?.isSome = run.error?.isNone := by
  unfold value? error?
  cases run.result <;> rfl

end Run

namespace Report

/-- The report on widgets and their runs. -/
def of (outcomes : List (WidgetDescriptor × Run σ Rendered)) : Report where
  rendered := outcomes.filterMap (·.2.value?)
  failures := outcomes.filterMap fun outcome => outcome.2.error?.map (outcome.1.name, ·)

theorem of_cons (widget : WidgetDescriptor) (run : Run σ Rendered)
    (outcomes : List (WidgetDescriptor × Run σ Rendered)) :
    of ((widget, run) :: outcomes) = (of outcomes).cons widget.name run.result := by
  unfold of cons
  simp only [List.filterMap_cons, Run.value?, Run.error?]
  cases run.result <;> rfl

/-- The report on some widgets and on others after them. -/
def append (report rest : Report) : Report :=
  ⟨report.rendered ++ rest.rendered, report.failures ++ rest.failures⟩

/-- A report on two groups of widgets is the report on the one and then on the other. -/
theorem of_append (outcomes others : List (WidgetDescriptor × Run σ Rendered)) :
    of (outcomes ++ others) = (of outcomes).append (of others) := by
  unfold of append
  rw [List.filterMap_append, List.filterMap_append]

/-- Every widget is either rendered or has failed. -/
theorem length_of (outcomes : List (WidgetDescriptor × Run σ Rendered)) :
    (of outcomes).rendered.length + (of outcomes).failures.length = outcomes.length := by
  induction outcomes with
  | nil => rfl
  | cons outcome outcomes ih =>
    obtain ⟨widget, run⟩ := outcome
    rw [of_cons]
    cases run.result <;> simp only [cons, List.length_cons] <;> omega

theorem failures_of_eq_nil (outcomes : List (WidgetDescriptor × Run σ Rendered)) :
    (of outcomes).failures = [] ↔ ∀ run ∈ outcomes.map (·.2), run.error? = none := by
  unfold of
  rw [List.filterMap_eq_nil_iff, List.forall_mem_map]
  simp

/-- The failures are those of the widgets that were not rendered, in their order. -/
theorem failures_of (outcomes : List (WidgetDescriptor × Run σ Rendered)) :
    (of outcomes).failures.map (·.1) =
      (outcomes.filter (!·.2.value?.isSome)).map (·.1.name) := by
  induction outcomes with
  | nil => rfl
  | cons outcome outcomes ih =>
    obtain ⟨widget, run⟩ := outcome
    rw [of_cons]
    cases hr : run.result <;> simp [cons, Run.value?, hr, ih]

end Report

namespace Platform

variable (platform : Platform σ) (now : Instant)

/-- Widgets dispatched one after the other, each from the state that the one before left. -/
def dispatchEach : List WidgetDescriptor → σ → List (Run σ Rendered)
  | [], _ => []
  | widget :: widgets, state =>
      let run := platform.dispatch widget.name widget.options now state
      run :: dispatchEach widgets run.state

theorem length_dispatchEach (widgets : List WidgetDescriptor) (state : σ) :
    (platform.dispatchEach now widgets state).length = widgets.length := by
  induction widgets generalizing state with
  | nil => rfl
  | cons widget widgets ih => rw [dispatchEach, List.length_cons, List.length_cons, ih]

/-- Later widgets depend on earlier ones through the state alone. -/
theorem dispatchEach_append (before after : List WidgetDescriptor) (state : σ) :
    platform.dispatchEach now (before ++ after) state =
      platform.dispatchEach now before state ++
        platform.dispatchEach now after
          (Run.stateAfter state (platform.dispatchEach now before state)) := by
  induction before generalizing state with
  | nil => rfl
  | cons widget before ih =>
    rw [List.cons_append, dispatchEach, dispatchEach, ih]
    rfl

def outcomes (widgets : List WidgetDescriptor) (state : σ) :
    List (WidgetDescriptor × Run σ Rendered) :=
  widgets.zip (platform.dispatchEach now widgets state)

theorem map_fst_outcomes (widgets : List WidgetDescriptor) (state : σ) :
    (platform.outcomes now widgets state).map (·.1) = widgets :=
  List.map_fst_zip (Nat.le_of_eq (platform.length_dispatchEach now widgets state).symm)

theorem map_snd_outcomes (widgets : List WidgetDescriptor) (state : σ) :
    (platform.outcomes now widgets state).map (·.2) = platform.dispatchEach now widgets state :=
  List.map_snd_zip (Nat.le_of_eq (platform.length_dispatchEach now widgets state))

theorem outcomes_cons (widget : WidgetDescriptor) (widgets : List WidgetDescriptor) (state : σ) :
    platform.outcomes now (widget :: widgets) state =
      (widget, platform.dispatch widget.name widget.options now state) ::
        platform.outcomes now widgets
          (platform.dispatch widget.name widget.options now state).state :=
  rfl

/-- The widgets after some others start from the state in which these left the platform. -/
theorem outcomes_append (before after : List WidgetDescriptor) (state : σ) :
    platform.outcomes now (before ++ after) state =
      platform.outcomes now before state ++ platform.outcomes now after
        (Run.stateAfter state (platform.dispatchEach now before state)) := by
  unfold outcomes
  rw [dispatchEach_append, List.zip_append (platform.length_dispatchEach now before state).symm]

/-- A rendered widget is of the kind that its name identifies. -/
theorem id_of_dispatch {id : String} {options : OptionBag} {state : σ} {rendered : Rendered}
    (h : (platform.dispatch id options now state).result = .ok rendered) :
    rendered.kind.id = id := by
  obtain ⟨stage, hs⟩ := platform.dispatch_ends id options now state
  generalize platform.dispatch id options now state = run at h hs
  cases hs with
  | unknown => cases h
  | invalid => cases h
  | unanswered => cases h
  | unpainted => cases h
  | painted asks =>
    obtain rfl := Except.ok.inj h
    exact asks.listed

/-- The rendered widgets are those that did not fail, in their order. -/
theorem rendered_of_outcomes (widgets : List WidgetDescriptor) (state : σ) :
    (Report.of (platform.outcomes now widgets state)).rendered.map (·.kind.id) =
      ((platform.outcomes now widgets state).filter (·.2.value?.isSome)).map (·.1.name) := by
  induction widgets generalizing state with
  | nil => rfl
  | cons widget widgets ih =>
    rw [outcomes_cons, Report.of_cons]
    cases hr : (platform.dispatch widget.name widget.options now state).result with
    | error error => simp [Report.cons, Run.value?, hr, ih]
    | ok rendered =>
      have hid := platform.id_of_dispatch now hr
      simp [Report.cons, Run.value?, hr, ih, hid]

/-- Without failures there is one rendered widget for each descriptor. -/
theorem rendered_of_complete {widgets : List WidgetDescriptor} {state : σ}
    (h : ∀ run ∈ platform.dispatchEach now widgets state, run.error? = none) :
    (Report.of (platform.outcomes now widgets state)).rendered.map (·.kind.id) =
      widgets.map (·.name) := by
  rw [rendered_of_outcomes, List.filter_eq_self.mpr, ← Function.comp_def, ← List.map_map,
    map_fst_outcomes]
  intro outcome hm
  rw [← platform.map_snd_outcomes] at h
  rw [Run.value?_isSome, h _ (List.mem_map_of_mem hm)]
  rfl

/-! ## One step of either policy -/

theorem renderAll_skip_cons (widget : WidgetDescriptor) (widgets : List WidgetDescriptor)
    (state : σ) :
    platform.renderAll .skip now (widget :: widgets) state =
      let first := platform.dispatch widget.name widget.options now state
      let others := platform.renderAll .skip now widgets first.state
      ⟨others.result.map (Report.cons widget.name first.result), first.calls ++ others.calls,
        others.state⟩ := by
  conv => lhs; unfold renderAll
  dsimp only
  -- Both results fall into the second branch, but the match only reduces once the result is known.
  cases (platform.dispatch widget.name widget.options now state).result <;> rfl

theorem renderAll_abort_cons {widget : WidgetDescriptor} {state : σ} {rendered : Rendered}
    (h : (platform.dispatch widget.name widget.options now state).result = .ok rendered)
    (widgets : List WidgetDescriptor) :
    platform.renderAll .abort now (widget :: widgets) state =
      let first := platform.dispatch widget.name widget.options now state
      let others := platform.renderAll .abort now widgets first.state
      ⟨others.result.map (Report.cons widget.name first.result), first.calls ++ others.calls,
        others.state⟩ := by
  conv => lhs; unfold renderAll
  dsimp only
  rw [h]

theorem renderAll_abort_error {widget : WidgetDescriptor} {state : σ} {error : WidgetError}
    (h : (platform.dispatch widget.name widget.options now state).result = .error error)
    (widgets : List WidgetDescriptor) :
    platform.renderAll .abort now (widget :: widgets) state =
      let first := platform.dispatch widget.name widget.options now state
      ⟨.error error, first.calls, first.state⟩ := by
  conv => lhs; unfold renderAll
  dsimp only
  rw [h]

/-! ## Whole dashboards -/

/-- Under the policy that skips, everything is told by the runs of the widgets one by one. -/
theorem renderAll_skip (widgets : List WidgetDescriptor) (state : σ) :
    platform.renderAll .skip now widgets state =
      ⟨.ok (.of (platform.outcomes now widgets state)),
        (platform.dispatchEach now widgets state).flatMap (·.calls),
        Run.stateAfter state (platform.dispatchEach now widgets state)⟩ := by
  induction widgets generalizing state with
  | nil => rfl
  | cons widget widgets ih =>
    rw [renderAll_skip_cons, dispatchEach, outcomes_cons, Report.of_cons]
    dsimp only
    rw [ih]
    rfl

/-- Skipping is dispatching the widgets one after the other, each once, with its own options and
for the one instant. Their calls are joined in order, and the report divides the widgets, in
order, into those rendered and those that failed. What comes before a widget matters to it
through the state alone. -/
theorem skip_loses_nothing (widgets : List WidgetDescriptor) (state : σ) :
    let runs := platform.dispatchEach now widgets state
    let outcomes := widgets.zip runs
    let whole := platform.renderAll .skip now widgets state
    runs.length = widgets.length ∧
    whole.calls = runs.flatMap (·.calls) ∧
    whole.state = Run.stateAfter state runs ∧
    (∃ report, whole.result = .ok report ∧
      report.rendered = runs.filterMap (·.value?) ∧
      report.failures = outcomes.filterMap (fun outcome =>
        outcome.2.error?.map (outcome.1.name, ·)) ∧
      report.rendered.map (·.kind.id) =
        (outcomes.filter (·.2.value?.isSome)).map (·.1.name) ∧
      report.failures.map (·.1) = (outcomes.filter (!·.2.value?.isSome)).map (·.1.name) ∧
      report.rendered.length + report.failures.length = widgets.length) ∧
    ∀ before after, widgets = before ++ after →
      runs = platform.dispatchEach now before state ++
        platform.dispatchEach now after (platform.renderAll .skip now before state).state := by
  intro runs outcomes whole
  have hwhole : whole = ⟨.ok (.of outcomes), runs.flatMap (·.calls), Run.stateAfter state runs⟩ :=
    platform.renderAll_skip now widgets state
  have hlength : runs.length = widgets.length := platform.length_dispatchEach now widgets state
  have hcount : outcomes.length = widgets.length := by
    rw [List.length_zip, hlength, Nat.min_self]
  have hvalues : (Report.of outcomes).rendered = runs.filterMap (·.value?) := by
    have hsnd : outcomes.map (·.2) = runs := platform.map_snd_outcomes now widgets state
    rw [← hsnd, List.filterMap_map]
    rfl
  refine ⟨hlength, by rw [hwhole], by rw [hwhole], ⟨.of outcomes, by rw [hwhole], hvalues, rfl,
    platform.rendered_of_outcomes now widgets state, Report.failures_of outcomes, ?_⟩, ?_⟩
  · rw [Report.length_of, hcount]
  · rintro before after rfl
    rw [renderAll_skip]
    exact platform.dispatchEach_append now before after state

/-! ## Aborting -/

/-- A dashboard cut at the first of its widgets that fails. -/
structure FailsFirst (widgets : List WidgetDescriptor) (state : σ)
    (before : List WidgetDescriptor) (widget : WidgetDescriptor) (after : List WidgetDescriptor)
    (error : WidgetError) : Prop where
  cut : widgets = before ++ widget :: after
  earlier : ∀ run ∈ platform.dispatchEach now before state, run.error? = none
  failed : (platform.dispatch widget.name widget.options now
    (Run.stateAfter state (platform.dispatchEach now before state))).error? = some error

theorem exists_failsFirst {widgets : List WidgetDescriptor} {state : σ}
    (h : ¬ ∀ run ∈ platform.dispatchEach now widgets state, run.error? = none) :
    ∃ before widget after error,
      platform.FailsFirst now widgets state before widget after error := by
  -- A widget that fails is the cut itself; one that does not joins those before a later cut.
  induction widgets generalizing state with
  | nil => exact absurd (by simp [dispatchEach]) h
  | cons widget widgets ih =>
    cases hr : (platform.dispatch widget.name widget.options now state).error? with
    | some error => exact ⟨[], widget, widgets, error, rfl, by simp [dispatchEach], hr⟩
    | none =>
      rw [dispatchEach, List.forall_mem_cons] at h
      have hrest := fun hall => h ⟨hr, hall⟩
      obtain ⟨before, failing, after, error, hcut, hearlier, hfailed⟩ := ih hrest
      refine ⟨widget :: before, failing, after, error, by rw [hcut]; rfl, ?_, hfailed⟩
      rw [dispatchEach, List.forall_mem_cons]
      exact ⟨hr, hearlier⟩

/-- Policies differ in nothing but what they do about failures. -/
theorem renderAll_abort_of_ok {widgets : List WidgetDescriptor} {state : σ}
    (h : ∀ run ∈ platform.dispatchEach now widgets state, run.error? = none) :
    platform.renderAll .abort now widgets state = platform.renderAll .skip now widgets state := by
  induction widgets generalizing state with
  | nil => rfl
  | cons widget widgets ih =>
    rw [dispatchEach, List.forall_mem_cons] at h
    obtain ⟨rendered, hr⟩ := Run.error?_eq_none h.1
    rw [renderAll_abort_cons platform now hr, renderAll_skip_cons]
    dsimp only
    rw [ih h.2]

/-- The run ends with the first failure: the calls are those up to it. -/
theorem FailsFirst.renderAll_abort {widgets before after : List WidgetDescriptor}
    {widget : WidgetDescriptor} {state : σ} {error : WidgetError}
    (h : platform.FailsFirst now widgets state before widget after error) :
    platform.renderAll .abort now widgets state =
      ⟨.error error, (platform.dispatchEach now (before ++ [widget]) state).flatMap (·.calls),
        Run.stateAfter state (platform.dispatchEach now (before ++ [widget]) state)⟩ := by
  obtain ⟨rfl, hearlier, hfailed⟩ := h
  -- On the widgets before the cut: each leaves its state to the rest, where the cut stays the same.
  induction before generalizing state with
  | nil =>
    have hr : (platform.dispatch widget.name widget.options now state).result = .error error :=
      Run.error?_eq_some hfailed
    rw [List.nil_append, renderAll_abort_error platform now hr]
    simp [dispatchEach, Run.stateAfter]
  | cons first before ih =>
    rw [dispatchEach, List.forall_mem_cons] at hearlier
    obtain ⟨rendered, hr⟩ := Run.error?_eq_none hearlier.1
    rw [List.cons_append, renderAll_abort_cons platform now hr]
    dsimp only
    rw [ih hearlier.2 hfailed, List.cons_append, dispatchEach]
    rfl

/-- A dashboard is reported on in full, or else it is stopped by its first failure. -/
theorem renderAll_cases (policy : FailurePolicy) (widgets : List WidgetDescriptor) (state : σ) :
    platform.renderAll policy now widgets state =
      ⟨.ok (.of (platform.outcomes now widgets state)),
        (platform.dispatchEach now widgets state).flatMap (·.calls),
        Run.stateAfter state (platform.dispatchEach now widgets state)⟩ ∨
    policy = .abort ∧ ∃ before widget after error,
      platform.FailsFirst now widgets state before widget after error ∧
      platform.renderAll policy now widgets state =
        ⟨.error error, (platform.dispatchEach now (before ++ [widget]) state).flatMap (·.calls),
          Run.stateAfter state (platform.dispatchEach now (before ++ [widget]) state)⟩ := by
  cases policy with
  | skip => exact .inl (platform.renderAll_skip now widgets state)
  | abort =>
    by_cases hall : ∀ run ∈ platform.dispatchEach now widgets state, run.error? = none
    · exact .inl ((platform.renderAll_abort_of_ok now hall).trans
        (platform.renderAll_skip now widgets state))
    · obtain ⟨before, widget, after, error, h⟩ := platform.exists_failsFirst now hall
      exact .inr ⟨rfl, before, widget, after, error, h, h.renderAll_abort⟩

/-- The first failure is the first that the report notes. -/
theorem FailsFirst.head_failures {widgets before after : List WidgetDescriptor}
    {widget : WidgetDescriptor} {state : σ} {error : WidgetError}
    (h : platform.FailsFirst now widgets state before widget after error) :
    (Report.of (platform.outcomes now widgets state)).failures.head? =
      some (widget.name, error) := by
  obtain ⟨rfl, hearlier, hfailed⟩ := h
  rw [← platform.map_snd_outcomes, ← Report.failures_of_eq_nil] at hearlier
  unfold Report.of at hearlier ⊢
  dsimp only at hearlier ⊢
  rw [outcomes_append, outcomes_cons, List.filterMap_append, hearlier, List.nil_append,
    List.filterMap_cons, hfailed]
  rfl

/-- Aborting is skipping up to the first failure. Without one both runs are the same; otherwise
the run ends with that failure, its calls are those of the widgets up to it, and whatever stands
after it is not looked at. -/
theorem abort_refines_skip (widgets : List WidgetDescriptor) (state : σ) :
    let skipped := platform.renderAll .skip now widgets state
    let aborted := platform.renderAll .abort now widgets state
    (∃ report, skipped.result = .ok report ∧
      (report.failures = [] → aborted = skipped) ∧
      (report.failures ≠ [] → ∃ before widget after error,
        platform.FailsFirst now widgets state before widget after error ∧
        report.failures.head? = some (widget.name, error) ∧
        aborted.result = .error error ∧
        aborted.calls = (platform.dispatchEach now (before ++ [widget]) state).flatMap (·.calls) ∧
        aborted.calls <+: skipped.calls ∧
        ∀ others, platform.renderAll .abort now (before ++ widget :: others) state = aborted)) ∧
    ∀ report, aborted.result = .ok report →
      report.isComplete = true ∧ report.rendered.map (·.kind.id) = widgets.map (·.name) := by
  intro skipped aborted
  have hskip := platform.renderAll_skip now widgets state
  have hnone := Report.failures_of_eq_nil (platform.outcomes now widgets state)
  rw [map_snd_outcomes] at hnone
  refine ⟨⟨_, congrArg (·.result) hskip, ?_, ?_⟩, ?_⟩
  · intro hf
    exact platform.renderAll_abort_of_ok now (hnone.mp hf)
  · intro hf
    obtain ⟨before, widget, after, error, h⟩ :=
      platform.exists_failsFirst now fun hall => hf (hnone.mpr hall)
    have habort := h.renderAll_abort
    refine ⟨before, widget, after, error, h, h.head_failures, congrArg (·.result) habort,
      congrArg (·.calls) habort, ?_, fun others => ?_⟩
    · have hrest := platform.dispatchEach_append now (before ++ [widget]) after state
      rw [← List.append_cons, ← h.cut] at hrest
      show (platform.renderAll .abort now widgets state).calls <+:
        (platform.renderAll .skip now widgets state).calls
      rw [habort, hskip, hrest, List.flatMap_append]
      exact List.prefix_append _ _
    · have hothers : platform.FailsFirst now (before ++ widget :: others) state before widget
          others error := ⟨rfl, h.earlier, h.failed⟩
      exact hothers.renderAll_abort.trans habort.symm
  · intro report hr
    -- A report is only returned where no widget fails, so it is the one that skipping returns.
    by_cases hall : ∀ run ∈ platform.dispatchEach now widgets state, run.error? = none
    · have habort := (platform.renderAll_abort_of_ok now hall).trans hskip
      obtain rfl := Except.ok.inj (hr.symm.trans (congrArg (·.result) habort))
      refine ⟨?_, platform.rendered_of_complete now hall⟩
      unfold Report.isComplete
      rw [hnone.mpr hall]
      rfl
    · obtain ⟨before, widget, after, error, h⟩ := platform.exists_failsFirst now hall
      have habort := congrArg (·.result) h.renderAll_abort
      cases hr.symm.trans habort

end Platform

end MetricBoard
