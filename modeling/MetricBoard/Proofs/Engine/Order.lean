import MetricBoard.Proofs.Engine.Policy

/-!
# Dashboards in another order

On a platform whose answers depend on the call alone, a widget comes to the same and makes the
same calls wherever it stands in a dashboard. The calls of a dashboard are then those of its
widgets, and its report is a report on each of them, so that another order of the widgets
rearranges both and changes neither. The state of the platform may change with every call.
-/

namespace MetricBoard

variable {σ : Type}

/-- No answer depends on the calls before it. -/
structure Platform.Memoryless (platform : Platform σ) : Prop where
  count : ∀ query state other,
    (platform.provider.count query state).1 = (platform.provider.count query other).1
  rows : ∀ query state other,
    (platform.provider.rows query state).1 = (platform.provider.rows query other).1
  series : ∀ query state other,
    (platform.provider.series query state).1 = (platform.provider.series query other).1
  paint : ∀ painting state other,
    (platform.display.paint painting state).1 = (platform.display.paint painting other).1

/-- What a run came to and the calls that it made, without the state that it left. -/
def Run.visible {α : Type} (run : Run σ α) : Except WidgetError α × List CallRecord :=
  (run.result, run.calls)

namespace Platform.Memoryless

variable {platform : Platform σ}

/-! ## One widget -/

theorem ask (h : platform.Memoryless) (plan : Plan) (state other : σ) :
    (platform.ask plan state).1 = (platform.ask plan other).1 := by
  cases plan with
  | count query => exact congrArg (Except.map _) (h.count query state other)
  | rows query limit => exact congrArg (Except.map _) (h.rows query state other)
  | series query => exact congrArg (Except.map _) (h.series query state other)

theorem perform (h : platform.Memoryless) (request : WidgetRequest) (plan : Plan)
    (state other : σ) :
    (request.perform platform plan state).visible =
      (request.perform platform plan other).visible := by
  have hask := h.ask plan state other
  unfold WidgetRequest.perform
  cases hs : platform.ask plan state with
  | mk answer middle =>
    cases ho : platform.ask plan other with
    | mk same second =>
      rw [hs, ho] at hask
      obtain rfl : answer = same := hask
      cases answer with
      | error fault => rfl
      | ok picture =>
        -- The display is called in two states, and it paints in neither or in both.
        have hpaint := h.paint ⟨picture, request.title, request.options⟩ middle second
        dsimp only
        cases hm : platform.display.paint ⟨picture, request.title, request.options⟩ middle with
        | mk outcome last =>
          cases hn : platform.display.paint ⟨picture, request.title, request.options⟩ second with
          | mk equal final =>
            rw [hm, hn] at hpaint
            obtain rfl : outcome = equal := hpaint
            cases outcome <;> rfl

/-- What comes of a widget does not depend on the state in which it is dispatched. -/
theorem dispatch (h : platform.Memoryless) (id : String) (options : OptionBag) (now : Instant)
    (state other : σ) :
    (platform.dispatch id options now state).visible =
      (platform.dispatch id options now other).visible := by
  unfold Platform.dispatch
  cases WidgetKind.ofId id with
  | error error => rfl
  | ok kind =>
    dsimp only
    unfold WidgetRequest.render
    cases (WidgetRequest.mk kind options now).plan with
    | error error => rfl
    | ok plan => exact h.perform _ plan state other

end Platform.Memoryless

/-! ## A dashboard -/

/-- What is rendered and what fails does not depend on the order, but in what order it is noted. -/
theorem Report.perm_of {outcomes others : List (WidgetDescriptor × Run σ Rendered)}
    (h : outcomes.Perm others) :
    (of outcomes).rendered.Perm (of others).rendered ∧
      (of outcomes).failures.Perm (of others).failures :=
  ⟨h.filterMap _, h.filterMap _⟩

namespace Platform

variable (platform : Platform σ) (now : Instant) (fresh : σ)

def alone (widget : WidgetDescriptor) : Run σ Rendered :=
  platform.dispatch widget.name widget.options now fresh

variable {platform}

/-- By induction on the widgets, each of which may be dispatched alone and from any state. -/
theorem Memoryless.visible_dispatchEach (h : platform.Memoryless)
    (widgets : List WidgetDescriptor) (state : σ) :
    (platform.dispatchEach now widgets state).map (·.visible) =
      widgets.map fun widget => (platform.alone now fresh widget).visible := by
  induction widgets generalizing state with
  | nil => rfl
  | cons widget widgets ih =>
    have hv := h.dispatch widget.name widget.options now state fresh
    rw [Platform.dispatchEach, List.map_cons, List.map_cons, ih, hv]
    rfl

theorem Memoryless.calls_dispatchEach (h : platform.Memoryless)
    (widgets : List WidgetDescriptor) (state : σ) :
    (platform.dispatchEach now widgets state).flatMap (·.calls) =
      widgets.flatMap fun widget => (platform.alone now fresh widget).calls := by
  have hv := congrArg (List.flatMap Prod.snd) (h.visible_dispatchEach now fresh widgets state)
  rw [List.flatMap_map, List.flatMap_map] at hv
  exact hv

/-- So a report can be put together from runs that know nothing of one another. -/
theorem Memoryless.of_outcomes (h : platform.Memoryless) (widgets : List WidgetDescriptor)
    (state : σ) :
    Report.of (platform.outcomes now widgets state) =
      Report.of (widgets.map fun widget => (widget, platform.alone now fresh widget)) := by
  induction widgets generalizing state with
  | nil => rfl
  | cons widget widgets ih =>
    have hv := h.dispatch widget.name widget.options now state fresh
    have hr := congrArg Prod.fst hv
    rw [outcomes_cons, List.map_cons, Report.of_cons, Report.of_cons, ih]
    exact congrArg (Report.cons widget.name · _) hr

variable (platform) in
/-- Aborting ends with an error where skipping notes a failure, and else with the same report. -/
theorem renderAll_abort_result (widgets : List WidgetDescriptor) (state : σ) :
    let report := Report.of (platform.outcomes now widgets state)
    (report.failures = [] → (platform.renderAll .abort now widgets state).result = .ok report) ∧
    (report.failures ≠ [] →
      ∃ error, (platform.renderAll .abort now widgets state).result = .error error) := by
  intro report
  have hnone := Report.failures_of_eq_nil (platform.outcomes now widgets state)
  rw [map_snd_outcomes] at hnone
  constructor
  · intro hf
    rw [platform.renderAll_abort_of_ok now (hnone.mp hf), renderAll_skip]
  · intro hf
    obtain ⟨before, widget, after, error, hfirst⟩ :=
      platform.exists_failsFirst now fun hall => hf (hnone.mpr hall)
    exact ⟨error, congrArg (·.result) hfirst.renderAll_abort⟩

/-- On a platform without memory every widget of a dashboard comes to what it comes to alone, with
the same calls. In another order the calls are the same blocks in that order, and skipping reports
the same widgets rendered and the same failures. Aborting reports them in both orders, or fails in
both. -/
theorem renderAll_of_perm (h : platform.Memoryless) {widgets others : List WidgetDescriptor}
    (hp : widgets.Perm others) (state start : σ) :
    let skipped := platform.renderAll .skip now widgets state
    let permuted := platform.renderAll .skip now others start
    let aborted := platform.renderAll .abort now widgets state
    let reordered := platform.renderAll .abort now others start
    (platform.dispatchEach now widgets state).map (·.visible) =
      widgets.map (fun widget => (platform.alone now fresh widget).visible) ∧
    skipped.calls = widgets.flatMap (fun widget => (platform.alone now fresh widget).calls) ∧
    permuted.calls = others.flatMap (fun widget => (platform.alone now fresh widget).calls) ∧
    ∃ report other, skipped.result = .ok report ∧ permuted.result = .ok other ∧
      report = .of (widgets.map fun widget => (widget, platform.alone now fresh widget)) ∧
      other = .of (others.map fun widget => (widget, platform.alone now fresh widget)) ∧
      report.rendered.Perm other.rendered ∧ report.failures.Perm other.failures ∧
      ((aborted.result = .ok report ∧ reordered.result = .ok other) ∨
        ∃ error fault, aborted.result = .error error ∧ reordered.result = .error fault) := by
  intro skipped permuted aborted reordered
  have hskip := platform.renderAll_skip now widgets state
  have hperm := platform.renderAll_skip now others start
  have hreport := h.of_outcomes now fresh widgets state
  have hother := h.of_outcomes now fresh others start
  have hsame := Report.perm_of
    (hp.map fun widget => (widget, platform.alone now fresh widget))
  rw [← hreport, ← hother] at hsame
  refine ⟨h.visible_dispatchEach now fresh widgets state, ?_, ?_, _, _,
    congrArg (·.result) hskip, congrArg (·.result) hperm, hreport, hother, hsame.1,
    hsame.2, ?_⟩
  · exact (congrArg (·.calls) hskip).trans (h.calls_dispatchEach now fresh widgets state)
  · exact (congrArg (·.calls) hperm).trans (h.calls_dispatchEach now fresh others start)
  · have hfirst := platform.renderAll_abort_result now widgets state
    have hsecond := platform.renderAll_abort_result now others start
    by_cases hf : (Report.of (platform.outcomes now widgets state)).failures = []
    · have ho : (Report.of (platform.outcomes now others start)).failures = [] := by
        rw [hf] at hsame
        exact hsame.2.nil_eq.symm
      exact .inl ⟨hfirst.1 hf, hsecond.1 ho⟩
    · have ho : (Report.of (platform.outcomes now others start)).failures ≠ [] := by
        intro ho
        rw [ho] at hsame
        exact hf hsame.2.eq_nil
      obtain ⟨error, he⟩ := hfirst.2 hf
      obtain ⟨fault, hg⟩ := hsecond.2 ho
      exact .inr ⟨error, fault, he, hg⟩

/-- A platform that knows no watchers. Its state is the number of calls that it received. -/
def unwatched : Platform Nat where
  provider :=
    { count := fun query calls =>
        (match query with
          | .watchers _ => .error ⟨"no watchers", []⟩
          | _ => .ok 1, calls + 1)
      rows := fun _ calls => (.ok [], calls + 1)
      series := fun _ calls => (.ok ⟨[], []⟩, calls + 1) }
  display := { paint := fun _ calls => (.ok (), calls + 1) }

theorem renderAll_unwatched_reversed :
    let widgets : List WidgetDescriptor :=
      [⟨"github.box_open_issues", .empty⟩, ⟨"github.box_watchers", .empty⟩,
        ⟨"github.box_stars", .empty⟩]
    unwatched.Memoryless ∧ widgets.Perm widgets.reverse ∧
    ∃ report other,
      (unwatched.renderAll .skip ⟨0, 0⟩ widgets 0).result = .ok report ∧
      (unwatched.renderAll .skip ⟨0, 0⟩ widgets.reverse 7).result = .ok other ∧
      report.rendered.map (·.kind) = [.boxOpenIssues, .boxStars] ∧
      other.rendered.map (·.kind) = [.boxStars, .boxOpenIssues] ∧
      report.rendered.Perm other.rendered ∧ report.failures.Perm other.failures := by
  intro widgets
  have hm : unwatched.Memoryless :=
    ⟨fun _ _ _ => rfl, fun _ _ _ => rfl, fun _ _ _ => rfl, fun _ _ _ => rfl⟩
  have hp : widgets.Perm widgets.reverse := (List.reverse_perm widgets).symm
  obtain ⟨-, -, -, report, other, hr, ho, hreport, hother, hrendered, hfailures, -⟩ :=
    renderAll_of_perm ⟨0, 0⟩ 0 hm hp 0 7
  refine ⟨hm, hp, report, other, hr, ho, ?_, ?_, hrendered, hfailures⟩
  · rw [hreport]
    decide
  · rw [hother]
    decide

end Platform

end MetricBoard
