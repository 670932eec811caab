import MetricBoard.Proofs.Engine.Stage
import MetricBoard.Proofs.Error.Message

/-!
# What a failed widget tells

The errors that the rendering of a widget can end with are few in kind, whatever its identifier,
its options, the instant and the platform are. Their messages tell them apart, although texts from
all of these stand in them as they are.
-/

namespace MetricBoard

variable {σ τ : Type}

theorem OptionFault.reported {kind : WidgetKind} {error : WidgetError}
    (h : OptionFault kind.id error) : Reported error := by
  cases h with
  | number setting value => exact .number kind setting value
  | date setting expression known => exact .date kind setting expression known

/-- A run ends with an error of one of these sorts, at whichever stage it ends. -/
theorem Ends.reported {platform : Platform σ} {id : String} {options : OptionBag} {now : Instant}
    {state : σ} {stage : Stage} {run : Run σ Rendered} {error : WidgetError}
    (h : Ends platform id options now state stage run) (hr : run.result = .error error) :
    Reported error := by
  cases h with
  | unknown =>
    obtain rfl := Except.error.inj hr
    exact .unknown id
  | invalid _ unplanned =>
    obtain rfl := Except.error.inj hr
    exact (WidgetRequest.optionFault_of_plan _ unplanned).reported
  | @unanswered kind _ fault _ asks =>
    obtain rfl := Except.error.inj hr
    exact asks.listed ▸ .provider kind fault
  | @unpainted kind _ _ fault _ _ asks =>
    obtain rfl := Except.error.inj hr
    exact asks.listed ▸ .display kind fault
  | painted => cases hr

theorem Platform.reported_of_dispatch {platform : Platform σ} {id : String} {options : OptionBag}
    {now : Instant} {state : σ} {error : WidgetError}
    (hr : (platform.dispatch id options now state).result = .error error) : Reported error := by
  obtain ⟨stage, h⟩ := platform.dispatch_ends id options now state
  exact h.reported hr

/-- Two widgets that fail, on any platforms and for any identifiers, options and instants, have the
same message exactly where their errors are the same but for what lies below the outermost text of a
failure from outside. So the message tells the sort of the error, the widget or the unknown
identifier, the option, its text as it stands, what was expected, and that outermost text. -/
theorem equal_messages_iff (platform : Platform σ) (another : Platform τ) {id other : String}
    {options others : OptionBag} {now later : Instant} {state : σ} {last : τ}
    {error found : WidgetError}
    (h : (platform.dispatch id options now state).result = .error error)
    (ho : (another.dispatch other others later last).result = .error found) :
    error.message = found.message ↔ error.withoutCauses = found.withoutCauses := by
  constructor
  · exact (Platform.reported_of_dispatch h).eq_of_message (Platform.reported_of_dispatch ho)
  · intro hs
    rw [← error.message_withoutCauses, hs, found.message_withoutCauses]

/-- A date that repeats the end of an error about another date is told apart from it. -/
theorem quoted_message_told_apart :
    let id := WidgetKind.barCommits.id
    let quoting := "soon' is not a valid relative date, expected <integer>_weeks_ago"
    let error := WidgetError.malformedDate id "start_date" "soon" "<integer>_weeks_ago"
    let found := WidgetError.malformedDate id "start_date" quoting
      "<integer>_weeks_ago or <integer>_days_ago"
    (Platform.obliging.dispatch id (.ofList [("start_date", "soon")]) ⟨0, 0⟩ ()).result =
      .error error ∧
    (Platform.obliging.dispatch id (.ofList [("start_date", quoting)]) ⟨0, 0⟩ ()).result =
      .error found ∧
    error.message ≠ found.message := by
  intro id quoting error found
  have h : (Platform.obliging.dispatch id (.ofList [("start_date", "soon")]) ⟨0, 0⟩ ()).result =
      .error error := by decide +kernel
  have ho : (Platform.obliging.dispatch id (.ofList [("start_date", quoting)]) ⟨0, 0⟩ ()).result =
      .error found := by decide +kernel
  refine ⟨h, ho, fun hm => ?_⟩
  have hs := (equal_messages_iff .obliging .obliging h ho).mp hm
  obtain ⟨-, -, hq, -⟩ := WidgetError.malformedDate.inj hs
  exact absurd hq (by decide)

end MetricBoard
