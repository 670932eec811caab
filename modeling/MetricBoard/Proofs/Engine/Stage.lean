import Mathlib.Logic.ExistsUnique
import MetricBoard.Proofs.Engine.CallLog
import MetricBoard.Proofs.Widget.Blame

/-!
# One widget, one query, one painting

The rendering of a widget ends at one of four stages, and the stage fixes which calls were made
and what came of them. Nothing is assumed about the platform: its answers may depend on every
call that it received before.
-/

namespace MetricBoard

variable {σ : Type}

/-- How far the rendering of a widget got. -/
inductive Stage where
  /-- Nothing was asked. -/
  | refused
  /-- The query failed. -/
  | unanswered
  /-- The painting failed. -/
  | unpainted
  | painted
  deriving DecidableEq, Repr

/-- Which calls are made up to a stage: for each of them whether it succeeds. -/
def Stage.successes : Stage → List Bool
  | .refused => []
  | .unanswered => [false]
  | .unpainted => [true, false]
  | .painted => [true, true]

theorem Stage.successes_injective {stage other : Stage}
    (h : stage.successes = other.successes) : stage = other := by
  cases stage <;> cases other <;> simp_all [Stage.successes]

/-- The query that the options and the instant settle for the widget with an identifier, by the
operation of its kind. -/
structure Asks (id : String) (options : OptionBag) (now : Instant) (kind : WidgetKind)
    (query : Query) : Prop where
  listed : kind.id = id
  planned : ∃ plan, (WidgetRequest.mk kind options now).plan = .ok plan ∧ plan.query = query
  asker : query.asker = kind

/-- What is painted for a widget: by the display operation of its family, and with the whole bag
of its options. -/
structure Shows (options : OptionBag) (kind : WidgetKind) (painting : Painting) : Prop where
  family : painting.picture.family = kind.family
  options : painting.options = options

/-- The runs that end at each stage. The widget that they render, the instant and the state that
they start from are fixed. -/
inductive Ends (platform : Platform σ) (id : String) (options : OptionBag) (now : Instant)
    (state : σ) : Stage → Run σ Rendered → Prop
  /-- No kind has the identifier, which the error repeats. -/
  | unknown (unlisted : ∀ kind : WidgetKind, kind.id ≠ id) :
      Ends platform id options now state .refused
        ⟨.error (.unknownWidget id "github"), [], state⟩
  /-- The kind is known, but the options settle no query. -/
  | invalid {kind : WidgetKind} {error : WidgetError} (listed : kind.id = id)
      (unplanned : (WidgetRequest.mk kind options now).plan = .error error)
      (validation : error.isValidation = true) :
      Ends platform id options now state .refused ⟨.error error, [], state⟩
  /-- The only call is the query, and its fault is passed on. -/
  | unanswered {kind : WidgetKind} {query : Query} {fault : Fault} {last : σ}
      (asks : Asks id options now kind query)
      (asked : platform.answer (.query query) state = (some fault, last)) :
      Ends platform id options now state .unanswered
        ⟨.error (.provider id fault), [⟨.query query, some fault⟩], last⟩
  /-- The query was answered; the painting is the only other call, and its fault is passed on. -/
  | unpainted {kind : WidgetKind} {query : Query} {painting : Painting} {fault : Fault}
      {middle last : σ} (asks : Asks id options now kind query)
      (shows : Shows options kind painting)
      (asked : platform.answer (.query query) state = (none, middle))
      (shown : platform.answer (.paint painting) middle = (some fault, last)) :
      Ends platform id options now state .unpainted
        ⟨.error (.display id fault), [⟨.query query, none⟩, ⟨.paint painting, some fault⟩], last⟩
  /-- Both calls succeeded. -/
  | painted {kind : WidgetKind} {query : Query} {painting : Painting} {middle last : σ}
      (asks : Asks id options now kind query) (shows : Shows options kind painting)
      (asked : platform.answer (.query query) state = (none, middle))
      (shown : platform.answer (.paint painting) middle = (none, last)) :
      Ends platform id options now state .painted
        ⟨.ok ⟨kind, painting.title⟩, [⟨.query query, none⟩, ⟨.paint painting, none⟩], last⟩

namespace Ends

variable {platform : Platform σ} {id : String} {options : OptionBag} {now : Instant} {state : σ}
  {stage other : Stage} {run : Run σ Rendered}

theorem successes (h : Ends platform id options now state stage run) :
    run.calls.map (·.fault.isNone) = stage.successes := by
  cases h <;> rfl

/-- The calls of a run and their success tell its stage. -/
theorem stage_unique (h : Ends platform id options now state stage run)
    (ho : Ends platform id options now state other run) : other = stage := by
  -- The stages have logs of different successes, whatever the platform answered.
  apply Stage.successes_injective
  rw [← h.successes, ← ho.successes]

/-- The calls of a run are calls that the platform received. -/
theorem made (h : Ends platform id options now state stage run) :
    platform.Made state run.calls run.state := by
  cases h with
  | unknown => exact .nothing _
  | invalid => exact .nothing _
  | unanswered _ asked => exact .next asked (.nothing _)
  | unpainted _ _ asked shown => exact .next asked (.next shown (.nothing _))
  | painted _ _ asked shown => exact .next asked (.next shown (.nothing _))

/-- An unknown widget is blamed for unlisted identifiers only. -/
theorem unlisted_of_unknown (h : Ends platform id options now state stage run)
    {widget service : String} (hr : run.result = .error (.unknownWidget widget service)) :
    ∀ kind : WidgetKind, kind.id ≠ id := by
  cases h with
  | unknown unlisted => exact unlisted
  | invalid _ _ validation =>
    obtain rfl := Except.error.inj hr
    cases validation
  | unanswered => cases hr
  | unpainted => cases hr
  | painted => cases hr

end Ends

namespace WidgetKind

theorem ofId_unlisted {id : String} (h : ∀ kind : WidgetKind, kind.id ≠ id) :
    ofId id = .error (.unknownWidget id "github") := by
  have hn : ofId? id = none := by
    rw [Option.eq_none_iff_forall_ne_some]
    intro kind hk
    exact h kind (id_of_ofId? hk)
  unfold ofId
  rw [hn]
  rfl

theorem ofId_id (kind : WidgetKind) : ofId kind.id = .ok kind := by
  unfold ofId
  rw [ofId?_id]

end WidgetKind

namespace Platform

variable (platform : Platform σ) (id : String) (options : OptionBag) (now : Instant) (state : σ)

theorem dispatch_unlisted (h : ∀ kind : WidgetKind, kind.id ≠ id) :
    platform.dispatch id options now state =
      ⟨.error (.unknownWidget id "github"), [], state⟩ := by
  unfold dispatch
  rw [WidgetKind.ofId_unlisted h]

/-- A known identifier leads to the request of its kind. -/
theorem dispatch_listed (kind : WidgetKind) :
    platform.dispatch kind.id options now state =
      (WidgetRequest.mk kind options now).render platform state := by
  unfold dispatch
  rw [WidgetKind.ofId_id]

/-- A request with a plan ends after its query or after its painting. -/
theorem perform_ends (kind : WidgetKind) {plan : Plan}
    (hp : (WidgetRequest.mk kind options now).plan = .ok plan)
    (ha : plan.query.asker = kind) :
    ∃ stage, Ends platform kind.id options now state stage
      ((WidgetRequest.mk kind options now).perform platform plan state) := by
  have hasks : Asks kind.id options now kind plan.query := ⟨rfl, ⟨plan, hp, rfl⟩, ha⟩
  have hquery := platform.answer_query plan state
  unfold WidgetRequest.perform
  cases hask : platform.ask plan state with
  | mk answer middle =>
    rw [hask] at hquery
    cases answer with
    | error fault => exact ⟨_, .unanswered hasks hquery⟩
    | ok picture =>
      have hfamily : picture.family = kind.family := by
        rw [family_of_ask hask, ← plan.query.family_asker, ha]
      dsimp only
      -- The display starts from the state in which the provider left the platform.
      cases hpaint : platform.display.paint ⟨picture, _, options⟩ middle with
      | mk outcome last =>
        have hshown : platform.answer (.paint ⟨picture, _, options⟩) middle =
            (Fault.ofAnswer outcome, last) := congrArg (Prod.map Fault.ofAnswer id) hpaint
        cases outcome with
        | error fault => exact ⟨_, .unpainted hasks ⟨hfamily, rfl⟩ hquery hshown⟩
        | ok done => exact ⟨_, .painted hasks ⟨hfamily, rfl⟩ hquery hshown⟩

/-- Whatever the identifier, the options, the instant and the state are, the rendering ends at one
of the stages. -/
theorem dispatch_ends :
    ∃ stage, Ends platform id options now state stage
      (platform.dispatch id options now state) := by
  by_cases hl : ∃ kind : WidgetKind, kind.id = id
  · obtain ⟨kind, rfl⟩ := hl
    rw [dispatch_listed]
    unfold WidgetRequest.render
    cases hp : (WidgetRequest.mk kind options now).plan with
    | error error =>
      have hv := (WidgetRequest.optionFault_of_plan _ hp).isValidation
      exact ⟨_, .invalid rfl hp hv⟩
    | ok plan =>
      have ha := WidgetRequest.asker_of_plan _ hp
      exact platform.perform_ends options now state kind hp ha
  · have hu : ∀ kind : WidgetKind, kind.id ≠ id := fun kind hk => hl ⟨kind, hk⟩
    rw [dispatch_unlisted platform id options now state hu]
    exact ⟨_, .unknown hu⟩

/-- The rendering of a widget ends at exactly one stage, with the calls and the result that the
stage fixes. The identifier is found unknown if and only if no kind has it. -/
theorem dispatch_ends_at_one_stage :
    (∃! stage, Ends platform id options now state stage
      (platform.dispatch id options now state)) ∧
    ((∃ widget service, (platform.dispatch id options now state).result =
        .error (.unknownWidget widget service)) ↔ ∀ kind : WidgetKind, kind.id ≠ id) := by
  obtain ⟨stage, hs⟩ := platform.dispatch_ends id options now state
  refine ⟨⟨stage, hs, fun other ho => hs.stage_unique ho⟩, ?_, fun hu => ?_⟩
  · rintro ⟨widget, service, hr⟩
    exact hs.unlisted_of_unknown hr
  · rw [dispatch_unlisted platform id options now state hu]
    exact ⟨_, _, rfl⟩

end Platform

end MetricBoard
