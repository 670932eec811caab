import MetricBoard.Proofs.Time.Resolution
import MetricBoard.Widget.Plan

/-!
# What a widget reads

A kind of widget reads few of the settings, and of the instant at most the day, which only stars
are resolved against. What a request will ask and how it is titled depends on nothing else. Whole
bags and instants are handed on: bags to the display, and the instant to the query for commits.
-/

namespace MetricBoard

def WidgetKind.relevant : WidgetKind → List Setting
  | .boxStars | .boxWatchers | .boxOpenIssues | .barViews => [.repository, .title]
  | .tableRepositories => [.title, .rowLimit, .metrics, .order]
  | .tableBranches | .tableIssues | .tablePullRequests => [.repository, .title, .rowLimit]
  | .barCommits => [.repository, .title, .scope, .startDate, .endDate]
  | .barStars => [.repository, .title, .startDate, .endDate]

/-- Each of the settings is absent from both bags, or has the same value in both. -/
def OptionBag.AgreeOn (settings : List Setting) (options others : OptionBag) : Prop :=
  ∀ setting ∈ settings, options.raw setting.key = others.raw setting.key

namespace WidgetRequest

variable {kind : WidgetKind} {settings : List Setting} {options others : OptionBag}

/-! ## Settings -/

theorem setting_congr (h : options.AgreeOn settings others) {setting : Setting}
    (hm : setting ∈ settings) (default : String) (now : Instant) :
    (mk kind options now).setting setting default =
      (mk kind others now).setting setting default :=
  congrArg (·.getD default) (h setting hm)

theorem rowLimit_congr (h : options.AgreeOn settings others) (hm : .rowLimit ∈ settings)
    (now : Instant) : (mk kind options now).rowLimit = (mk kind others now).rowLimit := by
  have hr := OptionBag.readNumber_congr (h .rowLimit hm) Number.count? kind.defaults.rowLimit
  unfold rowLimit OptionBag.getCount
  exact congrArg (·.mapError (·.inWidget kind.id)) hr

theorem metrics_congr (h : options.AgreeOn settings others) (hm : .metrics ∈ settings)
    (now : Instant) : (mk kind options now).metrics = (mk kind others now).metrics := by
  unfold metrics
  exact OptionBag.getList_congr (h .metrics hm) _ _

/-- A default title names the repository only for kinds that read it. -/
theorem title_congr (h : options.AgreeOn kind.relevant others) (now : Instant) :
    (mk kind options now).title = (mk kind others now).title := by
  have hm : .title ∈ kind.relevant := by cases kind <;> decide
  have hf : TitlePart.fill (mk kind options now).repository kind.title =
      TitlePart.fill (mk kind others now).repository kind.title := by
    by_cases hr : .repository ∈ kind.relevant
    · exact congrArg (TitlePart.fill · kind.title) (setting_congr h hr "" now)
    · cases kind with
      | tableRepositories => rfl
      | _ => exact absurd (by decide) hr
  unfold title
  rw [hf]
  exact setting_congr h hm _ now

/-! ## Plans -/

theorem rowsPlan_congr (h : options.AgreeOn settings others) (hr : .repository ∈ settings)
    (hl : .rowLimit ∈ settings) (now : Instant) (query : String → Nat → RowQuery) :
    (mk kind options now).rowsPlan query = (mk kind others now).rowsPlan query := by
  have hrepository : (mk kind options now).repository = (mk kind others now).repository :=
    setting_congr h hr "" now
  unfold rowsPlan
  rw [hrepository, rowLimit_congr h hl now]

theorem repositoriesPlan_congr
    (h : options.AgreeOn WidgetKind.tableRepositories.relevant others) (now : Instant) :
    (mk .tableRepositories options now).repositoriesPlan =
      (mk .tableRepositories others now).repositoriesPlan := by
  have horder : (mk .tableRepositories options now).order =
      (mk .tableRepositories others now).order := setting_congr h (by decide) _ now
  unfold repositoriesPlan
  rw [rowLimit_congr h (by decide) now, metrics_congr h (by decide) now, horder]

theorem commitsPlan_congr (h : options.AgreeOn WidgetKind.barCommits.relevant others)
    (now : Instant) :
    (mk .barCommits options now).commitsPlan = (mk .barCommits others now).commitsPlan := by
  have hrepository : (mk .barCommits options now).repository =
      (mk .barCommits others now).repository := setting_congr h (by decide) _ now
  have hscope : (mk .barCommits options now).scope = (mk .barCommits others now).scope :=
    setting_congr h (by decide) _ now
  have hstart : (mk .barCommits options now).startDate = (mk .barCommits others now).startDate :=
    setting_congr h (by decide) _ now
  have hend : (mk .barCommits options now).endDate = (mk .barCommits others now).endDate :=
    setting_congr h (by decide) _ now
  unfold commitsPlan
  rw [hrepository, hscope, hstart, hend]
  rfl

theorem starsPlan_congr (h : options.AgreeOn WidgetKind.barStars.relevant others)
    (now : Instant) :
    (mk .barStars options now).starsPlan = (mk .barStars others now).starsPlan := by
  have hrepository : (mk .barStars options now).repository =
      (mk .barStars others now).repository := setting_congr h (by decide) _ now
  have hstart : (mk .barStars options now).startDate = (mk .barStars others now).startDate :=
    setting_congr h (by decide) _ now
  have hend : (mk .barStars options now).endDate = (mk .barStars others now).endDate :=
    setting_congr h (by decide) _ now
  unfold starsPlan
  rw [hrepository, hstart, hend]
  rfl

/-- Bags that agree on what the kind reads settle the same query, or fail with the same error. -/
theorem plan_congr (h : options.AgreeOn kind.relevant others) (now : Instant) :
    (mk kind options now).plan = (mk kind others now).plan := by
  have hrepository : .repository ∈ kind.relevant →
      (mk kind options now).repository = (mk kind others now).repository :=
    fun hm => setting_congr h hm "" now
  cases kind with
  | tableRepositories => exact repositoriesPlan_congr h now
  | tableBranches => exact rowsPlan_congr h (by decide) (by decide) now .branches
  | tableIssues => exact rowsPlan_congr h (by decide) (by decide) now .issues
  | tablePullRequests => exact rowsPlan_congr h (by decide) (by decide) now .pullRequests
  | barCommits => exact commitsPlan_congr h now
  | barStars => exact starsPlan_congr h now
  | _ =>
    -- Boxes and views ask for the repository and nothing else.
    unfold plan
    dsimp only
    rw [hrepository (by decide)]

end WidgetRequest

/-! ## Instants -/

/-- A query for another instant. Of these queries only that for commits is about the present. -/
def SeriesQuery.asOf (now : Instant) : SeriesQuery → SeriesQuery
  | .commits repository scope startWeeks endWeeks _ =>
      .commits repository scope startWeeks endWeeks now
  | query => query

def Query.asOf (now : Instant) : Query → Query
  | .series query => .series (query.asOf now)
  | query => query

def Plan.asOf (now : Instant) : Plan → Plan
  | .series query => .series (query.asOf now)
  | plan => plan

namespace WidgetRequest

variable {kind : WidgetKind} {now later : Instant}

theorem starsPlan_of_day (h : now.day = later.day) (options : OptionBag) :
    (mk kind options later).starsPlan = (mk kind options now).starsPlan := by
  unfold starsPlan
  dsimp only
  rw [convertDates_congr h]
  rfl

/-- Whether commits are asked for does not depend on the instant. It is only passed on. -/
theorem commitsPlan_asOf (options : OptionBag) (now later : Instant) :
    (mk kind options later).commitsPlan =
      (mk kind options now).commitsPlan.map (Plan.asOf later) := by
  change _ = Plan.asOf later <$> _
  unfold commitsPlan
  simp only [map_bind]
  rfl

/-- Commits apart, the instant matters by its day, and this for stars alone. -/
theorem plan_of_instant (hc : kind ≠ .barCommits) (hs : kind = .barStars → now.day = later.day)
    (options : OptionBag) : (mk kind options later).plan = (mk kind options now).plan := by
  cases kind with
  | barCommits => exact absurd rfl hc
  | barStars => exact starsPlan_of_day (hs rfl) options
  | _ => rfl

end WidgetRequest

end MetricBoard
