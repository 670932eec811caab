import MetricBoard.Proofs.Engine.Chart
import MetricBoard.Proofs.Engine.Painting
import MetricBoard.Proofs.Widget.RowLimit

/-!
# Runs of a table

A request that settles on a query for rows makes this query and no other, and the display gets the
first rows of the answer, as many as the limit allows. The provider may answer with any number of
rows; it is asked for as many as are shown, but nothing depends on its keeping to that.
-/

namespace MetricBoard

variable {σ : Type}

/-- The painting of rows, of which no more than the limit are shown. -/
def WidgetRequest.table (request : WidgetRequest) (limit : Nat) (rows : List Row) : Painting :=
  ⟨.table (rows.take limit), request.title, request.options⟩

/-- The runs that show the rows of the answer to a query. The request and the state that they start
from are fixed. -/
inductive Tables (platform : Platform σ) (request : WidgetRequest) (query : RowQuery)
    (limit : Nat) (state : σ) : Run σ Rendered → Prop
  | unanswered {fault : Fault} {last : σ}
      (asked : platform.provider.rows query state = (.error fault, last)) :
      Tables platform request query limit state
        ⟨.error (.provider request.id fault), [⟨.query (.rows query), some fault⟩], last⟩
  | answered {rows : List Row} {middle : σ} {run : Run σ Rendered}
      (asked : platform.provider.rows query state = (.ok rows, middle))
      (shown : Paints platform request.kind (.rows query) (request.table limit rows) middle run) :
      Tables platform request query limit state run

namespace Tables

variable {platform : Platform σ} {request : WidgetRequest} {query : RowQuery} {limit : Nat}
  {state : σ} {run : Run σ Rendered}

theorem of_unanswered (h : Tables platform request query limit state run) {fault : Fault}
    {last : σ} (ha : platform.provider.rows query state = (.error fault, last)) :
    run = ⟨.error (.provider request.id fault), [⟨.query (.rows query), some fault⟩], last⟩ := by
  cases h with
  | unanswered asked =>
    cases ha.symm.trans asked
    rfl
  | answered asked => cases ha.symm.trans asked

theorem of_answered (h : Tables platform request query limit state run) {rows : List Row}
    {middle : σ} (ha : platform.provider.rows query state = (.ok rows, middle)) :
    Paints platform request.kind (.rows query) (request.table limit rows) middle run := by
  cases h with
  | unanswered asked => cases ha.symm.trans asked
  | answered asked shown =>
    cases ha.symm.trans asked
    exact shown

end Tables

/-- A plan for rows is carried out as one query and one painting of its first rows. -/
theorem WidgetRequest.render_tables {platform : Platform σ} {request : WidgetRequest}
    {query : RowQuery} {limit : Nat} (h : request.plan = .ok (.rows query limit)) (state : σ) :
    Tables platform request query limit state (request.render platform state) := by
  rw [render_of_plan h]
  cases ha : platform.provider.rows query state with
  | mk answer middle =>
    have hask : platform.ask (.rows query limit) state =
        (answer.map fun rows => .table (rows.take limit), middle) := by
      simp only [Platform.ask, ha]
    cases answer with
    | error fault =>
      rw [perform_of_fault hask]
      exact .unanswered ha
    | ok rows => exact .answered ha (perform_paints hask)

/-- The first rows, as many as the limit allows, as they are. -/
structure FirstRows (limit : Nat) (rows shown : List Row) : Prop where
  initial : shown <+: rows
  length : shown.length = min limit rows.length

theorem firstRows_take (limit : Nat) (rows : List Row) : FirstRows limit rows (rows.take limit) :=
  ⟨List.take_prefix limit rows, List.length_take⟩

namespace Platform

variable (platform : Platform σ) {kind : WidgetKind} {options : OptionBag} {text : String}

/-- A table asks for as many rows as its limit says and shows no more. -/
theorem dispatch_of_givesLimit (hf : kind.family = .table) {limit : Nat}
    (h : GivesLimit options limit) (now : Instant) (state : σ) :
    ∃ query, AsksRows options limit kind query ∧
      Tables platform ⟨kind, options, now⟩ query limit state
        (platform.dispatch kind.id options now state) := by
  let request : WidgetRequest := ⟨kind, options, now⟩
  obtain ⟨query, hq, hp⟩ := request.plan_of_givesLimit hf h
  refine ⟨query, hq, ?_⟩
  rw [platform.dispatch_listed]
  exact WidgetRequest.render_tables hp state

theorem dispatch_of_writesCount (hf : kind.family = .table) {limit : Nat}
    (hr : options.raw "row_limit" = some text) (hc : Number.WritesCount text limit)
    (now : Instant) (state : σ) :
    ∃ query : RowQuery, query.limit = limit ∧ (Query.rows query).asker = kind ∧
      Tables platform ⟨kind, options, now⟩ query limit state
        (platform.dispatch kind.id options now state) := by
  obtain ⟨query, hq, ht⟩ := platform.dispatch_of_givesLimit hf (.written hr hc) now state
  exact ⟨query, hq.limit_eq, hq.asker_eq, ht⟩

theorem dispatch_of_unread (hf : kind.family = .table)
    (hr : options.raw "row_limit" = some text) (hn : ¬ ∃ limit, Number.WritesCount text limit)
    (now : Instant) (state : σ) :
    platform.dispatch kind.id options now state =
      ⟨.error (.invalidNumber kind.id "row_limit" text), [], state⟩ := by
  let request : WidgetRequest := ⟨kind, options, now⟩
  have hp := request.plan_of_unread hf hr hn
  rw [platform.dispatch_listed]
  exact WidgetRequest.render_refused hp

/-- A platform whose provider answers every query for rows with the same rows. -/
def listing (rows : List Row) : Platform Unit where
  provider := { obliging.provider with rows := fun _ state => (.ok rows, state) }
  display := obliging.display

end Platform

/-- A table with a limit, from its options or by default, asks for so many rows and shows the first
of the answer, no more than the limit and otherwise all of them, as they are. Every number below
2 ^ 64 can be the limit. A table whose limit is read as no number asks for nothing. -/
theorem table_shows_first_rows (platform : Platform σ) {kind : WidgetKind}
    (hf : kind.family = .table) (options : OptionBag) (now : Instant) (state : σ) :
    let run := platform.dispatch kind.id options now state
    (∀ limit, GivesLimit options limit → limit < 2 ^ 64 ∧
      ∃ query, AsksRows options limit kind query ∧ query.limit = limit ∧
        (∀ fault last, platform.provider.rows query state = (.error fault, last) → run =
          ⟨.error (.provider kind.id fault), [⟨.query (.rows query), some fault⟩], last⟩) ∧
        ∀ rows middle, platform.provider.rows query state = (.ok rows, middle) →
          ∃ shown, FirstRows limit rows shown ∧
            Paints platform kind (.rows query)
              ⟨.table shown, (WidgetRequest.mk kind options now).title, options⟩ middle run) ∧
    (∀ limit < 2 ^ 64, options.raw "row_limit" = some (toString limit) →
      GivesLimit options limit) ∧
    ∀ text, options.raw "row_limit" = some text → (¬ ∃ limit, Number.WritesCount text limit) →
      run = ⟨.error (.invalidNumber kind.id "row_limit" text), [], state⟩ := by
  intro run
  refine ⟨fun limit hl => ⟨hl.lt, ?_⟩, fun limit hb hr => ?_, fun text hr hn => ?_⟩
  · obtain ⟨query, hq, ht⟩ := platform.dispatch_of_givesLimit hf hl now state
    refine ⟨query, hq, hq.limit_eq, fun fault last ha => ht.of_unanswered ha, ?_⟩
    intro rows middle ha
    exact ⟨rows.take limit, firstRows_take limit rows, ht.of_answered ha⟩
  · exact .written hr (Number.writesCount_toString hb)
  · exact platform.dispatch_of_unread hf hr hn now state

/-- Of three issues two are shown, although the provider answers with all of them. -/
theorem two_of_three_issues_shown :
    let rows : List Row := [[("title", "a")], [("title", "b")], [("title", "c")]]
    let options := OptionBag.ofList [("repository", "board"), ("row_limit", "+02")]
    WidgetKind.tableIssues.family = .table ∧ GivesLimit options 2 ∧
    ∃ query shown, AsksRows options 2 .tableIssues query ∧ FirstRows 2 rows shown ∧
      Paints (.listing rows) .tableIssues (.rows query)
        ⟨.table shown, " Github Issues ", options⟩ ()
        ((Platform.listing rows).dispatch "github.table_issues" options ⟨0, 0⟩ ()) := by
  intro rows options
  have hf : WidgetKind.tableIssues.family = .table := rfl
  have hd : Number.Decimal "02".toList 2 :=
    ⟨by decide, List.all_eq_true.mp (by decide), by decide⟩
  have hl : GivesLimit options 2 := .written rfl ⟨_, hd, by decide, .inr (by decide)⟩
  obtain ⟨-, query, hq, -, -, hshown⟩ :=
    (table_shows_first_rows (.listing rows) hf options ⟨0, 0⟩ ()).1 2 hl
  obtain ⟨shown, hfirst, hp⟩ := hshown rows () rfl
  exact ⟨hf, hl, query, shown, hq, hfirst, hp⟩

end MetricBoard
