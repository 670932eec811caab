import MetricBoard.Proofs.Options.Numbers
import MetricBoard.Proofs.Widget.Family

/-!
# Row limits

How a table comes by its limit: from the text of the option where it is given, and from the
default only where it is not. The limit that is read is the one that the query asks for.
-/

namespace MetricBoard

open Number (WritesCount)

def RowQuery.limit : RowQuery → Nat
  | .repositories limit _ _ => limit
  | .branches _ limit | .issues _ limit | .pullRequests _ limit => limit

/-- The limit that the options give to a table. -/
inductive GivesLimit (options : OptionBag) : Nat → Prop
  | absent (absent : options.raw "row_limit" = none) : GivesLimit options 5
  | written {text : String} {limit : Nat} (given : options.raw "row_limit" = some text)
      (count : WritesCount text limit) : GivesLimit options limit

/-- The query that the options and a limit settle for a table of each kind. Only the table of
repositories is about no repository; it has an order and columns instead. -/
inductive AsksRows (options : OptionBag) (limit : Nat) : WidgetKind → RowQuery → Prop
  | repositories : AsksRows options limit .tableRepositories
      (.repositories limit ((options.raw "order").getD "pushed")
        (options.getList "metrics" ["name", "stars", "watchers", "forks", "open_issues"] ","))
  | branches : AsksRows options limit .tableBranches
      (.branches ((options.raw "repository").getD "") limit)
  | issues : AsksRows options limit .tableIssues
      (.issues ((options.raw "repository").getD "") limit)
  | pullRequests : AsksRows options limit .tablePullRequests
      (.pullRequests ((options.raw "repository").getD "") limit)

theorem GivesLimit.lt {options : OptionBag} {limit : Nat} (h : GivesLimit options limit) :
    limit < 2 ^ 64 := by
  cases h with
  | absent => decide
  | written given count =>
    obtain ⟨digits, -, hb, -⟩ := count
    exact hb

namespace AsksRows

variable {options : OptionBag} {limit : Nat} {kind : WidgetKind} {query : RowQuery}

theorem limit_eq (h : AsksRows options limit kind query) : query.limit = limit := by
  cases h <;> rfl

theorem asker_eq (h : AsksRows options limit kind query) : (Query.rows query).asker = kind := by
  cases h <;> rfl

end AsksRows

namespace WidgetRequest

variable {request : WidgetRequest} {text : String}

theorem rowLimit_of_absent (h : request.options.raw "row_limit" = none) :
    request.rowLimit = .ok request.kind.defaults.rowLimit := by
  have hread := request.options.readsNumber_getCount "row_limit"
  unfold rowLimit Setting.key
  rw [hread.absent h]
  rfl

theorem rowLimit_of_writesCount {limit : Nat} (h : request.options.raw "row_limit" = some text)
    (hc : WritesCount text limit) : request.rowLimit = .ok limit := by
  have hread := request.options.readsNumber_getCount "row_limit"
  unfold rowLimit Setting.key
  rw [(hread.written text h _ limit).mpr hc]
  rfl

theorem rowLimit_of_unread (h : request.options.raw "row_limit" = some text)
    (hn : ¬ ∃ limit, WritesCount text limit) :
    request.rowLimit = .error (.invalidNumber request.id "row_limit" text) := by
  have hread := request.options.readsNumber_getCount "row_limit"
  unfold rowLimit Setting.key
  rw [hread.refused text h hn]
  rfl

theorem rowLimit_of_givesLimit {limit : Nat} (h : GivesLimit request.options limit) :
    request.rowLimit = .ok limit := by
  cases h with
  | absent absent =>
    have hd : request.kind.defaults.rowLimit = 5 := by cases request.kind <;> rfl
    rw [rowLimit_of_absent absent, hd]
  | written given count => exact rowLimit_of_writesCount given count

/-- The limit is settled first, and no other option of a table can fail. -/
theorem plan_asks_rows (request : WidgetRequest) (h : request.kind.family = .table) :
    ∃ query : Nat → RowQuery,
      (∀ limit, AsksRows request.options limit request.kind (query limit)) ∧
      request.plan = request.rowLimit.bind fun limit => .ok (.rows (query limit) limit) := by
  obtain ⟨kind, options, now⟩ := request
  cases kind with
  | tableRepositories => exact ⟨_, fun _ => .repositories, rfl⟩
  | tableBranches => exact ⟨_, fun _ => .branches, rfl⟩
  | tableIssues => exact ⟨_, fun _ => .issues, rfl⟩
  | tablePullRequests => exact ⟨_, fun _ => .pullRequests, rfl⟩
  | _ => cases h

/-- A table with a limit asks for its rows. -/
theorem plan_of_givesLimit {limit : Nat} (hf : request.kind.family = .table)
    (h : GivesLimit request.options limit) :
    ∃ query, AsksRows request.options limit request.kind query ∧
      request.plan = .ok (.rows query limit) := by
  obtain ⟨query, hq, hp⟩ := request.plan_asks_rows hf
  rw [rowLimit_of_givesLimit h] at hp
  exact ⟨query limit, hq limit, hp⟩

theorem plan_of_unread (hf : request.kind.family = .table)
    (h : request.options.raw "row_limit" = some text)
    (hn : ¬ ∃ limit, WritesCount text limit) :
    request.plan = .error (.invalidNumber request.id "row_limit" text) := by
  obtain ⟨query, -, hp⟩ := request.plan_asks_rows hf
  rw [hp, rowLimit_of_unread h hn]
  rfl

end WidgetRequest

end MetricBoard
