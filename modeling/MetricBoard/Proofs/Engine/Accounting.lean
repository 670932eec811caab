import MetricBoard.Engine.Session
import MetricBoard.Proofs.Engine.Policy

/-!
# Accounting for the calls of a session

Operations of any kind and in any order share one platform. Their joined log falls into blocks
of one widget each, and in every dashboard the calls balance with what its report or its error
says. The platform may answer each call as it likes.
-/

namespace MetricBoard

variable {σ : Type}

/-! ## Blocks -/

/-- The calls of one widget that asked something: a query that failed, or one that was answered
and the painting of the answer by the operation of its family. -/
inductive Block : List CallRecord → Prop
  | unanswered (query : Query) (fault : Fault) : Block [⟨.query query, some fault⟩]
  | answered (query : Query) (painting : Painting) (fault : Option Fault)
      (family : painting.picture.family = query.family) :
      Block [⟨.query query, none⟩, ⟨.paint painting, fault⟩]

def InBlocks (calls : List CallRecord) : Prop :=
  ∃ blocks : List (List CallRecord), (∀ block ∈ blocks, Block block) ∧ calls = blocks.flatten

theorem InBlocks.nil : InBlocks [] := ⟨[], by simp, rfl⟩

theorem Block.inBlocks {calls : List CallRecord} (h : Block calls) : InBlocks calls :=
  ⟨[calls], by simpa using h, by simp⟩

theorem InBlocks.append {first second : List CallRecord} (hf : InBlocks first)
    (hs : InBlocks second) : InBlocks (first ++ second) := by
  obtain ⟨blocks, hb, rfl⟩ := hf
  obtain ⟨others, ho, rfl⟩ := hs
  refine ⟨blocks ++ others, fun block hm => ?_, List.flatten_append.symm⟩
  rcases List.mem_append.mp hm with hm | hm
  · exact hb block hm
  · exact ho block hm

/-- What is painted is the answer to the call right before. -/
theorem InBlocks.query_before {calls before after : List CallRecord} {painting : Painting}
    {fault : Option Fault} (h : InBlocks calls)
    (hc : calls = before ++ ⟨.paint painting, fault⟩ :: after) :
    ∃ earlier query, before = earlier ++ [⟨.query query, none⟩] ∧
      painting.picture.family = query.family := by
  obtain ⟨blocks, hb, rfl⟩ := h
  -- The painting is the second call of the first block, or else it stands in a later block.
  induction blocks generalizing before with
  | nil => simp at hc
  | cons block blocks ih =>
    obtain ⟨hblock, hrest⟩ := List.forall_mem_cons.mp hb
    rw [List.flatten_cons] at hc
    cases hblock with
    | unanswered query fault =>
      cases before with
      | nil => cases hc
      | cons first before =>
        obtain ⟨earlier, asked, rfl, hfamily⟩ := ih hrest (List.cons.inj hc).2
        exact ⟨first :: earlier, asked, rfl, hfamily⟩
    | answered query shown fault family =>
      cases before with
      | nil => cases hc
      | cons first before =>
        obtain ⟨hfirst, htail⟩ := List.cons.inj hc
        cases before with
        | nil =>
          cases (List.cons.inj htail).1
          exact ⟨[], query, by rw [← hfirst]; rfl, family⟩
        | cons second before =>
          obtain ⟨earlier, asked, rfl, hfamily⟩ := ih hrest (List.cons.inj htail).2
          exact ⟨first :: second :: earlier, asked, rfl, hfamily⟩

/-- A log of calls that the platform received, from one state to another, in blocks. -/
structure WellLogged (platform : Platform σ) (state : σ) (calls : List CallRecord) (last : σ) :
    Prop where
  made : platform.Made state calls last
  blocks : InBlocks calls

namespace WellLogged

variable {platform : Platform σ}

theorem nil (state : σ) : WellLogged platform state [] state := ⟨.nothing state, .nil⟩

theorem append {state middle last : σ} {first second : List CallRecord}
    (hf : WellLogged platform state first middle) (hs : WellLogged platform middle second last) :
    WellLogged platform state (first ++ second) last :=
  ⟨hf.made.append hs.made, hf.blocks.append hs.blocks⟩

/-- Runs that follow one another are well logged if each of them is. -/
theorem flatMap {α β : Type} {start : α → σ → Run σ β} {chain : List α → σ → List (Run σ β)}
    (hnil : ∀ state, chain [] state = [])
    (hcons : ∀ item items state, chain (item :: items) state =
      start item state :: chain items (start item state).state)
    (h : ∀ item state, WellLogged platform state (start item state).calls
      (start item state).state) (items : List α) (state : σ) :
    WellLogged platform state ((chain items state).flatMap (·.calls))
      (Run.stateAfter state (chain items state)) := by
  induction items generalizing state with
  | nil => rw [hnil]; exact nil state
  | cons item items ih =>
    rw [hcons, List.flatMap_cons]
    exact (h item state).append (ih _)

end WellLogged

/-- At each stage the calls are nothing or one block. -/
theorem Ends.wellLogged {platform : Platform σ} {id : String} {options : OptionBag}
    {now : Instant} {state : σ} {stage : Stage} {run : Run σ Rendered}
    (h : Ends platform id options now state stage run) :
    WellLogged platform state run.calls run.state := by
  refine ⟨h.made, ?_⟩
  cases h with
  | unknown => exact .nil
  | invalid => exact .nil
  | unanswered => exact (Block.unanswered _ _).inBlocks
  | unpainted asks shows =>
    refine (Block.answered _ _ _ ?_).inBlocks
    rw [shows.family, ← Query.family_asker, asks.asker]
  | painted asks shows =>
    refine (Block.answered _ _ _ ?_).inBlocks
    rw [shows.family, ← Query.family_asker, asks.asker]

namespace Platform

variable (platform : Platform σ)

theorem wellLogged_dispatch (id : String) (options : OptionBag) (now : Instant) (state : σ) :
    WellLogged platform state (platform.dispatch id options now state).calls
      (platform.dispatch id options now state).state := by
  obtain ⟨stage, h⟩ := platform.dispatch_ends id options now state
  exact h.wellLogged

/-- By induction on the widgets: each goes on from the state that the one before it left. -/
theorem wellLogged_dispatchEach (now : Instant) (widgets : List WidgetDescriptor) (state : σ) :
    WellLogged platform state ((platform.dispatchEach now widgets state).flatMap (·.calls))
      (Run.stateAfter state (platform.dispatchEach now widgets state)) :=
  .flatMap (fun _ => rfl) (fun _ _ _ => rfl)
    (fun widget state => platform.wellLogged_dispatch widget.name widget.options now state)
    widgets state

theorem wellLogged_renderAll (policy : FailurePolicy) (now : Instant)
    (widgets : List WidgetDescriptor) (state : σ) :
    WellLogged platform state (platform.renderAll policy now widgets state).calls
      (platform.renderAll policy now widgets state).state := by
  rcases platform.renderAll_cases now policy widgets state with
    h | ⟨-, before, widget, after, error, -, h⟩
  · rw [h]
    exact platform.wellLogged_dispatchEach now widgets state
  · rw [h]
    exact platform.wellLogged_dispatchEach now (before ++ [widget]) state

theorem wellLogged_perform (operation : Operation) (state : σ) :
    WellLogged platform state (platform.perform operation state).calls
      (platform.perform operation state).state := by
  cases operation with
  | widget id options now => exact platform.wellLogged_dispatch id options now state
  | dashboard widgets policy now => exact platform.wellLogged_renderAll policy now widgets state

/-- Whole sessions are logged as their operations are. -/
theorem wellLogged_performAll (operations : List Operation) (state : σ) :
    WellLogged platform state ((platform.performAll operations state).flatMap (·.calls))
      (Run.stateAfter state (platform.performAll operations state)) :=
  .flatMap (fun _ => rfl) (fun _ _ _ => rfl) platform.wellLogged_perform operations state

end Platform

/-! ## Balances -/

namespace CallRecord

def isQuery (record : CallRecord) : Bool :=
  match record.call with
  | .query _ => true
  | .paint _ => false

def failed (record : CallRecord) : Bool := record.fault.isSome

/-- What the call painted, if it did. -/
def painted? (record : CallRecord) : Option Painting :=
  match record with
  | ⟨.paint painting, none⟩ => some painting
  | _ => none

end CallRecord

/-- What the calls of a run painted, in their order. -/
def Run.paintings {α : Type} (run : Run σ α) : List Painting :=
  run.calls.filterMap (·.painted?)

theorem Run.paintings_flatMap {α : Type} (runs : List (Run σ α)) :
    (runs.flatMap (·.calls)).filterMap (·.painted?) = runs.flatMap (·.paintings) :=
  List.filterMap_flatMap

namespace WidgetError

/-- The error is found before anything is asked. -/
def isRefusal : WidgetError → Bool
  | .unknownWidget .. | .invalidNumber .. | .malformedDate .. => true
  | _ => false

def isProvider : WidgetError → Bool
  | .provider .. => true
  | _ => false

def isDisplay : WidgetError → Bool
  | .display .. => true
  | _ => false

end WidgetError

/-- The calls made for some widgets agree with the report on them. -/
structure Balanced (widgets : List WidgetDescriptor) (calls : List CallRecord)
    (report : Report) : Prop where
  /-- All widgets ask but those that are refused. -/
  asked : calls.countP (·.isQuery) + report.failures.countP (·.2.isRefusal) = widgets.length
  unanswered : calls.countP (fun record => record.isQuery && record.failed) =
    report.failures.countP (·.2.isProvider)
  unpainted : calls.countP (fun record => !record.isQuery && record.failed) =
    report.failures.countP (·.2.isDisplay)
  /-- What is painted is what is reported as rendered. -/
  titles : (calls.filterMap (·.painted?)).map (·.title) = report.rendered.map (·.title)

theorem Balanced.append {widgets others : List WidgetDescriptor}
    {first second : List CallRecord} {report rest : Report} (hf : Balanced widgets first report)
    (hs : Balanced others second rest) :
    Balanced (widgets ++ others) (first ++ second) (report.append rest) := by
  constructor
  · have hasked := hf.asked
    have hrest := hs.asked
    simp only [Report.append, List.countP_append, List.length_append]
    omega
  · simp only [Report.append, List.countP_append, hf.unanswered, hs.unanswered]
  · simp only [Report.append, List.countP_append, hf.unpainted, hs.unpainted]
  · simp only [Report.append, List.filterMap_append, List.map_append, hf.titles, hs.titles]

/-- Each of the stages leaves its own calls and its own entry of the report. -/
theorem Ends.balanced {platform : Platform σ} {widget : WidgetDescriptor} {now : Instant}
    {state : σ} {stage : Stage} {run : Run σ Rendered}
    (h : Ends platform widget.name widget.options now state stage run) :
    Balanced [widget] run.calls (.of [(widget, run)]) := by
  cases h with
  | unknown => exact ⟨rfl, rfl, rfl, rfl⟩
  | @invalid _ error _ _ validation =>
    cases error with
    | invalidNumber => exact ⟨rfl, rfl, rfl, rfl⟩
    | malformedDate => exact ⟨rfl, rfl, rfl, rfl⟩
    | _ => cases validation
  | unanswered => exact ⟨rfl, rfl, rfl, rfl⟩
  | unpainted => exact ⟨rfl, rfl, rfl, rfl⟩
  | painted => exact ⟨rfl, rfl, rfl, rfl⟩

/-- A widget that did not fail was painted once, with its own options, and one that failed was
not painted. -/
theorem Ends.paintings {platform : Platform σ} {id : String} {options : OptionBag} {now : Instant}
    {state : σ} {stage : Stage} {run : Run σ Rendered}
    (h : Ends platform id options now state stage run) :
    run.paintings.map (·.options) = if run.error?.isNone then [options] else [] := by
  cases h with
  | unknown => rfl
  | invalid => rfl
  | unanswered => rfl
  | unpainted => rfl
  | painted _ shows => exact congrArg (fun shown => [shown]) shows.options

namespace Platform

variable (platform : Platform σ) (now : Instant)

/-- However many widgets there are and whichever of them fail, calls and report agree. -/
theorem balanced_dispatchEach (widgets : List WidgetDescriptor) (state : σ) :
    Balanced widgets ((platform.dispatchEach now widgets state).flatMap (·.calls))
      (.of (platform.outcomes now widgets state)) := by
  induction widgets generalizing state with
  | nil => exact ⟨rfl, rfl, rfl, rfl⟩
  | cons widget widgets ih =>
    obtain ⟨stage, h⟩ := platform.dispatch_ends widget.name widget.options now state
    have hb := h.balanced.append (ih (platform.dispatch widget.name widget.options now state).state)
    rw [← Report.of_append] at hb
    exact hb

theorem paintings_dispatchEach {widgets : List WidgetDescriptor} {state : σ}
    (h : ∀ run ∈ platform.dispatchEach now widgets state, run.error? = none) :
    (platform.dispatchEach now widgets state).map (fun run => run.paintings.map (·.options)) =
      widgets.map (fun widget => [widget.options]) := by
  induction widgets generalizing state with
  | nil => rfl
  | cons widget widgets ih =>
    obtain ⟨stage, hs⟩ := platform.dispatch_ends widget.name widget.options now state
    have hp := hs.paintings
    rw [dispatchEach, List.forall_mem_cons] at h
    rw [h.1, Option.isNone_none, if_pos rfl] at hp
    rw [dispatchEach, List.map_cons, List.map_cons, hp, ih h.2]

/-- Each widget before the first that fails was painted with its options, and this one was not. -/
theorem FailsFirst.paintings {widgets before after : List WidgetDescriptor}
    {widget : WidgetDescriptor} {state : σ} {error : WidgetError}
    (h : platform.FailsFirst now widgets state before widget after error) :
    (platform.dispatchEach now (before ++ [widget]) state).map
        (fun run => run.paintings.map (·.options)) =
      before.map (fun earlier => [earlier.options]) ++ [[]] := by
  obtain ⟨stage, hs⟩ := platform.dispatch_ends widget.name widget.options now
    (Run.stateAfter state (platform.dispatchEach now before state))
  have hp := hs.paintings
  rw [h.failed, Option.isNone_some, if_neg Bool.false_ne_true] at hp
  -- Nothing failed before the cut, so each run there painted once; the run at the cut did not.
  rw [dispatchEach_append, List.map_append, platform.paintings_dispatchEach now h.earlier,
    dispatchEach, List.map_cons, hp]
  rfl

/-- What the calls of a dashboard tell about its outcome. A report balances with them. An error
is that of the first widget that fails: each widget before it was painted once, with its own
options, and it was not painted. -/
def Accounted (widgets : List WidgetDescriptor) (policy : FailurePolicy) (start : σ)
    (run : Run σ Outcome) : Prop :=
  match run.result with
  | .ok (.dashboard report) => Balanced widgets run.calls report
  | .ok (.widget _) => False
  | .error error => policy = .abort ∧ ∃ before widget after,
      platform.FailsFirst now widgets start before widget after error ∧
      run.calls = (platform.dispatchEach now (before ++ [widget]) start).flatMap (·.calls) ∧
      (platform.dispatchEach now (before ++ [widget]) start).map
          (fun run => run.paintings.map (·.options)) =
        before.map (fun earlier => [earlier.options]) ++ [[]] ∧
      run.paintings.map (·.options) = before.map (·.options)

theorem accounted_dashboard (widgets : List WidgetDescriptor) (policy : FailurePolicy)
    (start : σ) :
    platform.Accounted now widgets policy start
      (platform.perform (.dashboard widgets policy now) start) := by
  unfold perform
  dsimp only
  rcases platform.renderAll_cases now policy widgets start with
    h | ⟨rfl, before, widget, after, error, hfirst, h⟩
  · rw [h]
    exact platform.balanced_dispatchEach now widgets start
  · rw [h]
    refine ⟨rfl, before, widget, after, hfirst, rfl, hfirst.paintings, ?_⟩
    -- What is painted run by run is joined to what the whole dashboard paints.
    have hp := congrArg List.flatten hfirst.paintings
    rw [← List.flatMap_def, ← List.map_flatMap, ← Run.paintings_flatMap] at hp
    rw [List.flatten_append, ← List.flatMap_def, ← List.map_eq_flatMap] at hp
    exact hp.trans (List.append_nil _)

/-! ## Sessions -/

theorem performAll_append (earlier later : List Operation) (state : σ) :
    platform.performAll (earlier ++ later) state =
      platform.performAll earlier state ++
        platform.performAll later (Run.stateAfter state (platform.performAll earlier state)) := by
  induction earlier generalizing state with
  | nil => rfl
  | cons operation earlier ih =>
    rw [List.cons_append, performAll, performAll, ih]
    rfl

/-- The joined log of a session holds the calls that the platform received, in blocks of one
widget each, so that nothing is painted but the answer to the call right before. Each of its
dashboards runs from the state that the operations before it left, and its calls account for its
report or its error. -/
theorem session_calls_accounted (operations : List Operation) (state : σ) :
    let runs := platform.performAll operations state
    let log := runs.flatMap (·.calls)
    platform.Made state log (Run.stateAfter state runs) ∧
    InBlocks log ∧
    (∀ before painting fault after, log = before ++ ⟨.paint painting, fault⟩ :: after →
      ∃ earlier query, before = earlier ++ [⟨.query query, none⟩] ∧
        painting.picture.family = query.family) ∧
    ∀ earlier widgets policy now later,
      operations = earlier ++ .dashboard widgets policy now :: later →
      let start := Run.stateAfter state (platform.performAll earlier state)
      let run := platform.perform (.dashboard widgets policy now) start
      runs = platform.performAll earlier state ++ run :: platform.performAll later run.state ∧
        platform.Accounted now widgets policy start run := by
  intro runs log
  obtain ⟨hmade, hblocks⟩ := platform.wellLogged_performAll operations state
  refine ⟨hmade, hblocks, fun before painting fault after hc => hblocks.query_before hc, ?_⟩
  rintro earlier widgets policy now later rfl
  exact ⟨platform.performAll_append earlier _ state,
    platform.accounted_dashboard now widgets policy _⟩

end Platform

end MetricBoard
