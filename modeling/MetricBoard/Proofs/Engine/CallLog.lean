import MetricBoard.Engine.Dispatch
import MetricBoard.Proofs.Widget.Family

/-!
# Call logs

A log is the list of calls that a run made. Here it is tied to the platform: the calls of a log
are those that the platform received, in their order, and each is noted with the platform's own
answer. Both sides of the platform keep one state, so an answer may depend on every call before.
-/

namespace MetricBoard

variable {σ : Type}

/-- How an answer failed, if it did. -/
def Fault.ofAnswer {α : Type} : Except Fault α → Option Fault
  | .error fault => some fault
  | .ok _ => none

theorem Fault.ofAnswer_map {α β : Type} (f : α → β) (answer : Except Fault α) :
    ofAnswer (answer.map f) = ofAnswer answer := by
  cases answer <;> rfl

theorem exists_of_map_ok {α β : Type} {answer : Except Fault α} {f : α → β} {value : β}
    (h : answer.map f = .ok value) : ∃ given, f given = value := by
  cases answer with
  | error fault => cases h
  | ok given => exact ⟨given, Except.ok.inj h⟩

namespace Platform

/-- A platform on which every call succeeds, with nothing to show. -/
def obliging : Platform Unit where
  provider :=
    { count := fun _ state => (.ok 0, state)
      rows := fun _ state => (.ok [], state)
      series := fun _ state => (.ok ⟨[], []⟩, state) }
  display := { paint := fun _ state => (.ok (), state) }

/-- What a call comes to: how it failed, if it did, and the state that it leaves. -/
def answer (platform : Platform σ) : Call → σ → Option Fault × σ
  | .query (.count query), state =>
      ((platform.provider.count query state).map Fault.ofAnswer id)
  | .query (.rows query), state =>
      ((platform.provider.rows query state).map Fault.ofAnswer id)
  | .query (.series query), state =>
      ((platform.provider.series query state).map Fault.ofAnswer id)
  | .paint painting, state =>
      ((platform.display.paint painting state).map Fault.ofAnswer id)

/-- The calls of a log were made one after the other, with these answers, and led from one state
to another. -/
inductive Made (platform : Platform σ) : σ → List CallRecord → σ → Prop
  | nothing (state : σ) : Made platform state [] state
  | next {state middle last : σ} {call : Call} {fault : Option Fault} {calls : List CallRecord} :
      platform.answer call state = (fault, middle) → Made platform middle calls last →
        Made platform state (⟨call, fault⟩ :: calls) last

theorem Made.append {platform : Platform σ} {state middle last : σ}
    {first second : List CallRecord} (hf : platform.Made state first middle)
    (hs : platform.Made middle second last) : platform.Made state (first ++ second) last := by
  induction hf with
  | nothing => exact hs
  | next ha _ ih => exact .next ha (ih hs)

/-- Asking for the answer to a plan is one call, for the plan's query. -/
theorem answer_query (platform : Platform σ) (plan : Plan) (state : σ) :
    platform.answer (.query plan.query) state =
      (platform.ask plan state).map Fault.ofAnswer id := by
  cases plan <;>
    simp only [Plan.query, answer, ask, Prod.map, Fault.ofAnswer_map, id]

/-- A picture is painted by the display operation of the query's family. -/
theorem family_of_ask {platform : Platform σ} {plan : Plan} {state next : σ} {picture : Picture}
    (h : platform.ask plan state = (.ok picture, next)) :
    picture.family = plan.query.family := by
  cases plan
  all_goals
    simp only [ask, Prod.mk.injEq] at h
    obtain ⟨_, rfl⟩ := exists_of_map_ok h.1
    rfl

end Platform

end MetricBoard
