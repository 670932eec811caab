import MetricBoard.Proofs.Engine.Stage
import MetricBoard.Proofs.Options.Values
import MetricBoard.Proofs.Text.Items

/-!
# Lists in options

A list of scalars is written into a bag as one text and read from it as a list again. What is read
are the items of the texts of the scalars, one after the other: a scalar whose text holds
separators gives several, and a blank one none. The table of repositories asks for its columns in
this way, and never for no columns at all.
-/

namespace MetricBoard

open Yaml (Value)

/-! ## Lists of scalars -/

/-- A scalar and its text. A local tag makes no difference to the text. -/
inductive ScalarText : Value → String → Prop
  | null : ScalarText .null ""
  | boolean (value : Bool) : ScalarText (.boolean value) (toString value)
  | number (value : Yaml.Numeral) : ScalarText (.number value) value.text
  | text (value : String) : ScalarText (.text value) value
  | tagged (name : String) {value : Value} {text : String} (inner : ScalarText value text) :
      ScalarText (.tagged name value) text

/-- A list of scalars and the texts of its items. -/
inductive ListTexts : Value → List String → Prop
  | sequence {items : List Value} {texts : List String}
      (each : List.Forall₂ ScalarText items texts) : ListTexts (.sequence items) texts
  | tagged (name : String) {value : Value} {texts : List String} (inner : ListTexts value texts) :
      ListTexts (.tagged name value) texts

theorem ScalarText.optionText? {value : Value} {text : String} (h : ScalarText value text) :
    value.optionText? = some text := by
  induction h with
  | null => rfl
  | boolean value => rfl
  | number value => rfl
  | text value => rfl
  | tagged name inner ih => exact ih

theorem ScalarText.not_collection {value : Value} {text : String} (h : ScalarText value text) :
    value.isBareCollection = false := by
  cases h <;> rfl

theorem itemTexts?_of_scalars {items : List Value} {texts : List String}
    (h : List.Forall₂ ScalarText items texts) : Value.itemTexts? items = some texts := by
  induction h with
  | nil => rfl
  | cons first _ ih =>
    unfold Value.itemTexts?
    rw [first.not_collection, first.optionText?, ih]
    rfl

/-- A list is kept as the texts of its items with commas between them. -/
theorem ListTexts.optionText? {value : Value} {texts : List String} (h : ListTexts value texts) :
    value.optionText? = some (Text.joined listSeparator texts) := by
  induction h with
  | sequence each =>
    unfold Value.optionText?
    rw [itemTexts?_of_scalars each]
    rfl
  | tagged name inner ih => exact ih

namespace OptionBag

theorem getList_eq (bag : OptionBag) {key value : String} (h : bag.raw key = some value)
    (default : List String) (separator : String) :
    bag.getList key default separator =
      if items separator value = [] then default else items separator value := by
  unfold getList
  rw [h]
  dsimp only
  split
  · rename_i hi
    rw [hi, if_pos rfl]
  · rename_i hi
    rw [hi, if_neg (List.cons_ne_nil _ _)]

/-- What was joined is cut again at the same places, and at commas inside the items too. -/
theorem getList_of_joined {bag : OptionBag} {key : String} {texts : List String}
    (h : bag.raw key = some (Text.joined listSeparator texts)) (default : List String) :
    let found := texts.flatMap fun text => (Text.items ',' text.toList).map String.ofList
    bag.getList key default listSeparator = if found = [] then default else found := by
  intro found
  have hi : items listSeparator (Text.joined listSeparator texts) = found :=
    items_joined (by decide) texts
  rw [bag.getList_eq h, hi]

end OptionBag

/-- Texts without separators, blanks at the ends and gaps are read back as they are. -/
theorem flatMap_items_self {separator : Char} {texts : List String}
    (h : ∀ text ∈ texts,
      separator ∉ text.toList ∧ Text.trimmed text = text.toList ∧ text ≠ "") :
    (texts.flatMap fun text => (Text.items separator text.toList).map String.ofList) = texts := by
  have hs : ∀ text ∈ texts, (Text.items separator text.toList).map String.ofList = [text] := by
    intro text hm
    obtain ⟨hc, hb, hn⟩ := h text hm
    have hl : text.toList ≠ [] := by
      rw [Ne, String.toList_eq_nil_iff]
      exact hn
    rw [Text.items_self hc hb hl, List.map_singleton, String.ofList_toList]
  rw [List.flatMap_congr hs]
  exact List.flatMap_singleton' texts

/-! ## The columns of the table of repositories -/

variable {σ : Type}

def CallRecord.query? (record : CallRecord) : Option Query :=
  match record.call with
  | .query query => some query
  | .paint _ => none

/-- The queries that a run made, in their order. -/
def Run.queries {α : Type} (run : Run σ α) : List Query := run.calls.filterMap (·.query?)

namespace WidgetRequest

/-- A request with a plan makes one query, the one of its plan. -/
theorem queries_render {request : WidgetRequest} {plan : Plan} (h : request.plan = .ok plan)
    (platform : Platform σ) (state : σ) :
    (request.render platform state).queries = [plan.query] := by
  unfold render
  rw [h]
  dsimp only
  unfold perform
  cases platform.ask plan state with
  | mk answer middle =>
    cases answer with
    | error fault => rfl
    | ok picture =>
      dsimp only
      split <;> rfl

theorem queries_render_repositories (options : OptionBag) (now : Instant) (platform : Platform σ)
    (state : σ) :
    let request : WidgetRequest := ⟨.tableRepositories, options, now⟩
    (request.render platform state).queries =
      match options.getCount "row_limit" 5 with
      | .ok limit => [.rows (.repositories limit request.order request.metrics)]
      | .error _ => [] := by
  intro request
  have hp : request.plan = ((options.getCount "row_limit" 5).mapError (·.inWidget request.id)).bind
      fun limit => .ok (.rows (.repositories limit request.order request.metrics) limit) := rfl
  cases hl : options.getCount "row_limit" 5 with
  | ok limit =>
    rw [hl] at hp
    exact queries_render hp platform state
  | error error =>
    rw [hl] at hp
    unfold render
    rw [hp]
    rfl

end WidgetRequest

/-- A list of scalars that is given for an option is read as the items of the texts of the
scalars, in their order, or as the default where there are none. It makes the same bag as the one
text that has the separator between these texts, and it is never the reason that there is no
bag. The table of repositories asks for what is read. -/
theorem sequence_read_as_items {value : Value} {texts : List String} (h : ListTexts value texts)
    (key : String) (front back : List (String × Value)) (hl : ∀ entry ∈ back, entry.1 ≠ key) :
    let entries := front ++ (key, value) :: back
    let found := texts.flatMap fun text => (Text.items ',' text.toList).map String.ofList
    OptionBag.ofValues entries =
      OptionBag.ofValues (front ++ (key, .text (Text.joined "," texts)) :: back) ∧
    (∀ other, OptionBag.ofValues entries = .error other → other ≠ key) ∧
    ((∀ text ∈ texts, ',' ∉ text.toList ∧ Text.trimmed text = text.toList ∧ text ≠ "") →
      found = texts) ∧
    ∀ bag, OptionBag.ofValues entries = .ok bag →
      (∀ default, bag.getList key default "," = if found = [] then default else found) ∧
      (key = "metrics" → ∃ metrics ≠ [],
        metrics = (if found = [] then ["name", "stars", "watchers", "forks", "open_issues"]
          else found) ∧
        ∀ {σ : Type} (platform : Platform σ) (now : Instant) (state : σ),
          (platform.dispatch "github.table_repositories" bag now state).queries =
            match bag.getCount "row_limit" 5 with
            | .ok limit =>
                [.rows (.repositories limit ((bag.raw "order").getD "pushed") metrics)]
            | .error _ => []) := by
  intro entries found
  have hv : OptionBag.lastValue? entries key = some value := by
    have hn : OptionBag.lastValue? back key = none := OptionBag.lastValue?_eq_none_iff.mpr hl
    rw [OptionBag.lastValue?_append, OptionBag.lastValue?_cons, hn, if_pos rfl]
    rfl
  have ht : value.optionText? = some (Text.joined listSeparator texts) := h.optionText?
  refine ⟨?_, fun other ho => ?_, flatMap_items_self, fun bag hb => ?_⟩
  · refine OptionBag.ofValues_congr ?_
    rw [List.map_append, List.map_append, List.map_cons, List.map_cons, Prod.map_apply, ht]
    rfl
  · rintro rfl
    obtain ⟨last, hlast, hn⟩ := OptionBag.not_text_of_ofValues ho
    obtain rfl := Option.some.inj (hv.symm.trans hlast)
    cases ht.symm.trans hn
  · have hr : bag.raw key = some (Text.joined listSeparator texts) := by
      rw [(OptionBag.texts_of_ofValues hb).kept, hv, Option.bind_some, ht]
    have hg : ∀ default, bag.getList key default "," = if found = [] then default else found :=
      OptionBag.getList_of_joined hr
    refine ⟨hg, ?_⟩
    rintro rfl
    refine ⟨_, ?_, rfl, fun platform now state => ?_⟩
    · by_cases hf : found = []
      · rw [if_pos hf]
        exact List.cons_ne_nil _ _
      · rw [if_neg hf]
        exact hf
    · have hrun : platform.dispatch "github.table_repositories" bag now state =
          (WidgetRequest.mk .tableRepositories bag now).render platform state :=
        platform.dispatch_listed bag now state .tableRepositories
      rw [hrun, WidgetRequest.queries_render_repositories, ← hg]
      rfl

theorem columns_of_sequence :
    ∃ bag,
      OptionBag.ofValues [("row_limit", .text "3"),
        ("metrics", .sequence [.text " name, stars ", .null, .text "forks"])] = .ok bag ∧
      bag.getList "metrics" [] "," = ["name", "stars", "forks"] := by
  have h : ListTexts (.sequence [.text " name, stars ", .null, .text "forks"])
      [" name, stars ", "", "forks"] :=
    .sequence (.cons (.text _) (.cons .null (.cons (.text _) .nil)))
  obtain ⟨-, -, -, hb⟩ :=
    sequence_read_as_items h "metrics" [("row_limit", .text "3")] [] (by decide)
  refine ⟨_, rfl, ((hb _ rfl).1 []).trans ?_⟩
  decide +kernel

end MetricBoard
