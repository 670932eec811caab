import MetricBoard.Options.Values
import MetricBoard.Text.Parts
import MetricBoard.Yaml.Reading

/-!
# Dashboards

A dashboard is a list of widgets, each with a name and options. A name is free text until the
widget is rendered.

In a document a dashboard is a mapping whose field `widgets` lists the widgets; a widget is a
mapping with a `name` and, if it has any, `options`. Other fields are passed over unread. Whatever
is absent counts as empty, except that a widget has a name. The whole document is read before names
are looked at: a name that is blank is refused only in a document that can be read. How a path
leads to the octets of a file is left open.
-/

namespace MetricBoard

/-- A widget as a dashboard lists it. -/
structure WidgetDescriptor where
  name : String
  options : OptionBag
  deriving DecidableEq

/-- The widgets of a dashboard, in their order. -/
structure Dashboard where
  widgets : List WidgetDescriptor
  deriving DecidableEq

namespace Dashboard

open Yaml (Document Node Path Mark Value Reading Problem)

/-- How deep the collections in an option may be nested. The option itself lies in four: the
dashboard, its list of widgets, a widget and its options. -/
def optionDepth : Nat := Yaml.depthLimit - 4

structure WidgetFields where
  name : Option String
  options : Option OptionBag

/-- The options of the widget at `place`, which is where an option without a text is reported. -/
def readOptions (document : Document) (place : Path × Mark) (path : Path) (node : Node) :
    Reading OptionBag := do
  let node ← document.follow node
  if node.isAbsent then pure .empty
  else
    match node with
    | .mapping _ _ entries =>
        match OptionBag.ofValues (← document.readTextEntries optionDepth path entries) with
        | .ok bag => pure bag
        | .error key => throw (.complaint (.optionWithoutText key) place.1 place.2)
    | other => throw (Document.misfit other path "a map")

/-- One more field of the widget at `place`. -/
def readWidgetField (document : Document) (place : Path × Mark) (fields : WidgetFields)
    (entry : Node × Node) : Reading WidgetFields := do
  let key ← document.readText "field identifier" place.1 entry.1
  let path := Document.under place.1 entry.1
  if key = "name" then
    if fields.name.isSome then throw (.complaint (.repeatedField "name") place.1 place.2)
    else
      let name ← document.readText "a string" path entry.2
      pure { fields with name := some name }
  else if key = "options" then
    if fields.options.isSome then throw (.complaint (.repeatedField "options") place.1 place.2)
    else
      let options ← readOptions document place path entry.2
      pure { fields with options := some options }
  else pure fields

def widgetOf (place : Path × Mark) (fields : WidgetFields) : Except Problem WidgetDescriptor :=
  match fields.name with
  | some name => .ok ⟨name, fields.options.getD .empty⟩
  | none => .error (.complaint (.missingField "name") place.1 place.2)

/-- A widget. An absent one has no fields. -/
def readWidget (document : Document) (path : Path) (node : Node) : Reading WidgetDescriptor := do
  let node ← document.follow node
  if node.isAbsent then widgetOf (path, node.mark) ⟨none, none⟩
  else
    match node with
    | .mapping mark _ entries =>
        let place := (path, mark)
        let fields ← entries.foldlM (readWidgetField document place) ⟨none, none⟩
        widgetOf place fields
    | other => throw (Document.misfit other path "struct WidgetDescriptor")

def readWidgets (document : Document) (path : Path) (node : Node) :
    Reading (List WidgetDescriptor) := do
  let node ← document.follow node
  if node.isAbsent then pure []
  else
    match node with
    | .sequence _ _ items => Document.readItems (readWidget document) path 0 items
    | other => throw (Document.misfit other path "a sequence")

/-- One more field of a dashboard that begins at `mark`; `widgets` are those that have been
listed. -/
def readField (document : Document) (mark : Mark) (widgets : Option (List WidgetDescriptor))
    (entry : Node × Node) : Reading (Option (List WidgetDescriptor)) := do
  let key ← document.readText "field identifier" .root entry.1
  if key = "widgets" then
    if widgets.isSome then throw (.complaint (.repeatedField "widgets") .root mark)
    else
      let widgets ← readWidgets document (Document.under .root entry.1) entry.2
      pure (some widgets)
  else pure widgets

def readRoot (document : Document) (node : Node) : Reading Dashboard := do
  if node.isAbsent then pure ⟨[]⟩
  else
    match node with
    | .mapping mark _ entries =>
        let widgets ← entries.foldlM (readField document mark) none
        pure ⟨widgets.getD []⟩
    | other => throw (Document.misfit other .root "struct DashboardConfig")

/-- The dashboard that a document describes; a document without a root describes an empty
one. -/
def ofDocument (document : Document) : Except Problem Dashboard :=
  match document.root with
  | none => .ok ⟨[]⟩
  | some root => (readRoot document root).run' 0

/-- A dashboard as it is, if no name in it is blank. The error is the index of the first widget
with a blank name. -/
def named (dashboard : Dashboard) : Except Nat Dashboard :=
  match dashboard.widgets.findIdx? fun widget => Text.isBlankText widget.name with
  | some index => .error index
  | none => .ok dashboard

def parse (text : String) : Except WidgetError Dashboard := do
  let document ← (Document.ofText text).mapError (.config <| .malformed ·)
  let dashboard ← (ofDocument document).mapError (.config <| .unreadable ·)
  dashboard.named.mapError (.config <| .blankName ·)

/-! ## Files -/

/-- The text that the octets of a file encode. -/
def textOf (octets : ByteArray) : Except FileFault String :=
  match String.fromUTF8? octets with
  | some text => .ok text
  | none => .error .notUtf8

def load (read : String → Except FileFault ByteArray) (path : String) :
    Except WidgetError Dashboard := do
  let text ← ((read path).bind textOf).mapError (.io <| .file path ·)
  parse text

end Dashboard

end MetricBoard
