import MetricBoard.Yaml.Malformed
import MetricBoard.Yaml.Problem

/-!
# Errors

The ways in which reading a dashboard or rendering a widget fails, and their messages. Errors
about an option are raised where neither the widget nor, at times, the option is known; they
are labelled on their way out, and a label once given stays.
-/

namespace MetricBoard

/-- A failure reported from outside: its text and the texts of the causes below it. -/
structure Fault where
  message : String
  causes : List String
  deriving DecidableEq, Repr

/-- Why a dashboard text is refused. -/
inductive ConfigFault where
  | malformed (what : Yaml.Malformed)
  | unreadable (problem : Yaml.Problem)
  /-- The name of the widget at this index is blank. -/
  | blankName (index : Nat)
  | stated (text : String)
  deriving DecidableEq, Repr

def ConfigFault.text : ConfigFault → String
  | .malformed _ => "the text is not one well-formed document"
  | .unreadable problem => problem.text
  | .blankName index => "widgets[" ++ toString index ++ "].name cannot be empty"
  | .stated text => text

/-- Why a path does not lead to a text. -/
inductive FileFault where
  | notFound
  | isFolder
  | nameTooLong
  | zeroInName
  | notUtf8
  deriving DecidableEq, Repr

def FileFault.text : FileFault → String
  | .notFound => "No such file or directory (os error 2)"
  | .isFolder => "Is a directory (os error 21)"
  | .nameTooLong => "File name too long (os error 36)"
  | .zeroInName => "file name contained an unexpected NUL byte"
  | .notUtf8 => "stream did not contain valid UTF-8"

inductive IoFault where
  | file (path : String) (fault : FileFault)
  | stated (text : String)
  deriving DecidableEq, Repr

def IoFault.text : IoFault → String
  | .file path fault => "Failed to read '" ++ path ++ "': " ++ fault.text
  | .stated text => text

inductive WidgetError where
  | unknownWidget (widget service : String)
  | invalidNumber (widget option value : String)
  | malformedDate (widget option expression expected : String)
  | provider (widget : String) (fault : Fault)
  | display (widget : String) (fault : Fault)
  | config (fault : ConfigFault)
  | io (fault : IoFault)
  deriving DecidableEq, Repr

namespace WidgetError

/-- Where a validation error comes from, as far as it is known. -/
def location (widget option : String) : String :=
  match widget.isEmpty, option.isEmpty with
  | true, true => ""
  | true, false => "option '" ++ option ++ "': "
  | false, true => widget ++ ": "
  | false, false => widget ++ " option '" ++ option ++ "': "

/-- The message of an error. Of a failure from outside it carries the outermost text only. -/
def message : WidgetError → String
  | .unknownWidget widget service =>
      "UNKNOWN_WIDGET: can't find the widget " ++ widget ++ " for service " ++ service
  | .invalidNumber widget option value =>
      "INVALID_NUMBER: " ++ location widget option ++ "must be a number, got '" ++ value ++ "'"
  | .malformedDate widget option expression expected =>
      "MALFORMED_DATE: " ++ location widget option ++ "'" ++ expression ++
        "' is not a valid relative date, expected " ++ expected
  | .provider widget fault => "PROVIDER_FAILURE: " ++ widget ++ ": " ++ fault.message
  | .display widget fault => "DISPLAY_FAILURE: " ++ widget ++ ": " ++ fault.message
  | .config fault => "CONFIG_INVALID: " ++ fault.text
  | .io fault => "IO_FAILURE: " ++ fault.text

/-- A label that is given once: an empty one takes the new name. -/
def label (old new : String) : String :=
  if old.isEmpty then new else old

/-- Names the option that a validation error comes from, unless it is known. -/
def forOption (error : WidgetError) (name : String) : WidgetError :=
  match error with
  | .invalidNumber widget option value => .invalidNumber widget (label option name) value
  | .malformedDate widget option expression expected =>
      .malformedDate widget (label option name) expression expected
  | other => other

/-- Names the widget that a validation error comes from, unless it is known. -/
def inWidget (error : WidgetError) (id : String) : WidgetError :=
  match error with
  | .invalidNumber widget option value => .invalidNumber (label widget id) option value
  | .malformedDate widget option expression expected =>
      .malformedDate (label widget id) option expression expected
  | other => other

/-- A validation error is about an option: a number or a date that cannot be read. -/
def isValidation : WidgetError → Bool
  | .invalidNumber .. | .malformedDate .. => true
  | _ => false

end WidgetError

end MetricBoard
