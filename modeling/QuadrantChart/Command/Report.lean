/-
This file defines error reports and writes them as plain text or as JSON.
-/

import QuadrantChart.File.Path
import QuadrantChart.Text.Escape

namespace QuadrantChart

inductive ReportCode where
  | arguments
  | configuration
  | reading
  | writing
  | unexpected
  deriving DecidableEq, Repr

namespace ReportCode

def text : ReportCode → Text
  | .arguments => "E_ARGS".toList
  | .configuration => "E_CONFIG".toList
  | .reading => "E_IO_READ".toList
  | .writing => "E_IO_WRITE".toList
  | .unexpected => "E_INTERNAL".toList

def exitCode : ReportCode → Nat
  | .arguments | .configuration | .reading => 2
  | .writing => 4
  | .unexpected => 1

end ReportCode

inductive ReportFormat where
  | plain
  | json
  deriving DecidableEq, Repr

namespace ReportFormat

def text : ReportFormat → Text
  | .plain => "text".toList
  | .json => "json".toList

def all : List ReportFormat :=
  [.plain, .json]

def ofText? (word : Text) : Option ReportFormat :=
  all.find? fun format => format.text = word

end ReportFormat

/-- What went wrong, with the file concerned and with advice when there are any. -/
structure Report where
  code : ReportCode
  message : Text
  file : Option Text := none
  hint : Option Text := none
  deriving DecidableEq, Repr

namespace Report

def plain (report : Report) : Text :=
  "error[".toList ++ report.code.text ++ "]: ".toList ++ report.message ++ '\n' ::
    match report.hint with
    | some hint => "hint: ".toList ++ hint ++ ['\n']
    | none => []

def jsonValue : Option Text → Text
  | some text => Text.jsonString text
  | none => "null".toList

def jsonField (name value : Text) : Text :=
  Text.jsonString name ++ ": ".toList ++ value

/-- What is known about a report, as the members of an object. -/
def fields (report : Report) : List Text :=
  [jsonField "ok".toList "false".toList,
    jsonField "code".toList (Text.jsonString report.code.text),
    jsonField "message".toList (Text.jsonString report.message),
    jsonField "file".toList (jsonValue report.file),
    jsonField "hint".toList (jsonValue report.hint)]

/-- An object on one line. -/
def json (report : Report) : Text :=
  '\x7b' :: Text.join ", ".toList report.fields ++ ['\x7d', '\n']

def written (report : Report) : ReportFormat → Text
  | .plain => report.plain
  | .json => report.json

end Report

end QuadrantChart
