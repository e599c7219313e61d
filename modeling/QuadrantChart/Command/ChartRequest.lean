/-
This file defines what a chart command is asked for, and carries it out.
-/

import QuadrantChart.Command.Interaction
import QuadrantChart.Diagram.Document
import QuadrantChart.Preview.Basic
import QuadrantChart.Text.Encoding

namespace QuadrantChart

/-- A chart becomes a document or a preview. -/
inductive ChartAction where
  | convert
  | preview
  deriving DecidableEq, Repr

/-- The source that an option gives, unless it is missing or left blank. -/
inductive SourceOption where
  | missing
  | blank
  | given (text : Text)
  deriving DecidableEq, Repr

/-- An empty input or output path counts as missing. A number without a value was left blank. -/
structure ChartRequest where
  action : ChartAction
  input : Option Text := none
  text : SourceOption := .missing
  prints : Bool := false
  output : Option Text := none
  scale : Option Number := some (.double 1)
  canvasSize : Option Number := some ({} : LayoutConfig).canvasSize
  padding : Option Number := some ({} : LayoutConfig).padding
  deriving DecidableEq

/-- How a source is drawn. -/
structure ChartSetting where
  action : ChartAction
  scale : Number
  config : LayoutConfig
  deriving DecidableEq

/-- The circumstances of a command. -/
structure Session where
  format : ReportFormat
  verbose : Bool
  traced : Bool
  terminal : Bool
  encoding : Encoding
  now : Moment

namespace Report

def printedAndStored : Report where
  code := .arguments
  message := "--stdout and --output are mutually exclusive".toList
  hint := some "Choose either --stdout or --output.".toList

def scaleNotPositive : Report where
  code := .arguments
  message := "--scale must be > 0".toList
  hint := some "Use a positive scale factor like 1 or 2.".toList

def twoSources : Report where
  code := .arguments
  message := "--text cannot be combined with file input".toList
  hint := some "Use either FILE or --text.".toList

def noSource : Report where
  code := .arguments
  message := "no input provided".toList
  hint := some "Pass an input FILE, --text, or pipe source on stdin.".toList

def ofConfig (message : Text) : Report where
  code := .configuration
  message := message
  hint := some "Use a positive --canvas-size and a non-negative --padding.".toList

def ofUnexpected (message : Text) : Report where
  code := .unexpected
  message := message
  hint := some "Re-run with --debug to see traceback.".toList

def blankScale : Report :=
  ofUnexpected "'<=' not supported between instances of 'list' and 'int'".toList

def blankDimension : Report :=
  ofUnexpected "must be real number, not list".toList

/-- A blank padding is only looked at when the canvas size is finite. -/
def blankPadding (canvasSize : Number) : Report :=
  match canvasSize.isFinite with
  | .ok false => ofConfig (Fault.notFiniteMessage canvasSize.text "[]".toList)
  | _ => blankDimension

def blankSource : Report :=
  ofUnexpected "'list' object has no attribute 'split'".toList

/-- A check finds that there is no file. With any other fault it cannot tell. -/
def ofCheck (path : Path) (fault : FileFault) : Report :=
  match fault with
  | .missing | .notDirectory | .nullCharacter =>
    { code := .reading
      message := "input file not found: ".toList ++ path.written
      file := some path.written }
  | .denied | .isDirectory | .nameTooLong => ofUnexpected (fault.message path)

/-- A file is not opened, for a reason that the system gives. -/
def ofOpening (code : ReportCode) (complaint : String) (path : Path) (fault : FileFault) : Report :=
  match fault with
  | .nullCharacter => ofUnexpected (fault.message path)
  | _ =>
    { code
      message := complaint.toList ++ path.written
      file := some path.written
      hint := some (fault.message path) }

def ofReading (path : Path) (fault : FileFault) : Report :=
  ofOpening .reading "failed to read input file: " path fault

def ofWriting (path : Path) (fault : FileFault) : Report :=
  ofOpening .writing "failed to write output file: " path fault

end Report

namespace Session

/-- Ends a command with a report after what it has printed and logged. -/
def fail (session : Session) (output : Text) (log : List Text) (report : Report) : Interaction :=
  .finish { output, log, ending := .failed ⟨report, session.format, session.traced⟩ }

/-- Prints a text after what has been printed and goes on, unless the text cannot be encoded. -/
def print (session : Session) (output : Text) (log : List Text) (text : Text)
    (next : Text → Interaction) : Interaction :=
  if session.encoding.takes text then next (output ++ text)
  else session.fail output log (.ofUnexpected (session.encoding.complaint text))

/-- The records of the skipped lines of a source, when they were asked for. -/
def log (session : Session) (source : Text) : List Text :=
  if session.verbose then (Source.skips source).map Source.Skip.record else []

end Session

namespace ChartSetting

/-- The text of the document or of the image of a source. -/
def product (setting : ChartSetting) (now : Moment) (source : Text) : Except Fault Text := do
  match setting.action with
  | .convert => Source.convert source setting.config now
  | .preview => (← Preview.ofSource source setting.config setting.scale).image

end ChartSetting

namespace ChartRequest

def readScale (request : ChartRequest) : Except Report Number :=
  match request.scale with
  | none => .error .blankScale
  | some scale =>
    if request.action = .preview && scale.le 0 then .error .scaleNotPositive else .ok scale

def readConfig (request : ChartRequest) : Except Report LayoutConfig :=
  match request.canvasSize, request.padding with
  | none, _ => .error .blankDimension
  | some canvasSize, none => .error (.blankPadding canvasSize)
  | some canvasSize, some padding =>
    let config : LayoutConfig := { canvasSize, padding }
    match config.validate with
    | .ok _ => .ok config
    | .error fault => .error (.ofConfig fault.message)

/-- The setting of a request, or its first contradiction. -/
def setting (request : ChartRequest) : Except Report ChartSetting := do
  if request.prints && request.output.isSome then throw .printedAndStored
  let scale ← request.readScale
  let config ← request.readConfig
  return { action := request.action, scale, config }

/-- Goes on with the UTF-8 text of a file or of the standard input. -/
def withDecoded (session : Session) (bytes : Bytes) (next : Text → Interaction) : Interaction :=
  match Text.decodeUtf8 bytes with
  | .ok text => next (Text.unifyLineEnds text)
  | .error fault => session.fail [] [] (.ofUnexpected fault.message)

/-- Goes on with the source of a request. -/
def withSource (request : ChartRequest) (session : Session) (next : Text → Interaction) :
    Interaction :=
  match request.input, request.text with
  | some input, .missing =>
    let path := Path.ofText input
    .checkFile path fun
      | some fault => session.fail [] [] (.ofCheck path fault)
      | none => .readFile path fun
        | .ok bytes => withDecoded session bytes next
        | .error fault => session.fail [] [] (.ofReading path fault)
  | none, .missing =>
    if session.terminal then session.fail [] [] .noSource
    else .readInput fun bytes => withDecoded session bytes next
  | some _, _ => session.fail [] [] .twoSources
  | none, .blank => session.fail [] [] .blankSource
  | none, .given text => next text

/-- Where the product is stored. A preview lies beside its source. -/
def destination (request : ChartRequest) : Path :=
  match request.output, request.action, request.input with
  | some output, _, _ => .ofText output
  | none, .convert, _ => .ofText "chart.drawio".toList
  | none, .preview, some input => (Path.ofText input).withExtension ".png".toList
  | none, .preview, none => .ofText "chart.png".toList

def foundLine (source : Text) : Text :=
  "Found ".toList ++ Text.ofNat (Source.chart source).points.length ++ " data points.\n".toList

def wroteLine (path : Path) : Text :=
  "Wrote ".toList ++ path.written ++ ['\n']

/-- Prints the product of a source. An image is printed in bytes, which need no encoding. -/
def printProduct (request : ChartRequest) (session : Session) (log : List Text) (product : Text) :
    Interaction :=
  match request.action with
  | .convert => session.print [] log product fun output => .finish { output, log }
  | .preview => .finish { output := product, log }

/-- Stores the product of a source between two lines about it. -/
def store (request : ChartRequest) (session : Session) (log : List Text) (source product : Text) :
    Interaction :=
  let path := request.destination
  session.print [] log (foundLine source) fun output =>
    .writeFile path (Text.encodeUtf8 product) fun
      | none => session.print output log (wroteLine path) fun output => .finish { output, log }
      | some fault => session.fail output log (.ofWriting path fault)

/-- Makes the product of a source, and prints or stores it. -/
def deliver (request : ChartRequest) (setting : ChartSetting) (session : Session) (source : Text) :
    Interaction :=
  let log := session.log source
  match setting.product session.now source with
  | .error .unending => .finish { log, ending := .never }
  | .error fault => session.fail [] log (.ofUnexpected fault.message)
  | .ok product =>
    if request.prints then request.printProduct session log product
    else request.store session log source product

/-- Nothing is read before the request is found consistent. -/
def start (request : ChartRequest) (session : Session) : Interaction :=
  match request.setting with
  | .error report => session.fail [] [] report
  | .ok setting => request.withSource session (request.deliver setting session)

end ChartRequest

end QuadrantChart
