/-
This file holds the names of the commands and the help pages.
-/

import QuadrantChart.Text.Basic

namespace QuadrantChart

inductive CommandName where
  | convert
  | preview
  | cheatsheet
  deriving DecidableEq, Repr

namespace CommandName

def text : CommandName → Text
  | .convert => "convert".toList
  | .preview => "preview".toList
  | .cheatsheet => "cheatsheet".toList

def all : List CommandName :=
  [.convert, .preview, .cheatsheet]

def ofText? (word : Text) : Option CommandName :=
  all.find? fun name => name.text = word

end CommandName

namespace Help

def general : List String :=
  ["usage: quadrant2drawio [-h] [--error-format \x7btext,json\x7d] [--debug] [--verbose]",
    "                       \x7bconvert,preview,cheatsheet\x7d ...",
    "",
    "Convert Mermaid quadrant charts to draw.io XML.",
    "",
    "positional arguments:",
    "  \x7bconvert,preview,cheatsheet\x7d",
    "    convert             Convert a quadrant chart to .drawio",
    "    preview             Render a quadrant chart to PNG",
    "    cheatsheet          Print quadrantChart notation reference",
    "",
    "options:",
    "  -h, --help            show this help message and exit",
    "  --error-format \x7btext,json\x7d",
    "  --debug",
    "  --verbose             Log skipped source lines to stderr"]

def convert : List String :=
  ["usage: quadrant2drawio convert [-h] [--text TEXT] [--stdout] [-o OUTPUT]",
    "                               [--canvas-size CANVAS_SIZE] [--padding PADDING]",
    "                               [input]",
    "",
    "positional arguments:",
    "  input                 Input .mmd file",
    "",
    "options:",
    "  -h, --help            show this help message and exit",
    "  --text TEXT           Raw quadrantChart source",
    "  --stdout              Write XML to stdout",
    "  -o OUTPUT, --output OUTPUT",
    "                        Output path (default: chart.drawio)",
    "  --canvas-size CANVAS_SIZE",
    "  --padding PADDING"]

def preview : List String :=
  ["usage: quadrant2drawio preview [-h] [--text TEXT] [--stdout] [-o OUTPUT]",
    "                               [--scale SCALE] [--canvas-size CANVAS_SIZE]",
    "                               [--padding PADDING]",
    "                               [input]",
    "",
    "positional arguments:",
    "  input                 Input .mmd file",
    "",
    "options:",
    "  -h, --help            show this help message and exit",
    "  --text TEXT           Raw quadrantChart source",
    "  --stdout              Write PNG bytes to stdout",
    "  -o OUTPUT, --output OUTPUT",
    "                        Output .png path",
    "  --scale SCALE",
    "  --canvas-size CANVAS_SIZE",
    "  --padding PADDING"]

def cheatsheet : List String :=
  ["usage: quadrant2drawio cheatsheet [-h]",
    "",
    "options:",
    "  -h, --help  show this help message and exit"]

def lines : Option CommandName → List String
  | none => general
  | some .convert => convert
  | some .preview => preview
  | some .cheatsheet => cheatsheet

/-- The help page of a command, or the general one. -/
def page (command : Option CommandName) : Text :=
  (lines command).flatMap fun line => line.toList ++ ['\n']

end Help

end QuadrantChart
