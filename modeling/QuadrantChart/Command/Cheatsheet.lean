/-
This file holds the reference of the chart notation.
-/

import QuadrantChart.Text.Basic

namespace QuadrantChart

namespace Cheatsheet

def lines : List String :=
  ["# quadrant2drawio notation",
    "",
    "One directive per line. Blank lines and lines starting with `%%` are ignored,",
    "as is any line that matches nothing below.",
    "",
    "```",
    "quadrantChart",
    "title Reach and engagement",
    "x-axis Low Reach --> High Reach",
    "y-axis Low Engagement --> High Engagement",
    "quadrant-1 We should expand",
    "quadrant-2 Need to promote",
    "quadrant-3 Re-evaluate",
    "quadrant-4 May be improved",
    "Campaign A: [0.3, 0.6]",
    "Campaign B: [0.45, 0.23]",
    "```",
    "",
    "- `title <text>`: chart title (default `Quadrant Chart`). Last one wins.",
    "- `x-axis <left> --> <right>`: both sides required.",
    "- `y-axis <bottom> --> <top>`: bottom first, then top.",
    "- `quadrant-1` top-right, `quadrant-2` top-left, `quadrant-3` bottom-left,",
    "  `quadrant-4` bottom-right. Directives match by prefix.",
    "- `<label>: [<x>, <y>]`: x and y in `0..1`; values outside are clamped.",
    "",
    "Point colors: top-right green, top-left blue, bottom-left gray,",
    "bottom-right amber.",
    "",
    "Commands:",
    "",
    "```",
    "quadrant2drawio convert chart.mmd -o chart.drawio",
    "quadrant2drawio preview chart.mmd -o chart.png --scale 2",
    "quadrant2drawio --verbose convert chart.mmd   # log skipped lines",
    "```"]

def text : Text :=
  lines.flatMap fun line => line.toList ++ ['\n']

end Cheatsheet

end QuadrantChart
