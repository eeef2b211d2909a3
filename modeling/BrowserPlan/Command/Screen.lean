/-
This file holds the face of a screen, on which a command shows texts with style tags and tables.

What a tag does, how a table is drawn and where a line that is too long goes on is up to the screen.
It may refuse a text whose tags make no sense to it.
-/

import BrowserPlan.Text.Basic

namespace BrowserPlan

/-- Why something cannot be shown, as the screen tells it. -/
structure ScreenFault where
  kind : Text
  message : Text
  deriving DecidableEq, Repr

/-- A table: its title, and its columns with their headings. -/
structure Table where
  title : Text
  columns : List (Text × List Text)
  deriving DecidableEq, Repr

/-- A screen: what it writes for a line and for a table, which may hold tags. -/
structure Screen where
  line : Text → Except ScreenFault Text
  table : Table → Except ScreenFault Text

end BrowserPlan
