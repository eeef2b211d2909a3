/-
This file takes the document of a source: its test methods with the actions of their bodies,
all of them or those of one name.
-/

import BrowserPlan.Action.Document
import BrowserPlan.Action.Recognizer
import BrowserPlan.Java.TestMethod

namespace BrowserPlan

/-- Whether a method is asked for; no name, or an empty one, asks for all. -/
def isWanted (wanted? : Option Text) (name : Text) : Bool :=
  match wanted? with
  | none | some [] => true
  | some wanted => name = wanted

/-- The test method that is cut out as a segment. -/
def TestMethod.ofSegment (order : ActionOrder) (segment : Java.Segment) : TestMethod :=
  { name := segment.name, actions := actionsOfBody segment.body order }

/-- The document of a source. -/
def Extraction.ofSource (source : Text) (wanted? : Option Text) (order : ActionOrder) :
    Extraction :=
  { methods :=
      ((Java.segments source).filter fun segment => isWanted wanted? segment.name).map
        (TestMethod.ofSegment order) }

end BrowserPlan
