/-
This file holds the settings of the program and how they are read from the environment. A
setting that is not there, or a number that cannot be read, has its default.
-/

import BrowserPlan.Json.Basic
import BrowserPlan.Text.Case
import BrowserPlan.Text.Digit

namespace BrowserPlan

/-- The settings of the program. -/
structure Settings where
  baseUrl : Text := "http://localhost:8080"
  resultsRoot : Text := "results"
  compiler : Text := "javac"
  compileTimeout : Number := .integer 30
  waitSeconds : Int := 2
  actionOrder : Text := "grouped"
  leastTests : Int := 3
  transport : Text := "stdio"
  host : Text := "127.0.0.1"
  port : Int := 8085
  logLevel : Text := "INFO"
  writePlans : Bool := true
  deriving DecidableEq, Repr

namespace Settings

/-- Whether a word, in letters of either size, means yes. -/
def meansYes (word : Text) : Bool :=
  (["1", "true", "yes", "on"] : List Text).contains (Text.lowercase word)

/-- The settings in an environment. -/
def ofEnvironment (lookup : Text → Option Text) : Settings :=
  let default : Settings := {}
  let text (name : Text) (value : Text) : Text := (lookup name).getD value
  let integer (name : Text) (value : Int) : Int :=
    ((lookup name).bind Text.toInt?).getD value
  { baseUrl := text "BRIDGE_BASE_URL" default.baseUrl
    resultsRoot := text "RESULTS_ROOT" default.resultsRoot
    compiler := text "JAVAC_BIN" default.compiler
    compileTimeout := .integer (integer "COMPILE_TIMEOUT_S" 30)
    waitSeconds := integer "WAIT_STEP_SECONDS" default.waitSeconds
    actionOrder := text "ACTION_ORDER" default.actionOrder
    leastTests := integer "MIN_TEST_METHODS" default.leastTests
    transport := text "MCP_TRANSPORT" default.transport
    host := text "MCP_HOST" default.host
    port := integer "MCP_PORT" default.port
    logLevel := text "LOG_LEVEL" default.logLevel
    writePlans := ((lookup "WRITE_PLAN_FILES").map meansYes).getD default.writePlans }

end Settings

end BrowserPlan
