/-
This file offers the tools over HTTP: which paths there are, and what is done when one of them is
asked for.

A tool is called by posting its arguments to a path of its own. How a request finds its path, how
its body is read as arguments and how an answer is written is not said here: this is done by the
framework that serves the paths, of which only the face is given.
-/

import BrowserPlan.Text.Encoding
import BrowserPlan.Tool.Handler

namespace BrowserPlan.Http

/-! ### Requests and answers -/

/-- What is sent along with a request. -/
inductive Body where
  | none
  | value (value : Json)
  | text (text : Text)

/-- The value that is sent along, if it is one that can be read. -/
def Body.value? : Body → Option Json
  | .none => Option.none
  | .value posted => some posted
  | .text written => do
      let chars ← Text.ofBytes? (Utf8.encode written)
      (Json.parsePlain chars).toOption

/-- A request for an address. -/
structure Request where
  method : Text
  address : Text
  body : Body

/-- What comes back: a value that is printed, or a plain text. -/
inductive Reply where
  | record (value : Json)
  | text (text : Text)

/-- An answer: its status, and what comes back. -/
structure Answer where
  status : Nat
  reply : Reply

/-! ### Routes -/

/-- The paths that a route is for: a fixed one, or each that goes on by one name. -/
inductive Target where
  | fixed (path : Text)
  | below (front : Text)
  deriving DecidableEq, Repr

/-- Whether a path is one of those that are meant. -/
def Target.holds (path : Text) : Target → Bool
  | .fixed known => path = known
  | .below front =>
      match Text.after? front path with
      | some name => name ≠ [] && !name.contains '/'
      | none => false

/-- What is done if a route is asked for: a record is told, the path is refused with a text about
its last name, or the body is read as arguments of a tool and something is done with these. -/
inductive Endpoint (State : Type) where
  | told (record : Json)
  | refused (status : Nat) (detail : Text → Text)
  | called (tool : Tool) (call : BrowserPlan.Request → State → Json × State)

/-- A route: the method and the paths that it is for, and what is done there. -/
structure Route (State : Type) where
  method : Text
  target : Target
  endpoint : Endpoint State

/-- Whether a route is for a method and a path. -/
def Route.takes {State : Type} (method path : Text) (route : Route State) : Bool :=
  route.method = method && route.target.holds path

section Routes

variable {Files : Type} [Disk Files] (setup : Setup)

/-- The route of a tool. What was read of the arguments goes on in its plainest form. -/
def toolRoute (tool : Tool) : Route (World Files) :=
  { method := "POST"
    target := .fixed ("/tools/" ++ tool.name)
    endpoint := .called tool fun request => callTool setup tool.name request.arguments }

/-- The routes in the order in which they are tried: the list of the tools, the tools themselves,
whatever else is taken for a tool, and a sign of life. -/
def routes : List (Route (World Files)) :=
  [{ method := "GET"
     target := .fixed "/tools"
     endpoint := .told (.object [("tools", Json.strings (Tool.all.map Tool.name))]) }] ++
  [Tool.validateSyntax, .compile, .validateSpec, .extractActions, .buildPlan].map
    (toolRoute setup) ++
  [{ method := "POST"
     target := .below "/tools/"
     endpoint := .refused 404 fun name => "Unknown tool: " ++ name },
   { method := "GET"
     target := .fixed "/healthz"
     endpoint := .told
       (.object
         [("status", .string "ok"), ("base_url", .string setup.settings.baseUrl),
           ("javac", .bool setup.compiler.isAvailable)]) }]

end Routes

/-! ### Frameworks -/

/-- Whether a value has a form that every reader of JSON in UTF-8 understands: it holds no special
number and no half of a UTF-16 pair. -/
def isSendable (value : Json) : Bool :=
  !value.holdsSpecial && (Utf8.halfFault? value.print).isNone

/-- The pages that a framework has of its own, about the routes. -/
def pages : List Text :=
  ["/openapi.json", "/docs", "/docs/oauth2-redirect", "/redoc"]

/-- Whether a character stands for itself wherever it is in an address. -/
def isPlainChar (char : Char) : Bool :=
  char.isAlphanum || char = '_'

/-- Whether an address is nothing but a path of names in plain characters. -/
def isPlainAddress (address : Text) : Bool :=
  match Text.piecesAt (· = '/') address with
  | [] :: names => names ≠ [] && names.all fun name => name ≠ [] && name.all isPlainChar
  | _ => false

/-- What serves routes. It answers a request and changes what the routes work on, and there are
values that it cannot send. -/
structure Framework where
  sends : Json → Bool
  serve : {State : Type} → List (Route State) → Request → State → Answer × State

/-- The answer if something goes wrong that nobody expects. -/
def serverError : Answer :=
  { status := 500, reply := .text "Internal Server Error" }

/-- The answer with a value, or an error if the value cannot be sent. -/
def Framework.answer (framework : Framework) (status : Nat) (value : Json) : Answer :=
  if framework.sends value then { status, reply := .record value } else serverError

end BrowserPlan.Http
