/-
This file is a framework that serves routes, as far as the tools need one.

The path of an address is decoded, and the first route that is for it and for the method answers.
What is posted must be an object and its fields must be arguments that can be read; otherwise the
answer lists what is wrong and nothing is called. A value can be sent if it has a printed form
without special numbers and this has bytes.
-/

import BrowserPlan.Tool.Address
import BrowserPlan.Tool.Http

namespace BrowserPlan.Http

namespace Server

/-- The path that an address leads to, unless nothing can be sent there. -/
def pathOf (address : Text) : Except AddressFault Text :=
  if isPlainAddress address then .ok address else (checkedPath address).map plainPath

/-- The path without a newline at its end. -/
def withoutNewline (path : Text) : Text :=
  if path.getLast? = some '\n' then path.dropLast else path

/-- Whether a path is one of those that are meant, if need be without a newline at its end. -/
def reaches (path : Text) (target : Target) : Bool :=
  target.holds path || target.holds (withoutNewline path)

/-- What a path leads to: a page, a route for the method, or only routes for other methods. -/
inductive Found (State : Type) where
  | page
  | route (route : Route State)
  | otherMethod

section Serving

variable {State : Type} (routes : List (Route State))

/-- What a path leads to for a method, if it leads anywhere. -/
def find? (method path : Text) : Option (Found State) :=
  if pages.any fun page => reaches path (.fixed page) then
    some (if method = ("GET" : Text) then .page else .otherMethod)
  else
    match routes.find? fun route => route.method = method && reaches path route.target with
    | some route => some (.route route)
    | none =>
        if routes.any fun route => reaches path route.target then some .otherMethod else none

/-- The most times that a request is sent on. -/
def redirectLimit : Nat :=
  20

/-- What a path leads to, and the path itself. A path that leads nowhere because of the slashes at
its end is read once more without them. -/
def follow? (method : Text) : (redirects : Nat) → (path : Text) → Option (Found State × Text)
  | 0, path => (find? routes method path).map fun found => (found, path)
  | redirects + 1, path =>
      match find? routes method path with
      | some found => some (found, path)
      | none =>
          let bare := (path.reverse.dropWhile (· = '/')).reverse
          if bare.length < path.length && (find? routes method bare).isSome then
            follow? method redirects (plainPath bare)
          else none

end Serving

/-! ### Refusals -/

/-- What is said if there is nothing to do. -/
def detail (text : Text) : Json :=
  .object [Json.textField "detail" text]

/-- A complaint about a place in what was posted. -/
def complaint (type : Text) (place : List Json) (message : Text) (input : Json)
    (context : List (Text × Json)) : Json :=
  .object
    ([Json.textField "type" type, Json.field "loc" (.array (Json.string "body" :: place)),
        Json.textField "msg" message, Json.field "input" input] ++
      if context = [] then [] else [Json.field "ctx" (.object context)])

/-- What is said of something that cannot be used. -/
def complaints (all : List Json) : Json :=
  .object [("detail", .array all)]

/-- The word for a problem with an argument. -/
def problemType : ArgumentProblem → Text
  | .missing => "missing"
  | .notText => "string_type"
  | .unknownOrder => "literal_error"
  | .notSwitch => "bool_type"
  | .unclearSwitch => "bool_parsing"

/-- The complaint about an argument; one that is missing shows all that was posted. -/
def argumentComplaint (posted : Json) (fault : ArgumentFault) : Json :=
  complaint (problemType fault.problem) [.string fault.argument] fault.problem.message
    (fault.given?.getD posted)
    (match fault.problem with
    | .unknownOrder => [Json.textField "expected" "'grouped' or 'source'"]
    | _ => [])

/-- The status and the value that answer a body which holds no value. -/
def unreadable : Body → Nat × Json
  | .none | .text [] | .value _ =>
      (422, complaints [complaint "missing" [] ArgumentProblem.missing.message .null []])
  | .text written =>
      let refused := (400, detail "There was an error parsing the body")
      match Text.ofBytes? (Utf8.encode written) with
      | Option.none => refused
      | some chars =>
          match Json.parsePlain chars with
          | .ok _ => refused
          | .error fault =>
              if fault.problem.isLimit then refused
              else
                (422, complaints
                  [complaint "json_invalid" [Json.ofNat fault.position] "JSON decode error"
                    (.object []) [Json.textField "error" fault.problem.text]])

/-! ### Answering -/

section Answering

variable {State : Type}

/-- The status and the value that answer a request for an endpoint that is behind a path. -/
def answerAt (path : Text) (body : Body) (state : State) : Endpoint State → (Nat × Json) × State
  | .told record => ((200, record), state)
  | .refused status text =>
      let name := (Text.piecesAt (· = '/') path).getLast?.getD []
      ((status, detail (text name)), state)
  | .called tool call =>
      match body.value? with
      | none => (unreadable body, state)
      | some (.object arguments) =>
          match BrowserPlan.Request.read tool arguments with
          | .error faults =>
              ((422, complaints (faults.map (argumentComplaint (.object arguments)))), state)
          | .ok request =>
              let (record, after) := call request state
              ((200, record), after)
      | some posted =>
          ((422, complaints
              [complaint "model_attributes_type" []
                "Input should be a valid dictionary or object to extract fields from" posted []]),
            state)

/-- The answer with a value, if it can be sent. -/
def send (answer : Nat × Json) : Answer :=
  if isSendable answer.2 then { status := answer.1, reply := .record answer.2 } else serverError

/-- Answers a request. -/
def serve (routes : List (Route State)) (request : Request) (state : State) : Answer × State :=
  match pathOf request.address with
  | .error fault => (send (400, detail fault.message), state)
  | .ok path =>
      match follow? routes request.method redirectLimit path with
      | none => (send (404, detail "Not Found"), state)
      | some (.otherMethod, _) => (send (405, detail "Method Not Allowed"), state)
      | some (.page, _) => ({ status := 200, reply := .text [] }, state)
      | some (.route route, path) =>
          let (answer, after) := answerAt path request.body state route.endpoint
          (send answer, after)

end Answering

end Server

/-- The framework that serves routes like that. -/
def server : Framework where
  sends := isSendable
  serve := Server.serve

end BrowserPlan.Http
