import SafeFetch.Failure
import SafeFetch.Http.Status
import SafeFetch.Transfer.Source

/-!
# Exchanges

A request for a URL and the responses to it. A transport answers every request with a response or
with trouble; a response may redirect to another URL, which is asked for in turn, a limited number
of times. The body of a response that redirects is read to its end before.
-/

namespace SafeFetch.Http

open SafeFetch.Text SafeFetch.Transfer

/-- A response. The body comes in chunks, and trouble may come instead of one. -/
structure Response where
  status : Nat
  headers : Headers
  body : List Item
  deriving DecidableEq, Repr

/-- What answers requests, by the text of the URL. -/
abbrev Transport := String → Except Failure Response

/-- The transport that answers from a list of routes, of which the first one for a URL counts. -/
def Transport.ofRoutes (routes : List (String × Except Failure Response)) : Transport := fun url =>
  (routes.lookup url).getD (.error (.trouble .connect "no route"))

namespace Response

/-- Where a response redirects to. -/
def location? (r : Response) : Option String :=
  if Status.mayRedirect r.status then r.headers.get? "location" else none

/-- What a body gives in place of an item: an empty chunk is left out, and a missing one is a
fault. -/
def bodyItem : Item → Option Item
  | .chunk [] => none
  | .missing => some (.fault .missingChunk)
  | item => some item

/-- The items of the body. -/
def bodyItems (r : Response) : List Item := r.body.filterMap bodyItem

/-- The failure that a response to a request for `url` amounts to, unless it is a success. -/
def refusal? (url : Url) (r : Response) : Option Failure :=
  if Status.isSuccess r.status then none
  else
    some (.refused {
      status := r.status, reason := Status.reason r.status, url := url.text,
      location := r.location? })

end Response

/-- The first failure among items, and whether the cancel signal was set before. -/
def drain : List Item → Option Failure × Bool
  | [] => (none, false)
  | .fault failure :: _ => (some failure, false)
  | .signal :: rest => ((drain rest).1, true)
  | _ :: rest => drain rest

namespace Url

/-- The URL with a fragment that is given without escapes. -/
def withFragment (u : Url) (fragment : List Char) : Except Failure Url :=
  match fragment.findIdx? isControl with
  | some position => .error (.controlInFragment (fragment.getD position ' ') position)
  | none => .ok { u with fragment := some (Percent.encode isFragmentChar fragment) }

/-- The fragment without escapes; no fragment is an empty one. -/
def plainFragment (u : Url) : List Char := Percent.decode (u.fragment.getD [])

/-- The URL that `v` means when seen from `u`. -/
def join (u v : Url) : Except Failure Url := do
  let base ← u.parts.mapError .urlParts
  let relative ← v.parts.mapError .urlParts
  (Url.parse (String.ofList (UrlParts.join u.chars v.chars base relative))).mapError .url

/-- Let a URL pass whose host can be read. -/
def checkHost (u : Url) : Except Failure Url := do
  let _ ← u.readHost.mapError .hostName
  return u

/-- The URL with the host of another one put into the place of its own. -/
def withHostOf (u v : Url) : Except Failure Url := do
  let host ← v.readHost.mapError .hostName
  (u.withHost host).mapError .url

/-- The URL that a location means when seen from the URL of a request. -/
def follow (u : Url) (location : String) : Except Failure Url := do
  let target ← (Url.parse location).mapError .redirectLocation
  let target ← if target.scheme.isEmpty then pure target else target.checkHost
  let target ←
    if !target.scheme.isEmpty && target.host.isEmpty then target.withHostOf u else pure target
  let target ← if target.isAbsolute then pure target else u.join target
  let target ←
    if !u.plainFragment.isEmpty && target.plainFragment.isEmpty then
      target.withFragment u.plainFragment
    else pure target
  target.checkHost

end Url

/-- The end of an exchange. -/
structure Outcome where
  /-- The last request and the response to it. -/
  answer : Except Failure (Url × Response)
  /-- The URLs that were asked for, in order. -/
  requests : List String
  /-- Whether the cancel signal was set meanwhile. -/
  isSignalled : Bool

namespace Outcome

/-- An exchange that fails before any request. -/
def ofFailure (failure : Failure) : Outcome :=
  { answer := .error failure, requests := [], isSignalled := false }

/-- An outcome after an earlier request. -/
def after (url : Url) (isSignalled : Bool) (later : Outcome) : Outcome where
  answer := later.answer
  requests := url.text :: later.requests
  isSignalled := isSignalled || later.isSignalled

/-- An outcome that a request for a URL ends with. -/
def final (url : Url) (answer : Except Failure (Url × Response)) : Outcome :=
  { answer, requests := [url.text], isSignalled := false }

end Outcome

/-- How many redirects are followed. -/
def maxRedirects : Nat := 20

/-- Ask for a URL and follow redirects, at most `left` of them. -/
def exchangeFrom (transport : Transport) (follows : Bool) : (left : Nat) → Url → Outcome
  | left, url =>
    match transport url.text with
    | .error failure => .final url (.error failure)
    | .ok response =>
      if !url.isAbsolute then .final url (.error (.schemeMissing url.text))
      else
        match response.location? with
        | none => .final url (.ok (url, response))
        | some location =>
          match url.follow location with
          | .error failure => .final url (.error failure)
          | .ok target =>
            if !follows then .final url (.ok (url, response))
            else
              match drain response.bodyItems, left with
              | (some failure, isSignalled), _ =>
                { Outcome.final url (.error failure) with isSignalled }
              | (none, isSignalled), 0 =>
                { Outcome.final url (.error .tooManyRedirects) with isSignalled }
              | (none, isSignalled), left + 1 =>
                (exchangeFrom transport follows left target).after url isSignalled

/-- Ask for the URL that a text writes. -/
def exchange (transport : Transport) (follows : Bool) (url : String) : Outcome :=
  match ((Url.parse url).bind Url.forRequest).mapError Failure.url >>= Url.checkHost with
  | .error failure => .ofFailure failure
  | .ok url => exchangeFrom transport follows maxRedirects url

end SafeFetch.Http
