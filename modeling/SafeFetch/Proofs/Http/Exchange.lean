import SafeFetch.Http.Exchange
import SafeFetch.Proofs.Transfer

/-!
# The last response of an exchange

However many redirects are followed, the response that an exchange ends with is the answer of the
transport to the last request that was made. If its body comes without a fault, it gives all of its
chunks.

## Main definitions

* `Outcome.IsAnswered`: an exchange ends with a response to its last request;
* `Response.contents`: the chunks of a body, put together.

## Main results

* `exchange_answer`: the response that an exchange ends with answers its last request;
* `Response.eq_contents_of_received?`: what is received of a body is all of its chunks.
-/

namespace SafeFetch.Http

open SafeFetch.Transfer

variable {transport : Transport} {follows : Bool} {url last : Url} {response : Response}

/-- An exchange ends with a response to its last request, which was for a URL, and the response is
what the transport answers to that. -/
structure Outcome.IsAnswered (transport : Transport) (o : Outcome) (last : Url)
    (response : Response) : Prop where
  ends : o.answer = .ok (last, response)
  isLast : o.requests.getLast? = some last.text
  answers : transport last.text = .ok response

/-- An earlier request does not count beside a later one. -/
theorem Outcome.IsAnswered.after {later : Outcome}
    (answered : later.IsAnswered transport last response) (url : Url) (isSignalled : Bool) :
    (later.after url isSignalled).IsAnswered transport last response := by
  obtain ⟨ends, isLast, answers⟩ := answered
  refine ⟨ends, ?_, answers⟩
  rw [Outcome.after, List.getLast?_cons, isLast, Option.getD_some]

/-- The response answers the last request, after any number of redirects. -/
theorem exchangeFrom_answer {left : Nat}
    (answer : (exchangeFrom transport follows left url).answer = .ok (last, response)) :
    (exchangeFrom transport follows left url).IsAnswered transport last response := by
  fun_induction exchangeFrom transport follows left url with
  -- The exchange ends with this response, because it does not redirect or is not to be followed.
  | case3 _ url _ answers | case5 _ url _ answers =>
    obtain ⟨rfl, rfl⟩ := Prod.mk.inj (Except.ok.inj answer)
    exact ⟨rfl, rfl, answers⟩
  -- It goes on, and a later request counts.
  | case8 url _ _ _ _ _ _ _ _ isSignalled _ _ ih => exact (ih answer).after url isSignalled
  | case1 | case2 | case4 | case6 | case7 => cases answer

/-- The response that an exchange ends with answers its last request. -/
theorem exchange_answer {text : String}
    (answer : (exchange transport follows text).answer = .ok (last, response)) :
    (exchange transport follows text).IsAnswered transport last response := by
  rw [exchange] at answer ⊢
  split at answer
  · cases answer
  · exact exchangeFrom_answer answer

/-! ## The body -/

/-- The bytes of an item. -/
def bytesOf : Item → List UInt8
  | .chunk bytes => bytes
  | .missing | .fault _ | .signal => []

/-- The chunks of a body, put together. -/
def Response.contents (r : Response) : List UInt8 := r.body.flatMap bytesOf

/-- What is received of a body is all of its chunks. -/
theorem Response.eq_contents_of_received? {bytes : List UInt8}
    (received : received? response.bodyItems = some bytes) : bytes = response.contents := by
  rw [bodyItems] at received
  rw [contents]
  generalize response.body = items at received ⊢
  -- Empty chunks and signals give nothing on either side.
  induction items generalizing bytes with
  | nil => exact (Option.some.inj received).symm
  | cons item rest ih =>
    rw [List.flatMap_cons]
    cases item with
    | chunk chunk =>
      cases chunk with
      | nil => exact ih received
      | cons byte chunk =>
        obtain ⟨later, receivedLater, rfl⟩ := Option.map_eq_some_iff.mp received
        rw [ih receivedLater, bytesOf]
    | missing => cases received
    | fault failure => cases received
    | signal => exact ih received

end SafeFetch.Http
