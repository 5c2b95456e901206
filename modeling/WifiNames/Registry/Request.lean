import WifiNames.Report
import WifiNames.Scan.Annotate

namespace WifiNames

/-!
# Requests — the operations of a registry as data

* `Request` — one operation with its arguments.
* `Answer` — what an operation answers.
* `Registry.answer` — performs one request.
* `Registry.run` — performs a list of requests, one after the other.
-/

/-- One operation of a registry. -/
inductive Request where
  | start
  | stop
  | classify (name : Bytes)
  | convert (raw : Bytes)
  | record (raw converted : Bytes)
  | lookup (query : Bytes)
  | display (raw : Bytes)
  | driver (chosen : Bytes)
  | entries
  | isEmpty
  | dump
  /-- Converts a typed name if it is a GBK name. -/
  | report (input : Text) (raw : Bytes)
  /-- Annotates a line of scan output. -/
  | annotate (style : Scan.Style) (line : Text)

/-- What a request is answered with. -/
inductive Answer where
  | done (outcome : Except Error Unit)
  | verdict (answer : Bool)
  | name (outcome : Except Error Bytes)
  | entries (outcome : Except Error (List Entry))
  | report (report : NameReport)
  | line (text : Text)
  | nothing

namespace Registry

/-- Performs one request. -/
def answer (r : Registry) : Request → Noted (Answer × Registry)
  | .start => do return (.done (.ok ()), ← r.start)
  | .stop => do return (.done (.ok ()), ← r.stop)
  | .classify name => return (.verdict (isGbkName name), r)
  | .convert raw => do
    let (outcome, r) ← r.convert raw
    return (.name outcome, r)
  | .record raw converted => do
    let (outcome, r) ← r.record raw converted
    return (.done outcome, r)
  | .lookup query => do return (.name (← r.lookup query), r)
  | .display raw => do
    let (shown, r) ← r.displayName raw
    return (.name (.ok shown), r)
  | .driver chosen => do return (.name (.ok (← r.driverName chosen)), r)
  | .entries => return (.entries r.entries, r)
  | .isEmpty => return (.verdict r.isEmpty, r)
  | .dump => do
    r.dump
    return (.nothing, r)
  | .report input raw => do
    let (report, r) ← r.report input raw
    return (.report report, r)
  | .annotate style line => do
    let (line, r) ← r.annotate style line
    return (.line line, r)

/-- The registry after a list of requests. -/
def run (r : Registry) (requests : List Request) : Registry :=
  requests.foldl (fun r request => (r.answer request).value.2) r

end Registry

end WifiNames
