import TexelFormats.Device.Queries

namespace TexelFormats

/-- A device and one response that its image queries keep using. -/
structure Session where
  device : Device := default
  response : Response := {}

namespace Session

inductive Step where
  | device (d : Device)
  | request (outputs : List ImageOutput)
  | poke (limits : Limits)
  | query (q : ImageQuery)
  | features (f : Format)

inductive Answer where
  | device (d : Device)
  | requested (r : Response)
  | poked (r : Response)
  | reply (r : Reply)
  | features (f : Features)
  | violation (how : Violation)

open Logged

def step (s : Session) : Step → Logged Violation (Session × Answer)
  | .device d => do
    d.opened
    pure ({ s with device := d }, .device d)
  | .request outputs =>
    let r := Response.withSlots outputs
    pure ({ s with response := r }, .requested r)
  | .poke limits =>
    let r := { s.response with properties := limits }
    pure ({ s with response := r }, .poked r)
  | .query q => do
    let reply ← s.device.queryImage q s.response
    pure ({ s with response := reply.response }, .reply reply)
  | .features f => do
    records (s.device.featureEvents f)
    pure (s, .features (s.device.features f))

/-- A violation ends the session; the steps after it are not taken. -/
def run (s : Session) : List Step → List Event × List Answer
  | [] => ([], [])
  | step :: steps =>
    let done := s.step step
    match done.result with
    | .ok (s, answer) =>
      let rest := s.run steps
      (done.log ++ rest.1, answer :: rest.2)
    | .error how => (done.log, [.violation how])

end Session

end TexelFormats
