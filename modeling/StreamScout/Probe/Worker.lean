import StreamScout.Effect
import StreamScout.Probe.Target

namespace StreamScout.Probe

inductive Answer where
  | description (d : Rtsp.Description)
  | error
  | crash
  deriving DecidableEq, Repr

inductive Ending where
  | delivered
  | failed
  | crashed
  deriving DecidableEq, Repr

/-- How far a worker is. Between posting its notice and its end it is no longer at work and not yet finished. -/
inductive Stage where
  | spawned
  | describing
  | delivering (d : Rtsp.Description)
  | leaving (e : Ending)
  | notified (e : Ending)
  | finished (e : Ending)
  deriving DecidableEq, Repr

inductive Move where
  | call
  | answer (a : Answer)
  | deliver
  | post
  | exit
  deriving DecidableEq, Repr

namespace Stage

def next? : Stage → Move → Option Stage
  | .spawned, .call => some .describing
  | .describing, .answer (.description d) => some (.delivering d)
  | .describing, .answer .error => some (.leaving .failed)
  | .describing, .answer .crash => some (.leaving .crashed)
  | .delivering _, .deliver => some (.leaving .delivered)
  | .leaving e, .post => some (.notified e)
  | .notified e, .exit => some (.finished e)
  | _, _ => none

def ending? : Stage → Option Ending
  | .finished e => some e
  | _ => none

def isFinished (s : Stage) : Bool :=
  s.ending?.isSome

end Stage

structure Worker where
  target : Target
  stage : Stage
  deriving DecidableEq, Repr

def Worker.effects (pathStart : String) (w : Worker) : Move → List Effect
  | .call => [.describe (w.target.path pathStart) w.target.address w.target.port]
  | .deliver =>
      match w.stage with
      | .delivering d => [.added w.target.name w.target.domain d]
      | _ => []
  | _ => []

def Answer.completion : Answer → List Move
  | .description d => [.answer (.description d), .deliver, .post, .exit]
  | a => [.answer a, .post, .exit]

end StreamScout.Probe
