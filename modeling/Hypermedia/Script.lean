import Hypermedia.Exchange
/-!
# Scripted servers

A scripted server answers the requests that its routes name, each route from its list of replies, of which the last one
repeats.  All other requests find nothing.  A route may be replaced at any time, and then starts from its first reply.
-/
namespace Hypermedia

structure Route where
  method : String
  uri : String
  replies : List (Except TransportFault Response)
  /-- How many requests had been sent when the route was set. -/
  since : Nat := 0

abbrev Script := List Route

namespace Route

def answers (r : Route) (request : Request) : Bool :=
  r.method == request.method.name && r.uri == request.uri.text

/-- The replies that a route has given, the requests so far being the latest first. -/
def served (r : Route) (sent : List Request) : Nat :=
  ((sent.take (sent.length - r.since)).filter r.answers).length

def reply? (r : Route) (sent : List Request) : Option (Except TransportFault Response) :=
  (r.replies[r.served sent]?).or r.replies.getLast?

end Route

namespace Script

/-- The script with a route, in place of any other one for the same requests. -/
def set (s : Script) (r : Route) : Script :=
  r :: s.filter fun old => !(old.method == r.method && old.uri == r.uri)

def answer (s : Script) (sent : List Request) (request : Request) : Except TransportFault Response :=
  match (s.find? (·.answers request)).bind (·.reply? sent) with
  | some reply => reply
  | none => .ok { status := Status.notFound }

def transport (s : Script) : Transport where
  answer := s.answer

end Script
end Hypermedia
