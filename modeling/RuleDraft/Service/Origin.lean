import RuleDraft.Service.Message
import RuleDraft.Settings

/-!
# Origins

A browser asks on behalf of a page from some origin. The service grants the
configured origins, and every origin when a star is among them. Before an
unusual request the browser asks whether it would be granted; the service then
answers for the origins alone, and nothing else sees the request.
-/

namespace RuleDraft
namespace Service
namespace Origin

def isGranted (s : Settings) (origin : Text) : Bool :=
  s.originList.contains (Text.ofString "*") || s.originList.contains origin

def methods : List String :=
  ["DELETE", "GET", "HEAD", "OPTIONS", "PATCH", "POST", "PUT", "QUERY"]

def credentials : Headers := [("access-control-allow-credentials", "true")]

def grant (s : Settings) (origin : Text) : Headers :=
  if isGranted s origin then [("access-control-allow-origin", origin)] else []

/-- The origin and the method that a browser asks about in advance. -/
def inquiry? (r : Request) : Option (Text × Text) :=
  if r.method = Text.ofString "OPTIONS" then
    match r.header? "origin", r.header? "access-control-request-method" with
    | some origin, some method => some (origin, method)
    | _, _ => none
  else none

/-- What speaks against a request that a browser asks about. -/
def objections (s : Settings) (r : Request) (origin method : Text) : List String :=
  (if isGranted s origin then [] else ["origin"]) ++
  (if methods.any fun m => Text.ofString m = method then [] else ["method"]) ++
  (if (r.header? "access-control-request-private-network").isSome then ["private-network"]
    else [])

/-- The headers that an answer depends on when it is given in advance. -/
def varying : Text :=
  Text.joinWith ", "
    ["Origin", "Access-Control-Request-Method", "Access-Control-Request-Headers",
     "Access-Control-Request-Private-Network"]

def answerInquiry (s : Settings) (r : Request) (origin method : Text) : Reply :=
  let against := objections s r origin method
  let reply : Reply :=
    if against.isEmpty then .plain 200 "OK"
    else .plain 400 (Text.join
      ["Disallowed CORS ", Text.joinWith ", " (against.map fun a => Text.ofString a)])
  let echoed : Headers :=
    match r.header? "access-control-request-headers" with
    | some asked => [("access-control-allow-headers", asked)]
    | none => []
  let fixed : Headers :=
    [("vary", varying),
     ("access-control-allow-methods", Text.joinWith ", " (methods.map fun m => Text.ofString m)),
     ("access-control-max-age", "600")]
  reply.withHeaders (fixed ++ credentials ++ grant s origin ++ echoed)

/-- The headers that a reply gets for the origin of its request, if it has one. -/
def headersFor (s : Settings) (r : Request) : Headers :=
  match r.header? "origin" with
  | some origin => credentials ++ grant s origin
  | none => []

/-- A reply in view of the origin of its request, on which every reply depends. -/
def mark (s : Settings) (r : Request) (reply : Reply) : Reply :=
  { reply with headers := (reply.headers.extend "vary" "Origin").putAll (headersFor s r) }

end Origin
end Service
end RuleDraft
