import RuleDraft.Number.Numeral
import RuleDraft.Text.LetterCase
import RuleDraft.Value

/-!
# Requests and replies

What the service takes and gives. Header names are compared without regard to
case; of several headers with one name the first counts.
-/

namespace RuleDraft
namespace Service

abbrev Headers := List (Text × Text)

def Headers.value? (name : Text) (headers : Headers) : Option Text :=
  (headers.find? fun h => h.1.lower = name.lower).map Prod.snd

namespace Headers

/--
The headers with one put: in place of the first of its name, of which no other stays, or
behind them all.
-/
def put (name value : Text) : Headers → Headers
  | [] => [(name, value)]
  | h :: headers =>
      if h.1 = name then (name, value) :: headers.filter fun g => g.1 ≠ name
      else h :: put name value headers

def putAll (headers more : Headers) : Headers :=
  more.foldl (fun headers h => headers.put h.1 h.2) headers

/-- The headers with a text put behind a list that one of them holds. -/
def extend (name value : Text) (headers : Headers) : Headers :=
  match headers.value? name with
  | some listed => headers.put name (Text.join [listed, ", ", value])
  | none => headers.put name value

end Headers

/-- A request as it arrives. The path is escaped; `freshId` names it if nothing else does. -/
structure Request where
  method : Text
  path : Text
  query : Text
  headers : Headers
  body : List UInt8
  client : Option Text
  freshId : Text
  deriving DecidableEq, Repr

namespace Request

def header? (r : Request) (name : Text) : Option Text := Headers.value? name r.headers

def host (r : Request) : Text := (r.header? "host").getD "testserver"

end Request

inductive Content where
  /-- Data, written as JSON. -/
  | data (v : Value)
  /-- Counts in lines. -/
  | exposition (lines : List Text)
  /-- A plain text. -/
  | text (t : Text)
  deriving DecidableEq, Repr

structure Reply where
  status : Nat
  headers : Headers
  content : Content
  deriving DecidableEq, Repr

mutual

/-- Data without infinities and undefined numbers, which JSON cannot write. -/
def writable : Value → Value
  | .float x =>
      match x with
      | .nan => .null
      | .infinite _ => .null
      | x => .float x
  | .list vs => .list (writableItems vs)
  | .object fields => .object (writableFields fields)
  | v => v

def writableItems : List Value → List Value
  | [] => []
  | v :: vs => writable v :: writableItems vs

def writableFields : List (Text × Value) → List (Text × Value)
  | [] => []
  | (k, v) :: fields => (k, writable v) :: writableFields fields

end

namespace Reply

def data (status : Nat) (v : Value) : Reply :=
  ⟨status, [("content-type", "application/json")], .data (writable v)⟩

def plain (status : Nat) (t : Text) : Reply :=
  ⟨status, [("content-type", "text/plain; charset=utf-8")], .text t⟩

def withHeaders (headers : Headers) (r : Reply) : Reply :=
  { r with headers := r.headers ++ headers }

def putHeader (name value : Text) (r : Reply) : Reply :=
  { r with headers := r.headers.put name value }

/-- The short form of a failure that has no handler of its own. -/
def detail (status : Nat) (t : Text) : Reply :=
  data status (Value.record [("detail", .text t)])

/-- The long form of a failure. -/
def failure (status : Nat) (family message : Text) (details : Value) : Reply :=
  data status
    (Value.record [("error", .text family), ("message", .text message), ("details", details)])

/-- What is answered to a failure that nobody was prepared for. -/
def unexpected : Reply :=
  failure 500 "InternalServerError" "An unexpected error occurred" (.object [])

end Reply

end Service
end RuleDraft
