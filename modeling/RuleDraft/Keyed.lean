/-!
# Keyed rows

A keyed list holds each key once, in the order in which the keys were first
put. Putting a key again keeps its place and takes the new value.
-/

namespace RuleDraft

/-- Entries in the order of their first appearance. -/
abbrev Keyed (κ ν : Type) := List (κ × ν)

namespace Keyed

variable {κ ν : Type} [DecidableEq κ]

/-- Put a value under a key, in place if the key is there and last otherwise. -/
def put (k : κ) (v : ν) : Keyed κ ν → Keyed κ ν
  | [] => [(k, v)]
  | (k', v') :: rest => if k' = k then (k, v) :: rest else (k', v') :: put k v rest

def get? (k : κ) : Keyed κ ν → Option ν
  | [] => none
  | (k', v) :: rest => if k' = k then some v else get? k rest

def erase (k : κ) (m : Keyed κ ν) : Keyed κ ν := m.filter fun e => ¬ e.1 = k

def putAll (rows : List (κ × ν)) (m : Keyed κ ν) : Keyed κ ν :=
  rows.foldl (fun m row => put row.1 row.2 m) m

/-- The keyed list of rows: of repeated keys the first place and the last value. -/
def ofRows (rows : List (κ × ν)) : Keyed κ ν := putAll rows []

def keys (m : Keyed κ ν) : List κ := m.map Prod.fst

end Keyed

end RuleDraft
