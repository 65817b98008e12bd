import StreamingLM.Failure

/-!
The causal mask: the queries are the last of the key positions, and each sees what came before it
and itself.
-/
namespace StreamingLM

/-- For each query, whether it may attend to each key. -/
abbrev Mask := List (List Bool)

/-- The row of query `i`: it sees the first `keys - queries + i + 1` positions. -/
def maskRow (queries keys i : Nat) : List Bool :=
  (List.range keys).map fun j => decide (j ≤ keys - queries + i)

def lowerTriangle (queries keys : Nat) : Mask := (List.range queries).map (maskRow queries keys)

def causalMask (queries keys : Int) : Except Failure Mask :=
  if keys < queries then .error (.maskShape queries keys)
  else if queries < 0 then .error (.fault .runtime "negative dimension")
  else .ok (lowerTriangle queries.toNat keys.toNat)

end StreamingLM
