/-!
Pair merging: as long as two neighbours can be merged, the pair of lowest rank is, the leftmost of
several.
-/
namespace StreamingLM
namespace Merge

variable {σ : Type}

/-- One merge: the rank of the pair and the symbols after it. -/
def once (merge? : σ → σ → Option (Nat × σ)) : List σ → Option (Nat × List σ)
  | a :: b :: rest =>
    let later := (once merge? (b :: rest)).map fun (r, merged) => (r, a :: merged)
    match merge? a b, later with
    | none, later => later
    | some (r, ab), none => some (r, ab :: rest)
    | some (r, ab), some (s, merged) => if r ≤ s then some (r, ab :: rest) else some (s, merged)
  | _ => none

def times (merge? : σ → σ → Option (Nat × σ)) : Nat → List σ → List σ
  | 0, symbols => symbols
  | n + 1, symbols =>
    match once merge? symbols with
    | none => symbols
    | some (_, merged) => times merge? n merged

/-- Merge until no pair is left; each merge takes one symbol away. -/
def all (merge? : σ → σ → Option (Nat × σ)) (symbols : List σ) : List σ :=
  times merge? symbols.length symbols

end Merge
end StreamingLM
