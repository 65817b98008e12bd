import StreamingLM.Failure

/-!
The transcript of a generation: tokens in order, up to a length fixed at the start.
-/
namespace StreamingLM

structure Transcript where
  tokens : List Int
  capacity : Nat
  length_le : tokens.length ≤ capacity

namespace Transcript

def empty (capacity : Nat) : Transcript := ⟨[], capacity, Nat.zero_le _⟩

def allocate (size : Int) : Except Failure Transcript :=
  if size < 0 then .error Failure.shape else .ok (empty size.toNat)

def length (t : Transcript) : Nat := t.tokens.length

def append (t : Transcript) (tokens : List Int) : Except Failure Transcript :=
  if h : (t.tokens ++ tokens).length ≤ t.capacity then .ok ⟨t.tokens ++ tokens, t.capacity, h⟩
  else .error (.transcriptFull (t.tokens ++ tokens).length t.capacity)

def appendShaped (t : Transcript) (shape : List Nat) (tokens : List Int) :
    Except Failure Transcript :=
  if shape.length = 1 then t.append tokens else .error (.notFlat shape)

def last (t : Transcript) (count : Int) : Except Failure (List Int) :=
  if t.length < count then .error (.transcriptShort count t.length)
  else .ok (t.tokens.drop (t.length - count.toNat))

@[simp] theorem tokens_empty (n : Nat) : (empty n).tokens = [] := rfl

theorem tokens_append {t u : Transcript} {tokens : List Int} (h : t.append tokens = .ok u) :
    u.tokens = t.tokens ++ tokens ∧ u.capacity = t.capacity := by
  simp only [append] at h
  split at h
  · cases h; exact ⟨rfl, rfl⟩
  · cases h

end Transcript
end StreamingLM
