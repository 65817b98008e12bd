import StreamingLM.Cache.Mask
import StreamingLM.Document.Basic
import StreamingLM.Layer.Filling

/-!
Tensors as documents: written out under their shapes, and read from nested lists, from a first number
to count on from, or from a seed.
-/
namespace StreamingLM
namespace Document

def tensor (t : Tensor Float) : Value :=
  obj [("shape", nats t.shape), ("data", list fixed3 t.data.toList)]

def block (b : Block Float) : Value := tensor b.toTensor

def blocks (p : Block Float × Block Float) : Value := list block [p.1, p.2]

def state (p : Parameters Float) : Value := obj (p.map fun (name, t) => (name, tensor t))

def mask (m : Mask) : Value :=
  list (fun row => str (String.ofList (row.map fun b => if b then '1' else '0'))) m

def tensorOf (v : Value) : Tensor Float :=
  match v with
  | .dict _ =>
    let shape := (listOf (field v "shape")).map natOf
    let n := Tensor.size shape
    match v.get? "iota" with
    | some a => ⟨shape, (Array.range n).map fun i => realOf a + Float.ofNat i⟩
    | none => ⟨shape, ((NumberStream.ofSeed (intOf (field v "fill"))).take n).1⟩
  | _ => ⟨shapeOf v, ((leaves v).map realOf).toArray⟩

def stateOf (v : Value) : Parameters Float :=
  v.entries.map fun (name, t) => (strOf name, tensorOf t)

def filling (v : Value) (shapes : List (String × List Nat)) : Parameters Float :=
  Parameters.fill (((v.get? "scale").map realOf).getD 0.5) (.ofSeed (intField v "seed" 1)) shapes

end Document
end StreamingLM
