import StreamingLM.Proofs.Model.Aftermath
import StreamingLM.Proofs.Model.InLength
import StreamingLM.Proofs.Model.Request

/-!
Scoring beside generating. A score is made from the weights, the window and the frequencies of the
rotary table, and none of these is touched by what a model is asked. Main statement: wherever scores
are asked for in a run, they come out as on the model that the run began with, and all else comes out
as it would without them.
-/
namespace StreamingLM

variable {α : Type} [Scalar α]

namespace RotaryTable

/-- Tables of one width and one list of frequencies, wherever they stand. -/
structure SameTurns (t u : RotaryTable α) : Prop where
  dim_eq : t.dim = u.dim
  frequencies_eq : t.frequencies = u.frequencies

variable {t u v : RotaryTable α}

omit [Scalar α] in
theorem SameTurns.trans (h : t.SameTurns u) (h' : u.SameTurns v) : t.SameTurns v :=
  ⟨h.dim_eq.trans h'.dim_eq, h.frequencies_eq.trans h'.frequencies_eq⟩

theorem shift_sameTurns (t : RotaryTable α) (start : Int) : (t.shift start).SameTurns t :=
  ⟨t.dim_shift start, t.frequencies_shift start⟩

theorem SameTurns.rotateBlockFrom (h : t.SameTurns u) (x : Block α) (offset : Int) :
    t.rotateBlockFrom x offset = u.rotateBlockFrom x offset := by
  simp only [RotaryTable.rotateBlockFrom, rotateBlock, direct, h.dim_eq, h.frequencies_eq]

end RotaryTable

variable {table table' : RotaryTable α}

theorem Attention.scoreSteps_of_sameTurns (a : Attention α) (h : table.SameTurns table')
    (batch : Nat) (x : Steps α) : a.scoreSteps batch x table = a.scoreSteps batch x table' := by
  simp only [scoreSteps, h.rotateBlockFrom]

namespace Transformer

theorem scoreBlocks_of_sameTurns (h : table.SameTurns table') (batch : Nat)
    (blocks : List (DecoderBlock α)) (x : Steps α) :
    scoreBlocks batch table blocks x = scoreBlocks batch table' blocks x := by
  induction blocks generalizing x with
  | nil => rfl
  | cons b blocks ih =>
    have hblock : b.score batch x table = b.score batch x table' := by
      simp only [DecoderBlock.score, b.attention.scoreSteps_of_sameTurns h]
    simp only [scoreBlocks, hblock, ih]

theorem forwardMasked_of_sameTurns (t : Transformer α) (h : table.SameTurns table') (batch : Nat)
    (tokens : List (List Int)) :
    t.forwardMasked table batch tokens = t.forwardMasked table' batch tokens := by
  simp only [forwardMasked, scoreBlocks_of_sameTurns h]

end Transformer

namespace DecodeState

/-- States that differ in nothing that scoring reads. -/
structure ScoresAs (s s' : DecodeState α) : Prop where
  window_eq : s.caches.window = s'.caches.window
  turns : s.tracker.table.SameTurns s'.tracker.table

variable {s s' : DecodeState α}

theorem ScoresAs.reset (h : s.ScoresAs s') : s.reset.ScoresAs s' :=
  ⟨h.window_eq, (s.tracker.table.shift_sameTurns 0).trans h.turns⟩

/-- A step changes nothing that scoring reads, whatever becomes of it: all that it does to the table
is to move it. -/
theorem ScoresAs.step (h : s.ScoresAs s') (t : Transformer α) (batch : Nat)
    (tokens : List (List Int)) : (t.step s batch tokens).2.ScoresAs s' := by
  refine ⟨(t.step_window s batch tokens).trans h.window_eq, ?_⟩
  obtain hsame | hprepared := t.step_tracker batch tokens s
  · rw [hsame]
    exact h.turns
  · refine RotaryTable.SameTurns.trans ?_ h.turns
    obtain ⟨-, -, ⟨-, hstayed⟩ | ⟨-, hmoved⟩⟩ := RotaryTracker.prepare_cases hprepared
    · rw [hstayed]
      exact ⟨rfl, rfl⟩
    · rw [hmoved]
      exact RotaryTable.shift_sameTurns _ _

end DecodeState

namespace Llama

def Request.isScore : Request α → Bool
  | score _ => true
  | _ => false

def Answer.isScore : Answer α → Bool
  | scored .. => true
  | _ => false

theorem Request.isScore_answer (r : Request α) (m : Llama α) :
    (r.answer m).1.isScore = r.isScore := by
  cases r <;> rfl

/-- A model gives the scores of any other that shares what scoring reads. -/
theorem answer_score_of_scoresAs {m : Llama α} {s : DecodeState α} (h : s.ScoresAs m.state)
    (text : String) :
    ((Request.score text).answer { m with state := s }).1 = ((Request.score text).answer m).1 := by
  have hpass := fun t tokens =>
    Transformer.forwardMasked_of_sameTurns (t := t) h.turns 1 tokens
  have htransformer : transformer { m with state := s } = m.transformer := rfl
  simp only [Request.answer, score, scorePasses, tokenize, htransformer, h.window_eq, hpass]

theorem answer_score_serve (m : Llama α) (earlier : List (Request α)) (text : String) :
    (Request.score text).answer (serve earlier m) =
      (((Request.score text).answer m).1, serve earlier m) := by
  have hstart : m.state.ScoresAs m.state := ⟨rfl, rfl, rfl⟩
  obtain ⟨hmodel, hstate⟩ := serve_keeps
    (fun t _ ids s (hs : s.ScoresAs m.state) => hs.step t 1 (ids.map fun id => [id]))
    (fun s hs => hs.reset) earlier hstart
  have hscore := answer_score_of_scoresAs hstate text
  rw [← hmodel] at hscore
  exact Prod.ext hscore rfl

theorem filter_isScore_replies (m : Llama α) (earlier requests : List (Request α)) :
    (replies requests (serve earlier m)).filter Answer.isScore =
      (requests.filter Request.isScore).map fun r => (r.answer m).1 := by
  -- each request joins those made before, so that the next one finds the same model at the start
  induction requests generalizing earlier with
  | nil => rfl
  | cons r rest ih =>
    have hserve : serve (earlier ++ [r]) m = (r.answer (serve earlier m)).2 := List.foldl_concat ..
    have hrest := hserve ▸ ih (earlier ++ [r])
    have hkind := r.isScore_answer (serve earlier m)
    rw [replies]
    cases r with
    | score text =>
      rw [List.filter_cons_of_pos hkind, List.filter_cons_of_pos rfl, hrest, List.map_cons,
        answer_score_serve]
    | generate | reset =>
      rw [List.filter_cons_of_neg (by rw [hkind]; exact Bool.false_ne_true),
        List.filter_cons_of_neg Bool.false_ne_true, hrest]

/-- A run without its scores goes as it does with them. -/
theorem replies_filter_isScore (m : Llama α) (requests : List (Request α)) :
    (replies requests m).filter (fun a => !a.isScore) =
        replies (requests.filter fun r => !r.isScore) m ∧
      serve requests m = serve (requests.filter fun r => !r.isScore) m := by
  induction requests generalizing m with
  | nil => exact ⟨rfl, rfl⟩
  | cons r rest ih =>
    obtain ⟨hreplies, hserve⟩ := ih (r.answer m).2
    have hkind := r.isScore_answer m
    cases r with
    | score text => exact ⟨hreplies, hserve⟩
    | generate | reset => exact ⟨congrArg _ hreplies, hserve⟩

/-- Wherever scores are asked for in a run of requests, whatever else is asked and fails there, each
comes out as on the model that the run began with, and leaves the caches, the position and the rotary
table as they are; all other answers are those of the run without them. -/
theorem scoring_apart (m : Llama α) (requests : List (Request α)) :
    (∀ text, (Request.score text).answer (serve requests m) =
      (((Request.score text).answer m).1, serve requests m)) ∧
    (replies requests m).filter Answer.isScore =
      (requests.filter Request.isScore).map (fun r => (r.answer m).1) ∧
    (replies requests m).filter (fun a => !a.isScore) =
      replies (requests.filter fun r => !r.isScore) m ∧
    serve requests m = serve (requests.filter fun r => !r.isScore) m :=
  ⟨answer_score_serve m requests, filter_isScore_replies m [] requests,
    replies_filter_isScore m requests⟩

end Llama
end StreamingLM
