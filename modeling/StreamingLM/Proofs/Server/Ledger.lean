import StreamingLM.Proofs.Server.Guard

/-!
The books of an actor. Its server has run the requests that were accepted and not cancelled, one after
the other, up to the one in hand, and each reply tells what became of its request.
-/
namespace StreamingLM

variable {σ ρ : Type}

/-- Requests on a server, one after the other, whatever each of them comes to: the results, and the
server that is left. -/
def Actor.serve (server : σ) : List (Request σ ρ) → List (Nat × Except Failure ρ) × σ
  | [] => ([], server)
  | r :: rs =>
    let (result, server) := r.action server
    let (results, server) := serve server rs
    ((r.ticket, result) :: results, server)

namespace Actor

theorem serve_concat (server : σ) (rs : List (Request σ ρ)) (r : Request σ ρ) :
    serve server (rs ++ [r]) =
      ((serve server rs).1 ++ [(r.ticket, (r.action (serve server rs).2).1)],
        (r.action (serve server rs).2).2) := by
  induction rs generalizing server with
  | nil => rfl
  | cons s rs ih => simp [serve, ih]

theorem serve_tickets (server : σ) (rs : List (Request σ ρ)) :
    (serve server rs).1.map (·.1) = rs.map (·.ticket) := by
  induction rs generalizing server with
  | nil => rfl
  | cons r rs ih => simp [serve, ih]

end Actor

/-- The replies tell which requests were cancelled, which were answered and how, and which have begun
without an answer. -/
structure Standing (replies : List (Reply ρ)) (cancelled : List Nat)
    (answered : List (Nat × Except Failure ρ)) (begun : List Nat) : Prop where
  cancelled_iff : ∀ t, replies[t]? = some .cancelled ↔ t ∈ cancelled
  resolved_iff : ∀ t x, replies[t]? = some (.resolved x) ↔ (t, x) ∈ answered
  running_iff : ∀ t, replies[t]? = some .running ↔ t ∈ begun

namespace Standing

variable {replies : List (Reply ρ)} {cancelled begun : List Nat}
  {answered : List (Nat × Except Failure ρ)} {t : Nat} {x : Except Failure ρ}

theorem getElem?_set {old new : Reply ρ} (h : replies[t]? = some old) (i : Nat) (reply : Reply ρ) :
    (replies.set t new)[i]? = some reply ↔
      i = t ∧ reply = new ∨ i ≠ t ∧ replies[i]? = some reply := by
  obtain ⟨hlength, -⟩ := List.getElem?_eq_some_iff.mp h
  rw [List.getElem?_set]
  by_cases heq : t = i
  · subst heq
    simp [hlength, eq_comm]
  · simp [heq, Ne.symm heq]

theorem submit (h : Standing replies cancelled answered begun) :
    Standing (replies ++ [.pending]) cancelled answered begun := by
  have hold : ∀ (t : Nat) (reply : Reply ρ), reply ≠ .pending →
      ((replies ++ [.pending])[t]? = some reply ↔ replies[t]? = some reply) := by
    intro t reply hnew
    rw [List.getElem?_append]
    split
    · rfl
    · rename_i hout
      rw [List.getElem?_eq_none (Nat.le_of_not_lt hout), List.getElem?_singleton]
      split <;> simp [Ne.symm hnew]
  exact ⟨fun t => (hold t _ (by simp)).trans (h.cancelled_iff t),
    fun t x => (hold t _ (by simp)).trans (h.resolved_iff t x),
    fun t => (hold t _ (by simp)).trans (h.running_iff t)⟩

theorem cancel (h : Standing replies cancelled answered begun)
    (reply : replies[t]? = some .pending) :
    Standing (replies.set t .cancelled) (cancelled ++ [t]) answered begun := by
  refine ⟨fun i => ?_, fun i y => ?_, fun i => ?_⟩
  · rw [getElem?_set reply, h.cancelled_iff]
    grind
  · rw [getElem?_set reply, ← h.resolved_iff]
    grind
  · rw [getElem?_set reply, ← h.running_iff]
    grind

theorem begin (h : Standing replies cancelled answered []) (reply : replies[t]? = some .pending) :
    Standing (replies.set t .running) cancelled answered [t] := by
  refine ⟨fun i => ?_, fun i y => ?_, fun i => ?_⟩
  · rw [getElem?_set reply, ← h.cancelled_iff]
    grind
  · rw [getElem?_set reply, ← h.resolved_iff]
    grind
  · rw [getElem?_set reply, h.running_iff]
    simp

theorem answer (h : Standing replies cancelled answered [t]) :
    Standing (replies.set t (.resolved x)) cancelled (answered ++ [(t, x)]) [] := by
  have hrunning : replies[t]? = some .running := (h.running_iff t).mpr (List.mem_singleton_self t)
  have hopen : ∀ y, (t, y) ∉ answered := fun y hy => by
    simp [(h.resolved_iff t y).mpr hy] at hrunning
  refine ⟨fun i => ?_, fun i y => ?_, fun i => ?_⟩
  · rw [getElem?_set hrunning, ← h.cancelled_iff]
    grind
  · rw [getElem?_set hrunning, h.resolved_iff]
    grind
  · rw [getElem?_set hrunning, h.running_iff]
    simp

end Standing

namespace Duty

/-- The ticket of the request that has begun and has no answer yet. -/
@[simp] def begun : Duty σ ρ → List Nat
  | running r | replying r _ => [r.ticket]
  | _ => []

/-- The request that was executed and has no answer yet. -/
@[simp] def executed : Duty σ ρ → List (Request σ ρ)
  | replying r _ => [r]
  | _ => []

@[simp] def unanswered : Duty σ ρ → List (Nat × Except Failure ρ)
  | replying r result => [(r.ticket, result)]
  | _ => []

theorem executed_tickets (d : Duty σ ρ) : d.executed.map (·.ticket) = d.unanswered.map (·.1) := by
  cases d <;> rfl

end Duty

namespace Reception

/-- A request that was not cancelled. -/
def stands (es : List (Event σ ρ)) (r : Request σ ρ) : Bool := r.ticket ∉ cancelled es

/-- How the books stand behind a run: the requests that the thread is done with, and the server as the
executed ones have left it. -/
structure Ledger (first : σ) (es : List (Event σ ρ)) (a : Actor σ ρ) (past : List (Request σ ρ))
    (last : σ) : Prop where
  tickets : (accepted es).map (·.ticket) = List.range a.replies.length
  accepted_eq : accepted es = past ++ a.flow.reduceOption
  served : Actor.serve first (past.filter (stands es) ++ a.duty.executed) = (executed es, last)
  answered_eq : answered es ++ a.duty.unanswered = executed es
  standing : Standing a.replies (cancelled es) (answered es) a.duty.begun
  begun : ∀ t, .begin t ∈ es → t ∈ a.duty.begun ∨ t ∈ (answered es).map (·.1)

variable {first last : σ} {es : List (Event σ ρ)} {a a' : Actor σ ρ}
  {past : List (Request σ ρ)} {e : Event σ ρ}

theorem stands_concat (h : e.cancelled? = none) : stands (es ++ [e]) = stands es := by
  funext r
  rw [stands, cancelled_concat, h]
  simp [stands]

namespace Ledger

theorem init (server : σ) : Ledger (ρ := ρ) server [] { server } [] server where
  tickets := rfl
  accepted_eq := rfl
  served := rfl
  answered_eq := rfl
  standing := ⟨by simp [cancelled], by simp [answered], by simp⟩
  begun := by simp

theorem nodup (h : Ledger first es a past last) : ((accepted es).map (·.ticket)).Nodup := by
  rw [h.tickets]
  exact List.nodup_range

theorem answered_past (h : Ledger first es a past last) :
    (answered es).map (·.1) = (past.filter (stands es)).map (·.ticket) := by
  have htickets := Actor.serve_tickets first (past.filter (stands es) ++ a.duty.executed)
  rw [h.served, ← h.answered_eq, List.map_append, List.map_append, Duty.executed_tickets] at htickets
  exact List.append_cancel_right htickets

theorem done_past (h : Ledger first es a past last) {r : Request σ ρ} (hr : r ∈ past) :
    a.replies[r.ticket]? = some .cancelled ∨ ∃ x, a.replies[r.ticket]? = some (.resolved x) := by
  by_cases hcancelled : r.ticket ∈ cancelled es
  · exact .inl ((h.standing.cancelled_iff _).mpr hcancelled)
  · have hmem : r.ticket ∈ (answered es).map (·.1) := by
      rw [h.answered_past]
      exact List.mem_map_of_mem (List.mem_filter.mpr ⟨hr, by simpa [stands] using hcancelled⟩)
    obtain ⟨⟨t, x⟩, hx, rfl⟩ := List.mem_map.mp hmem
    exact .inr ⟨x, (h.standing.resolved_iff _ x).mpr hx⟩

theorem stands_of_begun (h : Ledger first es a past last) {r : Request σ ρ}
    (begun : r.ticket ∈ a.duty.begun) : stands es r = true := by
  have hrunning := (h.standing.running_iff r.ticket).mpr begun
  have hopen : r.ticket ∉ cancelled es := fun hmem => by
    simp [(h.standing.cancelled_iff _).mpr hmem] at hrunning
  simpa [stands] using hopen

theorem filter_stands (h : Ledger first es a past last) :
    ∃ left, (accepted es).filter (stands es) =
        past.filter (stands es) ++ a.duty.executed ++ left ∧
      (a.flow.reduceOption = [] → left = []) := by
  rw [h.accepted_eq, List.filter_append]
  cases hduty : a.duty with
  | replying r result =>
    have hstands := h.stands_of_begun (r := r) (by simp [hduty])
    exact ⟨a.queue.reduceOption.filter (stands es), by simp [Actor.flow, hduty, hstands],
      by simp [Actor.flow, hduty]⟩
  | _ => exact ⟨a.flow.reduceOption.filter (stands es), by simp, fun hflow => by rw [hflow]; rfl⟩

theorem reply_of_holding (h : Ledger first es a past last) {r : Request σ ρ}
    (duty : a.duty = .holding (some r)) :
    a.replies[r.ticket]? = some .pending ∨ a.replies[r.ticket]? = some .cancelled := by
  have haccepted : accepted es = past ++ r :: a.queue.reduceOption := by
    simpa [Actor.flow, duty] using h.accepted_eq
  have hlength : r.ticket < a.replies.length := by
    rw [← List.mem_range, ← h.tickets, haccepted]
    simp
  have hstanding := h.standing
  rw [duty] at hstanding
  cases hreply : a.replies[r.ticket] with
  | pending => exact .inl (List.getElem?_eq_some_iff.mpr ⟨hlength, hreply⟩)
  | cancelled => exact .inr (List.getElem?_eq_some_iff.mpr ⟨hlength, hreply⟩)
  | running =>
    have hbegun := (hstanding.running_iff _).mp (List.getElem?_eq_some_iff.mpr ⟨hlength, hreply⟩)
    simp at hbegun
  | resolved x =>
    have hanswered := (hstanding.resolved_iff _ x).mp (List.getElem?_eq_some_iff.mpr ⟨hlength, hreply⟩)
    have hmem := List.mem_map_of_mem (f := (·.1)) hanswered
    rw [h.answered_past] at hmem
    obtain ⟨s, hs, hticket⟩ := List.mem_map.mp hmem
    have hnodup := h.nodup
    rw [haccepted, List.map_append, List.nodup_append] at hnodup
    exact absurd hticket (hnodup.2.2 _ (List.mem_map_of_mem (List.mem_filter.mp hs).1) _ (by simp))

theorem silent (h : Ledger first es a past last) (accepted : e.accepted? = none)
    (cancelled : e.cancelled? = none) (executed : e.executed? = none)
    (answered : e.answered? = none) (begun : ∀ t, e ≠ .begin t)
    (flow : a'.flow.reduceOption = a.flow.reduceOption) (replies : a'.replies = a.replies)
    (duty : a'.duty.begun = a.duty.begun ∧ a'.duty.executed = a.duty.executed ∧
      a'.duty.unanswered = a.duty.unanswered) :
    Ledger first (es ++ [e]) a' past last := by
  obtain ⟨hbegun, hexecuted, hunanswered⟩ := duty
  refine ⟨?_, ?_, ?_, ?_, ?_, fun t ht => ?_⟩
  · rw [accepted_concat, accepted, replies]
    simpa using h.tickets
  · rw [accepted_concat, accepted, flow]
    simpa using h.accepted_eq
  · rw [executed_concat, executed, hexecuted, stands_concat cancelled]
    simpa using h.served
  · rw [executed_concat, answered_concat, executed, answered, hunanswered]
    simpa using h.answered_eq
  · rw [cancelled_concat, answered_concat, cancelled, answered, replies, hbegun]
    simpa using h.standing
  · have hold : .begin t ∈ es := by simpa [Ne.symm (begun t)] using ht
    rw [answered_concat, answered, hbegun]
    simpa using h.begun t hold

theorem accept (h : Ledger first es a past last) (action : σ → Attempt σ ρ) :
    Ledger first (es ++ [.accept ⟨a.replies.length, action⟩]) (a.accept action) past last where
  tickets := by simp [h.tickets, Actor.accept, List.range_succ]
  accepted_eq := by
    have hflow : (a.accept action).flow = a.flow ++ [some ⟨a.replies.length, action⟩] := by
      simp [Actor.flow, Actor.accept]
    simp [h.accepted_eq, hflow, List.reduceOption_append]
  served := by
    rw [stands_concat (by rfl)]
    simpa [Actor.accept] using h.served
  answered_eq := by simpa [Actor.accept] using h.answered_eq
  standing := by simpa [Actor.accept] using h.standing.submit
  begun t ht := by simpa [Actor.accept] using h.begun t (by simpa using ht)

theorem cancel (h : Ledger first es a past last) {t : Nat}
    (reply : a.replies[t]? = some .pending) :
    Ledger first (es ++ [.cancel t]) (a.cancel t).2 past last := by
  rw [Actor.cancel_pending reply]
  have hpast : past.filter (stands (es ++ [.cancel t])) = past.filter (stands es) := by
    refine List.filter_congr fun r hr => ?_
    have hother : r.ticket ≠ t := by
      rintro rfl
      obtain hcancelled | ⟨x, hx⟩ := h.done_past hr
      · simp [reply] at hcancelled
      · simp [reply] at hx
    simp [stands, hother]
  exact
    { tickets := by simpa using h.tickets
      accepted_eq := by simpa [Actor.flow] using h.accepted_eq
      served := by simpa [hpast] using h.served
      answered_eq := by simpa using h.answered_eq
      standing := by simpa using h.standing.cancel reply
      begun := fun t ht => by simpa using h.begun t (by simpa using ht) }

/-- A turn of the thread is entered into the books. -/
theorem turn (h : Ledger first es a past last) (server : last = a.server)
    (turn : a.Turn e a') (emptied : a.duty = .draining → a.queue = []) :
    ∃ past', Ledger first (es ++ [e]) a' past' a'.server := by
  subst server
  cases turn with
  | fetch duty queue =>
    exact ⟨past, h.silent rfl rfl rfl rfl (by simp) (by simp [Actor.flow, duty, queue]) rfl
      (by simp [duty])⟩
  | halt duty =>
    exact ⟨past, h.silent rfl rfl rfl rfl (by simp) (by simp [Actor.flow, duty]) rfl
      (by simp [duty])⟩
  | @begin r duty reply =>
    obtain ⟨htickets, haccepted, hserved, hanswered, hstanding, hbegun⟩ := h
    rw [duty] at hserved hanswered hstanding hbegun
    refine ⟨past, by simpa using htickets, ?_, ?_, by simpa using hanswered,
      by simpa using hstanding.begin reply, fun t ht => ?_⟩
    · simpa [Actor.flow, duty] using haccepted
    · rw [stands_concat (by rfl)]
      simpa using hserved
    · simp only [List.mem_append, List.mem_singleton, Event.begin.injEq] at ht
      obtain hold | rfl := ht
      · exact .inr (by simpa using hbegun t hold)
      · exact .inl (by simp)
  | @skip r duty reply =>
    obtain ⟨htickets, haccepted, hserved, hanswered, hstanding, hbegun⟩ := h
    have hcancelled := (hstanding.cancelled_iff _).mp reply
    rw [duty] at hserved hanswered hstanding hbegun
    refine ⟨past ++ [r], by simpa using htickets, ?_, ?_, by simpa using hanswered,
      by simpa using hstanding, fun t ht => ?_⟩
    · simpa [Actor.flow, duty] using haccepted
    · rw [stands_concat (by rfl)]
      simpa [stands, hcancelled] using hserved
    · simpa using hbegun t (by simpa using ht)
  | @execute r duty =>
    obtain ⟨htickets, haccepted, hserved, hanswered, hstanding, hbegun⟩ := h
    rw [duty] at hserved hanswered hstanding hbegun
    refine ⟨past, by simpa [Actor.execute] using htickets, ?_, ?_, ?_,
      by simpa [Actor.execute] using hstanding, fun t ht => ?_⟩
    · simpa [Actor.flow, Actor.execute, duty] using haccepted
    · rw [stands_concat (by rfl)]
      have hpast : Actor.serve first (past.filter (stands es)) = (executed es, a.server) := by
        simpa using hserved
      simp [Actor.execute, Actor.serve_concat, hpast]
    · simpa [Actor.execute] using hanswered
    · simpa [Actor.execute] using hbegun t (by simpa using ht)
  | @answer r result duty =>
    have hstands := h.stands_of_begun (r := r) (by simp [duty])
    obtain ⟨htickets, haccepted, hserved, hanswered, hstanding, hbegun⟩ := h
    rw [duty] at hserved hanswered hstanding hbegun
    refine ⟨past ++ [r], by simpa [Actor.answer] using htickets, ?_, ?_, ?_,
      by simpa [Actor.answer] using hstanding.answer, fun t ht => ?_⟩
    · simpa [Actor.flow, Actor.answer, duty] using haccepted
    · rw [stands_concat (by rfl)]
      simpa [Actor.answer, hstands] using hserved
    · simpa [Actor.answer] using hanswered
    · simpa [Actor.answer, or_comm] using hbegun t (by simpa using ht)
  | discard duty queue => exact absurd (emptied duty) (by simp [queue])
  | finish duty queue =>
    exact ⟨past, h.silent rfl rfl rfl rfl (by simp) (by simp [Actor.flow, duty, queue]) rfl
      (by simp [duty])⟩

end Ledger
end Reception
end StreamingLM
