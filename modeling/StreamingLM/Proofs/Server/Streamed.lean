import StreamingLM.Proofs.Model.Ones
import StreamingLM.Proofs.Server.TooLong

/-!
Prompts run one after the other, each with one of several listeners. Main statement: the text that
a call returns is what it streamed, unless its listener collects text and has heard of an end before;
then it is what was streamed in the first call that it heard the end of.
-/
namespace StreamingLM

open Outcome

variable {σ τ α : Type} [Scalar α]

namespace Listener

/-- The listener takes every text, and where it says that it collects the text, it does. -/
structure Faithful (l : Listener σ) : Prop where
  hears : l.Hears
  collects : ∀ view, l.collector? = some view → l.Over .collecting view

def collected (l : Listener σ) (audience : σ) : Collector :=
  match l.collector? with
  | some view => view audience
  | none => {}

theorem collected_eq {l : Listener σ} {view : σ → Collector} (h : l.collector? = some view) :
    l.collected = view := by
  funext audience
  rw [collected, h]

theorem Over.heard {l : Listener σ} {l' : Listener τ} {view : τ → σ} (h : l'.Over l view) :
    l'.heard.Over l.heard (Prod.map view id) where
  onText a text := by
    have htext := h.onText a.1 text
    simp only [Listener.heard, Listener.overheard, Prod.map, htext, id]
  onComplete a := by
    have hend := h.onComplete a.1
    simp only [Listener.heard, Listener.overheard, Prod.map, hend, id]

theorem Hears.scribe {l : Listener σ} (hears : l.Hears) :
    l.heard.tee.Over .scribe fun b => (b.1, b.2.2) where
  onText b text := by
    have htext := hears b.2.1 text
    simp only [Listener.tee, Listener.scribe, Listener.heard, Listener.overheard,
      Listener.collecting, htext]
  onComplete b := rfl

end Listener

/-- A generation that is refused tells its listener nothing. Any other one tells it some text, and
of the end. -/
theorem Llama.generatePaced_heard {ρ : Type} [Sampling ρ α] (m : Llama α) (pace : Nat → Pace)
    (prompt : String) (n : Int) (temperature : Float) (sampler : ρ) (a : Heard) :
    let (result, after) := m.generatePaced pace prompt n temperature sampler .scribe a
    (after.audience = a ∧ ∃ f, result = .error f) ∨
      ∃ texts, after.audience = (a.told texts).ended := by
  unfold generatePaced
  cases hstart : m.generationStart prompt n a with
  | error f => exact .inl ⟨rfl, f, rfl⟩
  | ok start =>
    obtain ⟨tokens, t, session⟩ := start
    obtain ⟨-, hsession⟩ := of_generationStart hstart
    obtain ⟨s, hs, hafter, -⟩ := Generation.complete_closes
      (Session.follows_keeps m.tokenizer.detokenizer a) t temperature pace n.toNat
      (g := { state := m.state, session, sampler }) (Session.start_follows hsession) tokens
    obtain ⟨texts, hheard⟩ := Session.close_follows (d := m.tokenizer.detokenizer) hs
    exact .inr ⟨texts, (congrArg (·.worker.audience) hafter).trans hheard⟩

/-- What a call comes to for a listener and what it has collected: the call is refused before it says
anything, or it hands over some text and then tells of the end, and returns the text that is owed for
that. -/
inductive Delivery (collects : Bool) (before after : Collector) (deeds : List Deed)
    (result : Except Failure String) : Prop
  | refused (f : Failure) (quiet : deeds = []) (same : after = before) (failed : result = .error f)
  | ran (texts : List String)
      (told : deeds = texts.map (Deed.onText · (.ok ())) ++ [.onComplete])
      (gained : collects → after = (before.gain texts).complete)
      (owed : ∀ text, result = .ok text → text = before.owed texts)

namespace LlamaServer

section

variable (pace : Nat → Pace) (c : LlamaServerConfig) (sampler : Sampler) (m : Llama α)
  (prompt : String)

theorem generatePaced_delivers {L : Listener τ} {view : τ → Heard} (h : L.Over .scribe view)
    {b : τ} (unheard : (view b).2 = []) :
    let run := generatePaced pace c sampler m prompt L (fun b => (view b).1) b
    Delivery true (view b).1 (view run.2.2).1 (view run.2.2).2 (run.1.map Prod.fst) := by
  have hrun := generatePaced_through pace c sampler m prompt h Prod.fst b
  have hheard :=
    m.generatePaced_heard pace prompt c.sampleLength c.temperature sampler (view b)
  dsimp only at hrun
  rw [generatePaced] at hrun
  obtain ⟨hresult, hrest⟩ := Prod.mk.inj hrun
  obtain ⟨-, hafter⟩ := Prod.mk.inj hrest
  dsimp only
  rw [← hresult, ← hafter]
  obtain ⟨hsame, f, hf⟩ | ⟨texts, htexts⟩ := hheard
  · refine .refused (contextFailure f) ?_ ?_ ?_
    · rw [hsame, unheard]
    · rw [hsame]
    · rw [hf]
      rfl
  · refine .ran texts ?_ (fun _ => ?_) fun text htext => ?_
    · rw [htexts, Heard.ended, Heard.told, unheard, List.nil_append]
    · rw [htexts]
      rfl
    · obtain ⟨reply, hreply, rfl⟩ := map_eq_ok.mp htext
      obtain ⟨tokens, -, hreply⟩ := bind_eq_ok.mp hreply
      obtain ⟨text, htext, hreply⟩ := bind_eq_ok.mp hreply
      rw [htexts, Heard.ended, Heard.told, Collector.text_complete] at htext
      cases htext
      cases hreply
      rfl

theorem runLoaded_delivers {l : Listener σ} (faithful : l.Faithful) (audience : σ) :
    let run := runLoaded pace c sampler m prompt l.heard (audience, [])
    Delivery l.collector?.isSome (l.collected audience) (l.collected run.2.2.1) run.2.2.2
      (run.1.map Prod.fst) := by
  unfold runLoaded
  cases hview : l.collector? with
  | some view =>
    have hheard : l.heard.collector? = some fun a => view a.1 := by
      rw [Listener.heard, hview]
      rfl
    rw [Listener.collected_eq hview, hheard]
    exact generatePaced_delivers pace c sampler m prompt (faithful.collects view hview).heard
      (b := (audience, [])) rfl
  | none =>
    have hheard : l.heard.collector? = none := by
      rw [Listener.heard, hview]
      rfl
    have hnothing : l.collected = fun _ => {} := by
      funext audience
      rw [Listener.collected, hview]
    rw [hnothing, hheard]
    have hdelivers := generatePaced_delivers pace c sampler m prompt faithful.hears.scribe
      (b := ({}, (audience, []))) rfl
    cases hdelivers with
    | refused f quiet _ failed => exact .refused f quiet rfl failed
    | ran texts told _ owed => exact .ran texts told (fun collects => by cases collects) owed

variable (fresh : Filling α) (seed : Int) (d : Directory α) (s : LlamaServer α)

theorem runPromptPaced_delivers {l : Listener σ} (faithful : l.Faithful) (audience : σ) :
    let run := s.runPromptPaced pace fresh seed d prompt l.heard (audience, [])
    Delivery l.collector?.isSome (l.collected audience) (l.collected run.2.2.1) run.2.2.2
      (run.1.map Completion.text) := by
  obtain ⟨f, hrun⟩ | ⟨sampler, m, loaded, -, hrun⟩ :=
    runPromptPaced_cases pace prompt fresh seed d s
  · rw [hrun]
    exact .refused f rfl rfl rfl
  · rw [hrun]
    have hdelivers :=
      runLoaded_delivers pace (s.load fresh d).2.config sampler m prompt faithful audience
    dsimp only at hdelivers ⊢
    generalize runLoaded pace _ sampler m prompt l.heard (audience, []) = ran at hdelivers ⊢
    obtain ⟨f | reply, _, _⟩ := ran <;> exact hdelivers

end

end LlamaServer

/-- What comes of a call: its listener, its result, and the calls that the listener received. -/
structure Served (ι : Type) where
  listener : ι
  result : Except Failure Completion
  deeds : List Deed

namespace Deed

def text? : Deed → Option String
  | onText text _ => some text
  | _ => none

@[simp] theorem text?_onText (text : String) (result : Except Failure Unit) :
    (onText text result).text? = some text := rfl

@[simp] theorem text?_onComplete : onComplete.text? = none := rfl

end Deed

namespace Served

variable {ι : Type} {x : Served ι}

def streamed (x : Served ι) : String := String.join (x.deeds.filterMap Deed.text?)

theorem streamed_eq {texts : List String}
    (h : x.deeds = texts.map (Deed.onText · (.ok ())) ++ [.onComplete]) :
    x.streamed = String.join texts := by
  have htexts : x.deeds.filterMap Deed.text? = texts := by
    rw [h, List.filterMap_append, List.filterMap_map]
    simp [Function.comp_def]
  rw [streamed, htexts]

/-- Whether the listener was this one, and was called at all. -/
def reaches [DecidableEq ι] (i : ι) (x : Served ι) : Bool := x.listener = i && !x.deeds.isEmpty

end Served

/-- The whole text of a collector: there is none until an end has been heard of, and from then on it
is what was streamed up to there. -/
def Fixed {ι : Type} [DecidableEq ι] (i : ι) (done : List (Served ι)) (c : Collector) : Prop :=
  match done.find? (Served.reaches i) with
  | none => c = {}
  | some first => c.result = some first.streamed

namespace Fixed

variable {ι : Type} [DecidableEq ι] {i : ι} {done : List (Served ι)} {c : Collector} {x : Served ι}

theorem skip (h : Fixed i done c) (unreached : x.reaches i = false) :
    Fixed i (done ++ [x]) c := by
  have hnone : [x].find? (Served.reaches i) = none := by simp [unreached]
  rwa [Fixed, List.find?_append, hnone, Option.or_none]

theorem reach (h : Fixed i done c) (reached : x.reaches i = true) {texts : List String}
    (streamed : x.streamed = String.join texts) : Fixed i (done ++ [x]) (c.gain texts).complete := by
  have hsome : [x].find? (Served.reaches i) = some x := by simp [reached]
  rw [Fixed] at h ⊢
  rw [List.find?_append, hsome, Collector.result_complete, Collector.owed]
  cases hfirst : done.find? (Served.reaches i) with
  | none =>
    rw [hfirst] at h
    rw [h]
    exact congrArg some streamed.symm
  | some first =>
    rw [hfirst] at h
    rw [h]
    rfl

end Fixed

/-- A call to run a prompt: what is around it, the pace of its worker, and which listener it is
given. -/
structure Prompting (ι α : Type) where
  around : Surroundings α
  pace : Nat → Pace
  prompt : String
  listener : ι

section

variable {ι : Type} [DecidableEq ι] {state : ι → Type} (listeners : ∀ i, Listener (state i))

def Prompting.serve (call : Prompting ι α) (s : LlamaServer α) (audiences : ∀ i, state i) :
    Served ι × LlamaServer α × (∀ i, state i) :=
  let i := call.listener
  let run {σ : Type} (l : Listener σ) (audience : σ) :=
    s.runPromptPaced call.pace call.around.fresh call.around.seed call.around.files call.prompt l
      audience
  let (result, after, audience) := run (listeners i) (audiences i)
  let (_, _, heard) := run (listeners i).heard (audiences i, [])
  ({ listener := i, result, deeds := heard.2 }, after, Function.update audiences i audience)

def serveAll : List (Prompting ι α) → LlamaServer α → (∀ i, state i) → List (Served ι)
  | [], _, _ => []
  | call :: calls, s, audiences =>
    let (served, s, audiences) := call.serve listeners s audiences
    served :: serveAll calls s audiences

/-- What holds at first and is kept by every call holds when a call is made. -/
theorem serveAll_keep {P : List (Served ι) → (∀ i, state i) → Prop}
    (kept : ∀ done (call : Prompting ι α) s audiences, P done audiences →
      P (done ++ [(call.serve listeners s audiences).1]) (call.serve listeners s audiences).2.2)
    {calls : List (Prompting ι α)} {s : LlamaServer α} {audiences : ∀ i, state i}
    (done : List (Served ι)) {earlier later : List (Served ι)} {served : Served ι}
    (h : P done audiences)
    (split : serveAll listeners calls s audiences = earlier ++ served :: later) :
    ∃ (call : Prompting ι α) (s : LlamaServer α) (audiences : ∀ i, state i),
      P (done ++ earlier) audiences ∧ served = (call.serve listeners s audiences).1 := by
  induction calls generalizing s audiences done earlier with
  | nil => simp [serveAll] at split
  | cons call calls ih =>
    rw [serveAll] at split
    cases earlier with
    | nil =>
      refine ⟨call, s, audiences, by simpa using h, ?_⟩
      exact (List.cons.inj split).1.symm
    | cons first earlier =>
      obtain ⟨rfl, hrest⟩ := List.cons.inj split
      have hnext := ih _ (kept done call s audiences h) hrest
      rwa [List.append_assoc] at hnext

theorem Prompting.serve_eq (call : Prompting ι α) (s : LlamaServer α) (audiences : ∀ i, state i) :
    call.serve listeners s audiences =
      let i := call.listener
      let run := s.runPromptPaced call.pace call.around.fresh call.around.seed call.around.files
        call.prompt (listeners i).heard (audiences i, [])
      ({ listener := i, result := run.1, deeds := run.2.2.2 }, run.2.1,
        Function.update audiences i run.2.2.1) := by
  have hplain := LlamaServer.runPromptPaced_through call.pace call.prompt call.around.fresh
    call.around.seed call.around.files s (listeners call.listener).heard_over rfl
    (audiences call.listener, [])
  dsimp only at hplain
  simp only [Prompting.serve, hplain]

variable {listeners} (faithful : ∀ i, (listeners i).Faithful)

include faithful

theorem Prompting.serve_delivers (call : Prompting ι α) (s : LlamaServer α)
    (audiences : ∀ i, state i) :
    let l := listeners call.listener
    let run := call.serve listeners s audiences
    run.1.listener = call.listener ∧ (∀ i, i ≠ call.listener → run.2.2 i = audiences i) ∧
      Delivery l.collector?.isSome (l.collected (audiences call.listener))
        (l.collected (run.2.2 call.listener)) run.1.deeds (run.1.result.map Completion.text) := by
  have hdelivers := LlamaServer.runPromptPaced_delivers call.pace call.prompt call.around.fresh
    call.around.seed call.around.files s (faithful call.listener) (audiences call.listener)
  refine ⟨rfl, fun i hi => Function.update_of_ne hi _ _, ?_⟩
  rw [serve_eq]
  dsimp only at hdelivers ⊢
  rw [Function.update_self]
  exact hdelivers

theorem serve_fixed {i : ι} (collects : (listeners i).collector?.isSome) {done : List (Served ι)}
    (call : Prompting ι α) (s : LlamaServer α) {audiences : ∀ i, state i}
    (h : Fixed i done ((listeners i).collected (audiences i))) :
    Fixed i (done ++ [(call.serve listeners s audiences).1])
      ((listeners i).collected ((call.serve listeners s audiences).2.2 i)) := by
  obtain ⟨hlistener, hothers, hdelivers⟩ := call.serve_delivers faithful s audiences
  generalize call.serve listeners s audiences = run at hlistener hothers hdelivers ⊢
  by_cases hi : call.listener = i
  · subst hi
    cases hdelivers with
    | refused f quiet same _ =>
      rw [same]
      exact h.skip (by rw [Served.reaches, quiet, List.isEmpty_nil, Bool.not_true, Bool.and_false])
    | ran texts told gained _ =>
      rw [gained collects]
      refine h.reach ?_ (Served.streamed_eq told)
      rw [Served.reaches, hlistener, told]
      simp
  · rw [hothers i (Ne.symm hi)]
    refine h.skip ?_
    rw [Served.reaches, hlistener, decide_eq_false hi, Bool.false_and]

/-- Of calls that are made one after the other, each with one of several listeners that take every
text, one that returns has handed its listener some text and then told it of the end. The text that
it returns is what it has streamed. But a listener that collects text, was new at the start and has
been called in an earlier call has its text from the first of these, and it is returned again. -/
theorem serveAll_text {calls : List (Prompting ι α)} {s : LlamaServer α}
    {audiences : ∀ i, state i} {earlier later : List (Served ι)} {served : Served ι}
    (split : serveAll listeners calls s audiences = earlier ++ served :: later)
    (new : (listeners served.listener).collected (audiences served.listener) = {})
    {completion : Completion} (returned : served.result = .ok completion) :
    (∃ texts : List String, served.deeds = texts.map (Deed.onText · (.ok ())) ++ [.onComplete]) ∧
    completion.text =
      match (listeners served.listener).collector?, earlier.find? (Served.reaches served.listener) with
      | some _, some first => first.streamed
      | _, _ => served.streamed := by
  obtain ⟨call, s', audiences', hfixed, hserved⟩ := serveAll_keep listeners
    (P := fun done audiences => (listeners served.listener).collector?.isSome →
      Fixed served.listener done ((listeners served.listener).collected (audiences served.listener)))
    (fun done call s audiences h collects => serve_fixed faithful collects call s (h collects))
    [] (fun _ => new) split
  obtain ⟨hlistener, -, hdelivers⟩ := call.serve_delivers faithful s' audiences'
  rw [← hserved] at hlistener hdelivers
  rw [← hlistener, returned] at hdelivers
  cases hdelivers with
  | refused f _ _ failed => cases failed
  | ran texts told _ owed =>
    refine ⟨⟨texts, told⟩, ?_⟩
    rw [owed completion.text rfl, Collector.owed, Served.streamed_eq told]
    cases hview : (listeners served.listener).collector? with
    | none =>
      rw [Listener.collected, hview]
      rfl
    | some view =>
      have hbefore := hfixed (by rw [hview]; rfl)
      rw [List.nil_append, Fixed] at hbefore
      cases hfirst : earlier.find? (Served.reaches served.listener) with
      | none =>
        rw [hfirst] at hbefore
        rw [hbefore]
        rfl
      | some first =>
        rw [hfirst] at hbefore
        rw [hbefore]
        rfl

end

theorem Listener.collecting_faithful : Listener.collecting.Faithful where
  hears _ _ := rfl
  collects := by
    rintro _ ⟨⟩
    exact ⟨fun _ _ => rfl, fun _ => rfl⟩

theorem Prompting.serve_only {l : Listener σ} {call : Prompting Unit α} {s after : LlamaServer α}
    {audience heard : σ} {result : Except Failure Completion} {deeds : List Deed}
    (h : s.runPromptPaced call.pace call.around.fresh call.around.seed call.around.files call.prompt
      l.heard (audience, []) = (result, after, (heard, deeds))) :
    call.serve (fun _ => l) s (fun _ => audience) = (⟨(), result, deeds⟩, after, fun _ => heard) := by
  have honly : Function.update (fun _ => audience) () heard = fun _ => heard :=
    funext fun _ => Function.update_self ..
  rw [serve_eq]
  dsimp only
  rw [h]
  exact congrArg (fun audiences => (_, after, audiences)) honly

namespace LlamaServer

def brief : LlamaServerConfig := { window := 2, sampleLength := 1 }

theorem brief_sampler (fresh : Int) : brief.sampler fresh = .ok .greedy := by
  have hcold : Value.compareNumbers (.inr brief.temperature) (.inl 0) ≠ some .gt := by
    decide +kernel
  simp only [LlamaServerConfig.sampler, Sampler.ofSettings, Rule.sign, Value.number?, bind,
    Except.bind, if_neg hcold]
  rfl

theorem brief_loads : ∃ (m : Llama Float) (c : LlamaConfig), Reachable brief ⟨brief, some m⟩ ∧
    Llama.build Parameters.ones .empty c = .ok m ∧ m.tokenizer = .bytes ∧
      c.window = 2 ∧ c.vocabSize = 255 ∧ 0 < c.batch := by
  obtain ⟨c, hc, m, hm, hfacts⟩ : ∃ c, brief.model = .ok c ∧
      ∃ m : Llama Float, Llama.build Parameters.ones .empty c = .ok m ∧
        m.tokenizer = .bytes ∧ c.window = 2 ∧ c.vocabSize = 255 ∧ 0 < c.batch :=
    ⟨_, rfl, _, rfl, rfl, rfl, rfl, by decide⟩
  have hbuilds : buildModel Parameters.ones .empty brief = .ok m := by
    simp only [buildModel, hc, show checkDevice brief.device = .ok () from checkDevice_cpu, hm, bind,
      Except.bind]
    rfl
  have hload : (⟨brief, none⟩ : LlamaServer Float).load Parameters.ones .empty =
      (.ok true, ⟨brief, some m⟩) := by
    simp only [load, hbuilds]
  have hloaded := Reachable.new.loaded (c := brief) (bare 1)
  rw [bare, hload] at hloaded
  exact ⟨m, c, hloaded, hm, hfacts⟩

def twice : List (Prompting Unit Float) :=
  [⟨bare 1, fun _ => .lockStep, "hey", ()⟩, ⟨bare 1, fun _ => .lockStep, "hi", ()⟩]

theorem brief_serves : ∃ (s : LlamaServer Float) (text : String), Reachable brief s ∧ text ≠ "" ∧
    serveAll (fun _ => Listener.collecting) twice s (fun _ => {}) =
      [⟨(), .error (.contextTooLong 3 2 true), [.onComplete]⟩,
        ⟨(), .ok { text := "", loaded := false, account := .tokens 1 },
          [.onText text (.ok ()), .onComplete]⟩] := by
  obtain ⟨m, c, hloaded, hm, hbytes, hwindow, hvocabulary, hbatch⟩ := brief_loads
  let ended : Collector := { result := some "" }
  have hthree : m.tokenize "hey" = .ok [104, 101, 121] := by
    rw [Llama.tokenize, hbytes]
    rfl
  have hwindowed : m.Windowed brief.window := by
    have hbuilt := Llama.build_windowed hm
    rwa [hwindow] at hbuilt
  have hrefused := runPromptPaced_loaded (fun _ => .lockStep) (bare 1).fresh 1 .empty "hey"
    Listener.collecting.heard ({}, []) (s := ⟨brief, some m⟩) rfl (brief_sampler 1)
  rw [runLoaded_tooLong (fun _ => .lockStep) Listener.collecting.heard ({}, []) .greedy hwindowed
    (by decide) hthree (by decide)] at hrefused
  have hcold : ¬0.0 < brief.temperature := by decide
  obtain ⟨text, after, htext, hgenerate, hafter⟩ := Llama.ones_shows hm hbatch hbytes hvocabulary
    (by omega) hcold (ended, [])
  have hone : brief.sampleLength = 1 := rfl
  have hrun : runLoaded (fun _ => .lockStep) brief .greedy m "hi" Listener.collecting.heard
      (ended, []) = (.ok ("", 1), (after.model, after.audience)) := by
    have hcollects : Listener.collecting.heard.collector? = some Prod.fst := rfl
    rw [runLoaded, hcollects]
    dsimp only
    rw [generatePaced, ← Listener.scribe, hone, hgenerate]
    simp only [hafter, Heard.ended, Heard.told, Collector.text_complete]
    rfl
  have hran := runPromptPaced_loaded (fun _ => .lockStep) (bare 1).fresh 1 .empty "hi"
    Listener.collecting.heard (ended, []) (s := ⟨brief, some m⟩) rfl (brief_sampler 1)
  rw [hrun, hafter] at hran
  refine ⟨⟨brief, some m⟩, text, hloaded, htext, ?_⟩
  rw [twice, serveAll, Prompting.serve_only hrefused]
  dsimp only
  rw [serveAll, Prompting.serve_only hran]
  rfl

end LlamaServer

/-- After a prompt that is too long, its collector gets a token of the next one, which returns the
text of the first. -/
theorem brief_text : ∃ (s : LlamaServer Float) (refused served : Served Unit)
    (completion : Completion), LlamaServer.Reachable LlamaServer.brief s ∧
    serveAll (fun _ => Listener.collecting) LlamaServer.twice s (fun _ => {}) = [refused, served] ∧
    served.result = .ok completion ∧
    (∃ texts : List String,
      served.deeds = texts.map (Deed.onText · (.ok ())) ++ [.onComplete]) ∧
    completion.text = refused.streamed := by
  obtain ⟨s, text, hs, -, hserves⟩ := LlamaServer.brief_serves
  have htext := serveAll_text (fun _ => Listener.collecting_faithful)
    (show _ = [_] ++ [_] from hserves) rfl rfl
  exact ⟨s, _, _, _, hs, hserves, rfl, htext⟩

/-- What that call returns is not what it has streamed. -/
theorem brief_misreported : ∃ (s : LlamaServer Float) (refused served : Served Unit)
    (completion : Completion), LlamaServer.Reachable LlamaServer.brief s ∧
    serveAll (fun _ => Listener.collecting) LlamaServer.twice s (fun _ => {}) = [refused, served] ∧
    served.result = .ok completion ∧ completion.text ≠ served.streamed := by
  obtain ⟨s, text, hs, htext, hserves⟩ := LlamaServer.brief_serves
  refine ⟨s, _, _, _, hs, hserves, rfl, fun hsame => htext ?_⟩
  simpa [Served.streamed, List.filterMap_cons, String.join] using hsame.symm

end StreamingLM
