import StreamingLM.Proofs.Model.Surfacing
import StreamingLM.Proofs.Model.Engine
import StreamingLM.Session.Recorder
import StreamingLM.Server.Llama

/-!
What becomes of a listener's failures in the session, in a generation and in the server: those of
showing text are reported by each of them, and those at the end by none.
-/
namespace StreamingLM

variable {σ τ α : Type} [Scalar α]

namespace LlamaServer

section

variable {l : Listener σ} {l' : Listener τ} {view : τ → σ} (pace : Nat → Pace)
  (c : LlamaServerConfig) (sampler : Sampler) (m : Llama α) (prompt : String)

theorem generatePaced_through (h : l'.Over l view) (collected : σ → Collector) (audience : τ) :
    let (result, after, inner) :=
      generatePaced pace c sampler m prompt l' (fun a => collected (view a)) audience
    generatePaced pace c sampler m prompt l collected (view audience) =
      (result, after, view inner) := by
  simp only [generatePaced]
  rw [m.generatePaced_through pace prompt c.sampleLength c.temperature sampler h]
  rfl

theorem generatePaced_report {record : τ → List Deed} (h : l'.Records record) (audience : τ)
    (fresh : (record audience).findSome? Deed.failure? = none) (collected : τ → Collector) :
    let (result, _, inner) := generatePaced pace c sampler m prompt l' collected audience
    result = Deed.report (record inner) result := by
  have hreport :=
    m.generatePaced_report pace prompt c.sampleLength c.temperature sampler h audience fresh
  simp only [generatePaced, Deed.eq_report_iff] at hreport ⊢
  intro f failed
  rw [hreport f failed]
  rfl

theorem runLoaded_through (h : l'.Over l view)
    (collects : l'.collector? = l.collector?.map fun collected a => collected (view a))
    (audience : τ) :
    let (result, after, inner) := runLoaded pace c sampler m prompt l' audience
    runLoaded pace c sampler m prompt l (view audience) = (result, after, view inner) := by
  unfold runLoaded
  rw [collects]
  cases l.collector? with
  | some collected =>
    have hrun := generatePaced_through pace c sampler m prompt h collected audience
    simp only [Option.map_some, hrun]
  | none =>
    have hrun := generatePaced_through pace c sampler m prompt h.tee (·.1) ({}, audience)
    simp only [Prod.map, id] at hrun
    simp only [Option.map_none, hrun]

theorem runLoaded_report {record : τ → List Deed} (h : l'.Records record) (audience : τ)
    (unfailed : (record audience).findSome? Deed.failure? = none) :
    let (result, _, inner) := runLoaded pace c sampler m prompt l' audience
    result = Deed.report (record inner) result := by
  unfold runLoaded
  cases l'.collector? with
  | some collected => exact generatePaced_report pace c sampler m prompt h audience unfailed collected
  | none => exact generatePaced_report pace c sampler m prompt h.tee ({}, audience) unfailed (·.1)

variable (fresh : Filling α) (seed : Int) (d : Directory α) (s : LlamaServer α)

/-- Whoever listens, a call is refused before it comes to a model, or it is the prompt on the model
that is there after loading. -/
theorem runPromptPaced_cases :
    let after := (s.load fresh d).2
    (∃ f, ∀ {σ : Type} (l : Listener σ) (audience : σ),
      s.runPromptPaced pace fresh seed d prompt l audience = (.error f, after, audience)) ∨
    ∃ sampler m loaded, after.model = some m ∧ ∀ {σ : Type} (l : Listener σ) (audience : σ),
      s.runPromptPaced pace fresh seed d prompt l audience =
        let (result, m, audience) := runLoaded pace after.config sampler m prompt l audience
        (result.map fun reply => { text := reply.1, loaded, account := .tokens reply.2 },
          ({ after with model := some m }, audience)) := by
  unfold runPromptPaced
  rcases s.load fresh d with ⟨f | loaded, after⟩
  · exact .inl ⟨f, fun l audience => rfl⟩
  · dsimp only
    cases Sampler.ofSettings (.real after.config.temperature) (.real after.config.topP)
        after.config.seed seed with
    | error f => exact .inl ⟨f, fun l audience => rfl⟩
    | ok sampler =>
      cases after.model with
      | none => exact .inl ⟨_, fun l audience => rfl⟩
      | some m => exact .inr ⟨sampler, m, loaded, rfl, fun l audience => rfl⟩

theorem runPromptPaced_through (h : l'.Over l view)
    (collects : l'.collector? = l.collector?.map fun collected a => collected (view a))
    (audience : τ) :
    let (result, after, inner) := s.runPromptPaced pace fresh seed d prompt l' audience
    s.runPromptPaced pace fresh seed d prompt l (view audience) = (result, after, view inner) := by
  obtain ⟨f, hrun⟩ | ⟨sampler, m, loaded, -, hrun⟩ :=
    runPromptPaced_cases pace prompt fresh seed d s
  · rw [hrun, hrun]
  · have hloaded := runLoaded_through pace (s.load fresh d).2.config sampler m prompt h collects
      audience
    dsimp only at hloaded
    rw [hrun, hrun, hloaded]

theorem runPromptPaced_report {record : τ → List Deed} (h : l'.Records record) (audience : τ)
    (unfailed : (record audience).findSome? Deed.failure? = none) :
    let (result, _, inner) := s.runPromptPaced pace fresh seed d prompt l' audience
    result = Deed.report (record inner) result := by
  have hquiet : ∀ f, (record audience).findSome? Deed.failure? ≠ some f := by simp [unfailed]
  simp only [Deed.eq_report_iff]
  intro f failed
  obtain ⟨e, hrun⟩ | ⟨sampler, m, loaded, -, hrun⟩ :=
    runPromptPaced_cases pace prompt fresh seed d s
  · rw [hrun] at failed
    exact absurd failed (hquiet f)
  · have hloaded := runLoaded_report pace (s.load fresh d).2.config sampler m prompt h audience
      unfailed
    rw [hrun] at failed ⊢
    dsimp only at hloaded failed ⊢
    rw [Deed.eq_report_iff.mp hloaded f failed]
    rfl

end

end LlamaServer

namespace Listener

open Session

/-- Whatever a session is asked and however its worker makes its rounds, closing it reports the
first call of decoding or of showing text that failed, and an end mark that comes too late is
refused with that failure as its cause. In a generation and in a prompt that the server runs, a
failure of showing text takes the place of any result. What a listener raises when it hears of the
end is lost: each of the three comes to what it does with a listener that is patient then. -/
theorem failures_surface (l : Listener σ) (audience : σ) :
    (∀ (d : Decoder σ) (length : Int) (fresh : Session (σ × List Deed)) (ms : List Move)
      (rounds : List Nat), start length (audience, []) = .ok fresh →
      let s := fresh.behind d.overheard l.overheard ms
      let (result, after) := s.closeWith d.overheard l.overheard rounds
      (s.shut.channel.length ≤ rounds.sum → after.worker.alive = false) ∧
      result = Deed.report after.deeds (.ok ()) ∧
      (∀ f, s.send .finish = .error f →
        ∃ cause, s.deeds.findSome? Deed.failure? = some cause ∧ f = .workerStopped (some cause)) ∧
      (fresh.unheard.behind d l ms).closeWith d l rounds = (result, after.unheard) ∧
      (fresh.unheard.behind d l.patient ms).closeWith d l.patient rounds =
        (result, after.unheard)) ∧
    (∀ {ρ : Type} [Sampling ρ α] (m : Llama α) (pace : Nat → Pace) (prompt : String) (n : Int)
      (temperature : Float) (sampler : ρ),
      let (result, after) :=
        m.generatePaced pace prompt n temperature sampler l.heard (audience, [])
      result = Deed.report after.audience.2 result ∧
      m.generatePaced pace prompt n temperature sampler l audience =
        (result, after.through Prod.fst) ∧
      m.generatePaced pace prompt n temperature sampler l.patient audience =
        (result, after.through Prod.fst)) ∧
    ∀ (server : LlamaServer α) (pace : Nat → Pace) (fresh : Filling α) (seed : Int)
      (d : Directory α) (prompt : String),
      let (result, after, inner) :=
        server.runPromptPaced pace fresh seed d prompt l.heard (audience, [])
      result = Deed.report inner.2 result ∧
      server.runPromptPaced pace fresh seed d prompt l audience = (result, after, inner.1) ∧
      server.runPromptPaced pace fresh seed d prompt l.patient audience =
        (result, after, inner.1) := by
  have hpatient := l.patient_over
  have hheard := l.heard_over
  refine ⟨fun d length fresh ms rounds started => ?_,
    fun m pace prompt n temperature sampler => ?_, fun server pace fresh seed d prompt => ?_⟩
  · obtain ⟨hends, hresult, hrefused, hplain⟩ := closeWith_report started d l ms rounds
    refine ⟨hends, hresult, hrefused, hplain, ?_⟩
    rw [behind_patient, closeWith_patient]
    exact hplain
  · have hplain := m.generatePaced_through pace prompt n temperature sampler hheard (audience, [])
    have hreport := m.generatePaced_report pace prompt n temperature sampler l.heard_records
      (audience, []) rfl
    refine ⟨hreport, hplain, ?_⟩
    exact (m.generatePaced_through pace prompt n temperature sampler hpatient audience).trans hplain
  · have hplain := LlamaServer.runPromptPaced_through pace prompt fresh seed d server hheard rfl
      (audience, [])
    have hsame := LlamaServer.runPromptPaced_through pace prompt fresh seed d server hpatient
      (congrFun Option.map_id l.collector?).symm audience
    refine ⟨LlamaServer.runPromptPaced_report pace prompt fresh seed d server l.heard_records
      (audience, []) rfl, hplain, ?_⟩
    dsimp only at hplain hsame ⊢
    rw [hplain] at hsame
    exact hsame

/-- A listener that refuses the first piece of text: its failure comes up in a session, also where
the end mark comes too late, and in a generation. -/
theorem firstText_surfaces :
    let l := Listener.recording (some 0) true
    let boom : Failure := .fault .os "told to fail"
    (∃ fresh, start 4 (({} : Recorder), []) = .ok fresh ∧
      let s := fresh.behind spelling.overheard l.overheard [.call (.update [97]), .round 1]
      let (result, after) := s.closeWith spelling.overheard l.overheard []
      after.deeds = [.decode [97] (.ok "a"), .onText "a" (.error boom), .onComplete] ∧
      after.worker.alive = false ∧ result = .error (.workerFailed boom) ∧
      s.send .finish = .error (.workerStopped (some boom)) ∧
      s.deeds.findSome? Deed.failure? = some boom) ∧
    ∃ (m : Llama Float) (result : Except Failure Nat)
      (after : Generated (Recorder × List Deed) Float),
      Llama.build Parameters.ones .empty Llama.tinyConfig = .ok m ∧
      m.generatePaced (fun _ => .lockStep) "hi" 3 0 (Sampler.scripted [65] 0) l.heard ({}, []) =
        (result, after) ∧
      after.audience.2 = [.onText "[65]" (.error boom), .onComplete] ∧
      result = .error (.workerFailed boom) := by
  obtain ⟨hsession, hgenerate, -⟩ :=
    failures_surface (α := Float) (Listener.recording (some 0) true) {}
  obtain ⟨hends, hresult, hrefused, -⟩ :=
    hsession spelling 4 _ [.call (.update [97]), .round 1] [] rfl
  obtain ⟨cause, hcause, hstopped⟩ :=
    hrefused (.workerStopped (some (.fault .os "told to fail"))) rfl
  cases hstopped
  refine ⟨⟨_, rfl, rfl, hends (Nat.le_refl 0), hresult, rfl, hcause⟩, ?_⟩
  obtain ⟨m, result, after, hm, hcall, hheard⟩ : ∃ (m : Llama Float) (result : Except Failure Nat)
      (after : Generated (Recorder × List Deed) Float),
      Llama.build Parameters.ones .empty Llama.tinyConfig = .ok m ∧
      m.generatePaced (fun _ => .lockStep) "hi" 3 0 (Sampler.scripted [65] 0)
        (Listener.recording (some 0) true).heard ({}, []) = (result, after) ∧
      after.audience.2 = [.onText "[65]" (.error (.fault .os "told to fail")), .onComplete] :=
    ⟨_, _, _, rfl, rfl, rfl⟩
  have hcame := hgenerate m (fun _ => .lockStep) "hi" 3 0 (Sampler.scripted [65] 0)
  rw [hcall] at hcame
  obtain ⟨hreport, -, -⟩ := hcame
  rw [hheard] at hreport
  exact ⟨m, result, after, hm, hcall, hheard, hreport⟩

/-- A listener fails when it hears of the end. Closing the session reports nothing, and a generation
returns as if it had gone well. -/
theorem farewell_lost :
    let l := Listener.recording none true
    (∀ a, (l.onComplete a).1 = .error (.fault .os "told to fail")) ∧
    (∃ fresh, start 4 (({} : Recorder), []) = .ok fresh ∧
      let s := fresh.behind spelling.overheard l.overheard [.call (.update [97])]
      let (result, after) := s.closeWith spelling.overheard l.overheard [2]
      after.deeds = [.decode [97] (.ok "a"), .onText "a" (.ok ()), .onComplete] ∧
      after.worker.alive = false ∧ result = .ok ()) ∧
    ∃ (m : Llama Float) (after : Generated (Recorder × List Deed) Float),
      Llama.build Parameters.ones .empty Llama.tinyConfig = .ok m ∧
      m.generatePaced (fun _ => .lockStep) "hi" 2 0 (Sampler.scripted [65] 0) l.heard ({}, []) =
        (.ok 2, after) ∧
      after.audience.2 = [.onText "[65]" (.ok ()), .onText "[65]" (.ok ()), .onComplete] :=
  ⟨fun _ => rfl, ⟨_, rfl, rfl, rfl, rfl⟩, _, _, rfl, rfl, rfl⟩

end Listener
end StreamingLM
