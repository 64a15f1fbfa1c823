import DccCua.Host.Endpoint

/-! # One Host at a path

The probe, the removal and the bind of a start are separate steps. As long as no start removes a socket after some
Host has bound the path since its own probe, the Host that listens owns the file at the path. -/

namespace DccCua

open Runs

namespace Endpoint

/-- The Host has signalled that it is ready, and has not exited. -/
def Owns (s : Endpoint) (host : Nat) : Prop := ∃ file, s.hosts host = .ready file ∨ s.hosts host = .removing file

def Listens (s : Endpoint) (host : Nat) : Prop := (s.hosts host).listening = true

structure Inv (s : Endpoint) : Prop where
  sole : ∀ i j, s.Listens i → s.Listens j → i = j
  held : ∀ i, s.Listens i → s.file = some (.socket i)
  own : ∀ i file, s.hosts i = .owned file ∨ s.hosts i = .ready file ∨ s.hosts i = .removing file → file = .socket i
  overtaken : ∀ i, s.Listens i → ∀ j late, s.hosts j = .stale late → late = true

variable {s : Endpoint} {host : Nat} {phase : HostPhase}

theorem put_self : (s.put host phase).hosts host = phase := by
  unfold put
  exact Function.update_self ..

theorem put_other {i : Nat} (h : i ≠ host) : (s.put host phase).hosts i = s.hosts i := by
  unfold put
  exact Function.update_of_ne h ..

/-- A Host that does not listen, and is not stale unless overtaken, disturbs nobody. -/
theorem Inv.quiet (h : s.Inv) (hphase : phase.listening = false)
    (hstale : ∀ i, s.Listens i → i ≠ host → ∀ late, phase = .stale late → late = true) : (s.put host phase).Inv := by
  have hlistens : ∀ i, (s.put host phase).Listens i → i ≠ host ∧ s.Listens i := by
    intro i hi
    by_cases hsame : i = host
    · subst hsame
      rw [Listens, put_self, hphase] at hi
      cases hi
    · rw [Listens, put_other hsame] at hi
      exact ⟨hsame, hi⟩
  refine ⟨fun i j hi hj => h.sole i j (hlistens i hi).2 (hlistens j hj).2, fun i hi => h.held i (hlistens i hi).2, ?_, ?_⟩
  · intro i file hi
    by_cases hsame : i = host
    · subst hsame
      rw [put_self] at hi
      rcases hi with rfl | rfl | rfl <;> cases hphase
    · rw [put_other hsame] at hi
      exact h.own i file hi
  · intro i hi j late hj
    obtain ⟨hne, hbefore⟩ := hlistens i hi
    by_cases hsame : j = host
    · subst hsame
      rw [put_self] at hj
      exact hstale i hbefore hne late hj
    · rw [put_other hsame] at hj
      exact h.overtaken i hbefore j late hj

theorem Inv.leave (h : s.Inv) : (s.put host .gone).Inv := h.quiet rfl fun _ _ _ _ hstale => (nomatch hstale)

/-- A Host that listens goes on, with its own file. -/
theorem Inv.advance (h : s.Inv) (hlistens : s.Listens host) (hphase : phase.listening = true)
    (hown : ∀ file, phase = .owned file ∨ phase = .ready file ∨ phase = .removing file → file = .socket host) :
    (s.put host phase).Inv := by
  have hbefore : ∀ i, (s.put host phase).Listens i → s.Listens i := by
    intro i hi
    by_cases hsame : i = host
    · exact hsame ▸ hlistens
    · rw [Listens, put_other hsame] at hi
      exact hi
  refine ⟨fun i j hi hj => h.sole i j (hbefore i hi) (hbefore j hj), fun i hi => h.held i (hbefore i hi), ?_, ?_⟩
  · intro i file hi
    by_cases hsame : i = host
    · subst hsame
      rw [put_self] at hi
      exact hown file hi
    · rw [put_other hsame] at hi
      exact h.own i file hi
  · intro i hi j late hj
    by_cases hsame : j = host
    · subst hsame
      rw [put_self] at hj
      rw [hj] at hphase
      cases hphase
    · rw [put_other hsame] at hj
      exact h.overtaken i (hbefore i hi) j late hj

/-- Where nobody listens the file may go. -/
theorem Inv.unlink (h : s.Inv) (hnobody : ∀ i, ¬s.Listens i) : ({ s with file := none } : Endpoint).Inv :=
  ⟨h.sole, fun i hi => absurd hi (hnobody i), h.own, h.overtaken⟩

theorem overtake_listening (phase : HostPhase) : phase.overtake.listening = phase.listening := by
  cases phase <;> rfl

theorem overtake_file {phase : HostPhase} {file : EndpointFile}
    (h : phase.overtake = .owned file ∨ phase.overtake = .ready file ∨ phase.overtake = .removing file) :
    phase = .owned file ∨ phase = .ready file ∨ phase = .removing file := by
  cases phase with
  | stale late => rcases h with h | h | h <;> cases h
  | _ => exact h

theorem overtake_stale {phase : HostPhase} {late : Bool} (h : phase.overtake = .stale late) : late = true := by
  cases phase with
  | stale _ =>
    cases h
    rfl
  | _ => cases h

/-- The path is free, so that nobody listens, and who binds it is the only one. -/
theorem Inv.bind (h : s.Inv) (hfile : s.file = none) :
    Inv { file := some (.socket host), hosts := Function.update (fun j => (s.hosts j).overtake) host .bound } := by
  have hnobody : ∀ i, ¬s.Listens i := by
    intro i hi
    have hheld := h.held i hi
    rw [hfile] at hheld
    cases hheld
  have hother : ∀ i, i ≠ host → Function.update (fun j => (s.hosts j).overtake) host .bound i = (s.hosts i).overtake :=
    fun i hi => Function.update_of_ne hi _ _
  have honly : ∀ i, (Function.update (fun j => (s.hosts j).overtake) host .bound i).listening = true → i = host := by
    intro i hi
    by_contra hne
    rw [hother i hne, overtake_listening] at hi
    exact hnobody i hi
  refine ⟨fun i j hi hj => (honly i hi).trans (honly j hj).symm, fun i hi => ?_, fun i file hi => ?_, fun _ _ j late hj => ?_⟩
  · rw [honly i hi]
  · by_cases hsame : i = host
    · subst hsame
      simp only [Function.update_self] at hi
      rcases hi with hi | hi | hi <;> cases hi
    · dsimp only at hi
      rw [hother i hsame] at hi
      exact h.own i file (overtake_file hi)
  · by_cases hsame : j = host
    · subst hsame
      simp only [Function.update_self] at hj
      cases hj
    · dsimp only at hj
      rw [hother j hsame] at hj
      exact overtake_stale hj

/-- A Host whose probe is refused has seen that nobody listens. -/
theorem Inv.probe_refused (h : s.Inv) {answer : ProbeAnswer} (hprobe : s.probe answer = .refused) : ∀ i, ¬s.Listens i := by
  intro i hi
  unfold Endpoint.probe at hprobe
  rw [h.held i hi] at hprobe
  dsimp only at hprobe
  rw [if_pos (show (s.hosts i).listening = true from hi)] at hprobe
  split at hprobe <;> cases hprobe

/-- Where a Host is stale and was not overtaken, nobody listens. -/
theorem Inv.prompt (h : s.Inv) (hstale : s.hosts host = .stale false) : ∀ i, ¬s.Listens i := by
  intro i hi
  cases h.overtaken i hi host false hstale

theorem Inv.step (h : s.Inv) (endpoint : String) (host : Nat) (action : EndpointAction)
    (hprompt : action = .remove → s.hosts host ≠ .stale true) : (s.step endpoint host action).2.Inv := by
  have hphase : ∀ {phase : HostPhase}, s.hosts host = phase → phase.listening = true → s.Listens host := by
    intro phase hphase hlistens
    rw [Listens, hphase]
    exact hlistens
  unfold Endpoint.step
  split
  case h_1 => exact h
  case h_2 => exact h.leave
  case h_3 =>
    split
    · exact h.quiet rfl fun _ _ _ _ hstale => (nomatch hstale)
    · split
      · exact h.quiet rfl fun _ _ _ _ hstale => (nomatch hstale)
      · exact h.leave
  case h_4 answer _ =>
    cases hprobe : s.probe answer with
    | connected => exact h.leave
    | refused => exact h.quiet rfl fun i hi => absurd hi (h.probe_refused hprobe i)
    | failed => exact h.leave
  case h_5 late hstale =>
    split
    · exact h.leave
    · cases late with
      | true => exact absurd hstale (hprompt rfl)
      | false => exact (h.unlink (h.prompt hstale)).quiet rfl fun _ _ _ _ hclear => (nomatch hclear)
  case h_6 =>
    split
    · exact h.leave
    · rename_i hfile
      exact h.bind hfile
  case h_7 hbound =>
    have hlistens := hphase hbound rfl
    rw [h.held host hlistens]
    refine h.advance hlistens rfl fun file hfile => ?_
    rcases hfile with hfile | hfile | hfile <;> cases hfile
    rfl
  case h_8 file howned =>
    have hlistens := hphase howned rfl
    rw [h.held host hlistens]
    refine h.advance hlistens rfl fun file' hfile => ?_
    rcases hfile with hfile | hfile | hfile <;> cases hfile
    exact h.own host file (Or.inl howned)
  case h_9 file howned =>
    have hlistens := hphase howned rfl
    split
    · refine h.advance hlistens rfl fun file' hfile => ?_
      rcases hfile with hfile | hfile | hfile <;> cases hfile
      exact h.own host file (Or.inl howned)
    · exact h.leave
  case h_10 file hready =>
    have hlistens := hphase hready rfl
    split
    · refine h.advance hlistens rfl fun file' hfile => ?_
      rcases hfile with hfile | hfile | hfile <;> cases hfile
      exact h.own host file (Or.inr (Or.inl hready))
    · exact h.leave
  case h_11 file hremoving =>
    -- the only one that listens leaves, and takes its file with it
    have hlistens := hphase hremoving rfl
    have hleft : (s.put host .gone).Inv := h.leave
    refine hleft.unlink fun i hi => ?_
    by_cases hsame : i = host
    · subst hsame
      rw [Listens, put_self] at hi
      cases hi
    · rw [Listens, put_other hsame] at hi
      exact hsame (h.sole i host hi hlistens)
  case h_12 => exact h

/-- A step of one Host does not move another, but may overtake it. -/
theorem hosts_step (endpoint : String) (action : EndpointAction) {i : Nat} (hi : i ≠ host) :
    (s.step endpoint host action).2.hosts i = s.hosts i ∨ (s.step endpoint host action).2.hosts i = (s.hosts i).overtake := by
  unfold Endpoint.step
  repeat' split
  all_goals first
    | exact Or.inl rfl
    | exact Or.inl (put_other hi)
    | exact Or.inr (Function.update_of_ne hi _ fun j => (s.hosts j).overtake)

theorem Owns.step {i : Nat} (h : s.Owns i) (endpoint : String) (action : EndpointAction) (hi : i ≠ host) :
    (s.step endpoint host action).2.Owns i := by
  obtain ⟨file, hphase⟩ := h
  refine ⟨file, ?_⟩
  rcases hosts_step endpoint action hi with hsame | hovertaken
  · rw [hsame]
    exact hphase
  · rw [hovertaken]
    rcases hphase with hphase | hphase
    · rw [hphase]
      exact Or.inl rfl
    · rw [hphase]
      exact Or.inr rfl

theorem Owns.listens {i : Nat} (h : s.Owns i) : s.Listens i := by
  obtain ⟨file, hphase⟩ := h
  rw [Listens]
  rcases hphase with hphase | hphase <;> rw [hphase] <;> rfl

/-- Nobody has started; something may be at the path. -/
def initial (file : Option EndpointFile) : Endpoint := ⟨file, fun _ => .idle⟩

theorem inv_initial (file : Option EndpointFile) : (initial file).Inv :=
  ⟨fun i j hi => (nomatch hi), fun i hi => (nomatch hi), fun i f hi => (by rcases hi with hi | hi | hi <;> cases hi),
    fun i hi => (nomatch hi)⟩

end Endpoint

/-- While a Host owns the path, a step of another Host leaves its socket there, and does not make the other one
    listen. -/
def Undisturbed (c : Call Endpoint (Nat × EndpointAction) EndpointOutcome) : Prop :=
  ∀ i, c.before.Owns i → i ≠ c.input.1 →
    c.after.Owns i ∧ c.before.file = some (.socket i) ∧ c.after.file = some (.socket i) ∧ ¬c.after.Listens c.input.1

/-- A start that removes the file at the path does so before any Host has bound the path since its probe. -/
def PromptRemoval (c : Call Endpoint (Nat × EndpointAction) EndpointOutcome) : Prop :=
  c.input.2 = .remove → c.before.hosts c.input.1 ≠ .stale true

/-- In every run of any number of Hosts whose removals are prompt, a Host that is ready is not disturbed until it has
    exited, and no two Hosts listen at once. -/
theorem one_host_at_endpoint (endpoint : String) (file : Option EndpointFile) (steps : List (Nat × EndpointAction))
    (hprompt : ∀ c ∈ (endpointMachine endpoint).trace (.initial file) steps, PromptRemoval c) :
    (∀ c ∈ (endpointMachine endpoint).trace (.initial file) steps, Undisturbed c) ∧
    (∀ c ∈ (endpointMachine endpoint).trace (.initial file) steps, ∀ i j,
      c.after.Listens i → c.after.Listens j → i = j) := by
  have hkeep : ∀ (s : Endpoint) (input : Nat × EndpointAction), s.Inv → PromptRemoval ((endpointMachine endpoint).call s input) →
      ((endpointMachine endpoint).step s input).2.Inv :=
    fun s input h hcall => h.step endpoint input.1 input.2 hcall
  have hinv := Machine.inv_calls hkeep steps (Endpoint.inv_initial file) hprompt
  have hafter : ∀ c ∈ (endpointMachine endpoint).trace (.initial file) steps, c.after.Inv := by
    intro c hc
    have hcall := Machine.eq_call_of_mem hc
    rw [hcall]
    exact hkeep c.before c.input (hinv c hc) (hcall ▸ hprompt c hc)
  refine ⟨fun c hc i howns hi => ?_, fun c hc => (hafter c hc).sole⟩
  have hnext : c.after.Owns i := by
    rw [Machine.eq_call_of_mem hc]
    exact howns.step endpoint c.input.2 hi
  exact ⟨hnext, (hinv c hc).held i howns.listens, (hafter c hc).held i hnext.listens,
    fun hother => hi ((hafter c hc).sole i c.input.1 hnext.listens hother)⟩

namespace EndpointSample

/-- A Host is killed and leaves its socket. Two others start at once: both probes are refused before the first one
    removes the socket and binds the path; the second one removes the socket of the first. -/
def steps : List (Nat × EndpointAction) :=
  [(0, .test), (0, .bind), (0, .stat), (0, .secure), (0, .kill),
    (1, .test), (2, .test), (1, .probe .refused), (2, .probe .refused),
    (1, .remove), (1, .bind), (1, .stat), (1, .secure),
    (2, .remove), (2, .bind), (2, .stat), (2, .secure)]

def final : Endpoint := (endpointMachine "/run/user/1000/cua/host.sock").final (.initial none) steps

end EndpointSample

/-- Two Hosts are ready, and the socket of the first is gone. -/
theorem one_host_at_endpoint_overtaken :
    EndpointSample.final.file = some (.socket 2) ∧ EndpointSample.final.Owns 1 ∧ EndpointSample.final.Owns 2 ∧
    ¬∀ c ∈ (endpointMachine "/run/user/1000/cua/host.sock").trace (.initial none) EndpointSample.steps, Undisturbed c := by
  have hfile : EndpointSample.final.file = some (.socket 2) := by decide
  have hready₁ : EndpointSample.final.hosts 1 = .ready (.socket 1) := by decide
  have hready₂ : EndpointSample.final.hosts 2 = .ready (.socket 2) := by decide
  refine ⟨hfile, ⟨_, Or.inl hready₁⟩, ⟨_, Or.inl hready₂⟩, fun hall => ?_⟩
  let c := (endpointMachine "/run/user/1000/cua/host.sock").call
    ((endpointMachine "/run/user/1000/cua/host.sock").final (.initial none) (EndpointSample.steps.take 13)) (2, .remove)
  have hmem : c ∈ (endpointMachine "/run/user/1000/cua/host.sock").trace (.initial none) EndpointSample.steps := by
    rw [show EndpointSample.steps = EndpointSample.steps.take 13 ++ (2, .remove) :: EndpointSample.steps.drop 14 from by decide,
      Machine.trace_append]
    exact List.mem_append_right _ List.mem_cons_self
  have howns : c.before.Owns 1 := ⟨.socket 1, Or.inl (by decide)⟩
  have hgone : c.after.file = none := by decide
  have hkept := (hall c hmem 1 howns (by decide)).2.2.1
  rw [hgone] at hkept
  cases hkept

/-- A stale socket is replaced by one Host alone. -/
theorem one_host_at_endpoint_alone :
    let m := endpointMachine "/run/user/1000/cua/host.sock"
    let steps : List (Nat × EndpointAction) :=
      [(1, .test), (1, .probe .refused), (1, .remove), (1, .bind), (1, .stat), (1, .secure), (2, .test), (2, .probe .connected)]
    (m.final (.initial (some .foreign)) steps).Owns 1 ∧ ∀ c ∈ m.trace (.initial (some .foreign)) steps, Undisturbed c := by
  intro m steps
  have hready : (m.final (.initial (some .foreign)) steps).hosts 1 = .ready (.socket 1) := by decide
  refine ⟨⟨_, Or.inl hready⟩, (one_host_at_endpoint "/run/user/1000/cua/host.sock" (some .foreign) steps ?_).1⟩
  intro c hc
  simp only [steps, Machine.trace_cons, Machine.trace_nil, List.mem_cons, List.not_mem_nil, or_false] at hc
  rcases hc with rfl | rfl | rfl | rfl | rfl | rfl | rfl | rfl
  all_goals
    intro hremove
    first
      | (cases hremove; done)
      | decide

end DccCua
