import Mathlib.Data.List.Basic

/-! # Runs of a deterministic machine

A machine takes a state and an input and gives an output and the next state. What the environment
decides (clock readings, random draws, scheduling) is part of the input, so that a statement about
every list of inputs is a statement about every behaviour of the environment.

`trace` keeps, for each call of a run, the state before it, its input and its output. Safety
properties are stated on it: invariants of the states, and "once `A` has happened, `B` never does"
as a `List.Pairwise` of the trace. -/

namespace Runs

/-- A machine with states `σ`, inputs `ι` and outputs `ω`. -/
structure Machine (σ ι ω : Type) where
  step : σ → ι → ω × σ

/-- One call of a run. -/
structure Call (σ ι ω : Type) where
  before : σ
  input : ι
  output : ω
  after : σ

namespace Machine

variable {σ ι ω : Type} (m : Machine σ ι ω)

/-- The call that `m` makes on input `i` in state `s`. -/
def call (s : σ) (i : ι) : Call σ ι ω := ⟨s, i, (m.step s i).1, (m.step s i).2⟩

/-- The state after the inputs `is`. -/
def final : σ → List ι → σ
  | s, [] => s
  | s, i :: is => final (m.step s i).2 is

/-- The calls of the run from `s` on the inputs `is`. -/
def trace : σ → List ι → List (Call σ ι ω)
  | _, [] => []
  | s, i :: is => m.call s i :: trace (m.step s i).2 is

@[simp] theorem call_before (s : σ) (i : ι) : (m.call s i).before = s := rfl
@[simp] theorem call_input (s : σ) (i : ι) : (m.call s i).input = i := rfl
@[simp] theorem call_output (s : σ) (i : ι) : (m.call s i).output = (m.step s i).1 := rfl
@[simp] theorem call_after (s : σ) (i : ι) : (m.call s i).after = (m.step s i).2 := rfl

@[simp] theorem final_nil (s : σ) : m.final s [] = s := rfl

@[simp] theorem final_cons (s : σ) (i : ι) (is : List ι) : m.final s (i :: is) = m.final (m.step s i).2 is := rfl

@[simp] theorem trace_nil (s : σ) : m.trace s [] = [] := rfl

@[simp] theorem trace_cons (s : σ) (i : ι) (is : List ι) :
    m.trace s (i :: is) = m.call s i :: m.trace (m.step s i).2 is := rfl

theorem final_append (is js : List ι) : ∀ s : σ, m.final s (is ++ js) = m.final (m.final s is) js := by
  induction is with
  | nil => intro s; rfl
  | cons i is ih => intro s; simp [ih]

theorem trace_append (is js : List ι) : ∀ s : σ, m.trace s (is ++ js) = m.trace s is ++ m.trace (m.final s is) js := by
  induction is with
  | nil => intro s; rfl
  | cons i is ih => intro s; simp [ih]

variable {m}

/-- A call of a run is a call that the machine makes in a state of the run. -/
theorem eq_call_of_mem {c : Call σ ι ω} : ∀ {is : List ι} {s : σ}, c ∈ m.trace s is → c = m.call c.before c.input
  | i :: is, s, h => by
    rw [trace_cons, List.mem_cons] at h
    rcases h with rfl | h
    · rfl
    · exact eq_call_of_mem h

section Invariant
variable {I : σ → Prop} (keep : ∀ s i, I s → I (m.step s i).2)
include keep

theorem inv_final : ∀ (is : List ι) {s : σ}, I s → I (m.final s is)
  | [], _, h => h
  | i :: is, s, h => inv_final is (keep s i h)

/-- Every call of a run starts in a state with the invariant. -/
theorem inv_before {c : Call σ ι ω} : ∀ {is : List ι} {s : σ}, I s → c ∈ m.trace s is → I c.before
  | i :: is, s, hs, h => by
    rw [trace_cons, List.mem_cons] at h
    rcases h with rfl | h
    · exact hs
    · exact inv_before (keep s i hs) h

/-- Once `A` has happened, `B` never does: `A` establishes `P`, every step keeps `P`, and `B` does not
    happen under `P`. -/
theorem never_after {P : σ → Prop} {A B : Call σ ι ω → Prop}
    (establish : ∀ s i, I s → A (m.call s i) → P (m.step s i).2)
    (stable : ∀ s i, I s → P s → P (m.step s i).2)
    (exclude : ∀ s i, I s → P s → ¬B (m.call s i)) (is : List ι) {s : σ} (hs : I s) :
    (m.trace s is).Pairwise fun a b => A a → ¬B b := by
  induction is generalizing s with
  | nil => exact List.Pairwise.nil
  | cons i is ih =>
    rw [trace_cons, List.pairwise_cons]
    refine ⟨fun b hb ha => ?_, ih (keep s i hs)⟩
    have keepBoth : ∀ s i, I s ∧ P s → I (m.step s i).2 ∧ P (m.step s i).2 :=
      fun s i h => ⟨keep s i h.1, stable s i h.1 h.2⟩
    have both : I b.before ∧ P b.before := inv_before keepBoth ⟨keep s i hs, establish s i hs ha⟩ hb
    rw [eq_call_of_mem hb]
    exact exclude _ _ both.1 both.2

end Invariant

/-- In a run whose calls are all `P`, every call starts in a state with an invariant that `P` calls keep. -/
theorem inv_calls {I : σ → Prop} {P : Call σ ι ω → Prop}
    (keep : ∀ s i, I s → P (m.call s i) → I (m.step s i).2) :
    ∀ (is : List ι) {s : σ}, I s → (∀ c ∈ m.trace s is, P c) → ∀ c ∈ m.trace s is, I c.before
  | [], _, _, _, c, hc => by cases hc
  | i :: is, s, hs, ok, c, hc => by
    rw [trace_cons, List.forall_mem_cons] at ok
    rw [trace_cons, List.mem_cons] at hc
    rcases hc with rfl | hc
    · exact hs
    · exact inv_calls keep is (keep s i hs ok.1) ok.2 c hc

theorem inv_past {I : σ → List (Call σ ι ω) → Prop} {Ok : Call σ ι ω → Prop}
    (keep : ∀ s i past, I s past → Ok (m.call s i) → I (m.step s i).2 (past ++ [m.call s i])) :
    ∀ (is : List ι) {s : σ} {past : List (Call σ ι ω)}, I s past → (∀ c ∈ m.trace s is, Ok c) →
      I (m.final s is) (past ++ m.trace s is)
  | [], _, _, h, _ => by simpa using h
  | i :: is, s, past, h, ok => by
    rw [trace_cons, List.forall_mem_cons] at ok
    have hnext := inv_past keep is (keep s i past h ok.1) ok.2
    rw [List.append_assoc] at hnext
    exact hnext

/-- An invariant between the state and the calls that led to it, for runs whose calls are all `Ok`. -/
theorem inv_history (I : σ → List (Call σ ι ω) → Prop) (Ok : Call σ ι ω → Prop)
    (keep : ∀ s i past, I s past → Ok (m.call s i) → I (m.step s i).2 (past ++ [m.call s i]))
    {s : σ} (h : I s []) (is : List ι) (ok : ∀ c ∈ m.trace s is, Ok c) : I (m.final s is) (m.trace s is) :=
  inv_past keep is h ok

/-- The calls before a call of a run are the run that leads to its state. -/
theorem trace_split {c : Call σ ι ω} {post : List (Call σ ι ω)} :
    ∀ {is : List ι} {s : σ} {pre : List (Call σ ι ω)}, m.trace s is = pre ++ c :: post →
      ∃ js i, m.trace s js = pre ∧ c = m.call (m.final s js) i
  | [], _, pre, h => by simp at h
  | i :: is, s, [], h => by
    rw [trace_cons, List.nil_append, List.cons.injEq] at h
    exact ⟨[], i, rfl, h.1.symm⟩
  | i :: is, s, a :: pre, h => by
    rw [trace_cons, List.cons_append, List.cons.injEq] at h
    obtain ⟨rfl, h⟩ := h
    obtain ⟨js, k, hpre, hc⟩ := trace_split h
    exact ⟨i :: js, k, by rw [trace_cons, hpre], hc⟩

/-- What is found in a later state was put there by an earlier call: if `P` fails at the start and a
    step makes `P` true only by an `A` call, a call that starts with `P` comes after an `A` call. -/
theorem exists_before {P : σ → Prop} {A : Call σ ι ω → Prop}
    (cause : ∀ s i, P (m.step s i).2 → P s ∨ A (m.call s i)) {c : Call σ ι ω} {post : List (Call σ ι ω)} :
    ∀ {is : List ι} {s : σ} {pre : List (Call σ ι ω)}, m.trace s is = pre ++ c :: post → P c.before →
      P s ∨ ∃ a ∈ pre, A a
  | [], _, pre, h, _ => by simp at h
  | i :: is, s, [], h, hc => by
    rw [trace_cons, List.nil_append, List.cons.injEq] at h
    rw [← h.1] at hc
    exact Or.inl hc
  | i :: is, s, a :: pre, h, hc => by
    rw [trace_cons, List.cons_append, List.cons.injEq] at h
    obtain ⟨rfl, h⟩ := h
    rcases exists_before cause h hc with hP | ⟨a, ha, hA⟩
    · rcases cause s i hP with hP | hA
      · exact Or.inl hP
      · exact Or.inr ⟨_, List.mem_cons_self, hA⟩
    · exact Or.inr ⟨a, List.mem_cons_of_mem _ ha, hA⟩

end Machine

/-! ### Records

A record keeps what has happened, the last first. It is justified when each entry has its grounds in those before
it. -/

section Records
variable {α : Type} {P : α → List α → Prop}

def Justified (P : α → List α → Prop) (record : List α) : Prop :=
  ∀ later a earlier, record = later ++ a :: earlier → P a earlier

theorem justified_nil : Justified P [] := by
  intro later a earlier h
  simp at h

theorem Justified.cons {a : α} {record : List α} (h : Justified P record) (ha : P a record) : Justified P (a :: record) := by
  intro later b earlier hsplit
  cases later with
  | nil =>
    cases hsplit
    exact ha
  | cons c later =>
    rw [List.cons_append, List.cons.injEq] at hsplit
    exact h later b earlier hsplit.2

theorem justified_cons_iff {a : α} {record : List α} : Justified P (a :: record) ↔ P a record ∧ Justified P record := by
  refine ⟨fun h => ⟨h [] a record rfl, ?_⟩, fun ⟨ha, h⟩ => h.cons ha⟩
  intro later b earlier hsplit
  exact h (a :: later) b earlier (by rw [hsplit, List.cons_append])

theorem Justified.mono {Q : α → List α → Prop} {record : List α} (h : Justified P record)
    (hPQ : ∀ a earlier, P a earlier → Q a earlier) : Justified Q record :=
  fun later a earlier hsplit => hPQ a earlier (h later a earlier hsplit)

end Records

/-! ### Histories

A history keeps what has happened, the first first. -/

section Histories
variable {α : Type} {P : List α → α → Prop}

/-- Each entry has its grounds in those before it. -/
def Grounded (P : List α → α → Prop) (history : List α) : Prop :=
  ∀ earlier a later, history = earlier ++ a :: later → P earlier a

theorem grounded_nil : Grounded P [] := by
  intro earlier a later h
  simp at h

theorem Grounded.concat {a : α} {history : List α} (h : Grounded P history) (ha : P history a) :
    Grounded P (history ++ [a]) := by
  intro earlier b later hsplit
  rcases List.eq_nil_or_concat later with rfl | ⟨init, last, rfl⟩
  · obtain ⟨rfl, hlast⟩ := List.append_inj' hsplit rfl
    cases hlast
    exact ha
  · rw [List.concat_eq_append, ← List.cons_append, ← List.append_assoc] at hsplit
    exact h earlier b init (List.append_inj' hsplit rfl).1

/-- Where an entry stands in a history that goes on. -/
theorem split_append {history news earlier later : List α} {a : α} (h : history ++ news = earlier ++ a :: later) :
    (∃ rest, history = earlier ++ a :: rest ∧ later = rest ++ news) ∨
      ∃ before, earlier = history ++ before ∧ news = before ++ a :: later := by
  rcases List.append_eq_append_iff.mp h with ⟨before, hearlier, hnews⟩ | ⟨rest, hhistory, hlater⟩
  · exact Or.inr ⟨before, hearlier, hnews⟩
  · cases rest with
    | nil => exact Or.inr ⟨[], by simpa using hhistory.symm, by simpa using hlater.symm⟩
    | cons first rest =>
      rw [List.cons_append, List.cons.injEq] at hlater
      obtain ⟨rfl, rfl⟩ := hlater
      exact Or.inl ⟨rest, hhistory, rfl⟩

theorem Grounded.of_append {later history : List α} (h : Grounded P (history ++ later)) : Grounded P history := by
  intro earlier a rest hsplit
  refine h earlier a (rest ++ later) ?_
  rw [hsplit, List.append_assoc, List.cons_append]

end Histories
end Runs
