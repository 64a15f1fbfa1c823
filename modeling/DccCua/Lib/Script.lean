import Mathlib.Logic.Basic

/-! # Programs that wait for answers

A program with state `σ` runs against a script: the list of the answers that its environment gives, one
after another. A statement about every script is a statement about every behaviour of the environment. A
program whose script ends while it waits is cut there, in the state it has reached: it was dropped, or it
waits still.

`Triple P prog Q C`: from a state and a script with `P`, the program ends with `Q` of its value, its state and
the rest of the script, or is cut in a state with `C`. -/

namespace Script

variable {σ ρ α β : Type}

inductive Ran (σ ρ α : Type) where
  | done (value : α) (state : σ) (rest : List ρ)
  | cut (state : σ)
  deriving DecidableEq, Repr

/-- The state in which a run ends. -/
def Ran.state : Ran σ ρ α → σ
  | .done _ s _ => s
  | .cut s => s

abbrev Prog (σ ρ α : Type) := σ → List ρ → Ran σ ρ α

namespace Prog

/-- End with `a`. -/
def ret (a : α) : Prog σ ρ α := fun s rest => .done a s rest

/-- One program after another. -/
def andThen (p : Prog σ ρ α) (f : α → Prog σ ρ β) : Prog σ ρ β := fun s script =>
  match p s script with
  | .done a s rest => f a s rest
  | .cut s => .cut s

/-- One program after another, unless the first one ends with an error. -/
def tryThen {ε : Type} (p : Prog σ ρ (Except ε α)) (f : α → Prog σ ρ (Except ε β)) : Prog σ ρ (Except ε β) :=
  p.andThen fun
    | .ok a => f a
    | .error e => ret (.error e)

/-- The program is dropped here. -/
def dropped : Prog σ ρ α := fun s _ => .cut s

/-- A step on the state alone. -/
def update (f : σ → α × σ) : Prog σ ρ α := fun s rest => .done (f s).1 (f s).2 rest

/-- Look at the state. -/
def read (f : σ → α) : Prog σ ρ α := update fun s => (f s, s)

/-- Handle one answer after another until one of them gives a value. -/
def await (handle : ρ → σ → Option α × σ) : Prog σ ρ α
  | s, [] => .cut s
  | s, answer :: rest =>
    match handle answer s with
    | (some a, s) => .done a s rest
    | (none, s) => await handle s rest

/-- Wait for an answer of the right kind. -/
def wait (answer : ρ → Option α) : Prog σ ρ α := await fun given s => (answer given, s)

/-- A program on a part of the state. -/
def within {τ : Type} (get : τ → σ) (put : τ → σ → τ) (p : Prog σ ρ α) : Prog τ ρ α := fun t script =>
  match p (get t) script with
  | .done a s rest => .done a (put t s) rest
  | .cut s => .cut (put t s)

/-- At most `n` rounds, until one of them gives a value. -/
def rounds (round : Prog σ ρ (Option α)) : Nat → Prog σ ρ α
  | 0 => dropped
  | n + 1 => round.andThen fun
    | some a => ret a
    | none => rounds round n

/-- Rounds until one of them gives a value. Each of them waits for an answer, so that no round comes after as many
    as there are answers. -/
def roundsUntil (round : Prog σ ρ (Option α)) : Prog σ ρ α := fun s script => rounds round (script.length + 1) s script

end Prog

theorem Prog.andThen_assoc {γ : Type} (p : Prog σ ρ α) (f : α → Prog σ ρ β) (g : β → Prog σ ρ γ) :
    (p.andThen f).andThen g = p.andThen fun a => (f a).andThen g := by
  funext s script
  unfold Prog.andThen
  cases p s script <;> rfl

/-- A program that ends so is gone on from there. -/
theorem Prog.andThen_done {p : Prog σ ρ α} {f : α → Prog σ ρ β} {s s' : σ} {a : α} {script rest : List ρ}
    (h : p s script = .done a s' rest) : p.andThen f s script = f a s' rest := by
  unfold Prog.andThen
  rw [h]

theorem Prog.andThen_cut {p : Prog σ ρ α} {f : α → Prog σ ρ β} {s s' : σ} {script : List ρ}
    (h : p s script = .cut s') : p.andThen f s script = .cut s' := by
  unfold Prog.andThen
  rw [h]

theorem Prog.update_done {f : σ → α × σ} {s s' : σ} {a : α} (h : f s = (a, s')) (rest : List ρ) :
    Prog.update f s rest = .done a s' rest := by
  unfold Prog.update
  rw [h]

theorem Prog.andThen_ret (a : α) (f : α → Prog σ ρ β) : (Prog.ret a).andThen f = f a := rfl

theorem Prog.andThen_update (f : σ → α × σ) (g : α → Prog σ ρ β) (s : σ) (script : List ρ) :
    (Prog.update f).andThen g s script = g (f s).1 (f s).2 script := rfl

theorem Prog.andThen_read (f : σ → α) (g : α → Prog σ ρ β) (s : σ) (script : List ρ) :
    (Prog.read f).andThen g s script = g (f s) s script := rfl

/-- A failing look at the state ends the program. -/
theorem Prog.tryThen_read_error {ε : Type} {f : σ → Except ε α} {g : α → Prog σ ρ (Except ε β)} {s : σ} {e : ε}
    (h : f s = .error e) (script : List ρ) : (Prog.read f).tryThen g s script = .done (.error e) s script := by
  unfold Prog.tryThen Prog.andThen Prog.read Prog.update
  dsimp only
  rw [h]
  rfl

theorem Prog.tryThen_read_ok {ε : Type} {f : σ → Except ε α} {g : α → Prog σ ρ (Except ε β)} {s : σ} {a : α}
    (h : f s = .ok a) (script : List ρ) : (Prog.read f).tryThen g s script = g a s script := by
  unfold Prog.tryThen Prog.andThen Prog.read Prog.update
  dsimp only
  rw [h]

theorem Prog.tryThen_ok {ε : Type} {p : Prog σ ρ (Except ε α)} {g : α → Prog σ ρ (Except ε β)} {s s' : σ} {a : α} {script rest : List ρ}
    (h : p s script = .done (.ok a) s' rest) : p.tryThen g s script = g a s' rest := by
  unfold Prog.tryThen
  rw [Prog.andThen_done h]

/-- A check that passes. -/
theorem Prog.tryThen_ret {ε : Type} {x : Except ε α} {a : α} (h : x = .ok a) {g : α → Prog σ ρ (Except ε β)} {s : σ} {script : List ρ} :
    (Prog.ret x).tryThen g s script = g a s script := by
  rw [h]
  rfl

theorem Prog.tryThen_error {ε : Type} {p : Prog σ ρ (Except ε α)} {g : α → Prog σ ρ (Except ε β)} {s s' : σ} {e : ε} {script rest : List ρ}
    (h : p s script = .done (.error e) s' rest) : p.tryThen g s script = .done (.error e) s' rest := by
  unfold Prog.tryThen
  rw [Prog.andThen_done h]
  rfl

theorem Prog.tryThen_cut {ε : Type} {p : Prog σ ρ (Except ε α)} {g : α → Prog σ ρ (Except ε β)} {s s' : σ} {script : List ρ}
    (h : p s script = .cut s') : p.tryThen g s script = .cut s' := Prog.andThen_cut h

/-- What a run has to end in. -/
def Ends (Q : α → σ → List ρ → Prop) (C : σ → Prop) : Ran σ ρ α → Prop
  | .done a s rest => Q a s rest
  | .cut s => C s

def Triple (P : σ → List ρ → Prop) (prog : Prog σ ρ α) (Q : α → σ → List ρ → Prop) (C : σ → Prop) : Prop :=
  ∀ s script, P s script → Ends Q C (prog s script)

section Rules
variable {P : σ → List ρ → Prop} {Q : α → σ → List ρ → Prop} {C : σ → Prop}

theorem triple_ret {a : α} (h : ∀ s rest, P s rest → Q a s rest) : Triple P (Prog.ret a) Q C :=
  fun s rest hs => h s rest hs

theorem triple_dropped (h : ∀ s rest, P s rest → C s) : Triple P Prog.dropped Q C :=
  fun s rest hs => h s rest hs

theorem triple_update {f : σ → α × σ} (h : ∀ s rest, P s rest → Q (f s).1 (f s).2 rest) :
    Triple P (Prog.update f) Q C :=
  fun s rest hs => h s rest hs

theorem triple_read {f : σ → α} (h : ∀ s rest, P s rest → Q (f s) s rest) : Triple P (Prog.read f) Q C :=
  triple_update h

theorem triple_andThen {R : β → σ → List ρ → Prop} {p : Prog σ ρ β} {f : β → Prog σ ρ α}
    (hp : Triple P p R C) (hf : ∀ b, Triple (R b) (f b) Q C) : Triple P (p.andThen f) Q C := by
  intro s script hs
  have hran := hp s script hs
  unfold Prog.andThen
  cases hrun : p s script with
  | done b s' rest =>
    rw [hrun] at hran
    exact hf b s' rest hran
  | cut s' =>
    rw [hrun] at hran
    exact hran

/-- The invariant of a wait is its precondition: an answer that gives no value keeps it. -/
theorem triple_await {handle : ρ → σ → Option α × σ} (hcut : ∀ s, P s [] → C s)
    (hstep : ∀ answer rest s, P s (answer :: rest) → match handle answer s with
      | (some a, s') => Q a s' rest
      | (none, s') => P s' rest) : Triple P (Prog.await handle) Q C := by
  intro s script
  induction script generalizing s with
  | nil => exact hcut s
  | cons answer rest ih =>
    intro hs
    have hnext := hstep answer rest s hs
    unfold Prog.await
    cases hhandle : handle answer s with
    | mk value s' =>
      rw [hhandle] at hnext
      cases value with
      | some a => exact hnext
      | none => exact ih s' hnext

theorem triple_wait {answer : ρ → Option α} (hcut : ∀ s, P s [] → C s)
    (hanswer : ∀ given rest s a, P s (given :: rest) → answer given = some a → Q a s rest)
    (hskip : ∀ given rest s, P s (given :: rest) → P s rest) : Triple P (Prog.wait answer) Q C := by
  refine triple_await hcut fun given rest s hs => ?_
  cases hgiven : answer given with
  | some a => exact hanswer given rest s a hs hgiven
  | none => exact hskip given rest s hs

/-- The rest of the state is left alone. -/
theorem triple_within {τ : Type} {get : τ → σ} {put : τ → σ → τ} {p : Prog σ ρ α} {P : τ → List ρ → Prop}
    {Q : α → τ → List ρ → Prop} {C : τ → Prop}
    (h : ∀ t, Triple (fun s rest => s = get t ∧ P t rest) p (fun a s rest => Q a (put t s) rest) fun s => C (put t s)) :
    Triple P (Prog.within get put p) Q C := by
  intro t script ht
  have hran := h t (get t) script ⟨rfl, ht⟩
  unfold Prog.within
  cases hrun : p (get t) script with
  | done a s rest =>
    rw [hrun] at hran
    exact hran
  | cut s =>
    rw [hrun] at hran
    exact hran

/-- A round that always gives a value is the only one. -/
theorem triple_roundsUntil_once {round : Prog σ ρ (Option α)}
    (h : Triple P round (fun outcome s rest => ∃ a, outcome = some a ∧ Q a s rest) C) : Triple P (Prog.roundsUntil round) Q C := by
  intro s script hs
  refine triple_andThen h (fun outcome => ?_) s script hs
  cases outcome with
  | some a =>
    refine triple_ret fun s rest hs => ?_
    obtain ⟨a', hsome, hQ⟩ := hs
    cases hsome
    exact hQ
  | none =>
    intro s rest hs
    obtain ⟨a, hnone, -⟩ := hs
    cases hnone

/-- The invariant of the rounds is their precondition. -/
theorem triple_rounds {I : σ → Prop} {S : α → σ → Prop} {round : Prog σ ρ (Option α)} (hcut : ∀ s, I s → C s)
    (h : Triple (fun s _ => I s) round (fun outcome s _ => outcome.elim (I s) fun a => S a s) C) :
    ∀ n, Triple (fun s _ => I s) (Prog.rounds round n) (fun a s _ => S a s) C
  | 0 => triple_dropped fun s _ hs => hcut s hs
  | n + 1 => triple_andThen h fun outcome => by
    cases outcome with
    | some a => exact triple_ret fun _ _ hs => hs
    | none => exact triple_rounds hcut h n

theorem triple_roundsUntil {I : σ → Prop} {S : α → σ → Prop} {round : Prog σ ρ (Option α)} (hcut : ∀ s, I s → C s)
    (h : Triple (fun s _ => I s) round (fun outcome s _ => outcome.elim (I s) fun a => S a s) C) :
    Triple (fun s _ => I s) (Prog.roundsUntil round) (fun a s _ => S a s) C :=
  fun s script hs => triple_rounds hcut h (script.length + 1) s script hs

theorem triple_weaken {R : σ → List ρ → Prop} {S : α → σ → List ρ → Prop} {prog : Prog σ ρ α} (h : Triple R prog S C)
    (hP : ∀ s rest, P s rest → R s rest) (hQ : ∀ a s rest, S a s rest → Q a s rest) : Triple P prog Q C := by
  intro s script hs
  have hran := h s script (hP s script hs)
  cases hrun : prog s script with
  | done a s' rest =>
    rw [hrun] at hran
    exact hQ a s' rest hran
  | cut s' =>
    rw [hrun] at hran
    exact hran

/-- A fact that does not depend on the state. -/
theorem triple_fact {fact : Prop} {prog : Prog σ ρ α} (h : fact → Triple P prog Q C) :
    Triple (fun s rest => P s rest ∧ fact) prog Q C :=
  fun s script hs => h hs.2 s script hs.1

theorem triple_exists {γ : Type} {P : γ → σ → List ρ → Prop} {prog : Prog σ ρ α} (h : ∀ c, Triple (P c) prog Q C) :
    Triple (fun s rest => ∃ c, P c s rest) prog Q C :=
  fun s script hs => hs.elim fun c hc => h c s script hc

theorem triple_cut {D : σ → Prop} {prog : Prog σ ρ α} (h : Triple P prog Q D) (hC : ∀ s, D s → C s) :
    Triple P prog Q C := by
  intro s script hs
  have hran := h s script hs
  cases hrun : prog s script with
  | done a s' rest =>
    rw [hrun] at hran
    exact hran
  | cut s' =>
    rw [hrun] at hran
    exact hC s' hran

theorem triple_and {Q₁ Q₂ : α → σ → List ρ → Prop} {P₁ P₂ : σ → List ρ → Prop} {prog : Prog σ ρ α}
    (h₁ : Triple P₁ prog Q₁ C) (h₂ : Triple P₂ prog Q₂ C) :
    Triple (fun s rest => P₁ s rest ∧ P₂ s rest) prog (fun a s rest => Q₁ a s rest ∧ Q₂ a s rest) C := by
  intro s script hs
  have hran₁ := h₁ s script hs.1
  have hran₂ := h₂ s script hs.2
  cases hrun : prog s script with
  | done a s' rest =>
    rw [hrun] at hran₁ hran₂
    exact ⟨hran₁, hran₂⟩
  | cut s' =>
    rw [hrun] at hran₁
    exact hran₁

theorem triple_true (prog : Prog σ ρ α) : Triple P prog (fun _ _ _ => True) fun _ => True := by
  intro s script _
  cases prog s script <;> trivial

end Rules

/-! ### Programs with errors -/

/-- A postcondition from one for values and one for errors. -/
def orError {ε : Type} (R : α → σ → List ρ → Prop) (E : ε → σ → List ρ → Prop) : Except ε α → σ → List ρ → Prop
  | .ok a => R a
  | .error e => E e

theorem triple_tryThen {ε : Type} {P : σ → List ρ → Prop} {R : α → σ → List ρ → Prop}
    {Q : Except ε β → σ → List ρ → Prop} {C : σ → Prop} {p : Prog σ ρ (Except ε α)} {f : α → Prog σ ρ (Except ε β)}
    (hp : Triple P p (orError R fun e => Q (.error e)) C) (hf : ∀ a, Triple (R a) (f a) Q C) :
    Triple P (p.tryThen f) Q C := by
  refine triple_andThen hp fun result => ?_
  cases result with
  | ok a => exact hf a
  | error e => exact triple_ret fun s rest hs => hs

/-! ### Invariants -/

/-- The program keeps `I`, wherever it ends. -/
def Keeps (I : σ → Prop) (prog : Prog σ ρ α) : Prop := Triple (fun s _ => I s) prog (fun _ s _ => I s) I

section Invariants
variable {I : σ → Prop} {ε : Type}

theorem Keeps.state {prog : Prog σ ρ α} (h : Keeps I prog) {s : σ} (hs : I s) (script : List ρ) :
    I (prog s script).state := by
  have hran := h s script hs
  cases hrun : prog s script with
  | done a s' rest =>
    rw [hrun] at hran
    exact hran
  | cut s' =>
    rw [hrun] at hran
    exact hran

/-- An invariant beside what a program does. -/
theorem triple_keeping {P : σ → List ρ → Prop} {Q : α → σ → List ρ → Prop} {C : σ → Prop} {prog : Prog σ ρ α}
    (h : Triple P prog Q C) (hkeeps : Keeps I prog) :
    Triple (fun s rest => P s rest ∧ I s) prog (fun a s rest => Q a s rest ∧ I s) C := by
  intro s script hs
  have hran := h s script hs.1
  have hkept := hkeeps s script hs.2
  cases hrun : prog s script with
  | done a s' rest =>
    rw [hrun] at hran hkept
    exact ⟨hran, hkept⟩
  | cut s' =>
    rw [hrun] at hran
    exact hran

theorem keeps_ret (a : α) : Keeps I (Prog.ret a : Prog σ ρ α) := triple_ret fun _ _ h => h

theorem keeps_dropped : Keeps I (Prog.dropped : Prog σ ρ α) := triple_dropped fun _ _ h => h

theorem keeps_update {f : σ → α × σ} (h : ∀ s, I s → I (f s).2) : Keeps I (Prog.update f : Prog σ ρ α) :=
  triple_update fun s _ hs => h s hs

theorem keeps_read {f : σ → α} : Keeps I (Prog.read f : Prog σ ρ α) := triple_read fun _ _ h => h

theorem keeps_andThen {p : Prog σ ρ β} {f : β → Prog σ ρ α} (hp : Keeps I p) (hf : ∀ b, Keeps I (f b)) :
    Keeps I (p.andThen f) := triple_andThen hp hf

theorem keeps_tryThen {p : Prog σ ρ (Except ε α)} {f : α → Prog σ ρ (Except ε β)} (hp : Keeps I p)
    (hf : ∀ a, Keeps I (f a)) : Keeps I (p.tryThen f) := by
  refine keeps_andThen hp fun result => ?_
  cases result with
  | ok a => exact hf a
  | error e => exact keeps_ret _

theorem keeps_await {handle : ρ → σ → Option α × σ} (h : ∀ answer s, I s → I (handle answer s).2) :
    Keeps I (Prog.await handle) := by
  refine triple_await (fun _ hs => hs) fun answer rest s hs => ?_
  have hnext := h answer s hs
  cases hhandle : handle answer s with
  | mk value s' =>
    rw [hhandle] at hnext
    cases value <;> exact hnext

theorem keeps_rounds {round : Prog σ ρ (Option α)} (h : Keeps I round) : ∀ n, Keeps I (Prog.rounds round n)
  | 0 => keeps_dropped
  | n + 1 => keeps_andThen h fun
    | some a => keeps_ret a
    | none => keeps_rounds h n

theorem keeps_roundsUntil {round : Prog σ ρ (Option α)} (h : Keeps I round) : Keeps I (Prog.roundsUntil round) :=
  fun s script hs => keeps_rounds h (script.length + 1) s script hs

end Invariants

/-! ### Invariants of programs that go on -/

/-- The program keeps `F` as long as it goes on; with an error, or where it is cut, it ends in `I`. -/
def KeepsOr {ε : Type} (F I : σ → Prop) (prog : Prog σ ρ (Except ε α)) : Prop :=
  Triple (fun s _ => F s) prog (orError (fun _ s _ => F s) fun _ s _ => I s) I

section GoingOn
variable {F I : σ → Prop} {ε : Type}

theorem keepsOr_tryThen {p : Prog σ ρ (Except ε α)} {f : α → Prog σ ρ (Except ε β)} (hp : KeepsOr F I p)
    (hf : ∀ a, KeepsOr F I (f a)) : KeepsOr F I (p.tryThen f) := triple_tryThen hp hf

theorem keepsOr_ret (weaken : ∀ s, F s → I s) (result : Except ε α) : KeepsOr F I (Prog.ret result : Prog σ ρ _) := by
  refine triple_ret fun s _ hs => ?_
  cases result with
  | ok a => exact hs
  | error e => exact weaken s hs

theorem keepsOr_update {f : σ → Except ε α × σ} (h : ∀ s, F s → match (f s).1 with
    | .ok _ => F (f s).2
    | .error _ => I (f s).2) : KeepsOr F I (Prog.update f : Prog σ ρ _) := by
  refine triple_update fun s _ hs => ?_
  have hnext := h s hs
  cases hresult : (f s).1 with
  | ok a =>
    rw [hresult] at hnext
    exact hnext
  | error e =>
    rw [hresult] at hnext
    exact hnext

theorem keepsOr_read (weaken : ∀ s, F s → I s) (f : σ → Except ε α) : KeepsOr F I (Prog.read f : Prog σ ρ _) := by
  refine keepsOr_update fun s hs => ?_
  cases hresult : f s with
  | ok a => exact hs
  | error e => exact weaken s hs

/-- With one invariant for both ends a program keeps it. -/
theorem KeepsOr.keeps {prog : Prog σ ρ (Except ε α)} (h : KeepsOr I I prog) : Keeps I prog := by
  refine triple_weaken h (fun _ _ hs => hs) fun result s rest hs => ?_
  cases result with
  | ok a => exact hs
  | error e => exact hs

theorem Keeps.keepsOr {prog : Prog σ ρ (Except ε α)} (h : Keeps I prog) : KeepsOr I I prog := by
  refine triple_weaken h (fun _ _ hs => hs) fun result s rest hs => ?_
  cases result with
  | ok a => exact hs
  | error e => exact hs

end GoingOn

end Script
