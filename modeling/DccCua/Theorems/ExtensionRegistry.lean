import DccCua.Host.ExtensionRegistry
import DccCua.Theorems.ExtensionCalls

/-! # What a call of an extension gets

A response reaches a call through the sender that was pending under its id with its provider, so it carries that id and comes
from that provider. The id is drawn for one call, which stops receiving once it has its response. The fields that the Host
binds are not among the params, so they are what the Host put there when the command is handed to a poll. -/

namespace DccCua
namespace BrowserExtension

open Runs Checks ExtensionRegistry

variable {sha256 : String → String}

/-! ### Statements -/

abbrev RegistryCall := Call ExtensionRegistry RegistryStep RegistryOutput

/-- The owner of a provider, also of one that has left. -/
def ExtensionRegistry.ownerOf (s : ExtensionRegistry) (providerId : String) : Option String :=
  (s.held providerId).bind (·.provider.owner)

/-- A completion with the response was let in under the secret of the provider. -/
def CompletedBy (s : ExtensionRegistry) (providerId : String) (response : Json) : Prop :=
  ∃ completion ∈ s.completions, completion.providerId = providerId ∧ completion.response = response ∧
    ∃ held, s.held providerId = some held ∧ completion.secret = held.provider.secret

/-- The call that gets the response is the only one with the id that the response carries, and the response is from its
    provider. -/
def AnsweredByProvider (c : RegistryCall) : Prop :=
  ∀ call response, c.output = .answered call response →
    ∃ run requestId, c.before.calls[call]? = some run ∧ run.requestId = some requestId ∧ responseId response = .ok requestId ∧
      (∀ (other : Nat) (otherRun : CallRun), c.before.calls[other]? = some otherRun → otherRun.requestId = some requestId →
        other = call) ∧
      CompletedBy c.before run.providerId response

/-- The command is that of a call of the provider: each name that the Host keeps for itself has the value of the Host. The owner
    is the one that the provider had when the command was built, if it had one. -/
def BoundCommand (sha256 : String → String) (s : ExtensionRegistry) (providerId : String) (command : Json) : Prop :=
  ∃ (call : Nat) (run : CallRun) (requestId : String) (held : HeldProvider) (owner : Option String) (nowUnixMs : Nat),
    s.calls[call]? = some run ∧ run.providerId = providerId ∧ run.requestId = some requestId ∧
      s.held providerId = some held ∧ (owner = none ∨ owner = held.provider.owner) ∧
      ∀ name ∈ forbiddenParams, command.get name =
        (Json.obj (boundFields sha256 { held.provider with owner := owner } run.method requestId
          (saturatingAdd nowUnixMs run.timeoutMs))).get name

/-! ### Requests go on -/

/-- The call receives nothing more. -/
def CallStage.isOver : CallStage → Bool
  | .received _ | .unsent | .unanswered _ | .done => true
  | _ => false

/-- What does not change in a call that goes on. -/
structure CallRun.Continues (a b : CallRun) : Prop where
  providerId : b.providerId = a.providerId
  method : b.method = a.method
  timeoutMs : b.timeoutMs = a.timeoutMs
  requestId : ∀ requestId, a.requestId = some requestId → b.requestId = some requestId
  ended : a.stage.isOver = true → b.stage.isOver = true

/-- A provider may get an owner, and keeps it. -/
structure HeldProvider.Continues (a b : HeldProvider) : Prop where
  provider : ∃ owner, b.provider = { a.provider with owner := owner }
  owner : ∀ owner, a.provider.owner = some owner → b.provider.owner = some owner

structure Grows (s t : ExtensionRegistry) : Prop where
  held : ∀ (id : String) (held : HeldProvider), s.held id = some held → ∃ held', t.held id = some held' ∧ held.Continues held'
  calls : ∀ (call : Nat) (run : CallRun), s.calls[call]? = some run → ∃ run', t.calls[call]? = some run' ∧ run.Continues run'
  completions : ∀ completion ∈ s.completions, ∃ completion' ∈ t.completions,
    completion'.providerId = completion.providerId ∧ completion'.response = completion.response ∧
      completion'.secret = completion.secret

section Grows
variable {s t u : ExtensionRegistry}

theorem CallRun.Continues.refl (a : CallRun) : a.Continues a := ⟨rfl, rfl, rfl, fun _ h => h, fun h => h⟩

theorem HeldProvider.Continues.refl (a : HeldProvider) : a.Continues a := ⟨⟨a.provider.owner, rfl⟩, fun _ h => h⟩

theorem CallRun.Continues.trans {a b c : CallRun} (h : a.Continues b) (h' : b.Continues c) : a.Continues c where
  providerId := h'.providerId.trans h.providerId
  method := h'.method.trans h.method
  timeoutMs := h'.timeoutMs.trans h.timeoutMs
  requestId r hr := h'.requestId r (h.requestId r hr)
  ended hover := h'.ended (h.ended hover)

theorem HeldProvider.Continues.trans {a b c : HeldProvider} (h : a.Continues b) (h' : b.Continues c) : a.Continues c where
  provider := by
    obtain ⟨owner, hb⟩ := h.provider
    obtain ⟨owner', hc⟩ := h'.provider
    exact ⟨owner', by rw [hc, hb]⟩
  owner owner ho := h'.owner owner (h.owner owner ho)

theorem Grows.of_eq (hheld : t.held = s.held) (hcalls : t.calls = s.calls) (hcompletions : t.completions = s.completions) :
    Grows s t where
  held _ held h := ⟨held, hheld ▸ h, .refl held⟩
  calls _ run h := ⟨run, hcalls ▸ h, .refl run⟩
  completions completion h := ⟨completion, hcompletions ▸ h, rfl, rfl, rfl⟩

theorem Grows.trans (h : Grows s t) (h' : Grows t u) : Grows s u where
  held id held hs := by
    obtain ⟨heldT, ht, hst⟩ := h.held id held hs
    obtain ⟨heldU, hu, htu⟩ := h'.held id heldT ht
    exact ⟨heldU, hu, hst.trans htu⟩
  calls call run hs := by
    obtain ⟨runT, ht, hst⟩ := h.calls call run hs
    obtain ⟨runU, hu, htu⟩ := h'.calls call runT ht
    exact ⟨runU, hu, hst.trans htu⟩
  completions completion hs := by
    obtain ⟨completionT, ht, hid, hresponse, hsecret⟩ := h.completions completion hs
    obtain ⟨completionU, hu, hid', hresponse', hsecret'⟩ := h'.completions completionT ht
    exact ⟨completionU, hu, hid'.trans hid, hresponse'.trans hresponse, hsecret'.trans hsecret⟩

theorem setAt_eq_some {α : Type} {f : String → Option α} {name other : String} {value found : α}
    (h : setAt f name value other = some found) : (other = name ∧ found = value) ∨ f other = some found := by
  unfold setAt at h
  split at h
  · rename_i heq
    exact Or.inl ⟨heq, (Option.some.inj h).symm⟩
  · exact Or.inr h

theorem grows_hold {id : String} {held held' : HeldProvider} (hheld : s.held id = some held) (hgoes : held.Continues held') :
    Grows s (s.hold id held') where
  held other found h := by
    by_cases heq : other = id
    · subst heq
      rw [hheld, Option.some.injEq] at h
      exact ⟨held', if_pos rfl, h ▸ hgoes⟩
    · exact ⟨found, (if_neg heq).trans h, .refl found⟩
  calls _ run h := ⟨run, h, .refl run⟩
  completions completion h := ⟨completion, h, rfl, rfl, rfl⟩

theorem getElem?_set_cases {α : Type} {xs : List α} {i j : Nat} {x y : α} (h : (xs.set i x)[j]? = some y) :
    (j = i ∧ y = x) ∨ xs[j]? = some y := by
  rw [List.getElem?_set] at h
  split at h
  · rename_i heq
    split at h
    · exact Or.inl ⟨heq.symm, (Option.some.inj h).symm⟩
    · cases h
  · exact Or.inr h

theorem grows_setCall {call : Nat} {run run' : CallRun} (hrun : s.calls[call]? = some run) (hgoes : run.Continues run') :
    Grows s (s.setCall call run') where
  held _ held h := ⟨held, h, .refl held⟩
  calls other found h := by
    by_cases heq : call = other
    · subst heq
      rw [hrun, Option.some.injEq] at h
      refine ⟨run', ?_, h ▸ hgoes⟩
      show (s.calls.set call run')[call]? = some run'
      rw [List.getElem?_set_self (List.getElem?_eq_some_iff.mp hrun).1]
    · refine ⟨found, ?_, .refl found⟩
      show (s.calls.set call run')[other]? = some found
      rw [List.getElem?_set_ne heq, h]
  completions completion h := ⟨completion, h, rfl, rfl, rfl⟩

theorem grows_setStage {call : Nat} {run : CallRun} (hrun : s.calls[call]? = some run) {stage : CallStage}
    (hover : run.stage.isOver = true → stage.isOver = true) : Grows s (s.setCall call { run with stage := stage }) :=
  grows_setCall hrun ⟨rfl, rfl, rfl, fun _ hid => hid, hover⟩

theorem grows_addCall (run : CallRun) : Grows s { s with calls := s.calls ++ [run] } where
  held _ held h := ⟨held, h, .refl held⟩
  calls call found h := ⟨found, by
    show (s.calls ++ [run])[call]? = some found
    rw [List.getElem?_append_left (List.getElem?_eq_some_iff.mp h).1, h], .refl found⟩
  completions completion h := ⟨completion, h, rfl, rfl, rfl⟩

theorem grows_addCompletion (run : CompletionRun) : Grows s { s with completions := s.completions ++ [run] } where
  held _ held h := ⟨held, h, .refl held⟩
  calls _ found h := ⟨found, h, .refl found⟩
  completions completion h := ⟨completion, List.mem_append_left _ h, rfl, rfl, rfl⟩

theorem grows_setCompletion {completion : Nat} {run : CompletionRun} (hrun : s.completions[completion]? = some run)
    (stage : CompletionStage) : Grows s (s.setCompletion completion run stage) where
  held _ held h := ⟨held, h, .refl held⟩
  calls _ found h := ⟨found, h, .refl found⟩
  completions other h := by
    obtain ⟨i, hi⟩ := List.getElem?_of_mem h
    by_cases heq : completion = i
    · subst heq
      rw [hrun, Option.some.injEq] at hi
      refine ⟨{ run with stage := stage }, ?_, by rw [hi], by rw [hi], by rw [hi]⟩
      exact List.mem_of_getElem? (List.getElem?_set_self (List.getElem?_eq_some_iff.mp hrun).1)
    · exact ⟨other, List.mem_of_getElem? ((List.getElem?_set_ne heq).trans hi), rfl, rfl, rfl⟩

/-- A provider that is registered under a new id. -/
theorem grows_register {id : String} {held : HeldProvider} (hnew : s.held id = none) : Grows s (s.hold id held) where
  held other found h := by
    have hne : other ≠ id := fun heq => by rw [heq, hnew] at h; cases h
    exact ⟨found, (if_neg hne).trans h, .refl found⟩
  calls _ run h := ⟨run, h, .refl run⟩
  completions completion h := ⟨completion, h, rfl, rfl, rfl⟩

end Grows

/-! ### What holds of the ids -/

/-- A call of the provider has the id. -/
def HasCall (s : ExtensionRegistry) (providerId requestId : String) : Prop :=
  ∃ run ∈ s.calls, run.providerId = providerId ∧ run.requestId = some requestId

/-- What `s` holds of ids and commands has its grounds in `t`. -/
structure Grounds (sha256 : String → String) (s t : ExtensionRegistry) : Prop where
  pending : ∀ id held, s.held id = some held → ∀ requestId ∈ held.pending, HasCall t id requestId
  queued : ∀ id held, s.held id = some held → ∀ command ∈ held.queue, BoundCommand sha256 t id command
  built : ∀ run ∈ s.calls, ∀ command, run.stage = .built command ∨ run.stage = .sending command →
    BoundCommand sha256 t run.providerId command
  took : ∀ completion ∈ s.completions, ∀ requestId, completion.stage = .took requestId →
    responseId completion.response = .ok requestId ∧ HasCall t completion.providerId requestId
  secret : ∀ completion ∈ s.completions, ∃ held, t.held completion.providerId = some held ∧
    completion.secret = held.provider.secret
  sent : ∀ requestId response, s.sent requestId = some response →
    responseId response = .ok requestId ∧ ∃ providerId, HasCall t providerId requestId ∧ CompletedBy t providerId response

/-- The call has not built its command. -/
def CallStage.isUnbuilt : CallStage → Bool
  | .found | .ready => true
  | _ => false

structure RegistryInv (sha256 : String → String) (s : ExtensionRegistry) : Prop where
  heldDrawn : ∀ id held, s.held id = some held → id ∈ s.drawn
  callDrawn : ∀ run ∈ s.calls, ∀ requestId, run.requestId = some requestId → requestId ∈ s.drawn
  distinct : ∀ (call other : Nat) (run otherRun : CallRun) (requestId : String), s.calls[call]? = some run →
    s.calls[other]? = some otherRun → run.requestId = some requestId → otherRun.requestId = some requestId → other = call
  unbuilt : ∀ run ∈ s.calls, run.stage.isUnbuilt = true → run.requestId = none
  grounds : Grounds sha256 s s

section Monotone
variable {s t : ExtensionRegistry} (g : Grows s t)
include g

theorem HasCall.mono {providerId requestId : String} (h : HasCall s providerId requestId) : HasCall t providerId requestId := by
  obtain ⟨run, hrun, hprovider, hid⟩ := h
  obtain ⟨call, hcall⟩ := List.getElem?_of_mem hrun
  obtain ⟨run', hcall', hgoes⟩ := g.calls call run hcall
  exact ⟨run', List.mem_of_getElem? hcall', hgoes.providerId.trans hprovider, hgoes.requestId _ hid⟩

theorem Grows.secret {providerId secret : String} (h : ∃ held, s.held providerId = some held ∧ secret = held.provider.secret) :
    ∃ held, t.held providerId = some held ∧ secret = held.provider.secret := by
  obtain ⟨held, hheld, hsecret⟩ := h
  obtain ⟨held', hheld', hgoes⟩ := g.held providerId held hheld
  obtain ⟨owner, hsame⟩ := hgoes.provider
  exact ⟨held', hheld', by rw [hsecret, hsame]⟩

theorem CompletedBy.mono {providerId : String} {response : Json} (h : CompletedBy s providerId response) :
    CompletedBy t providerId response := by
  obtain ⟨completion, hmem, hprovider, hresponse, held⟩ := h
  obtain ⟨completion', hmem', hprovider', hresponse', hsecret⟩ := g.completions completion hmem
  exact ⟨completion', hmem', hprovider'.trans hprovider, hresponse'.trans hresponse, hsecret ▸ g.secret held⟩

theorem BoundCommand.mono {providerId : String} {command : Json} (h : BoundCommand sha256 s providerId command) :
    BoundCommand sha256 t providerId command := by
  obtain ⟨call, run, requestId, held, owner, now, hcall, hprovider, hid, hheld, howner, hbound⟩ := h
  obtain ⟨run', hcall', hgoes⟩ := g.calls call run hcall
  obtain ⟨held', hheld', hholds⟩ := g.held providerId held hheld
  obtain ⟨owner', hsame⟩ := hholds.provider
  refine ⟨call, run', requestId, held', owner, now, hcall', hgoes.providerId.trans hprovider, hgoes.requestId _ hid, hheld',
    ?_, fun name hname => ?_⟩
  · cases owner with
    | none => exact Or.inl rfl
    | some owner =>
      have hold : held.provider.owner = some owner := (howner.resolve_left (Option.some_ne_none owner)).symm
      exact Or.inr (hholds.owner owner hold).symm
  · rw [hbound name hname, hgoes.method, hgoes.timeoutMs, hsame]

theorem RegistryInv.grow (h : RegistryInv sha256 s) : Grounds sha256 s t where
  pending id held hs requestId hmem := (h.grounds.pending id held hs requestId hmem).mono g
  queued id held hs command hmem := (h.grounds.queued id held hs command hmem).mono g
  built run hmem command hstage := (h.grounds.built run hmem command hstage).mono g
  took completion hmem requestId hstage := (h.grounds.took completion hmem requestId hstage).imp_right (·.mono g)
  secret completion hmem := g.secret (h.grounds.secret completion hmem)
  sent requestId response hs := by
    obtain ⟨hid, providerId, hcall, hcompleted⟩ := h.grounds.sent requestId response hs
    exact ⟨hid, providerId, hcall.mono g, hcompleted.mono g⟩

end Monotone

/-- A provider keeps the owner that it has. -/
theorem Grows.owners {s t : ExtensionRegistry} (g : Grows s t) (id owner : String) (howner : s.ownerOf id = some owner) :
    t.ownerOf id = some owner := by
  obtain ⟨held, hheld, howner⟩ := Option.bind_eq_some_iff.mp howner
  obtain ⟨held', hheld', hgoes⟩ := g.held id held hheld
  exact Option.bind_eq_some_iff.mpr ⟨held', hheld', hgoes.owner owner howner⟩

/-- What a step from `s` to `t` keeps. -/
structure Kept (sha256 : String → String) (s t : ExtensionRegistry) : Prop where
  inv : RegistryInv sha256 t
  grows : Grows s t

theorem RegistryInv.refl {s : ExtensionRegistry} (h : RegistryInv sha256 s) : Kept sha256 s s := ⟨h, .of_eq rfl rfl rfl⟩

theorem Kept.trans {s t u : ExtensionRegistry} (h : Kept sha256 s t) (h' : Kept sha256 t u) : Kept sha256 s u :=
  ⟨h'.inv, h.grows.trans h'.grows⟩

/-! ### Every step keeps them -/

theorem getElem?_concat_cases {α : Type} {xs : List α} {i : Nat} {x y : α} (h : (xs ++ [x])[i]? = some y) :
    xs[i]? = some y ∨ (i = xs.length ∧ y = x) := by
  rw [List.getElem?_append] at h
  split at h
  · exact Or.inl h
  · rename_i hlength
    rw [List.getElem?_singleton] at h
    split at h
    · exact Or.inr ⟨by omega, (Option.some.inj h).symm⟩
    · cases h

section Updates
variable {s t : ExtensionRegistry} (h : RegistryInv sha256 s)
include h

/-- What the requests that only look at the registry change. -/
theorem RegistryInv.of_eq (hdrawn : t.drawn = s.drawn) (hheld : t.held = s.held) (hcalls : t.calls = s.calls)
    (hcompletions : t.completions = s.completions) (hsent : t.sent = s.sent) : Kept sha256 s t := by
  have g : Grows s t := .of_eq hheld hcalls hcompletions
  have grown := h.grow g
  refine ⟨⟨?_, ?_, ?_, ?_, ?_, ?_, ?_, ?_, ?_, ?_⟩, g⟩
  · rw [hheld, hdrawn]
    exact h.heldDrawn
  · rw [hcalls, hdrawn]
    exact h.callDrawn
  · rw [hcalls]
    exact h.distinct
  · rw [hcalls]
    exact h.unbuilt
  · rw [hheld]
    exact grown.pending
  · rw [hheld]
    exact grown.queued
  · rw [hcalls]
    exact grown.built
  · rw [hcompletions]
    exact grown.took
  · rw [hcompletions]
    exact grown.secret
  · rw [hsent]
    exact grown.sent

/-- What a provider holds is from its calls. -/
theorem RegistryInv.hold {id : String} {held held' : HeldProvider} (hheld : s.held id = some held)
    (hgoes : held.Continues held') (hpending : ∀ requestId ∈ held'.pending, HasCall s id requestId)
    (hqueued : ∀ command ∈ held'.queue, BoundCommand sha256 s id command) : Kept sha256 s (s.hold id held') := by
  have g : Grows s (s.hold id held') := grows_hold hheld hgoes
  refine ⟨{ h with heldDrawn := ?_, grounds := { h.grow g with pending := ?_, queued := ?_ } }, g⟩
  · intro other found hfound
    rcases setAt_eq_some hfound with ⟨rfl, -⟩ | hold
    · exact h.heldDrawn other held hheld
    · exact h.heldDrawn other found hold
  · intro other found hfound requestId hmem
    rcases setAt_eq_some hfound with ⟨rfl, rfl⟩ | hold
    · exact (hpending requestId hmem).mono g
    · exact (h.grow g).pending other found hold requestId hmem
  · intro other found hfound command hmem
    rcases setAt_eq_some hfound with ⟨rfl, rfl⟩ | hold
    · exact (hqueued command hmem).mono g
    · exact (h.grow g).queued other found hold command hmem

/-- A new stage of a call. -/
theorem RegistryInv.setStage {call : Nat} {run : CallRun} (hrun : s.calls[call]? = some run) {stage : CallStage}
    (hover : run.stage.isOver = true → stage.isOver = true) (hunbuilt : stage.isUnbuilt = true → run.requestId = none)
    (hbuilt : ∀ command, stage = .built command ∨ stage = .sending command → BoundCommand sha256 s run.providerId command) :
    Kept sha256 s (s.setCall call { run with stage := stage }) := by
  have g : Grows s (s.setCall call { run with stage := stage }) := grows_setStage hrun hover
  have hmemRun := List.mem_of_getElem? hrun
  refine ⟨{ h with callDrawn := ?_, distinct := ?_, unbuilt := ?_, grounds := { h.grow g with built := ?_ } }, g⟩
  · intro other hmem requestId hother
    rcases List.mem_or_eq_of_mem_set hmem with hmem | rfl
    · exact h.callDrawn other hmem requestId hother
    · exact h.callDrawn run hmemRun requestId hother
  · intro i j a b requestId ha hb haid hbid
    rcases getElem?_set_cases ha with ⟨rfl, rfl⟩ | ha'
    · rcases getElem?_set_cases hb with ⟨rfl, -⟩ | hb'
      · rfl
      · exact h.distinct i j run b requestId hrun hb' haid hbid
    · rcases getElem?_set_cases hb with ⟨rfl, rfl⟩ | hb'
      · exact h.distinct i j a run requestId ha' hrun haid hbid
      · exact h.distinct i j a b requestId ha' hb' haid hbid
  · intro other hmem hother
    rcases List.mem_or_eq_of_mem_set hmem with hmem | rfl
    · exact h.unbuilt other hmem hother
    · exact hunbuilt hother
  · intro other hmem command hstage
    rcases List.mem_or_eq_of_mem_set hmem with hmem | rfl
    · exact (h.grow g).built other hmem command hstage
    · exact (hbuilt command hstage).mono g

theorem RegistryInv.setOver {call : Nat} {run : CallRun} (hrun : s.calls[call]? = some run) {stage : CallStage}
    (hover : stage.isOver = true) : Kept sha256 s (s.setCall call { run with stage := stage }) := by
  refine h.setStage hrun (fun _ => hover) (fun hunbuilt => ?_) fun command hstage => ?_
  · cases stage <;> simp [CallStage.isOver, CallStage.isUnbuilt] at hover hunbuilt
  · rcases hstage with rfl | rfl
    · cases hover
    · cases hover

theorem RegistryInv.setCompletion {completion : Nat} {run : CompletionRun} (hrun : s.completions[completion]? = some run)
    {stage : CompletionStage} (htook : ∀ requestId, stage = .took requestId →
      responseId run.response = .ok requestId ∧ HasCall s run.providerId requestId) :
    Kept sha256 s (s.setCompletion completion run stage) := by
  have g : Grows s (s.setCompletion completion run stage) := grows_setCompletion hrun stage
  refine ⟨{ h with grounds := { h.grow g with took := ?_, secret := ?_ } }, g⟩
  · intro other hmem requestId hstage
    rcases List.mem_or_eq_of_mem_set hmem with hmem | rfl
    · exact (h.grow g).took other hmem requestId hstage
    · exact (htook requestId hstage).imp_right (·.mono g)
  · intro other hmem
    rcases List.mem_or_eq_of_mem_set hmem with hmem | rfl
    · exact (h.grow g).secret other hmem
    · exact (h.grow g).secret run (List.mem_of_getElem? hrun)

theorem RegistryInv.addCompletion {run : CompletionRun} (hstage : run.stage = .authorized)
    (hsecret : ∃ held, s.held run.providerId = some held ∧ run.secret = held.provider.secret) :
    Kept sha256 s { s with completions := s.completions ++ [run] } := by
  have g := grows_addCompletion (s := s) run
  refine ⟨{ h with grounds := { h.grow g with took := ?_, secret := ?_ } }, g⟩
  · intro other hmem requestId htook
    rcases List.mem_append.mp hmem with hmem | hmem
    · exact (h.grow g).took other hmem requestId htook
    · rw [List.mem_singleton.mp hmem, hstage] at htook
      cases htook
  · intro other hmem
    rcases List.mem_append.mp hmem with hmem | hmem
    · exact (h.grow g).secret other hmem
    · rw [List.mem_singleton.mp hmem]
      exact hsecret

/-- A call that starts has no id yet. -/
theorem RegistryInv.addCall {run : CallRun} (hid : run.requestId = none)
    (hstage : ∀ command, run.stage ≠ .built command ∧ run.stage ≠ .sending command) :
    Kept sha256 s { s with calls := s.calls ++ [run] } := by
  have g := grows_addCall (s := s) run
  have hold : ∀ {i : Nat} {a : CallRun} {requestId : String}, (s.calls ++ [run])[i]? = some a → a.requestId = some requestId →
      s.calls[i]? = some a := by
    intro i a requestId ha haid
    rcases getElem?_concat_cases ha with ha | ⟨-, rfl⟩
    · exact ha
    · rw [hid] at haid
      cases haid
  refine ⟨{ h with callDrawn := ?_, distinct := ?_, unbuilt := ?_, grounds := { h.grow g with built := ?_ } }, g⟩
  · intro other hmem requestId hother
    obtain ⟨i, hi⟩ := List.getElem?_of_mem hmem
    exact h.callDrawn other (List.mem_of_getElem? (hold hi hother)) requestId hother
  · exact fun i j a b requestId ha hb haid hbid => h.distinct i j a b requestId (hold ha haid) (hold hb hbid) haid hbid
  · intro other hmem hunbuilt
    rcases List.mem_append.mp hmem with hmem | hmem
    · exact h.unbuilt other hmem hunbuilt
    · rw [List.mem_singleton.mp hmem, hid]
  · intro other hmem command hbuilt
    rcases List.mem_append.mp hmem with hmem | hmem
    · exact (h.grow g).built other hmem command hbuilt
    · rw [List.mem_singleton.mp hmem] at hbuilt
      rcases hbuilt with hbuilt | hbuilt
      · exact absurd hbuilt (hstage command).1
      · exact absurd hbuilt (hstage command).2

end Updates

theorem lookup_eq_ok {s : ExtensionRegistry} {providerId : String} {held : HeldProvider} (h : s.lookup providerId = .ok held) :
    s.held providerId = some held := by
  unfold ExtensionRegistry.lookup at h
  split at h
  · split at h
    · rename_i hheld _
      rw [hheld, Except.ok.inj h]
    · cases h
  · cases h

/-- The params do not have the names that the Host keeps, so these are as the Host has bound them. -/
theorem callCommand_get {provider : Provider} {method requestId : String} {params command : Json} {deadline : Nat}
    (h : callCommand sha256 provider method params requestId deadline = .ok command) {name : String}
    (hname : name ∈ forbiddenParams) :
    command.get name = (Json.obj (boundFields sha256 provider method requestId deadline)).get name := by
  obtain ⟨fields, -, hforbidden, rfl⟩ := callCommand_eq_ok h
  simp only [Json.get, Json.field?]
  rw [Json.lookup_insertAll_new _ fields keys_boundFields_nodup (hforbidden name hname)]

section Steps
variable {s : ExtensionRegistry} (h : RegistryInv sha256 s)
include h

theorem kept_register (hello : Json) (invocationOrigin : String) (pid : Nat) (window : Option Nat) (owner : Option String)
    (providerId secret : String) :
    Kept sha256 s (s.register hello invocationOrigin pid window owner providerId secret).2 := by
  unfold register
  split
  · exact h.refl
  rename_i provider _
  split
  · exact h.refl
  rename_i hdrawn
  have hnew : s.held providerId = none := by
    cases hheld : s.held providerId with
    | none => rfl
    | some held => exact absurd (List.contains_iff_mem.mpr (h.heldDrawn providerId held hheld)) hdrawn
  have g : Grows s (s.hold providerId ⟨provider, [], []⟩) := grows_register hnew
  refine ⟨⟨?_, ?_, h.distinct, h.unbuilt, ?_, ?_, ?_, ?_, ?_, ?_⟩, g.trans (.of_eq rfl rfl rfl)⟩
  · intro id held hheld
    rcases setAt_eq_some hheld with ⟨rfl, -⟩ | hold
    · exact List.mem_cons_self
    · exact List.mem_cons_of_mem _ (h.heldDrawn id held hold)
  · exact fun run hmem requestId hid => List.mem_cons_of_mem _ (h.callDrawn run hmem requestId hid)
  · intro id held hheld requestId hmem
    rcases setAt_eq_some hheld with ⟨-, rfl⟩ | hold
    · cases hmem
    · exact (h.grow g).pending id held hold requestId hmem
  · intro id held hheld command hmem
    rcases setAt_eq_some hheld with ⟨-, rfl⟩ | hold
    · cases hmem
    · exact (h.grow g).queued id held hold command hmem
  · exact (h.grow g).built
  · exact (h.grow g).took
  · exact (h.grow g).secret
  · exact (h.grow g).sent

theorem kept_startClaim (providerId : String) (pid hwnd : Nat) (origin capability : String) :
    Kept sha256 s (s.startClaim providerId pid hwnd origin capability).2 := by
  unfold startClaim
  split
  · exact h.refl
  split
  · exact h.refl
  · exact h.of_eq rfl rfl rfl rfl rfl

theorem kept_takeOwner (claim : Nat) : Kept sha256 s (s.takeOwner claim).2 := by
  unfold takeOwner
  split
  · split
    · rename_i providerId capability _ _ held hheld
      have hclaims : Kept sha256 s { s with claims := s.claims.set claim ⟨providerId, capability, true⟩ } :=
        h.of_eq rfl rfl rfl rfl rfl
      dsimp only
      split
      · exact hclaims
      · refine hclaims.trans (hclaims.inv.hold hheld ⟨⟨_, rfl⟩, fun owner howner => ?_⟩ (fun other hmem => ?_) fun other hmem => ?_)
        · exact congrArg some (by rw [howner]; rfl)
        · exact hclaims.inv.grounds.pending providerId held hheld other hmem
        · exact hclaims.inv.grounds.queued providerId held hheld other hmem
    · exact h.refl
  · exact h.refl

theorem kept_startPoll (providerId secret : String) (timeoutMs : Nat) :
    Kept sha256 s (s.startPoll providerId secret timeoutMs).2 := by
  unfold startPoll
  split
  · exact h.refl
  split
  · exact h.refl
  · exact h.of_eq rfl rfl rfl rfl rfl

theorem kept_lockQueue (poll : Nat) : Kept sha256 s (s.lockQueue poll) := by
  unfold lockQueue
  split
  · split
    · exact h.refl
    · exact h.of_eq rfl rfl rfl rfl rfl
  · exact h.refl

theorem kept_receiveCommand (poll : Nat) : Kept sha256 s (s.receiveCommand poll).2 := by
  unfold receiveCommand
  split
  · split
    · rename_i providerId _ _ provider command queue pending hheld
      have hholds : Kept sha256 s (s.hold providerId ⟨provider, queue, pending⟩) := h.hold hheld ⟨⟨_, rfl⟩, fun _ howner => howner⟩
        (fun other hmem => h.grounds.pending _ _ hheld other hmem)
        fun other hmem => h.grounds.queued _ _ hheld other (List.mem_cons_of_mem _ hmem)
      exact hholds.trans (hholds.inv.of_eq rfl rfl rfl rfl rfl)
    · exact h.refl
  · exact h.refl

theorem kept_pollTimesOut (poll : Nat) : Kept sha256 s (s.pollTimesOut poll).2 := by
  unfold pollTimesOut
  split
  · exact h.of_eq rfl rfl rfl rfl rfl
  · exact h.refl

theorem kept_startCompletion (providerId secret : String) (response : Json) :
    Kept sha256 s (s.startCompletion providerId secret response).2 := by
  unfold startCompletion
  split
  · exact h.refl
  · rename_i held hauthorized
    simp only [authorizedProvider, bind_eq_ok, require_eq_ok, decide_eq_true_eq] at hauthorized
    obtain ⟨held, hlookup, _, hsecret, -⟩ := hauthorized
    exact h.addCompletion rfl ⟨held, lookup_eq_ok hlookup, hsecret.symm⟩

theorem kept_takeSender (completion : Nat) : Kept sha256 s (s.takeSender completion).2 := by
  unfold takeSender
  split
  · rename_i run hrun
    split
    · rename_i held hstage hheld
      split
      · exact h.setCompletion hrun fun _ hdone => by cases hdone
      · rename_i requestId hid
        split
        · rename_i hpending
          have hcall := h.grounds.pending _ _ hheld requestId (List.contains_iff_mem.mp hpending)
          have htook : Kept sha256 s (s.setCompletion completion run (.took requestId)) :=
            h.setCompletion hrun fun other hother => by
              cases hother
              exact ⟨hid, hcall⟩
          exact htook.trans (htook.inv.hold hheld ⟨⟨_, rfl⟩, fun _ howner => howner⟩
            (fun other hmem => htook.inv.grounds.pending _ held hheld other (List.mem_of_mem_filter hmem))
            fun other hmem => htook.inv.grounds.queued _ held hheld other hmem)
        · exact h.setCompletion hrun fun _ hdone => by cases hdone
    · exact h.refl
  · exact h.refl

theorem kept_sendResponse (completion : Nat) : Kept sha256 s (s.sendResponse completion).2 := by
  unfold sendResponse
  split
  · rename_i run hrun
    split
    · rename_i requestId hstage
      have hdone : Kept sha256 s (s.setCompletion completion run .done) :=
        h.setCompletion hrun fun _ hdone => by cases hdone
      have g := grows_setCompletion hrun .done
      obtain ⟨hid, hcall⟩ := h.grounds.took run (List.mem_of_getElem? hrun) requestId hstage
      have hcompleted : CompletedBy s run.providerId run.response :=
        ⟨run, List.mem_of_getElem? hrun, rfl, rfl, h.grounds.secret run (List.mem_of_getElem? hrun)⟩
      dsimp only
      split
      · refine ⟨{ hdone.inv with grounds := { hdone.inv.grounds with sent := ?_ } }, hdone.grows.trans (.of_eq rfl rfl rfl)⟩
        intro other response hsent
        rcases setAt_eq_some hsent with ⟨rfl, rfl⟩ | hold
        · exact ⟨hid, run.providerId, hcall.mono g, hcompleted.mono g⟩
        · exact hdone.inv.grounds.sent other response hold
      · exact hdone
    · exact h.refl
  · exact h.refl

theorem kept_startUnregister (providerId secret : String) : Kept sha256 s (s.startUnregister providerId secret).2 := by
  unfold startUnregister
  split
  · exact h.refl
  · exact h.of_eq rfl rfl rfl rfl rfl

theorem kept_removeProvider (unregister : Nat) : Kept sha256 s (s.removeProvider unregister) := by
  unfold removeProvider
  split
  · exact h.of_eq rfl rfl rfl rfl rfl
  · exact h.refl

theorem kept_clearPending (unregister : Nat) : Kept sha256 s (s.clearPending unregister).2 := by
  unfold clearPending
  split
  · rename_i providerId _
    split
    · rename_i held hheld
      have hholds : Kept sha256 s (s.hold providerId { held with pending := [] }) := h.hold hheld ⟨⟨_, rfl⟩, fun _ howner => howner⟩
        (fun _ hmem => by cases hmem) fun other hmem => h.grounds.queued _ held hheld other hmem
      exact hholds.trans (hholds.inv.of_eq rfl rfl rfl rfl rfl)
    · exact h.refl
  · exact h.refl

theorem kept_startCall (providerId origin : String) (pid : Nat) (method : String) (params : Json) (timeoutMs : Nat) :
    Kept sha256 s (s.startCall providerId origin pid method params timeoutMs).2 := by
  unfold startCall
  split
  · exact h.refl
  split
  · exact h.refl
  split
  · exact h.refl
  · refine h.addCall rfl fun command => ?_
    dsimp only
    split
    · simp
    · simp

theorem kept_checkNavigation (call : Nat) : Kept sha256 s (s.checkNavigation call).2 := by
  unfold checkNavigation
  split
  · rename_i run hrun
    split
    · rename_i hstage
      split
      · exact h.setOver hrun rfl
      · refine h.setStage hrun (by simp [hstage, CallStage.isOver]) (fun _ => h.unbuilt run (List.mem_of_getElem? hrun) ?_) fun command hready => ?_
        · rw [hstage]
          rfl
        · rcases hready with hready | hready
          · cases hready
          · cases hready
    · exact h.refl
  · exact h.refl

/-- The id is drawn for the call, and the names that the Host keeps are bound in the command. -/
theorem kept_buildCommand (call : Nat) (requestId : String) (nowUnixMs : Nat) :
    Kept sha256 s (s.buildCommand sha256 call requestId nowUnixMs).2 := by
  unfold buildCommand
  split
  · rename_i run hrun
    split
    · rename_i held hstage hheld
      split
      · exact h.refl
      rename_i hdrawn
      split
      · exact h.setOver hrun rfl
      · rename_i command hcommand
        have hmemRun := List.mem_of_getElem? hrun
        have hnone : run.requestId = none := h.unbuilt run hmemRun (by rw [hstage]; rfl)
        have g : Grows s (s.setCall call { run with requestId := some requestId, stage := .built command }) :=
          grows_setCall hrun ⟨rfl, rfl, rfl, (fun other hother => by rw [hnone] at hother; cases hother),
            by simp [hstage, CallStage.isOver]⟩
        have hnew : ∀ (i : Nat) (a : CallRun), s.calls[i]? = some a → a.requestId ≠ some requestId := fun i a ha haid =>
          hdrawn (List.contains_iff_mem.mpr (h.callDrawn a (List.mem_of_getElem? ha) requestId haid))
        refine ⟨⟨?_, ?_, ?_, ?_, (h.grow g).pending, (h.grow g).queued, ?_, (h.grow g).took, (h.grow g).secret,
          (h.grow g).sent⟩,
          g.trans (.of_eq rfl rfl rfl)⟩
        · exact fun id other hother => List.mem_cons_of_mem _ (h.heldDrawn id other hother)
        · intro other hmem id hother
          rcases List.mem_or_eq_of_mem_set hmem with hmem | rfl
          · exact List.mem_cons_of_mem _ (h.callDrawn other hmem id hother)
          · cases hother
            exact List.mem_cons_self
        · intro i j a b id ha hb haid hbid
          rcases getElem?_set_cases ha with ⟨rfl, rfl⟩ | ha'
          · rcases getElem?_set_cases hb with ⟨rfl, -⟩ | hb'
            · rfl
            · cases haid
              exact absurd hbid (hnew j b hb')
          · rcases getElem?_set_cases hb with ⟨rfl, rfl⟩ | hb'
            · cases hbid
              exact absurd haid (hnew i a ha')
            · exact h.distinct i j a b id ha' hb' haid hbid
        · intro other hmem hother
          rcases List.mem_or_eq_of_mem_set hmem with hmem | rfl
          · exact h.unbuilt other hmem hother
          · cases hother
        · intro other hmem found hother
          rcases List.mem_or_eq_of_mem_set hmem with hmem | rfl
          · exact (h.grow g).built other hmem found hother
          · rcases hother with hother | hother
            · cases hother
              refine ⟨call, _, requestId, held, held.provider.owner, nowUnixMs, ?_, rfl, rfl, hheld, Or.inr rfl, fun name hname =>
                callCommand_get hcommand hname⟩
              exact List.getElem?_set_self (List.getElem?_eq_some_iff.mp hrun).1
            · cases hother
    · exact h.refl
  · exact h.refl

theorem kept_insertPending (call : Nat) : Kept sha256 s (s.insertPending call) := by
  unfold insertPending
  split
  · rename_i run hrun
    split
    · rename_i command requestId held hstage hid hheld
      have hover : run.stage.isOver = true → (CallStage.sending command).isOver = true := by simp [hstage, CallStage.isOver]
      have hsending : Kept sha256 s (s.setCall call { run with stage := .sending command }) :=
        h.setStage hrun hover (fun hunbuilt => by cases hunbuilt) fun other hother => by
          rcases hother with hother | hother
          · cases hother
          · cases hother
            exact h.grounds.built run (List.mem_of_getElem? hrun) command (Or.inl hstage)
      have g : Grows s (s.setCall call { run with stage := .sending command }) := grows_setStage hrun hover
      have hcall : HasCall s run.providerId requestId := ⟨run, List.mem_of_getElem? hrun, rfl, hid⟩
      refine hsending.trans (hsending.inv.hold hheld ⟨⟨_, rfl⟩, fun _ howner => howner⟩ (fun other hmem => ?_) fun other hmem =>
        hsending.inv.grounds.queued _ held hheld other hmem)
      rcases List.mem_cons.mp hmem with rfl | hmem
      · exact hcall.mono g
      · exact hsending.inv.grounds.pending _ held hheld other hmem
    · exact h.refl
  · exact h.refl

theorem kept_sendCommand (call : Nat) : Kept sha256 s (s.sendCommand call) := by
  unfold sendCommand
  split
  · rename_i run hrun
    split
    · rename_i command held hstage hheld
      split
      · have hover : run.stage.isOver = true → CallStage.waiting.isOver = true := by simp [hstage, CallStage.isOver]
        have g : Grows s (s.setCall call { run with stage := .waiting }) := grows_setStage hrun hover
        have hwaiting : Kept sha256 s (s.setCall call { run with stage := .waiting }) :=
          h.setStage hrun hover (fun hunbuilt => by cases hunbuilt) fun other hother => by
            rcases hother with hother | hother
            · cases hother
            · cases hother
        have hbound := h.grounds.built run (List.mem_of_getElem? hrun) command (Or.inr hstage)
        refine hwaiting.trans (hwaiting.inv.hold hheld ⟨⟨_, rfl⟩, fun _ howner => howner⟩
          (fun other hmem => hwaiting.inv.grounds.pending _ held hheld other hmem) fun other hmem => ?_)
        rcases List.mem_append.mp hmem with hmem | hmem
        · exact hwaiting.inv.grounds.queued _ held hheld other hmem
        · rw [List.mem_singleton.mp hmem]
          exact hbound.mono g
      · exact h.refl
    · exact h.refl
  · exact h.refl

theorem kept_sendTimesOut (call : Nat) : Kept sha256 s (s.sendTimesOut call) := by
  unfold sendTimesOut
  split
  · rename_i run hrun
    split
    · exact h.setOver hrun rfl
    · exact h.refl
  · exact h.refl

theorem kept_pollReceiver (call : Nat) (expired : Bool) : Kept sha256 s (s.pollReceiver call expired).2 := by
  unfold pollReceiver
  split
  · rename_i run hrun
    split
    · split
      · exact h.setOver hrun rfl
      · split
        · exact h.setOver hrun rfl
        split
        · exact h.setOver hrun rfl
        · exact h.refl
    · exact h.refl
  · exact h.refl

theorem kept_removePending (call : Nat) : Kept sha256 s (s.removePending call).2 := by
  unfold removePending
  split
  · rename_i run hrun
    split
    · rename_i requestId held hid hheld
      split
      · have hremoved : Kept sha256 s
            (s.hold run.providerId { held with pending := held.pending.filter fun other => decide (other ≠ requestId) }) :=
          h.hold hheld ⟨⟨_, rfl⟩, fun _ howner => howner⟩
            (fun other hmem => h.grounds.pending _ held hheld other (List.mem_of_mem_filter hmem))
            fun other hmem => h.grounds.queued _ held hheld other hmem
        exact hremoved.trans (hremoved.inv.setOver hrun rfl)
      · exact h.refl
    · exact h.refl
  · exact h.refl

theorem kept_finishCall (call : Nat) : Kept sha256 s (s.finishCall call).2 := by
  unfold finishCall
  split
  · rename_i run hrun
    split
    · exact h.setOver hrun rfl
    · exact h.refl
  · exact h.refl

end Steps

theorem kept_step {s : ExtensionRegistry} (h : RegistryInv sha256 s) (input : RegistryStep) :
    Kept sha256 s ((extensionRegistryMachine sha256).step s input).2 := by
  cases input with
  | register hello invocationOrigin pid window owner providerId secret =>
    exact kept_register h hello invocationOrigin pid window owner providerId secret
  | remove providerIds => exact h.of_eq rfl rfl rfl rfl rfl
  | startClaim providerId pid hwnd origin capability => exact kept_startClaim h providerId pid hwnd origin capability
  | takeOwner claim => exact kept_takeOwner h claim
  | startPoll providerId secret timeoutMs => exact kept_startPoll h providerId secret timeoutMs
  | lockQueue poll => exact kept_lockQueue h poll
  | receiveCommand poll => exact kept_receiveCommand h poll
  | pollTimesOut poll => exact kept_pollTimesOut h poll
  | startCompletion providerId secret response => exact kept_startCompletion h providerId secret response
  | takeSender completion => exact kept_takeSender h completion
  | sendResponse completion => exact kept_sendResponse h completion
  | startUnregister providerId secret => exact kept_startUnregister h providerId secret
  | removeProvider unregister => exact kept_removeProvider h unregister
  | clearPending unregister => exact kept_clearPending h unregister
  | startCall providerId origin pid method params timeoutMs => exact kept_startCall h providerId origin pid method params timeoutMs
  | checkNavigation call => exact kept_checkNavigation h call
  | buildCommand call requestId nowUnixMs => exact kept_buildCommand h call requestId nowUnixMs
  | insertPending call => exact kept_insertPending h call
  | sendCommand call => exact kept_sendCommand h call
  | sendTimesOut call => exact kept_sendTimesOut h call
  | pollReceiver call expired => exact kept_pollReceiver h call expired
  | removePending call => exact kept_removePending h call
  | finishCall call => exact kept_finishCall h call

/-! ### Runs -/

theorem inv_empty : RegistryInv sha256 empty where
  heldDrawn id held h := by cases h
  callDrawn run h := by cases h
  distinct call other run otherRun requestId h := by cases h
  unbuilt run h := by cases h
  grounds := {
    pending := fun id held h => by cases h
    queued := fun id held h => by cases h
    built := fun run h => by cases h
    took := fun completion h => by cases h
    secret := fun completion h => by cases h
    sent := fun requestId response h => by cases h }

theorem inv_reached (inputs : List RegistryStep) :
    RegistryInv sha256 ((extensionRegistryMachine sha256).final empty inputs) :=
  Machine.inv_final (I := RegistryInv sha256) (fun _ input h => (kept_step h input).inv) inputs inv_empty

theorem grows_final : ∀ (inputs : List RegistryStep) {s : ExtensionRegistry}, RegistryInv sha256 s →
    Grows s ((extensionRegistryMachine sha256).final s inputs)
  | [], _, _ => .of_eq rfl rfl rfl
  | input :: inputs, _, h => (kept_step h input).grows.trans (grows_final inputs (kept_step h input).inv)

/-- The output is neither a response nor a command. -/
def RegistryOutput.isPlain : RegistryOutput → Bool
  | .nothing | .handed _ none | .returned _ => true
  | _ => false

theorem output_of_step (sha256 : String → String) (s : ExtensionRegistry) {input : RegistryStep}
    (hreceiver : ∀ call expired, input ≠ .pollReceiver call expired) (hcommand : ∀ poll, input ≠ .receiveCommand poll) :
    ((extensionRegistryMachine sha256).step s input).1.isPlain = true := by
  cases input with
  | pollReceiver call expired => exact absurd rfl (hreceiver call expired)
  | receiveCommand poll => exact absurd rfl (hcommand poll)
  | _ =>
    simp only [extensionRegistryMachine, register, startClaim, takeOwner, startPoll, pollTimesOut, startCompletion, takeSender,
      sendResponse, startUnregister, clearPending, startCall, checkNavigation, buildCommand, removePending, finishCall, endCall,
      fail]
    repeat' split
    all_goals rfl

theorem answered_step {s : ExtensionRegistry} {input : RegistryStep} {call : Nat} {response : Json}
    (h : ((extensionRegistryMachine sha256).step s input).1 = .answered call response) :
    ∃ run requestId, s.calls[call]? = some run ∧ run.stage = .waiting ∧ run.requestId = some requestId ∧
      s.sent requestId = some response ∧
      ((extensionRegistryMachine sha256).step s input).2 = s.setCall call { run with stage := .received response } := by
  by_cases hreceiver : ∃ other expired, input = .pollReceiver other expired
  · obtain ⟨other, expired, rfl⟩ := hreceiver
    simp only [extensionRegistryMachine, pollReceiver] at h ⊢
    split at h
    · rename_i run hrun
      split at h
      · rename_i requestId hstage hid
        split at h
        · rename_i response' hsent
          cases h
          exact ⟨run, requestId, hrun, hstage, hid, hsent, rfl⟩
        · repeat' split at h
          all_goals cases h
      · cases h
    · cases h
  · by_cases hcommand : ∃ poll, input = .receiveCommand poll
    · obtain ⟨poll, rfl⟩ := hcommand
      simp only [extensionRegistryMachine, receiveCommand] at h
      repeat' split at h
      all_goals cases h
    · have hplain := output_of_step sha256 s (fun other expired heq => hreceiver ⟨other, expired, heq⟩)
        fun poll heq => hcommand ⟨poll, heq⟩
      rw [h] at hplain
      cases hplain

theorem handed_step {s : ExtensionRegistry} {input : RegistryStep} {id : String} {command : Json}
    (h : ((extensionRegistryMachine sha256).step s input).1 = .handed id (some command)) :
    ∃ held, s.held id = some held ∧ command ∈ held.queue := by
  by_cases hcommand : ∃ poll, input = .receiveCommand poll
  · obtain ⟨poll, rfl⟩ := hcommand
    simp only [extensionRegistryMachine, receiveCommand] at h
    split at h
    · split at h
      · rename_i hheld
        cases h
        exact ⟨_, hheld, List.mem_cons_self⟩
      · cases h
    · cases h
  · by_cases hreceiver : ∃ other expired, input = .pollReceiver other expired
    · obtain ⟨other, expired, rfl⟩ := hreceiver
      simp only [extensionRegistryMachine, pollReceiver] at h
      repeat' split at h
      all_goals cases h
    · have hplain := output_of_step sha256 s (fun other expired heq => hreceiver ⟨other, expired, heq⟩)
        fun poll heq => hcommand ⟨poll, heq⟩
      rw [h] at hplain
      cases hplain

theorem answeredByProvider {s : ExtensionRegistry} (h : RegistryInv sha256 s) (input : RegistryStep) :
    AnsweredByProvider ((extensionRegistryMachine sha256).call s input) := by
  intro call response houtput
  obtain ⟨run, requestId, hrun, -, hid, hsent, -⟩ := answered_step houtput
  obtain ⟨hresponse, providerId, ⟨other, hother, hprovider, hotherId⟩, hcompleted⟩ := h.grounds.sent requestId response hsent
  obtain ⟨i, hi⟩ := List.getElem?_of_mem hother
  obtain rfl := h.distinct call i run other requestId hrun hi hid hotherId
  obtain rfl := Option.some.inj (hrun.symm.trans hi)
  rw [← hprovider] at hcompleted
  exact ⟨run, requestId, hrun, hid, hresponse, fun j otherRun hj hjd => h.distinct i j run otherRun requestId hrun hj hid hjd,
    hcompleted⟩

/-- The call receives nothing more. -/
def ExtensionRegistry.IsOver (s : ExtensionRegistry) (call : Nat) : Prop :=
  ∃ run, s.calls[call]? = some run ∧ run.stage.isOver = true

theorem isOver_grows {s t : ExtensionRegistry} (g : Grows s t) {call : Nat} (h : s.IsOver call) : t.IsOver call := by
  obtain ⟨run, hrun, hover⟩ := h
  obtain ⟨run', hrun', hgoes⟩ := g.calls call run hrun
  exact ⟨run', hrun', hgoes.ended hover⟩

theorem answered_once (inputs : List RegistryStep) (call : Nat) :
    ((extensionRegistryMachine sha256).trace empty inputs).Pairwise fun a b =>
      (∃ response, a.output = .answered call response) → ¬∃ response, b.output = .answered call response := by
  refine Machine.never_after (I := RegistryInv sha256) (P := fun s => s.IsOver call) (fun _ input h => (kept_step h input).inv)
    ?_ (fun s input h hover => isOver_grows (kept_step h input).grows hover) ?_ inputs inv_empty
  · rintro s input h ⟨response, houtput⟩
    obtain ⟨run, requestId, hrun, -, -, -, hnext⟩ := answered_step houtput
    rw [hnext]
    exact ⟨_, List.getElem?_set_self (List.getElem?_eq_some_iff.mp hrun).1, rfl⟩
  · rintro s input h ⟨run, hrun, hover⟩ ⟨response, houtput⟩
    obtain ⟨run', requestId, hrun', hstage, -⟩ := answered_step houtput
    rw [hrun', Option.some.injEq] at hrun
    rw [← hrun, hstage] at hover
    cases hover

/-- In every run, whatever completes, times out, leaves or comes late: each call gets one response at most, which carries the id
    that only this call has and which the provider of the call has sent. -/
theorem responses_of_calls (sha256 : String → String) (inputs : List RegistryStep) :
    (∀ call, ((extensionRegistryMachine sha256).trace empty inputs).Pairwise fun a b =>
      (∃ response, a.output = .answered call response) → ¬∃ response, b.output = .answered call response) ∧
    ∀ c ∈ (extensionRegistryMachine sha256).trace empty inputs, AnsweredByProvider c := by
  refine ⟨answered_once inputs, fun c hc => ?_⟩
  have hinv := Machine.inv_before (I := RegistryInv sha256) (fun _ input h => (kept_step h input).inv) inv_empty hc
  rw [Machine.eq_call_of_mem hc]
  exact answeredByProvider hinv c.input

/-- In every run a provider keeps the owner that it has once, and what a poll of a provider gets is the command of a call of
    this provider, with the fields that the Host binds. -/
theorem commands_of_calls (sha256 : String → String) (inputs : List RegistryStep) :
    (∀ more id owner, ((extensionRegistryMachine sha256).final empty inputs).ownerOf id = some owner →
      ((extensionRegistryMachine sha256).final empty (inputs ++ more)).ownerOf id = some owner) ∧
    ∀ c ∈ (extensionRegistryMachine sha256).trace empty inputs, ∀ id command, c.output = .handed id (some command) →
      BoundCommand sha256 c.before id command := by
  constructor
  · intro more id owner howner
    rw [Machine.final_append]
    exact (grows_final more (inv_reached inputs)).owners id owner howner
  · intro c hc id command houtput
    have hinv := Machine.inv_before (I := RegistryInv sha256) (fun _ input h => (kept_step h input).inv) inv_empty hc
    rw [Machine.eq_call_of_mem hc] at houtput
    obtain ⟨held, hheld, hmem⟩ := handed_step houtput
    exact hinv.grounds.queued id held hheld command hmem

end BrowserExtension
end DccCua
