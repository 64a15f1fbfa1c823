import DccCua.Extension.TabBridge

/-! # One snapshot, one action

What the bridge does to a page rests on the latest pairing and on the latest snapshot after it: `Backed` says
where in the history of a bridge its state comes from. -/

namespace DccCua
namespace Extension
namespace Bridge

open Runs Checks

variable {Element : Type} {toLowerCase : String → String}

/-- What a call of the bridge was. -/
inductive BridgeEvent (Element : Type) where
  | paired (nonce : String)
  | snapped (snapshotId : String) (entries : List (String × RefEntry Element)) (href : String)
  | prepared
  | resolved
  | other

/-- The command of a message that the listener takes. -/
def commandOf (input : BridgeInput Element) : Option ContentCommand :=
  if (input.message.get "type").asStr ≠ some "dcc_cua_command" then none
  else (validateContentCommand (input.message.get "command")).toOption

/-- The ref of the action was resolved, whether or not the page was then changed. -/
def resolved (reply : BridgeReply Element) : Bool :=
  match reply.result with
  | .ok _ => true
  | .error e => e.code = "trusted_human_required" || e.code = "unsupported_control"

abbrev BridgeCall (Element : Type) := Call (BridgeState Element) (BridgeInput Element) (Option (BridgeReply Element))

def eventOf (call : BridgeCall Element) : BridgeEvent Element :=
  match commandOf call.input, call.output with
  | some (.pair nonce), _ => .paired nonce
  | some (.snapshot _ _), some ⟨.ok (.snapshot snapshot), _⟩ =>
    .snapped snapshot.snapshotId call.after.refs call.input.page.href
  | some (.prepareNavigation _ _), some ⟨.ok _, _⟩ => .prepared
  | some (.click _ _ _), some reply => if resolved reply then .resolved else .other
  | some (.type _ _ _ _), some reply => if resolved reply then .resolved else .other
  | _, _ => .other

/-- The element of an effect and the action that has it. -/
def Effect.element : Effect Element → Element
  | .clicked element => element
  | .typed element _ => element

def Effect.action : Effect Element → Action
  | .clicked _ => .click
  | .typed _ _ => .type

/-- The evidence of a click or type command: nonce, snapshot id, ref. -/
def evidenceOf : ContentCommand → Option (Action × String × String × String)
  | .click nonce snapshotId ref => some (.click, nonce, snapshotId, ref)
  | .type nonce snapshotId ref _ => some (.type, nonce, snapshotId, ref)
  | _ => none

/-- The page still shows the element as the snapshot listed it, and it still offers the action. -/
structure Current (toLowerCase : String → String) (page : Page Element) (action : Action) (entry : RefEntry Element) : Prop where
  connected : (page.read entry.element).isConnected = true
  listed : action ∈ entry.actions
  offered : action ∈ (page.read entry.element).elementActions
  visible : (page.read entry.element).visible page.innerWidth page.innerHeight = some .inViewport
  name : (page.read entry.element).elementName = entry.name
  role : (page.read entry.element).elementRole toLowerCase = entry.role

theorem resolveRef_eq_ok {page : Page Element} {snapshotId ref : String} {action : Action} {s s' : BridgeState Element}
    {element : Element} (h : resolveRef toLowerCase page snapshotId ref action s = .ok (element, s')) :
    ∃ entry, s.documentUrl = some page.href ∧ s.snapshotId = some snapshotId ∧ s.refs.lookup ref = some entry ∧
      entry.element = element ∧ Current toLowerCase page action entry ∧ s' = { s with refs := [], snapshotId := none } := by
  unfold resolveRef at h
  split at h
  · cases h
  · rename_i hcurrent
    rw [not_or, not_not, not_not] at hcurrent
    split at h
    · cases h
    · rename_i entry hentry
      dsimp only at h
      split at h
      · cases h
      · rename_i hentry'
        simp only [not_or, not_not, Bool.not_eq_true', Bool.not_eq_false] at hentry'
        obtain ⟨hconnected, hlisted, hoffered, hvisible, hname, hrole⟩ := hentry'
        cases h
        exact ⟨entry, hcurrent.1, hcurrent.2, hentry, rfl, ⟨hconnected, hlisted, hoffered, hvisible, hname, hrole⟩, rfl⟩

theorem resolveRef_eq_error {page : Page Element} {snapshotId ref : String} {action : Action} {s : BridgeState Element}
    {e : BridgeError} (h : resolveRef toLowerCase page snapshotId ref action s = .error e) : e.code = "stale_observation" := by
  unfold resolveRef at h
  split at h
  · cases h
    rfl
  · split at h
    · cases h
      rfl
    · dsimp only at h
      split at h
      · cases h
        rfl
      · cases h

/-- What a call does: nothing, or one of the four changes of the state. Only a resolved action can have an
    effect on the page. -/
inductive Steps (toLowerCase : String → String) (s : BridgeState Element) (input : BridgeInput Element) :
    Option (BridgeReply Element) → BridgeState Element → BridgeEvent Element → Prop where
  | quiet (reply : Option (BridgeReply Element)) (heffect : ∀ r, reply = some r → r.effect = none) :
      Steps toLowerCase s input reply s .other
  | paired (reply : BridgeReply Element) (heffect : reply.effect = none) (nonce documentId : String) :
      Steps toLowerCase s input (some reply)
        { s with sessionNonce := some nonce, documentId := some documentId, documentUrl := some input.page.href, refs := [],
                 snapshotId := none } (.paired nonce)
  | snapped (nonce : String) (hnonce : s.sessionNonce = some nonce) (refs : List (String × RefEntry Element))
      (snapshot : Snapshot) (hid : snapshot.snapshotId = snapshotName (s.generation + 1) input.randomUUID)
      (hrefs : snapshot.refs = refs.map (listNode input.page)) :
      Steps toLowerCase s input (some ⟨.ok (.snapshot snapshot), none⟩)
        { s with generation := s.generation + 1, snapshotId := some (snapshotName (s.generation + 1) input.randomUUID),
                 documentUrl := some input.page.href, refs := refs }
        (.snapped (snapshotName (s.generation + 1) input.randomUUID) refs input.page.href)
  | prepared (reply : BridgeReply Element) (heffect : reply.effect = none) :
      Steps toLowerCase s input (some reply)
        { s with sessionNonce := none, documentId := none, documentUrl := none, snapshotId := none, refs := [] } .prepared
  | resolved (reply : BridgeReply Element) (action : Action) (nonce snapshotId ref : String) (entry : RefEntry Element)
      (hevidence : (commandOf input).bind evidenceOf = some (action, nonce, snapshotId, ref))
      (hnonce : s.sessionNonce = some nonce) (hurl : s.documentUrl = some input.page.href)
      (hsnapshot : s.snapshotId = some snapshotId) (hentry : s.refs.lookup ref = some entry)
      (hcurrent : Current toLowerCase input.page action entry)
      (heffect : ∀ effect, reply.effect = some effect → Effect.element effect = entry.element ∧
        Effect.action effect = action ∧ (action = .type → (input.page.read entry.element).sensitive = false)) :
      Steps toLowerCase s input (some reply) { s with refs := [], snapshotId := none } .resolved

theorem click_steps (toLowerCase : String → String) {s : BridgeState Element} {input : BridgeInput Element}
    {nonce snapshotId ref : String} (hcommand : commandOf input = some (.click nonce snapshotId ref))
    (hnonce : s.sessionNonce = some nonce) :
    Steps toLowerCase s input (some (click toLowerCase input.page snapshotId ref s).1)
      (click toLowerCase input.page snapshotId ref s).2
      (if resolved (click toLowerCase input.page snapshotId ref s).1 then .resolved else .other) := by
  unfold click
  cases hresolve : resolveRef toLowerCase input.page snapshotId ref .click s with
  | error e =>
    dsimp only
    rw [if_neg (by simp [resolved, resolveRef_eq_error hresolve])]
    exact .quiet _ fun r hr => by cases hr; rfl
  | ok result =>
    obtain ⟨element, s'⟩ := result
    obtain ⟨entry, hurl, hsnapshot, hentry, helement, hcurrent, rfl⟩ := resolveRef_eq_ok hresolve
    refine .resolved _ .click nonce snapshotId ref entry (by rw [hcommand]; rfl) hnonce hurl hsnapshot hentry hcurrent ?_
    intro effect heffect
    cases heffect
    exact ⟨helement.symm, rfl, fun haction => by cases haction⟩

theorem replaceText_of_resolved {page : Page Element} {snapshotId ref : String} (text : String) {element : Element}
    {s s' : BridgeState Element} (hresolve : resolveRef toLowerCase page snapshotId ref .type s = .ok (element, s')) :
    ∃ reply, replaceText toLowerCase page snapshotId ref text s = (reply, s') ∧ resolved reply = true ∧
      ∀ effect, reply.effect = some effect → effect = .typed element text ∧ (page.read element).sensitive = false := by
  unfold replaceText
  rw [hresolve]
  dsimp only
  by_cases hsensitive : (page.read element).sensitive = true
  · rw [if_pos hsensitive]
    exact ⟨_, rfl, by simp [resolved], fun effect heffect => by cases heffect⟩
  · have hplain : (page.read element).sensitive = false := by simpa using hsensitive
    have htyped : ∀ effect, some (Effect.typed element text) = some effect →
        effect = .typed element text ∧ (page.read element).sensitive = false :=
      fun effect heffect => ⟨(Option.some.inj heffect).symm, hplain⟩
    rw [if_neg hsensitive]
    split
    · split
      · exact ⟨_, rfl, rfl, htyped⟩
      · exact ⟨_, rfl, by simp [resolved], fun effect heffect => by cases heffect⟩
    · split
      · exact ⟨_, rfl, rfl, htyped⟩
      · exact ⟨_, rfl, by simp [resolved], fun effect heffect => by cases heffect⟩

theorem replaceText_steps (toLowerCase : String → String) {s : BridgeState Element} {input : BridgeInput Element}
    {nonce snapshotId ref text : String} (hcommand : commandOf input = some (.type nonce snapshotId ref text))
    (hnonce : s.sessionNonce = some nonce) :
    Steps toLowerCase s input (some (replaceText toLowerCase input.page snapshotId ref text s).1)
      (replaceText toLowerCase input.page snapshotId ref text s).2
      (if resolved (replaceText toLowerCase input.page snapshotId ref text s).1 then .resolved else .other) := by
  cases hresolve : resolveRef toLowerCase input.page snapshotId ref .type s with
  | error e =>
    have houtcome : replaceText toLowerCase input.page snapshotId ref text s = (⟨.error e, none⟩, s) := by
      rw [replaceText, hresolve]
    rw [houtcome, if_neg (by simp [resolved, resolveRef_eq_error hresolve])]
    exact .quiet _ fun r hr => by cases hr; rfl
  | ok result =>
    obtain ⟨element, s'⟩ := result
    obtain ⟨reply, houtcome, hresolved, heffects⟩ := replaceText_of_resolved text hresolve
    obtain ⟨entry, hurl, hsnapshot, hentry, rfl, hcurrent, rfl⟩ := resolveRef_eq_ok hresolve
    rw [houtcome, if_pos hresolved]
    refine .resolved _ .type nonce snapshotId ref entry (by rw [hcommand]; rfl) hnonce hurl hsnapshot hentry hcurrent ?_
    intro effect heffect
    obtain ⟨rfl, hplain⟩ := heffects effect heffect
    exact ⟨rfl, rfl, fun _ => hplain⟩

def mismatchReply : BridgeReply Element :=
  ⟨.error ⟨"pairing_mismatch", "command does not match the paired session"⟩, none⟩

/-- The event of a command that is handled. -/
theorem handle_steps (toLowerCase : String → String) (s : BridgeState Element) (input : BridgeInput Element)
    (command : ContentCommand) (hcommand : commandOf input = some command) :
    Steps toLowerCase s input (some (handle toLowerCase input.page input.randomUUID command s).1)
      (handle toLowerCase input.page input.randomUUID command s).2
      (eventOf ⟨s, input, some (handle toLowerCase input.page input.randomUUID command s).1,
        (handle toLowerCase input.page input.randomUUID command s).2⟩) := by
  have hquiet : ∀ reply : BridgeReply Element, reply.effect = none → Steps toLowerCase s input (some reply) s .other :=
    fun reply heffect => .quiet _ fun r hr => by cases hr; exact heffect
  unfold eventOf
  rw [hcommand]
  cases command with
  | pair nonce => exact .paired _ rfl nonce _
  | snapshot nonce maxNodes =>
    by_cases hnonce : s.sessionNonce ≠ some nonce ∨ nonce = ""
    · have hhandle : handle toLowerCase input.page input.randomUUID (.snapshot nonce maxNodes) s = (mismatchReply, s) :=
        if_pos hnonce
      rw [hhandle]
      exact hquiet _ rfl
    · have hhandle : handle toLowerCase input.page input.randomUUID (.snapshot nonce maxNodes) s =
          (⟨.ok (.snapshot (semanticSnapshot toLowerCase input.page input.randomUUID maxNodes s).1), none⟩,
            (semanticSnapshot toLowerCase input.page input.randomUUID maxNodes s).2) := if_neg hnonce
      rw [hhandle]
      exact .snapped nonce (not_not.mp (not_or.mp hnonce).1) _ _ rfl rfl
  | prepareNavigation nonce snapshotId =>
    by_cases hnonce : s.sessionNonce ≠ some nonce ∨ nonce = ""
    · have hhandle : handle toLowerCase input.page input.randomUUID (.prepareNavigation nonce snapshotId) s =
          (mismatchReply, s) := if_pos hnonce
      rw [hhandle]
      exact hquiet _ rfl
    · by_cases hstale : s.documentUrl ≠ some input.page.href ∨ s.snapshotId ≠ some snapshotId
      · have hhandle : handle toLowerCase input.page input.randomUUID (.prepareNavigation nonce snapshotId) s =
            (⟨.error staleSnapshot, none⟩, s) := (if_neg hnonce).trans (if_pos hstale)
        rw [hhandle]
        exact hquiet _ rfl
      · have hhandle : handle toLowerCase input.page input.randomUUID (.prepareNavigation nonce snapshotId) s =
            (⟨.ok .invalidated, none⟩,
              { s with sessionNonce := none, documentId := none, documentUrl := none, snapshotId := none, refs := [] }) :=
          (if_neg hnonce).trans (if_neg hstale)
        rw [hhandle]
        exact .prepared _ rfl
  | click nonce snapshotId ref =>
    by_cases hnonce : s.sessionNonce ≠ some nonce ∨ nonce = ""
    · have hhandle : handle toLowerCase input.page input.randomUUID (.click nonce snapshotId ref) s = (mismatchReply, s) :=
        if_pos hnonce
      rw [hhandle]
      exact hquiet _ rfl
    · have hhandle : handle toLowerCase input.page input.randomUUID (.click nonce snapshotId ref) s =
          click toLowerCase input.page snapshotId ref s := if_neg hnonce
      rw [hhandle]
      exact click_steps toLowerCase hcommand (not_not.mp (not_or.mp hnonce).1)
  | type nonce snapshotId ref text =>
    by_cases hnonce : s.sessionNonce ≠ some nonce ∨ nonce = ""
    · have hhandle : handle toLowerCase input.page input.randomUUID (.type nonce snapshotId ref text) s =
          (mismatchReply, s) := if_pos hnonce
      rw [hhandle]
      exact hquiet _ rfl
    · have hhandle : handle toLowerCase input.page input.randomUUID (.type nonce snapshotId ref text) s =
          replaceText toLowerCase input.page snapshotId ref text s := if_neg hnonce
      rw [hhandle]
      exact replaceText_steps toLowerCase hcommand (not_not.mp (not_or.mp hnonce).1)

theorem step_steps (toLowerCase : String → String) (s : BridgeState Element) (input : BridgeInput Element) :
    Steps toLowerCase s input ((machine toLowerCase).step s input).1 ((machine toLowerCase).step s input).2
      (eventOf ((machine toLowerCase).call s input)) := by
  by_cases htype : (input.message.get "type").asStr = some "dcc_cua_command"
  · cases hcommand : validateContentCommand (input.message.get "command") with
    | error message =>
      have hstep : (machine toLowerCase).step s input =
          (some ⟨.error ⟨"invalid_request", String.ofList (utf16Take 256 message.toList)⟩, none⟩, s) := by
        simp [machine, onMessage, htype, hcommand]
      have hnone : commandOf input = none := by simp [commandOf, htype, hcommand, Except.toOption]
      have hevent : eventOf ((machine toLowerCase).call s input) = .other := by
        simp [eventOf, Machine.call, hnone]
      rw [hevent, hstep]
      exact .quiet _ fun r hr => by cases hr; rfl
    | ok command =>
      have hstep : (machine toLowerCase).step s input =
          (some (handle toLowerCase input.page input.randomUUID command s).1,
            (handle toLowerCase input.page input.randomUUID command s).2) := by
        simp [machine, onMessage, htype, hcommand]
      have hsome : commandOf input = some command := by simp [commandOf, htype, hcommand, Except.toOption]
      have hsteps := handle_steps toLowerCase s input command hsome
      rw [Machine.call, hstep]
      exact hsteps
  · have hstep : (machine toLowerCase).step s input = (none, s) := by simp [machine, onMessage, htype]
    have hnone : commandOf input = none := by simp [commandOf, htype]
    have hevent : eventOf ((machine toLowerCase).call s input) = .other := by simp [eventOf, Machine.call, hnone]
    rw [hevent, hstep]
    exact .quiet _ fun r hr => by cases hr

/-! ### Where the state comes from -/

/-- The events since the latest pairing with `nonce`: none of them is a pairing or a prepared navigation. -/
def SincePaired (nonce : String) (events middle : List (BridgeEvent Element)) : Prop :=
  ∃ before, events = before ++ .paired nonce :: middle ∧ ∀ event ∈ middle, event ≠ .prepared ∧ ∀ n, event ≠ .paired n

structure Backed (s : BridgeState Element) (events : List (BridgeEvent Element)) : Prop where
  nonce : ∀ nonce, s.sessionNonce = some nonce → ∃ middle, SincePaired nonce events middle
  snapshot : ∀ snapshotId, s.snapshotId = some snapshotId → ∃ nonce href middle after, s.sessionNonce = some nonce ∧
    s.documentUrl = some href ∧ SincePaired nonce events (middle ++ .snapped snapshotId s.refs href :: after) ∧
    ∀ event ∈ after, event = .other

theorem SincePaired.snoc {nonce : String} {events middle : List (BridgeEvent Element)} {event : BridgeEvent Element}
    (h : SincePaired nonce events middle) (hprepared : event ≠ .prepared) (hpaired : ∀ n, event ≠ .paired n) :
    SincePaired nonce (events ++ [event]) (middle ++ [event]) := by
  obtain ⟨before, rfl, hmiddle⟩ := h
  refine ⟨before, by simp, fun e he => ?_⟩
  rcases List.mem_append.mp he with hmem | hmem
  · exact hmiddle e hmem
  · rw [List.mem_singleton.mp hmem]
    exact ⟨hprepared, hpaired⟩

theorem Backed.step {s s' : BridgeState Element} {input : BridgeInput Element} {reply : Option (BridgeReply Element)}
    {event : BridgeEvent Element} {events : List (BridgeEvent Element)} (h : Backed s events)
    (hstep : Steps toLowerCase s input reply s' event) : Backed s' (events ++ [event]) := by
  cases hstep with
  | quiet _ _ =>
    refine ⟨fun nonce hnonce => ?_, fun snapshotId hsnapshot => ?_⟩
    · obtain ⟨middle, hsince⟩ := h.nonce nonce hnonce
      exact ⟨_, hsince.snoc (by simp) (by simp)⟩
    · obtain ⟨nonce, href, middle, after, hnonce, hurl, hsince, hafter⟩ := h.snapshot snapshotId hsnapshot
      have hnext : SincePaired nonce (events ++ [.other])
          ((middle ++ .snapped snapshotId s.refs href :: after) ++ [.other]) := hsince.snoc (by simp) (by simp)
      refine ⟨nonce, href, middle, after ++ [.other], hnonce, hurl, by simpa using hnext, fun e he => ?_⟩
      · rcases List.mem_append.mp he with hmem | hmem
        · exact hafter e hmem
        · exact List.mem_singleton.mp hmem
  | paired _ _ nonce documentId =>
    refine ⟨fun n hn => ?_, fun snapshotId hsnapshot => by cases hsnapshot⟩
    cases hn
    exact ⟨[], events, rfl, by simp⟩
  | snapped nonce hnonce refs _ _ _ =>
    obtain ⟨middle, hsince⟩ := h.nonce nonce hnonce
    refine ⟨fun n hn => ?_, fun snapshotId hsnapshot => ?_⟩
    · rw [show s.sessionNonce = some n from hn] at hnonce
      cases hnonce
      exact ⟨_, hsince.snoc (by simp) (by simp)⟩
    · cases hsnapshot
      exact ⟨nonce, input.page.href, middle, [], hnonce, rfl, hsince.snoc (by simp) (by simp), by simp⟩
  | prepared _ _ => exact ⟨fun nonce hnonce => (by cases hnonce), fun snapshotId hsnapshot => (by cases hsnapshot)⟩
  | resolved _ _ _ _ _ _ _ _ _ _ _ _ _ =>
    refine ⟨fun nonce hnonce => ?_, fun snapshotId hsnapshot => by cases hsnapshot⟩
    obtain ⟨middle, hsince⟩ := h.nonce nonce hnonce
    exact ⟨_, hsince.snoc (by simp) (by simp)⟩

theorem snapshotName_digits (generation : Nat) (randomUUID : String) :
    (snapshotName generation randomUUID).toList.takeWhile (· ≠ '-') = Nat.toDigits 10 generation := by
  have hlist : (snapshotName generation randomUUID).toList = Nat.toDigits 10 generation ++ '-' :: randomUUID.toList := by
    simp [snapshotName, String.toList_append, Nat.toString_eq_repr, Nat.toList_repr]
  have hdigits : ∀ c ∈ Nat.toDigits 10 generation, decide (c ≠ '-') = true := by
    intro c hc
    have hdigit := Nat.isDigit_of_mem_toDigits (by decide) (by decide) hc
    have hne : c ≠ '-' := by
      rintro rfl
      exact absurd hdigit (by decide)
    simpa using hne
  rw [hlist, List.takeWhile_append_of_pos hdigits]
  simp

theorem snapshotName_inj {g h : Nat} {u v : String} (heq : snapshotName g u = snapshotName h v) : g = h := by
  have hdigits : Nat.toDigits 10 g = Nat.toDigits 10 h := by
    rw [← snapshotName_digits g u, heq, snapshotName_digits]
  have hvalue := congrArg (fun digits => Nat.ofDigitChars 10 digits 0) hdigits
  simpa using hvalue

/-- The current snapshot is the latest one. -/
def Numbered (s : BridgeState Element) : Prop :=
  ∀ snapshotId, s.snapshotId = some snapshotId → ∃ randomUUID, snapshotId = snapshotName s.generation randomUUID

/-- A snapshot that was used up: it is not the current one, and was taken before. -/
def UsedUp (snapshotId : String) (s : BridgeState Element) : Prop :=
  s.snapshotId ≠ some snapshotId ∧ ∃ generation randomUUID, snapshotId = snapshotName generation randomUUID ∧
    generation ≤ s.generation

theorem Numbered.step {s s' : BridgeState Element} {input : BridgeInput Element} {reply : Option (BridgeReply Element)}
    {event : BridgeEvent Element} (h : Numbered s) (hstep : Steps toLowerCase s input reply s' event) : Numbered s' := by
  cases hstep with
  | quiet _ _ => exact h
  | paired _ _ _ _ => intro snapshotId hsnapshot; cases hsnapshot
  | snapped _ _ _ _ _ _ => intro snapshotId hsnapshot; cases hsnapshot; exact ⟨_, rfl⟩
  | prepared _ _ => intro snapshotId hsnapshot; cases hsnapshot
  | resolved _ _ _ _ _ _ _ _ _ _ _ _ _ => intro snapshotId hsnapshot; cases hsnapshot

theorem UsedUp.step {s s' : BridgeState Element} {input : BridgeInput Element} {reply : Option (BridgeReply Element)}
    {event : BridgeEvent Element} {snapshotId : String} (h : UsedUp snapshotId s)
    (hstep : Steps toLowerCase s input reply s' event) : UsedUp snapshotId s' := by
  obtain ⟨hcurrent, generation, randomUUID, hname, hle⟩ := h
  cases hstep with
  | quiet _ _ => exact ⟨hcurrent, generation, randomUUID, hname, hle⟩
  | paired _ _ _ _ => exact ⟨by simp, generation, randomUUID, hname, hle⟩
  | snapped _ _ _ _ _ _ =>
    refine ⟨fun heq => ?_, generation, randomUUID, hname, Nat.le_succ_of_le hle⟩
    rw [hname] at heq
    have hsame := snapshotName_inj (Option.some.inj heq)
    omega
  | prepared _ _ => exact ⟨by simp, generation, randomUUID, hname, hle⟩
  | resolved _ _ _ _ _ _ _ _ _ _ _ _ _ => exact ⟨by simp, generation, randomUUID, hname, hle⟩

/-- A call that clicks or types under a snapshot id. -/
def Acts (snapshotId : String) (call : BridgeCall Element) : Prop :=
  ∃ reply effect action nonce ref, call.output = some reply ∧ reply.effect = some effect ∧
    (commandOf call.input).bind evidenceOf = some (action, nonce, snapshotId, ref)

/-- A call with an effect is a resolved action. -/
theorem Steps.resolved_of_effect {s s' : BridgeState Element} {input : BridgeInput Element} {reply : BridgeReply Element}
    {event : BridgeEvent Element} {effect : Effect Element} (h : Steps toLowerCase s input (some reply) s' event)
    (heffect : reply.effect = some effect) :
    ∃ nonce snapshotId ref entry,
      (commandOf input).bind evidenceOf = some (Effect.action effect, nonce, snapshotId, ref) ∧
      s.sessionNonce = some nonce ∧ s.documentUrl = some input.page.href ∧ s.snapshotId = some snapshotId ∧
      s.refs.lookup ref = some entry ∧ entry.element = Effect.element effect ∧
      Current toLowerCase input.page (Effect.action effect) entry ∧
      (Effect.action effect = .type → (input.page.read entry.element).sensitive = false) ∧
      s' = { s with refs := [], snapshotId := none } := by
  cases h with
  | quiet _ hnone => rw [hnone reply rfl] at heffect; cases heffect
  | paired _ hnone _ _ => rw [hnone] at heffect; cases heffect
  | snapped _ _ _ _ _ _ => cases heffect
  | prepared _ hnone => rw [hnone] at heffect; cases heffect
  | resolved _ action nonce snapshotId ref entry hevidence hnonce hurl hsnapshot hentry hcurrent heffects =>
    obtain ⟨helement, rfl, hplain⟩ := heffects effect heffect
    exact ⟨nonce, snapshotId, ref, entry, hevidence, hnonce, hurl, hsnapshot, hentry, helement.symm, hcurrent, hplain, rfl⟩

theorem Acts.current {snapshotId : String} {s : BridgeState Element} {input : BridgeInput Element}
    (h : Acts snapshotId ((machine toLowerCase).call s input)) :
    s.snapshotId = some snapshotId ∧ ((machine toLowerCase).step s input).2 = { s with refs := [], snapshotId := none } := by
  obtain ⟨reply, effect, action, nonce, ref, houtput, heffect, hevidence⟩ := h
  have hstep := step_steps toLowerCase s input
  rw [Machine.call_output] at houtput
  rw [houtput] at hstep
  obtain ⟨nonce', snapshotId', ref', entry, hevidence', -, -, hsnapshot, -, -, -, -, hafter⟩ :=
    hstep.resolved_of_effect heffect
  rw [Machine.call_input, hevidence'] at hevidence
  cases hevidence
  exact ⟨hsnapshot, hafter⟩

/-- A page with one button. -/
def samplePage : Page Unit where
  href := "https://example.test/"
  origin := "https://example.test"
  title := "sample"
  innerWidth := 100
  innerHeight := 100
  candidates := [()]
  valueSetter := true
  read _ := ⟨true, false, fun _ => none, "BUTTON", none, false, fun selector => selector ≠ ":disabled", false, "block",
    "visible", false, 10, 10, 0, 0, 10, 10, "Go", "Go", 0⟩

end Bridge
end Extension
end DccCua
