import DccCua.Cli.Actions

/-! # Tokens of the rows

The core gives an index the token of its row when no other row has it; the command line takes the token of the first row
that has it, and an action with a token is not looked at again. -/

namespace DccCua

open ActionPolicy

namespace SdkActionCompat

/-- The rows that have an index. -/
def rowsAt (accessibility : Json) (index : UInt32) : List Json :=
  (elements accessibility).filter fun element => rowIndex element = some index

/-- What is known of an index after some rows that have it: a second row leaves it without a token. -/
def known : Option (Option String) → List Json → Option (Option String)
  | token, [] => token
  | none, row :: rows => known (some (rowToken row)) rows
  | some _, _ :: rows => known (some none) rows

theorem known_none : ∀ rows : List Json, known (some none) rows = some none
  | [] => rfl
  | _ :: rows => known_none rows

theorem lookup_enter {index other : UInt32} {token : Option String} {tokens : List (UInt32 × Option String)} :
    (enter index token tokens).lookup other =
      if index = other then some ((tokens.lookup other).elim token fun _ => none) else tokens.lookup other := by
  induction tokens with
  | nil =>
    unfold enter
    by_cases heq : index = other
    · rw [if_pos heq, heq, List.lookup_cons_self]
      rfl
    · rw [if_neg heq, List.lookup_cons, beq_false_of_ne (Ne.symm heq)]
  | cons entry tokens ih =>
    obtain ⟨first, seen⟩ := entry
    unfold enter
    by_cases hfirst : first = index
    · rw [if_pos hfirst]
      by_cases heq : index = other
      · rw [if_pos heq, hfirst, heq, List.lookup_cons_self, List.lookup_cons_self]
        rfl
      · rw [if_neg heq, List.lookup_cons, List.lookup_cons, beq_false_of_ne (fun h => heq (hfirst.symm.trans h.symm))]
    · rw [if_neg hfirst]
      by_cases hother : other = first
      · have hne : index ≠ other := fun h => hfirst (hother.symm.trans h.symm)
        rw [if_neg hne, hother, List.lookup_cons_self, List.lookup_cons_self]
      · rw [List.lookup_cons, List.lookup_cons, beq_false_of_ne hother]
        exact ih

/-- One row changes what is known of its index only. -/
theorem lookup_rememberElement {index : UInt32} {tokens : List (UInt32 × Option String)} {row : Json} :
    (rememberElement tokens row).lookup index =
      known (tokens.lookup index) (if rowIndex row = some index then [row] else []) := by
  unfold rememberElement
  cases hrow : rowIndex row with
  | none =>
    rw [if_neg (fun h => by cases h)]
    rfl
  | some other =>
    rw [lookup_enter]
    by_cases heq : other = index
    · rw [if_pos heq, if_pos (congrArg some heq)]
      cases tokens.lookup index <;> rfl
    · rw [if_neg heq, if_neg (fun h => heq (Option.some.inj h))]
      rfl

theorem known_append (token : Option (Option String)) (rows others : List Json) :
    known token (rows ++ others) = known (known token rows) others := by
  induction rows generalizing token with
  | nil => rfl
  | cons row rows ih => cases token <;> exact ih _

theorem lookup_foldl_rememberElement {index : UInt32} (rows : List Json) (tokens : List (UInt32 × Option String)) :
    (rows.foldl rememberElement tokens).lookup index =
      known (tokens.lookup index) (rows.filter fun row => rowIndex row = some index) := by
  induction rows generalizing tokens with
  | nil => rfl
  | cons row rows ih =>
    rw [List.foldl_cons, ih, lookup_rememberElement, ← known_append, List.filter_cons]
    by_cases hrow : rowIndex row = some index
    · rw [if_pos hrow, if_pos (decide_eq_true hrow)]
      rfl
    · rw [if_neg hrow, if_neg (fun h => hrow (of_decide_eq_true h))]
      rfl

/-- The token of the only row that has the index. -/
def UniqueToken (accessibility : Json) (index : UInt32) (token : String) : Prop :=
  ∃ row, rowsAt accessibility index = [row] ∧ rowToken row = some token

theorem known_rows_eq_some {rows : List Json} {token : String} :
    (known none rows).bind id = some token ↔ ∃ row, rows = [row] ∧ rowToken row = some token := by
  match rows with
  | [] => exact iff_of_false (fun h => by cases h) fun ⟨_, h, _⟩ => by cases h
  | [row] =>
    refine ⟨fun h => ⟨row, rfl, h⟩, ?_⟩
    rintro ⟨_, ⟨⟩, h⟩
    exact h
  | row :: other :: rows =>
    refine iff_of_false (fun h => ?_) fun ⟨_, h, _⟩ => by cases h
    rw [known, known, known_none] at h
    cases h

/-! ### Bindings -/

/-- The action with a token in the place of its index. -/
def bound (action : ActionPolicy.ComputerUseAction) (token : String) : ActionPolicy.ComputerUseAction :=
  { action with elementIndex := none, elementToken := some token }

variable {accessibility : Json} {action : ActionPolicy.ComputerUseAction} {index : UInt32} {observation : ObservationIdentity} {token : String}

theorem bound_injective {other : String} (h : bound action token = bound action other) : token = other :=
  Option.some.inj (congrArg ActionPolicy.ComputerUseAction.elementToken h)

theorem bound_ne (hindex : action.elementIndex = some index) : bound action token ≠ action := by
  intro h
  have hnone : action.elementIndex = none := congrArg ActionPolicy.ComputerUseAction.elementIndex h.symm
  rw [hindex] at hnone
  cases hnone

/-- The core binds the token of the only row with the index. -/
theorem resolve_remembered_iff (hindex : action.elementIndex = some index) (hnone : action.elementToken = none) :
    resolveSdkElementAction (some (rememberSdkElementTokens accessibility observation)) action observation =
      .ok (some (bound action token)) ↔ UniqueToken accessibility index token := by
  have hlookup : (rememberSdkElementTokens accessibility observation).tokens.lookup index =
      known none (rowsAt accessibility index) := lookup_foldl_rememberElement (elements accessibility) []
  have hsame : (rememberSdkElementTokens accessibility observation).observation = observation := rfl
  unfold UniqueToken resolveSdkElementAction
  rw [hindex, hnone, ← known_rows_eq_some, ← hlookup]
  dsimp only [Option.filter_some, Option.isNone_none]
  rw [if_pos rfl, if_pos (decide_eq_true hsame)]
  dsimp only [Option.bind_some]
  cases ((rememberSdkElementTokens accessibility observation).tokens.lookup index).bind id with
  | none => exact iff_of_false (fun h => by cases h) fun h => by cases h
  | some found =>
    refine ⟨fun h => congrArg some ?_, fun h => ?_⟩
    · exact bound_injective (Option.some.inj (Except.ok.inj h))
    · cases h
      rfl

theorem asU64_row {row : Json} : (row.get "element_index").asU64 = some index.toNat ↔ rowIndex row = some index := by
  unfold rowIndex toU32
  cases (row.get "element_index").asU64 with
  | none => exact iff_of_false (fun h => by cases h) fun h => by cases h
  | some value =>
    rw [Option.bind_some, Option.some.injEq]
    by_cases hsmall : value < 2 ^ 32
    · rw [if_pos hsmall, Option.some.injEq]
      refine ⟨fun h => ?_, fun h => ?_⟩
      · rw [h, UInt32.ofNat_toNat]
      · rw [← h, UInt32.toNat_ofNat_of_lt' hsmall]
    · rw [if_neg hsmall]
      exact iff_of_false (fun h => hsmall (h ▸ index.toNat_lt)) fun h => by cases h

end SdkActionCompat

namespace CliActions

open SdkActionCompat

variable {accessibility : Json} {action : ActionPolicy.ComputerUseAction} {index : UInt32} {observation : ObservationIdentity} {token : String}

/-- The first row with the index is the first of those that have it. -/
theorem firstRow_eq : firstRow accessibility index = (rowsAt accessibility index).head? := by
  unfold firstRow rowsAt elements
  cases (accessibility.get "elements").asArray with
  | none => rfl
  | some rows =>
    rw [Option.bind_some, Option.getD_some, List.head?_filter]
    refine congrArg (fun p => rows.find? p) (funext fun row => ?_)
    rw [Bool.eq_iff_iff, beq_iff_eq, decide_eq_true_iff]
    exact asU64_row

/-- The token that the command line takes. -/
def firstToken (accessibility : Json) (index : UInt32) : Option String :=
  (firstRow accessibility index).bind fun row => (row.get "element_token").asStr

/-- The command line binds the token of the first row with the index, whatever it is. -/
theorem bindFreshElementToken_iff (hindex : action.elementIndex = some index) :
    bindFreshElementToken action accessibility = bound action token ↔ firstToken accessibility index = some token := by
  unfold bindFreshElementToken
  rw [hindex]
  dsimp only
  rw [show ((firstRow accessibility index).bind fun row => (row.get "element_token").asStr) = firstToken accessibility index from rfl]
  cases firstToken accessibility index with
  | none => exact iff_of_false (fun h => bound_ne hindex h.symm) fun h => by cases h
  | some found =>
    refine ⟨fun h => congrArg some (bound_injective h), fun h => ?_⟩
    cases h
    rfl

/-- The command line and the core bind the same token: that of the only row with the index. So a row that is addressed does
    not share its index. -/
structure BindAlike (accessibility : Json) (action : ActionPolicy.ComputerUseAction) (index : UInt32) (observation : ObservationIdentity) : Prop where
  cli : ∀ token, bindFreshElementToken action accessibility = bound action token ↔ UniqueToken accessibility index token
  core : ∀ token, resolveSdkElementAction (some (rememberSdkElementTokens accessibility observation)) action observation =
    .ok (some (bound action token)) ↔ UniqueToken accessibility index token
  unshared : ∀ token, bindFreshElementToken action accessibility = bound action token → (rowsAt accessibility index).length = 1

/-- A first row with a text for its token has a token that can be sent, and shares its index with no other row. -/
def FirstRowClear (accessibility : Json) (index : UInt32) : Prop :=
  ∀ token, firstToken accessibility index = some token → usableToken token = true ∧ (rowsAt accessibility index).length = 1

theorem firstToken_of_uniqueToken (h : UniqueToken accessibility index token) :
    firstToken accessibility index = some token ∧ usableToken token = true ∧ (rowsAt accessibility index).length = 1 := by
  obtain ⟨row, hrows, htoken⟩ := h
  unfold firstToken
  rw [firstRow_eq, hrows]
  exact ⟨(Option.filter_eq_some_iff.mp htoken).1, (Option.filter_eq_some_iff.mp htoken).2, rfl⟩

theorem uniqueToken_of_firstToken (h : firstToken accessibility index = some token) (husable : usableToken token = true)
    (hlength : (rowsAt accessibility index).length = 1) : UniqueToken accessibility index token := by
  obtain ⟨row, hrows⟩ := List.length_eq_one_iff.mp hlength
  unfold firstToken at h
  rw [firstRow_eq, hrows] at h
  exact ⟨row, hrows, Option.filter_eq_some_iff.mpr ⟨h, husable⟩⟩

/-- For every snapshot and every action that names a row by its index and has no token, the command line and the core bind
    alike exactly when the first row with the index is clear. -/
theorem element_tokens_alike_iff (accessibility : Json) {action : ActionPolicy.ComputerUseAction} {index : UInt32}
    (observation : ObservationIdentity) (hindex : action.elementIndex = some index) (hnone : action.elementToken = none) :
    BindAlike accessibility action index observation ↔ FirstRowClear accessibility index := by
  constructor
  · intro halike token htoken
    have hunique := (halike.cli token).mp ((bindFreshElementToken_iff hindex).mpr htoken)
    exact (firstToken_of_uniqueToken hunique).2
  · intro hclear
    refine ⟨fun token => ?_, fun token => resolve_remembered_iff hindex hnone, fun token hbound => ?_⟩
    · rw [bindFreshElementToken_iff hindex]
      refine ⟨fun htoken => ?_, fun hunique => (firstToken_of_uniqueToken hunique).1⟩
      exact uniqueToken_of_firstToken htoken (hclear token htoken).1 (hclear token htoken).2
    · exact (hclear token ((bindFreshElementToken_iff hindex).mp hbound)).2

/-- A click on the row with the index. -/
def indexedClick (index : UInt32) : ActionPolicy.ComputerUseAction :=
  ⟨"click", none, some index, none, none, none, none, none, none, none, none, none, [], none, none, none, none, false, [], []⟩

/-- A snapshot of rows with these indices and tokens. -/
def snapshotOf (rows : List (Nat × String)) : Json :=
  .obj [("elements", .arr (rows.map fun row => .obj [("element_index", .int row.1), ("element_token", .str row.2)]))]

def sampleObservation : ObservationIdentity := ⟨"observation-1", "session-1", 42, 7⟩

theorem element_tokens_alike_iff_rows :
    BindAlike (snapshotOf [(1, "row-a"), (2, "row-b")]) (indexedClick 2) 2 sampleObservation := by
  refine (element_tokens_alike_iff (snapshotOf [(1, "row-a"), (2, "row-b")]) sampleObservation rfl rfl).mpr fun token htoken => ?_
  cases htoken
  decide

/-- Of two rows with one index the command line addresses the first, and the core none. -/
theorem shared_index_addressed : ∃ accessibility action index observation,
    action.elementIndex = some index ∧ action.elementToken = none ∧ (rowsAt accessibility index).length = 2 ∧
      bindFreshElementToken action accessibility = bound action "row-a" ∧
      resolveSdkElementAction (some (rememberSdkElementTokens accessibility observation)) action observation =
        .error noUniqueToken ∧ ¬BindAlike accessibility action index observation :=
  ⟨snapshotOf [(2, "row-a"), (2, "row-b")], indexedClick 2, 2, sampleObservation, rfl, rfl, by decide, by decide, by decide,
    fun halike => absurd (halike.unshared "row-a" (by decide)) (by decide)⟩

end CliActions
end DccCua
