import DccCua.Showcase.Samples
import DccCua.Theorems.Frame
import Mathlib.Data.List.Forall2

/-! # Samples are read back

A sample holds the units of a frame that are no parameter sets, each behind its length, so a reader that cuts it at the
lengths finds them again. The start codes of the codec are of three or four bytes. -/

namespace DccCua
namespace Showcase

open Frame

/-- A sample cut at its lengths, into at most `fuel` units. -/
def cutSample : Nat → Bytes → Option (List Bytes)
  | _, [] => some []
  | 0, _ :: _ => none
  | fuel + 1, byte :: bytes =>
    (readExact 4 (byte :: bytes)).bind fun (header, rest) =>
      (readExact (fromBeBytes header) rest).bind fun (unit, rest) => (cutSample fuel rest).map (unit :: ·)

/-- The units of a sample. There are no more of them than bytes, since each has its length. -/
def decodeSample (sample : Bytes) : Option (List Bytes) := cutSample sample.length sample

/-- A unit behind its start code. -/
def StartCoded (nal unit : Bytes) : Prop := nal = [0, 0, 1] ++ unit ∨ nal = [0, 0, 0, 1] ++ unit

/-- The units that the codec gives. -/
def givenNals (stream : EncodedBitStream) : List Bytes := stream.layers.flatMap fun layer => (layer.getD []).reduceOption

/-- The stream is one of these units, each behind a start code. -/
def Carries (stream : EncodedBitStream) (units : List Bytes) : Prop := List.Forall₂ StartCoded (givenNals stream) units

def isSps (unit : Bytes) : Bool := nalType unit = some 7

def isPps (unit : Bytes) : Bool := nalType unit = some 8

/-- A unit that is part of the sample. -/
def isSliced (unit : Bytes) : Bool := !(isSps unit || isPps unit)

/-! ### Units -/

theorem stripStartCode_of_startCoded {nal unit : Bytes} (h : StartCoded nal unit) : stripStartCode nal = some unit := by
  rcases h with rfl | rfl
  · rfl
  · rfl

variable {stream : EncodedBitStream} {units : List Bytes}

theorem visitedNals_eq (stream : EncodedBitStream) : visitedNals stream = (givenNals stream).filterMap stripStartCode := by
  unfold visitedNals givenNals
  induction stream.layers with
  | nil => rfl
  | cons layer layers ih =>
    rw [List.flatMap_cons, List.flatMap_cons, List.filterMap_append, ih]
    refine congrArg (· ++ _) ?_
    cases layer with
    | none => rfl
    | some nals =>
      have hgiven : nals.reduceOption = nals.filterMap id := rfl
      rw [Option.getD_some, hgiven, List.filterMap_filterMap]
      rfl

/-- Every unit of a stream of well-formed units is visited, in order. -/
theorem visitedNals_of_carries (h : Carries stream units) : visitedNals stream = units := by
  rw [visitedNals_eq]
  unfold Carries at h
  generalize givenNals stream = nals at h
  induction h with
  | nil => rfl
  | cons hcoded hrest ih => rw [List.filterMap_cons, stripStartCode_of_startCoded hcoded, ih]

/-! ### Samples -/

/-- The units of a sample, each behind its length. -/
def sampleOf (units : List Bytes) : Bytes := units.flatMap encode

theorem length_le_sampleOf : ∀ units : List Bytes, units.length ≤ (sampleOf units).length
  | [] => Nat.le_refl _
  | unit :: units => by
    have ih := length_le_sampleOf units
    have hsample : sampleOf (unit :: units) = encode unit ++ sampleOf units := List.flatMap_cons
    rw [hsample, List.length_append, length_encode, List.length_cons]
    omega

theorem cutSample_sampleOf {units : List Bytes} (hfit : ∀ unit ∈ units, unit.length < 2 ^ 32) {fuel : Nat}
    (hfuel : units.length ≤ fuel) : cutSample fuel (sampleOf units) = some units := by
  induction units generalizing fuel with
  | nil => cases fuel <;> rfl
  | cons unit units ih =>
    obtain ⟨more, rfl⟩ : ∃ more, fuel = more + 1 :=
      Nat.exists_eq_succ_of_ne_zero (Nat.ne_of_gt (Nat.lt_of_lt_of_le (Nat.succ_pos _) hfuel))
    obtain ⟨hunit, hunits⟩ := List.forall_mem_cons.mp hfit
    have hsample : sampleOf (unit :: units) = encode unit ++ sampleOf units := List.flatMap_cons
    have hheader := readExact_header unit (sampleOf units)
    rw [hsample]
    have hcut : ∀ bytes : Bytes, bytes ≠ [] → cutSample (more + 1) bytes = (readExact 4 bytes).bind fun (header, rest) =>
        (readExact (fromBeBytes header) rest).bind fun (unit, rest) => (cutSample more rest).map (unit :: ·) := by
      intro bytes hne
      obtain ⟨byte, rest, rfl⟩ := List.exists_cons_of_ne_nil hne
      rfl
    rw [hcut (encode unit ++ sampleOf units) (List.cons_ne_nil _ _), hheader, Option.bind_some]
    dsimp only
    rw [fromBeBytes_toBeBytes hunit, readExact_append rfl, Option.bind_some]
    dsimp only
    rw [ih hunits (Nat.le_of_succ_le_succ hfuel)]
    rfl

/-- A sample is read back. -/
theorem decodeSample_sampleOf {units : List Bytes} (hfit : ∀ unit ∈ units, unit.length < 2 ^ 32) :
    decodeSample (sampleOf units) = some units := cutSample_sampleOf hfit (length_le_sampleOf units)

theorem visitSample_eq (state : Bytes × Bool) (nal : Bytes) : visitSample state nal =
    if isSliced nal then if nal.length < 2 ^ 32 then (state.1 ++ encode nal, state.2) else (state.1, true) else state := by
  unfold visitSample isSliced isSps isPps
  by_cases hsps : nalType nal = some 7
  · rw [if_pos (Or.inl hsps), hsps]
    rfl
  · by_cases hpps : nalType nal = some 8
    · rw [if_pos (Or.inr hpps), hpps]
      rfl
    · rw [if_neg (fun h => h.elim hsps hpps), decide_eq_false hsps, decide_eq_false hpps, Bool.or_self,
        Bool.not_false, if_pos rfl, List.append_assoc]
      rfl

/-- The sample after some units, and whether one of them was too long. -/
theorem foldl_visitSample (units : List Bytes) (state : Bytes × Bool) :
    units.foldl visitSample state =
      (state.1 ++ sampleOf (units.filter fun unit => isSliced unit && decide (unit.length < 2 ^ 32)),
        state.2 || (units.filter isSliced).any fun unit => decide (2 ^ 32 ≤ unit.length)) := by
  induction units generalizing state with
  | nil => exact Prod.ext (List.append_nil _).symm (Bool.or_false _).symm
  | cons unit units ih =>
    rw [List.foldl_cons, ih, visitSample_eq, List.filter_cons, List.filter_cons]
    cases isSliced unit with
    | false => rfl
    | true =>
      by_cases hfits : unit.length < 2 ^ 32
      · rw [if_pos rfl, if_pos hfits, if_pos (by simpa using hfits), if_pos rfl, List.any_cons,
          decide_eq_false (Nat.not_le.mpr hfits), Bool.false_or]
        exact Prod.ext (List.append_assoc _ _ _) rfl
      · rw [if_pos rfl, if_neg hfits, if_neg (by simpa using hfits), if_pos rfl, List.any_cons,
          decide_eq_true (Nat.not_lt.mp hfits), Bool.true_or, Bool.or_true]

/-- The sample of a stream holds its units that are no parameter sets. -/
theorem avccSample_eq_ok (h : Carries stream units) {sample : Bytes} : avccSample stream = .ok sample ↔
    (∀ unit ∈ units.filter isSliced, unit.length < 2 ^ 32) ∧ sample = sampleOf (units.filter isSliced) := by
  unfold avccSample
  rw [visitedNals_of_carries h, foldl_visitSample, List.nil_append, Bool.false_or]
  cases hlong : (units.filter isSliced).any fun unit => decide (2 ^ 32 ≤ unit.length) with
  | true =>
    obtain ⟨unit, hunit, hlength⟩ := List.any_eq_true.mp hlong
    refine iff_of_false (fun h => by cases h) fun hfits => ?_
    exact Nat.not_lt.mpr (of_decide_eq_true hlength) (hfits.1 unit hunit)
  | false =>
    have hfits : ∀ unit ∈ units.filter isSliced, unit.length < 2 ^ 32 := fun unit hunit =>
      Nat.not_le.mp (of_decide_eq_false (Bool.eq_false_iff.mpr (List.any_eq_false.mp hlong unit hunit)))
    have hfilter : units.filter (fun unit => isSliced unit && decide (unit.length < 2 ^ 32)) = units.filter isSliced :=
      List.filter_congr fun unit hunit => by
        cases hsliced : isSliced unit with
        | false => rfl
        | true => exact (Bool.true_and _).trans (decide_eq_true (hfits unit (List.mem_filter.mpr ⟨hunit, hsliced⟩)))
    dsimp only
    rw [hfilter, Except.ok.injEq]
    exact ⟨fun h => ⟨hfits, h.symm⟩, fun h => h.2.symm⟩

/-! ### Parameter sets -/

/-- The parameter sets after some units: the last ones among them, or those from before. -/
theorem foldl_visitParameterSet (units : List Bytes) (sets : Option Bytes × Option Bytes) :
    units.foldl visitParameterSet sets =
      ((units.filter isSps).getLast?.or sets.1, (units.filter isPps).getLast?.or sets.2) := by
  induction units generalizing sets with
  | nil => rfl
  | cons unit units ih =>
    have hlast : ∀ (p : Bytes → Bool) (rest : Option Bytes), ((unit :: units).filter p).getLast?.or rest =
        (units.filter p).getLast?.or (if p unit then some unit else rest) := by
      intro p rest
      rw [List.filter_cons]
      by_cases hp : p unit
      · rw [if_pos hp, if_pos hp, List.getLast?_cons]
        cases (units.filter p).getLast? <;> rfl
      · rw [if_neg hp, if_neg hp]
    rw [List.foldl_cons, ih, hlast, hlast]
    unfold visitParameterSet isSps isPps
    by_cases hsps : nalType unit = some 7
    · rw [if_pos hsps, hsps]
      rfl
    · rw [if_neg hsps, if_neg (fun h => hsps (of_decide_eq_true h))]
      by_cases hpps : nalType unit = some 8
      · rw [if_pos hpps, if_pos (decide_eq_true hpps)]
      · rw [if_neg hpps, if_neg (fun h => hpps (of_decide_eq_true h))]

/-- The parameter sets of a stream are its last ones of either kind. -/
theorem parameterSets_eq_ok (h : Carries stream units) {sps pps : Bytes} : parameterSets stream = .ok (sps, pps) ↔
    (units.filter isSps).getLast? = some sps ∧ (units.filter isPps).getLast? = some pps := by
  unfold parameterSets
  rw [visitedNals_of_carries h, foldl_visitParameterSet, Option.or_none, Option.or_none]
  cases (units.filter isSps).getLast? with
  | none => exact iff_of_false (fun h => by cases h) fun h => by cases h.1
  | some sps =>
    cases (units.filter isPps).getLast? with
    | none => exact iff_of_false (fun h => by cases h) fun h => by cases h.2
    | some pps =>
      dsimp only
      rw [Except.ok.injEq, Prod.mk.injEq, Option.some.injEq, Option.some.injEq]

/-- For every stream of well-formed units, what the sample is decoded to are the units that are no parameter sets, in order,
    and a sample is refused only where one of them is too long; the parameter sets are the last ones of the stream. -/
theorem samples_roundtrip {stream : EncodedBitStream} {units : List Bytes} (h : Carries stream units) :
    (∀ sample, avccSample stream = .ok sample → decodeSample sample = some (units.filter isSliced)) ∧
    ((∃ sample, avccSample stream = .ok sample) ↔ ∀ unit ∈ units.filter isSliced, unit.length < 2 ^ 32) ∧
    ∀ sps pps, parameterSets stream = .ok (sps, pps) ↔
      (units.filter isSps).getLast? = some sps ∧ (units.filter isPps).getLast? = some pps := by
  refine ⟨fun sample hsample => ?_, ⟨fun ⟨sample, hsample⟩ => ?_, fun hfits => ?_⟩, fun sps pps => parameterSets_eq_ok h⟩
  · obtain ⟨hfits, rfl⟩ := (avccSample_eq_ok h).mp hsample
    exact decodeSample_sampleOf hfits
  · exact ((avccSample_eq_ok h).mp hsample).1
  · exact ⟨_, (avccSample_eq_ok h).mpr ⟨hfits, rfl⟩⟩

/-- Parameter sets in a layer of their own, then a unit with a start code within it, and an empty one. -/
def twoLayers : EncodedBitStream :=
  ⟨[some [some [0, 0, 0, 1, 0x67, 1], some [0, 0, 1, 0x68, 2]], none,
    some [some [0, 0, 0, 1, 0x65, 0, 0, 1, 9], some [0, 0, 1], none]]⟩

theorem samples_roundtrip_frame : avccSample twoLayers = .ok [0, 0, 0, 5, 0x65, 0, 0, 1, 9, 0, 0, 0, 0] ∧
    decodeSample [0, 0, 0, 5, 0x65, 0, 0, 1, 9, 0, 0, 0, 0] = some [[0x65, 0, 0, 1, 9], []] ∧
      parameterSets twoLayers = .ok ([0x67, 1], [0x68, 2]) := by
  have hcarries : Carries twoLayers [[0x67, 1], [0x68, 2], [0x65, 0, 0, 1, 9], []] :=
    .cons (Or.inr rfl) (.cons (Or.inl rfl) (.cons (Or.inr rfl) (.cons (Or.inl rfl) .nil)))
  obtain ⟨hdecode, -, hsets⟩ := samples_roundtrip hcarries
  have hsample : avccSample twoLayers = .ok [0, 0, 0, 5, 0x65, 0, 0, 1, 9, 0, 0, 0, 0] := by decide
  exact ⟨hsample, hdecode _ hsample, (hsets _ _).mpr ⟨rfl, rfl⟩⟩

end Showcase
end DccCua
