import DccCua.Protocol.Frame

/-! # Samples of a recording

`avcc_sample` and `parameter_sets` of the showcase: the units of an encoded frame, without their start codes, as a
length-prefixed sample and as the parameter sets of the track. -/

namespace DccCua
namespace Showcase

/-- What the codec returns for a frame: its layers with their units, each with its start code. A layer or a unit that the
    codec does not give is `none`. -/
structure EncodedBitStream where
  layers : List (Option (List (Option Bytes)))
  deriving DecidableEq, Repr

def stripStartCode (nal : Bytes) : Option Bytes :=
  if [0, 0, 0, 1].isPrefixOf nal then some (nal.drop 4)
  else if [0, 0, 1].isPrefixOf nal then some (nal.drop 3)
  else none

/-- The units that `visit_nals` shows to its visitor, in order. -/
def visitedNals (stream : EncodedBitStream) : List Bytes :=
  stream.layers.flatMap fun
    | none => []
    | some layer => layer.filterMap fun nal => nal.bind stripStartCode

/-- The type of a unit; an empty unit has none. -/
def nalType (nal : Bytes) : Option UInt8 := nal.head?.map (· &&& 0x1f)

def visitParameterSet (sets : Option Bytes × Option Bytes) (nal : Bytes) :
    Option Bytes × Option Bytes :=
  if nalType nal = some 7 then (some nal, sets.2)
  else if nalType nal = some 8 then (sets.1, some nal)
  else sets

def parameterSets (stream : EncodedBitStream) : Except String (Bytes × Bytes) :=
  match (visitedNals stream).foldl visitParameterSet (none, none) with
  | (none, _) => .error "OpenH264 omitted SPS"
  | (some _, none) => .error "OpenH264 omitted PPS"
  | (some sps, some pps) => .ok (sps, pps)

/-- The sample so far, and whether a unit was too long for it. -/
def visitSample (state : Bytes × Bool) (nal : Bytes) : Bytes × Bool :=
  if nalType nal = some 7 ∨ nalType nal = some 8 then state
  else if nal.length < 2 ^ 32 then (state.1 ++ Frame.toBeBytes nal.length ++ nal, state.2)
  else (state.1, true)

def avccSample (stream : EncodedBitStream) : Except String Bytes :=
  match (visitedNals stream).foldl visitSample ([], false) with
  | (_, true) => .error "H.264 NAL exceeds the MP4 sample limit"
  | (sample, false) => .ok sample

end Showcase
end DccCua
