import Instinct.Gnss.Observation

namespace Instinct.NodeData
open Instinct.Gnss

/-- A value of `nlohmann::json`, with numbers over the scalar type. -/
inductive Json (R : Type) where
  | null
  | boolean (b : Bool)
  | number (x : R)
  | string (s : String)
  | array (xs : List (Json R))
  | object (kvs : List (String × Json R))

/-- The exceptions `json::at` and `get_to` throw. -/
inductive JsonError where
  | outOfRange (key : String)
  | typeError
  deriving DecidableEq, Repr

namespace Json
variable {R : Type}

def contains (j : Json R) (key : String) : Bool :=
  match j with
  | .object kvs => (kvs.lookup key).isSome
  | _ => false

/-- `json::at(key)`. -/
def atKey (j : Json R) (key : String) : Except JsonError (Json R) :=
  match j with
  | .object kvs =>
    match kvs.lookup key with
    | some v => .ok v
    | none => .error (.outOfRange key)
  | _ => .error .typeError

end Json

/-- `Eigen::Quaterniond` through its `coeffs()`, in Eigen's order `x, y, z, w`. -/
structure Quaternion (R : Type) where
  x : R
  y : R
  z : R
  w : R
  deriving DecidableEq, Repr

/-- The JSON conversions of an Eigen type, declared outside the source: `to_json` and
`get_to`. -/
structure JsonCodec (R V : Type) where
  toJson : V → Json R
  getTo : Json R → Except JsonError V

/-- `get_to` reads back what `to_json` writes. -/
def JsonCodec.RoundTrip {R V : Type} (c : JsonCodec R V) : Prop := ∀ v, c.getTo (c.toJson v) = .ok v

/-- `ImuPos`: the lever arms and mounting rotations of the three sensors, under the names of its
private members; the accessors `posAccel_b()` and so on return them. -/
structure ImuPos (R : Type) where
  positionAccel_b : Vector3 R
  positionGyro_b : Vector3 R
  positionMag_b : Vector3 R
  quaternionAccel_bp : Quaternion R
  quaternionGyro_bp : Quaternion R
  quaternionMag_bp : Quaternion R
  deriving DecidableEq, Repr

section
variable {R : Type} (vec : JsonCodec R (Vector3 R)) (quat : JsonCodec R (Quaternion R))

/-- `to_json(json&, const ImuPos&)`. -/
def toJson (pos : ImuPos R) : Json R :=
  .object [
    ("posAccel_b", vec.toJson pos.positionAccel_b),
    ("posGyro_b", vec.toJson pos.positionGyro_b),
    ("posMag_b", vec.toJson pos.positionMag_b),
    ("quatAccel_bp", quat.toJson pos.quaternionAccel_bp),
    ("quatGyro_bp", quat.toJson pos.quaternionGyro_bp),
    ("quatMag_bp", quat.toJson pos.quaternionMag_bp)]

/-- One `if (j.contains(key)) { j.at(key).get_to(field); }` of `from_json`. -/
def readField {V : Type} (j : Json R) (key : String) (getTo : Json R → Except JsonError V)
    (write : V → ImuPos R → ImuPos R) (pos : ImuPos R) : Except JsonError (ImuPos R) :=
  if j.contains key then do
    let v ← getTo (← j.atKey key)
    pure (write v pos)
  else pure pos

/-- `from_json(const json&, ImuPos&)`: the gyroscope position is read under `positionGyro_b`,
the name of the member, where `to_json` writes `posGyro_b`. -/
def fromJson (j : Json R) (pos : ImuPos R) : Except JsonError (ImuPos R) := do
  let pos ← readField j "posAccel_b" vec.getTo (fun v p => { p with positionAccel_b := v }) pos
  let pos ← readField j "positionGyro_b" vec.getTo (fun v p => { p with positionGyro_b := v }) pos
  let pos ← readField j "posMag_b" vec.getTo (fun v p => { p with positionMag_b := v }) pos
  let pos ← readField j "quatAccel_bp" quat.getTo
    (fun v p => { p with quaternionAccel_bp := v }) pos
  let pos ← readField j "quatGyro_bp" quat.getTo (fun v p => { p with quaternionGyro_bp := v }) pos
  readField j "quatMag_bp" quat.getTo (fun v p => { p with quaternionMag_bp := v }) pos

/-- Reading a written pose into any pose restores every field but the gyroscope position,
which keeps the target's value. -/
theorem fromJson_toJson (hvec : vec.RoundTrip) (hquat : quat.RoundTrip) (p q : ImuPos R) :
    fromJson vec quat (toJson vec quat p) q = .ok { p with positionGyro_b := q.positionGyro_b } := by
  simp [fromJson, readField, toJson, Json.contains, Json.atKey, List.lookup_cons, hvec _, hquat _]

end

section Samples
variable {R : Type}

/-- Vectors written as the array of their coefficients. -/
def arrayVector3 : JsonCodec R (Vector3 R) :=
  ⟨fun v => .array [.number v.x, .number v.y, .number v.z], fun
    | .array [.number x, .number y, .number z] => .ok ⟨x, y, z⟩
    | _ => .error .typeError⟩

/-- Quaternions written as the array of their coefficients. -/
def arrayQuaternion : JsonCodec R (Quaternion R) :=
  ⟨fun q => .array [.number q.x, .number q.y, .number q.z, .number q.w], fun
    | .array [.number x, .number y, .number z, .number w] => .ok ⟨x, y, z, w⟩
    | _ => .error .typeError⟩

end Samples

/-- All three sensors at the body origin and aligned with it. -/
def alignedPose : ImuPos Int :=
  ⟨⟨0, 0, 0⟩, ⟨0, 0, 0⟩, ⟨0, 0, 0⟩, ⟨0, 0, 0, 1⟩, ⟨0, 0, 0, 1⟩, ⟨0, 0, 0, 1⟩⟩

/-- The aligned pose with the gyroscope one metre forward. -/
def gyroForwardPose : ImuPos Int := { alignedPose with positionGyro_b := ⟨1, 0, 0⟩ }

theorem fromJson_toJson_gyroForwardPose :
    (arrayVector3 : JsonCodec Int (Vector3 Int)).RoundTrip ∧
    (arrayQuaternion : JsonCodec Int (Quaternion Int)).RoundTrip ∧
    fromJson arrayVector3 arrayQuaternion (toJson arrayVector3 arrayQuaternion gyroForwardPose)
      alignedPose = .ok { gyroForwardPose with positionGyro_b := alignedPose.positionGyro_b } :=
  have hvec : (arrayVector3 : JsonCodec Int (Vector3 Int)).RoundTrip := fun _ => rfl
  have hquat : (arrayQuaternion : JsonCodec Int (Quaternion Int)).RoundTrip := fun _ => rfl
  ⟨hvec, hquat, fromJson_toJson _ _ hvec hquat _ _⟩

/-- Saving a pose with the gyroscope forward and loading it into the aligned pose gives the
aligned pose back: the gyroscope position is lost. -/
theorem gyro_position_lost_in_round_trip :
    fromJson arrayVector3 arrayQuaternion (toJson arrayVector3 arrayQuaternion gyroForwardPose)
      alignedPose = .ok alignedPose := rfl

end Instinct.NodeData
