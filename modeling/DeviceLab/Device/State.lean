import DeviceLab.Sha256

/-!
# Device states

A `DeviceState` is what a device has to look like before a test runs on it: layers that describe the
device itself, its API level and its model (`Layer.isBase`), and the applications to install, in the
order in which they are declared. The digest of a state is the hash of the `canonical` text of its
layers, in which every string is preceded by its length (`measured`), and two states are taken for
the same when their digests are equal. `DeviceState.canReach` says for which targets a device can be
used.
-/

namespace DeviceLab

/-- One layer of a device state. -/
inductive Layer
  | apiLevel (api : UInt32)
  | model (name : String)
  | application (path package : String)
  deriving DecidableEq

namespace Layer

/-- Whether a layer describes the device itself, which no installation changes. -/
def isBase : Layer → Bool
  | apiLevel _ => true
  | model _ => true
  | application _ _ => false

/-- A string preceded by its length in bytes of UTF-8. -/
def measured (s : String) : List Char :=
  Text.decimal s.utf8ByteSize ++ ':' :: s.toList

/-- The canonical text of a layer. -/
def canonical : Layer → List Char
  | apiLevel api => "api:".toList ++ Text.decimal api.toNat ++ [';']
  | model name => "model:".toList ++ measured name ++ [';']
  | application path package =>
    "app:".toList ++ measured path ++ ':' :: (measured package ++ [';'])

/-- The API level that a layer declares. -/
def api? : Layer → Option UInt32
  | apiLevel api => some api
  | _ => none

/-- The model that a layer declares. -/
def model? : Layer → Option String
  | model name => some name
  | _ => none

/-- The path and the package of the application that a layer asks for. -/
def application? : Layer → Option (String × String)
  | application path package => some (path, package)
  | _ => none

end Layer

/-- An ordered list of layers (`Layer`) with a digest. A state that was read from outside carries
the digest it came with. -/
structure DeviceState where
  layers : List Layer
  digest : String
  deriving DecidableEq

namespace DeviceState

/-- The canonical text of a list of layers. -/
def canonical (layers : List Layer) : List Char :=
  layers.flatMap Layer.canonical

/-- The digest that belongs to a list of layers. -/
def digestOf (layers : List Layer) : String :=
  Sha256.hexOfText (String.ofList (canonical layers))

/-- The state with the given layers and the digest that belongs to them (`digestOf`). -/
def ofLayers (layers : List Layer) : DeviceState :=
  ⟨layers, digestOf layers⟩

/-- The state of a device on which nothing was installed: its API level and its model
(`Layer.apiLevel`, `Layer.model`). -/
def ofDevice (api : UInt32) (model : String) : DeviceState :=
  ofLayers [.apiLevel api, .model model]

/-- The first API level that a state declares. -/
def api? (s : DeviceState) : Option UInt32 :=
  s.layers.findSome? Layer.api?

/-- The first model that a state declares. -/
def model? (s : DeviceState) : Option String :=
  s.layers.findSome? Layer.model?

/-- The applications that a state asks for, in order, by path and package (`Layer.application?`). -/
def applications (s : DeviceState) : List (String × String) :=
  s.layers.filterMap Layer.application?

/-- Whether a device in the state `s` can be brought to `target`: what the target declares of the
device itself has to hold already. -/
def canReach (s target : DeviceState) : Bool :=
  (target.api?.all fun api ↦ s.api? = some api) &&
    (target.model?.all fun model ↦ s.model? = some model)

end DeviceState

end DeviceLab
